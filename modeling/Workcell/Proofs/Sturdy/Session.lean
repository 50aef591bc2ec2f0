import Workcell.Proofs.Session.Heeding
import Workcell.Proofs.Sturdy.Handlers
import Workcell.Proofs.Sturdy.Scenario
import Workcell.Proofs.Sturdy.Turn

/-!
Sessions of sturdy flows on a valid machine: whatever the operators order, a run breaks down only where the bound of
waits reaches past the last instant that has a name.
-/

set_option autoImplicit false

namespace Workcell

variable {R A : Type}

structure Finish (R : Type) where
  run : Nat
  now : Nat
  outcome : Outcome R

def Outcome.code? : Outcome R → Option String
  | .value _ => none
  | .fault reason => some reason.code
  | .panicked message => some (Fault.ofPanic message).code

def Finish.Sound (grounds : Grounds R) (finish : Finish R) : Prop :=
  finish.outcome.code? = some "PANICKED" → Duration.beyond finish.now grounds.waitBound = true

theorem Fault.code_of_breakdown (fault : Fault) (coded : fault.code = "PANICKED") : fault.isBreakdown = true := by
  cases fault with
  | panicked message => rfl
  | device error => cases error <;> simp [code] at coded
  | _ => simp [code] at coded

-- What is left of a sturdy task is sturdy, and it ends in the code of a breakdown only if it is late.
theorem Progress.Sturdy.outcome {progress : Progress R} {late : Prop} (sturdy : progress.Sturdy late) :
    match progress.outcome with
    | .error left => left.Sturdy
    | .ok outcome => outcome.code? = some "PANICKED" → late := by
  cases progress with
  | done value => exact fun coded => nomatch coded
  | panicked message => exact fun _ => sturdy
  | pending run => exact sturdy
  | fault reason =>
      intro coded
      have breaks := reason.code_of_breakdown (Option.some.inj coded)
      exact absurd (breaks.symm.trans sturdy) (by decide)

section

variable [Scalar R]

def Session.finishes (job : SessionJob R A) (session : Session R A) (noted : List (Finish R)) : List (Finish R) :=
  noted ++ (Session.returns job session []).map fun entry => ⟨entry.1, session.now, entry.2⟩

structure Session.Firm (grounds : Grounds R) (session : Session R A) : Prop where
  machine : session.machine = grounds.machine
  driver : session.driver = .simulation grounds.tick
  waitBound : session.settings.waitBound = grounds.waitBound
  sampleTick : session.settings.sampleTick = grounds.sampleTick
  handlers : session.handlers = .standard
  scenarios : ∀ name scenario, session.catalog.find? name = some scenario → scenario.SturdyOn grounds.machine
  cells : ∀ run ∈ session.runs, run.cell.Sound grounds
  whole : session.broken = false

def SessionJob.Firm : SessionJob R A → Prop
  | .motor _ working => working.drive.Sound
  | .operator _ script => ∀ instruction ∈ script, instruction.isOrder = true
  | .drive _ task => task.Sturdy
  | _ => True

structure Session.Holds {B : Type} (grounds : Grounds R)
    (result : B × Session R A × List (Request (SessionJob R A))) : Prop where
  firm : result.2.1.Firm grounds
  begun : ∀ job ∈ Request.begun result.2.2, job.Firm

def Session.Turn.isBroken : Session.Turn A → Bool
  | .broken => true
  | _ => false

end

theorem Request.forall_begun_append {J : Type} {fine : J → Prop} {asked more : List (Request J)}
    (first : ∀ job ∈ Request.begun asked, fine job) (later : ∀ job ∈ Request.begun more, fine job) :
    ∀ job ∈ Request.begun (asked ++ more), fine job := by
  intro job member
  rw [Request.begun_append] at member
  rcases List.mem_append.mp member with early | late
  · exact first job early
  · exact later job late

theorem Request.begun_nothing {J : Type} {fine : J → Prop} :
    ∀ job ∈ Request.begun ([] : List (Request J)), fine job := by
  intro job member
  cases member

variable [Scalar R] {grounds : Grounds R}

theorem begun_by_sound_effects (number : Nat) (effects : List (Effect R)) (sound : ∀ asked ∈ effects, asked.Sound) :
    ∀ job ∈ Request.begun (effects.map (Effect.request (SessionJob.motor (R := R) (A := A) number))), job.Firm := by
  induction effects with
  | nil => exact fun _ member => nomatch member
  | cons asked rest ih =>
      have later := ih fun other member => sound other (List.mem_cons_of_mem _ member)
      cases asked with
      | motion handle way =>
          intro job member
          rcases List.mem_cons.mp member with rfl | inside
          · trivial
          · exact later job inside
      | stroke handle way =>
          intro job member
          rcases List.mem_cons.mp member with rfl | inside
          · exact sound _ List.mem_cons_self
          · exact later job inside
      | signal sent => exact later
      | again key => exact later
      | rest key => exact later

namespace Session.Firm

variable {session : Session R A} (firm : session.Firm grounds)

include firm

theorem quiet {B : Type} (b : B) : Session.Holds grounds (b, session, ([] : List (Request (SessionJob R A)))) :=
  ⟨firm, Request.begun_nothing⟩

theorem lent (run : SessionRun R) (member : run ∈ session.runs) : grounds.Safe session.now (session.lend run) :=
  ⟨{ firm.cells run member with }, rfl⟩

theorem noted (number : Nat) (change : SessionRun R → SessionRun R)
    (keeps : ∀ run, run.cell.Sound grounds → (change run).cell.Sound grounds) :
    (session.note number change).Firm grounds where
  machine := firm.machine
  driver := firm.driver
  waitBound := firm.waitBound
  sampleTick := firm.sampleTick
  handlers := firm.handlers
  scenarios := firm.scenarios
  whole := firm.whole
  cells := by
    intro run member
    obtain ⟨place, found⟩ := List.getElem?_of_mem member
    rw [Session.note, List.getElem?_modify] at found
    obtain ⟨before, there, rfl⟩ := Option.map_eq_some_iff.mp found
    have sound := firm.cells before (List.mem_of_getElem? there)
    split
    · exact keeps before sound
    · exact sound

theorem taken (number : Nat) (cell : Cell R) (sound : cell.Sound grounds) : (session.take number cell).Firm grounds := by
  have same : ({ session with issued := cell.issued, hook := cell.hook, appeals := cell.appeals } : Session R A).Firm
      grounds := { firm with }
  exact same.noted number _ fun _ _ => { sound with outbox := fun _ member => nomatch member }

theorem within {B : Type} (number : Nat) (absent : B) (work : Cell R → B × Cell R)
    (works : ∀ cell, grounds.Safe session.now cell → (work cell).2.Sound grounds) :
    Session.Holds grounds (session.within number absent work) := by
  cases found : session.runs[number]? with
  | none =>
      simp only [Session.within, found]
      exact firm.quiet absent
  | some run =>
      have sound := works _ (firm.lent run (List.mem_of_getElem? found))
      rw [within_found session number absent work run found]
      exact ⟨firm.taken number _ sound, begun_by_sound_effects number _ sound.outbox⟩

theorem refused (fault : Fault) : (session.publishFault fault).Firm grounds := { firm with }

theorem new_cell : grounds.Safe session.now session.newCell := by
  refine ⟨?_, rfl⟩
  exact {
    machine := firm.machine
    driver := firm.driver
    waitBound := firm.waitBound
    sampleTick := firm.sampleTick
    axes := fun _ member => nomatch member
    actuators := fun _ member => nomatch member
    outbox := fun _ member => nomatch member }

omit firm in
-- Finding a device for every record keeps a cell safe where finding one does.
theorem each_upholds {S D : Type} {now : Nat} {late : Prop} (records : List S) (find : S → Act R D) (good : D → Prop)
    (finds : ∀ spec, (find spec).Upholds grounds now late good) :
    (forIn records PUnit.unit fun spec _ => do
      let _ ← find spec
      pure (ForInStep.yield PUnit.unit) : Act R PUnit).Upholds grounds now late fun _ => True := by
  induction records with
  | nil => exact fun _ held => ⟨held, trivial⟩
  | cons spec rest ih =>
      rw [List.forIn_cons]
      have first : (do
          let _ ← find spec
          pure (ForInStep.yield PUnit.unit) : Act R (ForInStep PUnit)).Upholds grounds now late
          fun step => step = .yield PUnit.unit :=
        Act.Upholds.bind (finds spec) fun _ _ => Act.Upholds.pure _ rfl
      refine Act.Upholds.bind first fun step same => ?_
      subst same
      exact ih

variable (steady : Scalar.Steady R) (ground : grounds.Sound)

include steady ground

omit firm in
theorem materialize_all_upholds {now : Nat} {late : Prop} :
    (materializeAll (R := R)).Upholds grounds now late fun _ => True := by
  have axes : ∀ records : List (AxisSpec R), (forIn records PUnit.unit fun spec _ => do
      let _ ← findAxis spec.id
      pure (ForInStep.yield PUnit.unit) : Act R PUnit).Upholds grounds now late fun _ => True := fun records =>
    each_upholds records (fun spec => findAxis spec.id) _ fun spec => Action.find_axis_upholds steady ground spec.id
  have actuators : ∀ records : List ActuatorSpec, (forIn records PUnit.unit fun spec _ => do
      let _ ← findActuator (R := R) spec.id
      pure (ForInStep.yield PUnit.unit) : Act R PUnit).Upholds grounds now late fun _ => True := fun records =>
    each_upholds records (fun spec => findActuator spec.id) _ fun spec => Action.find_actuator_upholds steady spec.id
  unfold materializeAll
  refine Act.Upholds.get fun cell _ => ?_
  refine Act.Upholds.bind (axes _) fun _ _ => ?_
  refine Act.Upholds.bind (actuators _) fun _ _ => ?_
  exact Act.Upholds.pure _ trivial

-- A start is refused with a fault, or begins a run of a sturdy flow; it does not break down.
theorem begins (scenario : String) :
    Session.Holds grounds (session.begin scenario) ∧ ∀ message, (session.begin scenario).1 ≠ .error (.panic message) := by
  have builds : Scenario.SturdyOn grounds.machine (Scenario.build session.catalog scenario) := by
    unfold Scenario.SturdyOn Scenario.build
    cases known : session.catalog.find? scenario with
    | none => trivial
    | some scenario' => exact firm.scenarios scenario scenario' known
  have stocked : (materializeAll (R := R)).Upholds grounds session.now False fun _ => True :=
    materialize_all_upholds steady ground
  have stocks := stocked session.newCell firm.new_cell
  unfold Scenario.SturdyOn at builds
  rw [← firm.machine] at builds
  unfold Session.begin
  cases built : Scenario.build session.catalog scenario session.machine with
  | error failure =>
      rw [built] at builds
      cases failure with
      | fault fault => exact ⟨⟨firm.refused fault, Request.begun_nothing⟩, nofun⟩
      | panic message => exact builds.elim
  | ok flow =>
      rw [built] at builds
      rcases made : materializeAll session.newCell with ⟨outcome, cell⟩
      rw [made] at stocks
      cases outcome with
      | error failure =>
          cases failure with
          | fault fault => exact ⟨⟨firm.refused fault, Request.begun_nothing⟩, nofun⟩
          | panic message => exact stocks.2.elim
      | ok _ =>
          refine ⟨⟨{ firm with cells := ?_ }, ?_⟩, nofun⟩
          · intro run member
            rcases List.mem_append.mp member with old | new
            · exact firm.cells run old
            · rw [List.mem_singleton.mp new]
              exact { stocks.1.1 with }
          · intro job member
            rw [List.mem_singleton.mp member]
            exact builds

omit steady ground in
theorem closes (number : Nat) (outcome : Outcome R) :
    (session.close number outcome).1.Firm grounds ∧
      ∀ job ∈ Request.begun (session.close number outcome).2, job.Firm := by
  have worked := firm.within number () (fun cell => ((), (ending outcome).foldl Cell.pushEvent cell.stopAll))
    fun cell held => by
      rw [push_all]
      exact { held.1.stop_all with }
  refine ⟨worked.firm.noted number _ fun _ sound => sound, ?_⟩
  exact Request.forall_begun_append worked.begun Request.begun_nothing

omit steady ground in
theorem samples (number : Nat) (sampler : Sampler R) : Session.Holds grounds (session.sample number sampler) := by
  have worked := firm.within number (none, sampler, session.lastTick)
    (fun cell => (((sampler.sample session.lastTick cell).1, (sampler.sample session.lastTick cell).2.1,
      (sampler.sample session.lastTick cell).2.2.1), (sampler.sample session.lastTick cell).2.2.2))
    fun cell held => by
      rw [(sampler.sample_drains session.lastTick cell).2.2]
      exact { held.1 with }
  refine ⟨?_, worked.begun⟩
  unfold Session.sample
  dsimp only
  split
  · exact { worked.firm with }
  · exact { worked.firm with }

omit steady ground in
theorem stops : Session.Holds grounds session.beginStop := by
  unfold Session.beginStop
  cases session.active with
  | none => exact firm.quiet _
  | some run =>
      have inactive : ({ session with active := none } : Session R A).Firm grounds := { firm with }
      have worked := inactive.within run () (fun cell => ((), cell.cancel)) fun cell held => by
        show cell.cancel.Sound grounds
        unfold Cell.cancel
        split
        · exact held.1
        · exact { held.1.effect (.signal .cancelled) trivial with }
      exact ⟨worked.firm, worked.begun⟩

def Whole (grounds : Grounds R) (result : Turn A × Session R A × List (Request (SessionJob R A))) : Prop :=
  Session.Holds grounds result ∧ result.1.isBroken = false

theorem follows_stop (next : Stopping A) : Whole grounds (session.afterStop next) := by
  cases next with
  | stop answer => exact ⟨firm.quiet _, rfl⟩
  | start scenario answer =>
      obtain ⟨holds, sound⟩ := firm.begins steady ground scenario
      simp only [Session.afterStop]
      rcases result : session.begin scenario with ⟨outcome, next, requests⟩
      rw [result] at holds sound
      cases outcome with
      | ok _ => exact ⟨⟨holds.firm, holds.begun⟩, rfl⟩
      | error failure =>
          cases failure with
          | fault fault => exact ⟨⟨holds.firm, holds.begun⟩, rfl⟩
          | panic message => exact absurd rfl (sound message)

theorem stops_then (next : Bool → Stopping A) : Whole grounds (session.stopThen next) := by
  have stopped := firm.stops
  unfold Session.stopThen
  rcases result : session.beginStop with ⟨run, after, requests⟩
  rw [result] at stopped
  cases run with
  | some run => exact ⟨⟨stopped.firm, stopped.begun⟩, rfl⟩
  | none =>
      obtain ⟨holds, whole⟩ := Session.Firm.follows_stop stopped.firm steady ground (next false)
      exact ⟨⟨holds.firm, Request.forall_begun_append stopped.begun holds.begun⟩, whole⟩

theorem instructed (instruction : SessionInstruction R A) (order : instruction.isOrder = true) :
    Whole grounds (session.instruct instruction) := by
  cases instruction with
  | act work => cases order
  | start scenario answer => exact firm.stops_then steady ground fun _ => .start scenario answer
  | stop answer => exact firm.stops_then steady ground fun inProgress => .stop (answer inProgress)
  | sleep ms answer =>
      unfold Session.instruct Session.hold
      dsimp only
      split
      · exact ⟨firm.quiet _, rfl⟩
      · exact ⟨⟨{ firm with }, Request.begun_nothing⟩, rfl⟩
  | waitIdle answer =>
      unfold Session.instruct
      dsimp only
      split
      · split
        · exact ⟨firm.quiet _, rfl⟩
        · exact ⟨firm.quiet _, rfl⟩
      · exact ⟨firm.quiet _, rfl⟩

structure Turned (grounds : Grounds R)
    (result : Option (SessionJob R A) × Session R A × List (Request (SessionJob R A))) : Prop
    extends Session.Holds grounds result where
  left : ∀ job ∈ result.1, job.Firm

omit steady ground firm in
theorem turned_off {next : Session R A} {asked : List (Request (SessionJob R A))} (holds : next.Firm grounds)
    (begun : ∀ job ∈ Request.begun asked, job.Firm) : Turned grounds (none, next, asked) := by
  refine ⟨⟨holds, begun⟩, fun job member => ?_⟩
  cases member

omit steady ground firm in
theorem turned_after {result : Option (SessionJob R A) × Session R A × List (Request (SessionJob R A))}
    (turned : Turned grounds result) (asked : List (Request (SessionJob R A)))
    (begun : ∀ job ∈ Request.begun asked, job.Firm) : Turned grounds (result.1, result.2.1, asked ++ result.2.2) :=
  ⟨⟨turned.firm, Request.forall_begun_append begun turned.begun⟩, turned.left⟩

theorem followed (script : List (SessionInstruction R A))
    (orders : ∀ instruction ∈ script, instruction.isOrder = true) : Turned grounds (Session.follow script session) := by
  induction script generalizing session with
  | nil => exact turned_off { firm with } Request.begun_nothing
  | cons instruction rest ih =>
      have later := fun other member => orders other (List.mem_cons_of_mem instruction member)
      obtain ⟨holds, whole⟩ := firm.instructed steady ground instruction (orders instruction List.mem_cons_self)
      rw [Session.follow]
      rcases result : session.instruct instruction with ⟨turn, next, asked⟩
      rw [result] at holds whole
      cases turn with
      | answered answer =>
          have answered : (next.answer answer).Firm grounds := { holds.firm with }
          exact turned_after (ih answered later) asked holds.begun
      | broken => cases whole
      | waits pause =>
          refine ⟨⟨holds.firm, holds.begun⟩, fun job member => ?_⟩
          cases member
          exact later

theorem resumed (pause : SessionPause A) :
    Session.Holds grounds (session.resume pause) ∧ ∀ turn ∈ (session.resume pause).1, turn.isBroken = false := by
  cases pause with
  | ready => exact ⟨firm.quiet none, nofun⟩
  | sleeping timer answer =>
      refine ⟨firm.quiet _, fun turn member => ?_⟩
      cases member
      split
      · rfl
      · rfl
  | idle run answer =>
      refine ⟨firm.quiet _, fun turn member => ?_⟩
      cases member
      split
      · rfl
      · rfl
  | stopping run next =>
      rw [Session.resume]
      split
      · obtain ⟨holds, whole⟩ := firm.follows_stop steady ground next
        refine ⟨⟨holds.firm, holds.begun⟩, fun turn member => ?_⟩
        cases member
        exact whole
      · refine ⟨firm.quiet _, fun turn member => ?_⟩
        cases member
        rfl

theorem operated (pause : SessionPause A) (script : List (SessionInstruction R A))
    (orders : ∀ instruction ∈ script, instruction.isOrder = true) :
    Turned grounds (Session.poll (.operator pause script) session) := by
  obtain ⟨holds, whole⟩ := firm.resumed steady ground pause
  simp only [Session.poll]
  rcases result : session.resume pause with ⟨turn, next, asked⟩
  rw [result] at holds whole
  cases turn with
  | none => exact turned_after (Session.Firm.followed holds.firm steady ground script orders) asked holds.begun
  | some turn =>
      cases turn with
      | broken => exact absurd (whole _ rfl) (by simp [Turn.isBroken])
      | answered answer =>
          have answered : (next.answer answer).Firm grounds := { holds.firm with }
          exact turned_after (answered.followed steady ground script orders) asked holds.begun
      | waits pause =>
          refine ⟨⟨holds.firm, holds.begun⟩, fun job member => ?_⟩
          cases member
          exact orders

theorem driven (run : Nat) (task : Task R) (sturdy : task.Sturdy) (noted : List (Finish R))
    (sound : ∀ finish ∈ noted, finish.Sound grounds) :
    Turned grounds (Session.poll (.drive run task) session) ∧
      ∀ finish ∈ Session.finishes (.drive run task) session noted, finish.Sound grounds := by
  have polls := (ground.shelter steady session.now).poll_firm task sturdy
  have worked := firm.within run (.fault .cancelled) (fun cell => task.poll session.handlers cell) fun cell held =>
    firm.handlers ▸ (polls cell held).1.1
  have progresses : (session.within run (.fault .cancelled) fun cell => task.poll session.handlers cell).1.Sturdy
      (grounds.Late session.now) := by
    cases found : session.runs[run]? with
    | none =>
        simp only [Session.within, found]
        rfl
    | some state =>
        rw [within_found session run _ _ state found, firm.handlers]
        exact (polls _ (firm.lent state (List.mem_of_getElem? found))).2
  simp only [Session.poll, Session.finishes, Session.returns]
  generalize (session.within run (.fault .cancelled) fun cell => task.poll session.handlers cell) = polled
    at worked progresses ⊢
  obtain ⟨progress, next, requests⟩ := polled
  have sampling : ∀ job ∈ Request.begun [Request.begin (SessionJob.sampling (A := A) run
      (Sampler.new session.settings.sampling.epsilon 0).force none)], job.Firm := by
    intro job member
    rw [List.mem_singleton.mp member]
    trivial
  have comes := progresses.outcome
  dsimp only
  cases ends : progress.outcome with
  | error left =>
      rw [ends] at comes
      refine ⟨⟨⟨worked.firm, Request.forall_begun_append ?_ worked.begun⟩, fun job member => ?_⟩, ?_⟩
      · cases task with
        | fresh step => exact sampling
        | running run => exact Request.begun_nothing
      · cases member
        exact comes
      · simpa using sound
  | ok outcome =>
      rw [ends] at comes
      obtain ⟨closed, motors⟩ := Session.Firm.closes worked.firm run outcome
      refine ⟨⟨⟨closed, ?_⟩, fun job member => ?_⟩, fun finish member => ?_⟩
      · refine Request.forall_begun_append (Request.forall_begun_append ?_ worked.begun) motors
        cases task with
        | fresh step => exact sampling
        | running run => exact Request.begun_nothing
      · cases member
        trivial
      · rcases List.mem_append.mp member with old | new
        · exact sound finish old
        · rw [List.mem_singleton.mp new]
          exact comes

omit steady ground in
theorem sampled (run : Nat) (sampler : Sampler R) (timer : Option Timer) :
    Turned grounds (Session.poll (.sampling run sampler timer) session) := by
  have worked := firm.samples run sampler
  simp only [Session.poll]
  split
  · refine turned_off (worked.firm.noted run _ fun _ sound => sound) ?_
    exact Request.forall_begun_append worked.begun Request.begun_nothing
  · have goesOn : ∀ (taking : Sampler R) (later : Option Timer) (job : SessionJob R A),
        job ∈ some (SessionJob.sampling run taking later) → job.Firm := by
      intro taking later job member
      cases member
      trivial
    cases timer with
    | none =>
        simp only [if_true]
        exact ⟨⟨{ worked.firm with }, worked.begun⟩, goesOn _ _⟩
    | some timer =>
        by_cases due : timer.due ≤ session.now
        · simp only [decide_eq_true_eq, if_pos due]
          exact ⟨⟨{ worked.firm with }, worked.begun⟩, goesOn _ _⟩
        · simp only [decide_eq_true_eq, if_neg due]
          exact ⟨firm.quiet _, goesOn _ _⟩

omit steady ground in
theorem closed (run : Nat) : Turned grounds (Session.poll (.closing run) session) := by
  simp only [Session.poll]
  split
  · split
    · exact turned_off (firm.noted run _ fun _ sound => sound) Request.begun_nothing
    · refine ⟨firm.quiet _, fun job member => ?_⟩
      cases member
      trivial
  · exact turned_off firm Request.begun_nothing

omit ground in
theorem moved (run : Nat) (motor : Motor R) (carries : motor.drive.Sound) :
    Turned grounds (Session.poll (.motor run motor) session) := by
  have polls := fun cell (held : grounds.Safe session.now cell) => motor.poll_sound steady carries cell held.1
  have worked := firm.within run none (fun cell => motor.poll cell) fun cell held => (polls cell held).1
  refine ⟨⟨worked.firm, worked.begun⟩, fun job member => ?_⟩
  obtain ⟨left, isLeft, rfl⟩ := Option.map_eq_some_iff.mp member
  cases found : session.runs[run]? with
  | none =>
      rw [found] at isLeft
      cases isLeft
  | some state =>
      rw [found] at isLeft
      exact (polls _ (firm.lent state (List.mem_of_getElem? found))).2 left isLeft

-- A turn of any job.
theorem turned (job : SessionJob R A) (works : job.Firm) (noted : List (Finish R))
    (sound : ∀ finish ∈ noted, finish.Sound grounds) :
    Turned grounds (Session.poll job session) ∧
      ∀ finish ∈ Session.finishes job session noted, finish.Sound grounds := by
  have quiet : ∀ finish ∈ noted ++ [], finish.Sound grounds := by simpa using sound
  cases job with
  | motor run motor => exact ⟨firm.moved steady run motor works, quiet⟩
  | operator pause script => exact ⟨firm.operated steady ground pause script works, quiet⟩
  | drive run task => exact firm.driven steady ground run task works noted sound
  | closing run => exact ⟨firm.closed run, quiet⟩
  | sampling run sampler timer => exact ⟨firm.sampled run sampler timer, quiet⟩

end Session.Firm

structure Session.Stable (grounds : Grounds R) (finishes : List (Finish R)) (session : Session R A)
    (jobs : List (SessionJob R A)) : Prop where
  firm : session.Firm grounds
  jobs : ∀ job ∈ jobs, job.Firm
  finishes : ∀ finish ∈ finishes, finish.Sound grounds

theorem Session.stable_law (steady : Scalar.Steady R) (ground : grounds.Sound) :
    (workload (R := R) (A := A)).Law finishes (Session.Stable grounds) where
  perm same stable := ⟨stable.firm, fun job member => stable.jobs job (same.mem_iff.mpr member), stable.finishes⟩
  touch stable key := by
    refine ⟨stable.firm, fun job member => ?_, stable.finishes⟩
    rcases List.mem_cons.mp member with rfl | later
    · rename_i job _
      have works := stable.jobs job List.mem_cons_self
      cases job with
      | drive run task => exact Task.Sturdy.touch works key
      | _ => exact works
    · exact stable.jobs job (List.mem_cons_of_mem _ later)
  elapse stable now := ⟨{ stable.firm with }, stable.jobs, stable.finishes⟩
  turn := by
    intro noted session job rest stable
    obtain ⟨turned, sound⟩ :=
      stable.firm.turned steady ground job (stable.jobs job List.mem_cons_self) noted stable.finishes
    refine ⟨turned.firm, fun other member => ?_, sound⟩
    rcases List.mem_append.mp member with before | begun
    · rcases List.mem_append.mp before with left | later
      · exact turned.left other (Option.mem_toList.mp left)
      · exact stable.jobs other (List.mem_cons_of_mem job later)
    · exact turned.begun other begun

end Workcell
