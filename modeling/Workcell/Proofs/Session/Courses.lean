import Workcell.Proofs.Drift.Jobs
import Workcell.Proofs.Session.Lifecycle
import Workcell.Proofs.Session.Phases

/-!
The turns of the jobs of a run keep a session on its course.
-/

set_option autoImplicit false

namespace Workcell

variable {R A : Type}

namespace Session

variable {origin session next : Session R A} {driver : Option (Nat × Option (Task R))} {sampler : Option (Nat × Sampler R)}

theorem Course.same (course : session.Course origin driver sampler) (made : session.Made next)
    (active : next.active = session.active) (runs : next.runs = session.runs) : next.Course origin driver sampler where
  made := ⟨made.machine.trans course.made.machine, made.driver.trans course.made.driver,
    made.catalog.trans course.made.catalog, made.settings.trans course.made.settings,
    made.handlers.trans course.made.handlers⟩
  phase := by
    rw [marks, runs]
    exact course.phase
  active number is := by
    rw [runs]
    exact course.active number (active ▸ is)
  cells := runs ▸ course.cells

theorem Course.noted (course : session.Course origin driver sampler) (driving : Option (Nat × Option (Task R)))
    (sampling : Option (Nat × Sampler R)) (number : Nat) (change : SessionRun R → SessionRun R)
    (cell : ∀ run, (change run).cell = run.cell) (closing : ∀ run, (change run).closing = run.closing)
    (phase : Phase (session.note number change).marks driving sampling) :
    (session.note number change).Course origin driving sampling ∧ session.Beside (session.note number change) := by
  refine ⟨?_, ⟨modify_onwards number change rfl fun state there => ?_, rfl, rfl, List.length_modify ..⟩⟩
  · refine course.modified ⟨rfl, rfl, rfl, rfl, rfl⟩ rfl number change rfl phase fun run there => ?_
    rw [cell]
    exact course.cells run (List.mem_of_getElem? there)
  · refine ⟨cell state ▸ .refl _, fun closes => Or.inl ?_⟩
    rwa [closing] at closes

theorem noted_marks {count : Nat} {mark : Bool × Bool × Bool}
    (marks : session.marks = .replicate count (true, true, true) ++ [mark]) (change : SessionRun R → SessionRun R)
    (marked : Bool × Bool × Bool → Bool × Bool × Bool) (sets : ∀ run, (change run).marks = marked run.marks) :
    (session.note count change).marks = .replicate count (true, true, true) ++ [marked mark] := by
  have noted : (session.note count change).runs = session.runs.modify count change := rfl
  rw [marks_modify count change marked noted sets, marks]
  have last := modify_last (.replicate count (true, true, true)) mark marked
  rwa [List.length_replicate] at last

variable [Scalar R]

theorem Course.motor_turn (course : session.Course origin driver sampler) (run : Nat) (turning : Motor R)
    (bears : session.Bears run turning.drive) :
    (poll (.motor run turning) session).2.1.Course origin driver sampler ∧
      session.Beside (poll (.motor run turning) session).2.1 ∧ Tells (poll (.motor run turning) session).2.2 ∧
      ∀ left, (poll (.motor run turning) session).1 = some left → ∃ further : Motor R, left = .motor run further ∧
        further.timer.isSome = true ∧ (poll (.motor run turning) session).2.1.Bears run further.drive := by
  obtain ⟨kept, beside, tells⟩ := course.within_tells run none (fun cell => turning.poll cell) (motor_onwards turning)
    (motor_only_signals turning)
  refine ⟨kept, beside, tells, fun left goesOn => ?_⟩
  obtain ⟨further, is, rfl⟩ := Option.map_eq_some_iff.mp goesOn
  have drives : further.timer.isSome = true ∧ (further.drive = turning.drive ∨
      ∃ now, further.drive = Motor.begun now turning.drive) := by
    cases found : session.runs[run]? with
    | none =>
        simp only [found] at is
        cases is
    | some state =>
        simp only [found] at is
        obtain ⟨waits, same | begun⟩ := motor_left turning further _ is
        · exact ⟨waits, Or.inl same⟩
        · exact ⟨waits, Or.inr ⟨_, begun⟩⟩
  refine ⟨further, rfl, drives.1, ?_⟩
  have still : (session.within run none fun cell => turning.poll cell).2.1.Bears run turning.drive :=
    bears.onwards beside.onwards
  rcases drives.2 with same | ⟨now, same⟩
  · exact same ▸ still
  · rw [same]
    obtain ⟨state, there, begun, past⟩ := still
    exact ⟨state, there, (Drive.begun_of_begun now _ _).mpr begun, fun closing =>
      (Drive.past_of_begun now _ _).mpr (past closing)⟩

theorem Course.sample (course : session.Course origin driver sampler) (number : Nat) (taking : Sampler R) :
    (session.sample number taking).2.1.Course origin driver sampler ∧ session.Beside (session.sample number taking).2.1 ∧
      Tells (session.sample number taking).2.2 := by
  have drained : ∀ cell, (taking.sample session.lastTick cell).2.2.2 = { cell with events := [] } := fun cell =>
    (taking.sample_drains session.lastTick cell).2.2
  obtain ⟨kept, beside, tells⟩ := course.within_tells number (none, taking, session.lastTick) (fun cell =>
    ((((taking.sample session.lastTick cell).1, (taking.sample session.lastTick cell).2.1,
      (taking.sample session.lastTick cell).2.2.1) : Option (Frame R) × Sampler R × Nat),
      (taking.sample session.lastTick cell).2.2.2))
    (fun cell => drained cell ▸ .of_same rfl rfl rfl) fun cell => drained cell ▸ .of_same rfl
  unfold Session.sample
  dsimp only
  generalize session.within number _ _ = done at kept beside tells ⊢
  obtain ⟨⟨frame, sampler, lastTick⟩, after, requests⟩ := done
  cases frame with
  | none => exact ⟨kept.same ⟨rfl, rfl, rfl, rfl, rfl⟩ rfl rfl, beside.trans ⟨.of_runs rfl, rfl, rfl, rfl⟩, tells⟩
  | some frame => exact ⟨kept.same ⟨rfl, rfl, rfl, rfl, rfl⟩ rfl rfl, beside.trans ⟨.of_runs rfl, rfl, rfl, rfl⟩, tells⟩

theorem Course.sampling_turn (number : Nat) (taking : Sampler R) (timer : Option Timer)
    (course : session.Course origin driver (some (number, taking))) :
    (∃ next told further again,
      poll (.sampling number taking timer) session = (some (.sampling number further again), next, told) ∧
        next.Course origin driver (some (number, further)) ∧ session.Beside next ∧ Tells told) ∨
      ∃ next told, poll (.sampling number taking timer) session = (none, next, told ++ [.signal (.sampled number)]) ∧
        next.Course origin driver none ∧ session.Beside next ∧ Tells told := by
  obtain ⟨kept, beside, tells⟩ := course.sample number taking
  have phase := course.phase
  generalize is : session.marks = marks at phase
  cases phase with
  | running count run sampler =>
      obtain ⟨-, state, found, own⟩ := last_there is
      have unclosed : state.closing = false := congrArg Prod.fst own
      rcases Account.sampling_goes_on number taking timer state found unclosed with ⟨again, issued, polled⟩ | polled
      · refine Or.inl ⟨_, _, _, again, polled, ?_, ?_, tells⟩
        · have sampled := kept.phase
          generalize now : (session.sample number taking).2.1.marks = after at sampled
          cases sampled with
          | running count run sampler =>
              have counted : ({ (session.sample number taking).2.1 with issued := issued } : Session R A).Course
                  origin _ _ :=
                kept.same ⟨rfl, rfl, rfl, rfl, rfl⟩ rfl rfl
              refine { counted with phase := ?_ }
              show Phase (session.sample number taking).2.1.marks _ _
              rw [now]
              exact .running number run _
        · exact beside.trans ⟨.of_runs rfl, rfl, rfl, rfl⟩
      · exact Or.inl ⟨_, _, _, _, polled, course, .refl session, nofun⟩
  | closing count sampler =>
      obtain ⟨-, state, found, own⟩ := last_there is
      have closing : state.closing = true := congrArg Prod.fst own
      have sampled := kept.phase
      generalize now : (session.sample number taking).2.1.marks = after at sampled
      cases sampled with
      | closing count sampler =>
          have marked := noted_marks now (fun run => { run with sampled := true }) (fun marks => (marks.1, true, marks.2.2))
            fun _ => rfl
          obtain ⟨noted, still⟩ := kept.noted (some (number, none)) none number
            (fun run => { run with sampled := true }) (fun _ => rfl) (fun _ => rfl) (by
              rw [marked]
              exact .sampled number)
          exact Or.inr ⟨_, _, Account.sampling_ends number taking timer state found closing, noted,
            beside.trans still, tells⟩

theorem Course.closing_turn (number : Nat) (course : session.Course origin (some (number, none)) sampler) :
    (poll (.closing number) session = (some (.closing number), session, [])) ∨
      ∃ next, poll (.closing number) session = (none, next, [.signal (.ended number)]) ∧ next.Course origin none sampler ∧
        session.Beside next := by
  have phase := course.phase
  generalize is : session.marks = marks at phase
  cases phase with
  | closing count sampler =>
      obtain ⟨-, state, found, own⟩ := last_there is
      have unsampled : state.sampled = false := congrArg (fun marks => marks.2.1) own
      left
      simp only [poll, found, unsampled, Bool.false_eq_true, if_false]
  | sampled count =>
      obtain ⟨-, state, found, own⟩ := last_there is
      have isOver : state.sampled = true := congrArg (fun marks => marks.2.1) own
      have marked := noted_marks is (fun run => { run with finished := true }) (fun marks => (marks.1, marks.2.1, true))
        fun _ => rfl
      obtain ⟨noted, beside⟩ := course.noted none none number (fun run => { run with finished := true })
        (fun _ => rfl) (fun _ => rfl) (by
          rw [marked, ← List.replicate_succ']
          exact .idle (number + 1))
      right
      refine ⟨_, ?_, noted, beside⟩
      simp only [poll, found, isOver, if_true]

theorem close_runs (number : Nat) (outcome : Outcome R) (state : SessionRun R) (found : session.runs[number]? = some state) :
    (session.close number outcome).1.runs = session.runs.modify number fun run => { run with
      cell := { (session.lend state).stopAll with
        events := (session.lend state).stopAll.events ++ ending outcome, outbox := [] }
      closing := true } := by
  unfold close
  rw [within_found session number () _ state found]
  show (session.runs.modify number _).modify number _ = _
  rw [List.modify_modify_eq]
  simp only [push_all]
  rfl

theorem Course.close (course : session.Course origin driver sampler) (count : Nat) (taking : Sampler R)
    (marks : session.marks = .replicate count (true, true, true) ++ [(false, false, false)]) (outcome : Outcome R) :
    (session.close count outcome).1.Course origin (some (count, none)) (some (count, taking)) ∧
      session.Beside (session.close count outcome).1 ∧
      ∃ told, (session.close count outcome).2 = told ++ [.signal .closing] ∧ Tells told := by
  obtain ⟨-, state, found, own⟩ := last_there marks
  obtain ⟨axes, actuators, silent⟩ := course.cells state (List.mem_of_getElem? found)
  have runs := close_runs count outcome state found
  obtain ⟨onwards, passes⟩ := stop_all_passes (session.lend state) axes actuators
  have marked : (session.close count outcome).1.marks =
      .replicate count (true, true, true) ++ [(true, false, false)] := by
    rw [marks_modify count _ (fun marks => (true, marks.2)) runs fun _ => rfl, marks]
    have last := modify_last (.replicate count (true, true, true)) (false, false, false) fun marks => (true, marks.2)
    rwa [List.length_replicate] at last
  have made : session.Made (session.close count outcome).1 := by
    unfold Session.close
    rw [within_found session count () _ state found]
    exact ⟨rfl, rfl, rfl, rfl, rfl⟩
  have same : (session.close count outcome).1.active = session.active ∧
      (session.close count outcome).1.log = session.log := by
    unfold Session.close
    rw [within_found session count () _ state found]
    exact ⟨rfl, rfl⟩
  refine ⟨?_, ⟨?_, same.2, same.1, ?_⟩, ?_⟩
  · refine course.modified made same.1 count _ runs (by rw [marked]; exact .closing count taking) fun run there => ?_
    exact ⟨onwards.axes.enrolled axes, onwards.actuators.enrolled actuators, rfl⟩
  · refine modify_onwards count _ runs fun run there => ?_
    obtain rfl : run = state := Option.some.inj (there.symm.trans found)
    exact ⟨⟨onwards.axes, onwards.actuators, nofun⟩, fun _ => Or.inr ⟨passes.axes, passes.actuators⟩⟩
  · rw [runs, List.length_modify]
  · unfold Session.close
    rw [within_found session count () _ state found]
    refine ⟨_, rfl, fun request member => ?_⟩
    obtain ⟨effect, inside, rfl⟩ := List.mem_map.mp member
    have nothing : (session.lend state).outbox = [] := silent
    rw [push_all] at inside
    rcases Cell.OnlySignals.stop_all _ effect inside with before | ⟨sent, rfl⟩
    · rw [nothing] at before
      cases before
    · rcases onwards.asked _ inside with before | inner
      · rw [nothing] at before
        cases before
      · exact ⟨sent, rfl, inner⟩

def Asks (session : Session R A) (number : Nat) : Request (SessionJob R A) → Prop
  | .begin job => ∃ motor : Motor R, job = .motor number motor ∧ session.Bears number motor.drive
  | .signal sent => sent.isInner = true
  | .again _ => True
  | .rest _ => True

omit [Scalar R] in
theorem driven_marks {marks : List (Bool × Bool × Bool)} {number : Nat} {task : Task R}
    (phase : Phase marks (some (number, some task)) sampler) (epsilon : R) :
    marks = .replicate number (true, true, true) ++ [(false, false, false)] ∧
      ∃ taking, samplerAfter number epsilon sampler task = some (number, taking) := by
  cases phase with
  | fresh count step => exact ⟨rfl, _, rfl⟩
  | running count run sampler => exact ⟨rfl, _, rfl⟩

theorem running_of_pending (task left : Task R) (handlers : HandlerTable R) (cell : Cell R)
    (goesOn : (task.poll handlers cell).1.outcome = .error left) : ∃ run, left = .running run := by
  cases result : (task.poll handlers cell).1 with
  | pending run =>
      rw [result] at goesOn
      cases goesOn
      exact ⟨run, rfl⟩
  | done value =>
      rw [result] at goesOn
      cases goesOn
  | fault fault =>
      rw [result] at goesOn
      cases goesOn
  | panicked message =>
      rw [result] at goesOn
      cases goesOn

theorem Course.drive_turn (onwards : origin.handlers.Onwards) (number : Nat) (task : Task R)
    (makes : task.Makes fun _ => True) (course : session.Course origin (some (number, some task)) sampler) :
    ∃ asked taking, samplerAfter number session.settings.sampling.epsilon sampler task = some (number, taking) ∧
      ((∃ left next, poll (.drive number task) session =
          (some (.drive number left), next, samplerFor number session.settings.sampling.epsilon task ++ asked) ∧
        left.Makes (fun _ => True) ∧ next.Course origin (some (number, some left)) (some (number, taking)) ∧
          session.Beside next ∧
        ∀ request ∈ asked, next.Asks number request) ∨
      ∃ told next, poll (.drive number task) session =
          (some (.closing number), next,
            samplerFor number session.settings.sampling.epsilon task ++ asked ++ (told ++ [.signal .closing])) ∧
        next.Course origin (some (number, none)) (some (number, taking)) ∧ session.Beside next ∧ Tells told ∧
        ∀ request ∈ asked, next.Asks number request) := by
  obtain ⟨marks, taking, sampling⟩ := driven_marks course.phase session.settings.sampling.epsilon
  obtain ⟨-, state, found, own⟩ := last_there marks
  have unclosed : state.closing = false := congrArg Prod.fst own
  have same : session.handlers = origin.handlers := course.made.handlers
  obtain ⟨kept, beside, asked⟩ := course.within number (.fault .cancelled) (fun cell => task.poll session.handlers cell)
    fun state _ => task_onwards session.handlers (same ▸ onwards) task makes (session.lend state)
  have left : ∀ next, (task.poll session.handlers (session.lend state)).1.outcome = .error next → next.Makes fun _ => True :=
    fun _ goesOn => makes.left session.handlers (session.lend state) goesOn
  have running := fun next => running_of_pending task next session.handlers (session.lend state)
  have polled := within_found session number (.fault .cancelled) (fun cell => task.poll session.handlers cell) state found
  have asks : ∀ request ∈ (session.within number (.fault .cancelled) fun cell => task.poll session.handlers cell).2.2,
      (session.within number (.fault .cancelled) fun cell => task.poll session.handlers cell).2.1.Asks number request := by
    intro request member
    obtain ⟨other, effect, there, -, backed, rfl⟩ := asked request member
    obtain rfl : other = state := Option.some.inj (there.symm.trans found)
    have bears : ∀ drive : Drive R, drive.Begun (task.poll session.handlers (session.lend other)).2 →
        (session.within number (.fault .cancelled) fun cell => task.poll session.handlers cell).2.1.Bears number drive := by
      intro drive begun
      refine ⟨{ other with cell := { (task.poll session.handlers (session.lend other)).2 with outbox := [] } }, ?_, ?_, ?_⟩
      · rw [polled]
        show (session.runs.modify number _)[number]? = _
        simp [found]
      · cases drive <;> exact begun
      · intro closing
        cases unclosed.symm.trans closing
    cases effect with
    | motion handle way => exact ⟨.ofMotion handle way, rfl, bears (.axis handle way) backed⟩
    | stroke handle way => exact ⟨.ofStroke handle way, rfl, bears (.actuator handle way 0) backed⟩
    | signal sent => exact backed
    | again key => trivial
    | rest key => trivial
  have outcome : (session.within number (.fault .cancelled) fun cell => task.poll session.handlers cell).1 =
      (task.poll session.handlers (session.lend state)).1 := by rw [polled]
  rw [← outcome] at left running
  have stillMarks := (driven_marks kept.phase session.settings.sampling.epsilon).1
  rcases did : session.within number (.fault .cancelled) (fun cell => task.poll session.handlers cell) with
    ⟨progress, after, requests⟩
  rw [did] at kept beside asks left running stillMarks
  dsimp only at kept beside asks left running stillMarks
  refine ⟨requests, taking, sampling, ?_⟩
  rw [poll_drive session number task progress after requests did]
  cases ends : progress.outcome with
  | error further =>
      left
      obtain ⟨run, rfl⟩ := running further ends
      refine ⟨.running run, after, rfl, left _ ends, ⟨kept.made, ?_, kept.active, kept.cells⟩, beside, asks⟩
      rw [stillMarks]
      exact .running number run taking
  | ok outcome =>
      right
      obtain ⟨closed, still, told, tells, quiet⟩ := kept.close number taking stillMarks outcome
      refine ⟨told, (after.close number outcome).1, ?_, closed, beside.trans still, quiet, fun request member => ?_⟩
      · rw [← tells]
      · have before := asks request member
        cases request with
        | begin job =>
            obtain ⟨motor, is, bears⟩ := before
            exact ⟨motor, is, bears.onwards still.onwards⟩
        | signal sent => exact before
        | again key => trivial
        | rest key => trivial

end Session

end Workcell
