import Workcell.Proofs.Session.Accounts
import Workcell.Proofs.Session.Sampling

/-!
The turns of the jobs of a run: its flow, its sampling and the motors keep the account.
-/

set_option autoImplicit false

namespace Workcell

variable {R A : Type}

theorem push_all (events : List (Event R)) (cell : Cell R) :
    events.foldl Cell.pushEvent cell = { cell with events := cell.events ++ events } := by
  induction events generalizing cell with
  | nil => simp
  | cons event rest ih =>
      rw [List.foldl_cons, ih]
      simp [Cell.pushEvent]

theorem Present.own {runs : List (SessionRun R)} {number : Nat} {state : SessionRun R}
    (present : Present runs number state) (change : SessionRun R → SessionRun R)
    (flag : ∀ run, (change run).finished = run.finished) :
    Present (runs.modify number change) number (change state) := by
  have changed := present.changed number change flag
  rwa [if_pos rfl] at changed

theorem Present.noted {session : Session R A} {number : Nat} {state : SessionRun R}
    (present : Present session.runs number state) (change : SessionRun R → SessionRun R)
    (flag : ∀ run, (change run).finished = run.finished) :
    Present (session.note number change).runs number (change state) := present.own change flag

theorem Present.taken {session : Session R A} {number : Nat} {state : SessionRun R}
    (present : Present session.runs number state) (cell : Cell R) :
    Present (session.take number cell).runs number { state with cell := { cell with outbox := [] } } :=
  present.own _ fun _ => rfl

variable {machine : Machine R} {taken : List (Order A)} {returned : List (Nat × Outcome R)}

theorem Going.later {number : Nat} {state : SessionRun R} {chapter : Chapter R}
    (going : Going machine taken returned number state chapter) (cell : Cell R) (later : Cell.Later state.cell cell) :
    Going machine taken returned number { state with cell := cell } chapter := by
  obtain ⟨news, added, material⟩ := later.events
  refine ⟨⟨going.unsampled, going.stocked.later later, going.counted, going.partly⟩, going.unclosed, ?_,
    going.unreturned, ?_⟩
  · rw [added, ← List.append_assoc]
    exact going.opens.append news material
  · rw [later.cancelled]
    exact going.cut

theorem Going.ends {number : Nat} {state : SessionRun R} {chapter : Chapter R}
    (going : Going machine taken returned number state chapter) (outcome : Outcome R)
    (cut : outcome.isCut = true → state.cell.cancelled = true) (cell : Cell R)
    (events : cell.events = state.cell.events ++ Session.ending outcome) (stocked : cell.Stocked machine) :
    Ended machine taken (returned ++ [(number, outcome)]) number { state with cell := cell, closing := true } chapter := by
  refine ⟨⟨going.unsampled, stocked, going.counted, going.partly⟩, rfl, ?_⟩
  refine ⟨_, _, outcome, ?_, going.opens, ending_of_outcome outcome, List.mem_append_right _ List.mem_cons_self, ?_⟩
  · rw [events, ← List.append_assoc]
  · exact fun isCut => going.cut (cut isCut)

def samplerAfter (number : Nat) (epsilon : R) (sampler : Option (Nat × Sampler R)) : Task R → Option (Nat × Sampler R)
  | .fresh _ => some (number, (Sampler.new epsilon 0).force)
  | .running _ => sampler

theorem Stage.driven {runs : List (SessionRun R)} {number : Nat} {task : Task R} {sampler : Option (Nat × Sampler R)}
    {current : Option (Chapter R)}
    (stage : Stage machine taken returned runs (some (number, some task)) sampler current) (epsilon : R) :
    ∃ state chapter taking, current = some chapter ∧ Present runs number state ∧
      Going machine taken returned number state chapter ∧ task.Ready state.cell.cancelled ∧
      samplerAfter number epsilon sampler task = some (number, taking) ∧
      (chapter.frames = [] → taking.forced = true) := by
  cases stage with
  | fresh number state step chapter present going unseen =>
      exact ⟨state, chapter, _, rfl, present, going, trivial, rfl, fun _ => rfl⟩
  | running number state run sampler chapter present going ready forced =>
      exact ⟨state, chapter, sampler, rfl, present, going, ready, rfl, forced⟩

theorem Going.sampled {number : Nat} {state : SessionRun R} {chapter : Chapter R}
    (going : Going machine taken returned number state chapter) (session : Session R A) (first : Frame R)
    (others : List (Frame R)) (shown : first.ShowsAll machine)
    (told : Frame.told (first :: others) = Frame.told chapter.frames ++ state.cell.events) :
    Going machine taken returned number
      { state with cell := { session.lend state with events := [], outbox := [] } }
      ⟨chapter.place, chapter.scenario, some number, first :: others⟩ := by
  have opens : Opens chapter.scenario (Frame.told (first :: others)) := told ▸ going.opens
  refine ⟨⟨going.unsampled, ⟨going.stocked.axes, going.stocked.actuators⟩, rfl, ?_⟩, going.unclosed, ?_,
    going.unreturned, going.cut⟩
  · exact .seen _ _ number first others shown opens
  · exact (List.append_nil _).symm ▸ opens

theorem Ended.sampled {number : Nat} {state : SessionRun R} {chapter : Chapter R}
    (ended : Ended machine taken returned number state chapter) (first : Frame R) (others : List (Frame R))
    (shown : first.ShowsAll machine)
    (told : Frame.told (first :: others) = Frame.told chapter.frames ++ state.cell.events) :
    (⟨chapter.place, chapter.scenario, some number, first :: others⟩ : Chapter R).Complete machine taken returned := by
  obtain ⟨opening, ending, outcome, tells, opens, ends, known, cut⟩ := ended.ends
  exact .run _ _ number first others opening ending outcome shown (told.trans tells) opens ends known cut

variable [Scalar R]

theorem within_found {B : Type} (session : Session R A) (number : Nat) (absent : B) (work : Cell R → B × Cell R)
    (run : SessionRun R) (found : session.runs[number]? = some run) :
    session.within number absent work = ((work (session.lend run)).1, session.take number (work (session.lend run)).2,
      (work (session.lend run)).2.outbox.map (Effect.request (.motor number))) := by
  simp only [Session.within, found]

namespace Account

variable {script : List (Order A)} {session : Session R A}
  {operator : Option (SessionPause A × List (SessionInstruction R A))} {driver : Option (Nat × Option (Task R))}
  {sampler : Option (Nat × Sampler R)} {ledger : Ledger R A}

theorem motor_turn (account : Account machine script returned session operator driver sampler ledger) (number : Nat)
    (motor : Motor R) :
    Account machine script returned (session.within number none fun cell => motor.poll cell).2.1 operator driver
        sampler ledger ∧
      ∀ job ∈ Request.begun (session.within number none fun cell => motor.poll cell).2.2, job.isMotor = true := by
  have silent := motor_silent motor
  refine account.within number none _ (fun cell => ?_) fun cell => Or.inl (silent cell).cancelled
  exact ⟨(silent cell).silent, (silent cell).axes, (silent cell).actuators⟩

-- The flow of a run has returned: its end is queued, and the sampling is told to end.
theorem close (account : Account machine script returned session operator driver sampler ledger) {next : Session R A}
    (same : session.Kept [] next) (number : Nat) (state : SessionRun R) (chapter : Chapter R) (taking : Sampler R)
    (current : ledger.current = some chapter) (busy : driver.isSome = true) (present : Present next.runs number state)
    (going : Going machine ledger.taken returned number state chapter)
    (forced : chapter.frames = [] → taking.forced = true) (outcome : Outcome R)
    (cut : outcome.isCut = true → state.cell.cancelled = true) :
    Account machine script (returned ++ [(number, outcome)]) (next.close number outcome).1 operator
        (some (number, none)) (some (number, taking)) ledger ∧
      ∀ job ∈ Request.begun (next.close number outcome).2, job.isMotor = true := by
  have stopped := stop_all_later (next.lend state)
  have later : Cell.Later state.cell { (next.lend state).stopAll with outbox := [] } :=
    ⟨stopped.cancelled, stopped.events, stopped.axes, stopped.actuators⟩
  have inside : number < session.runs.length := same.runs ▸ (List.getElem?_eq_some_iff.mp present.found).1
  unfold Session.close
  rw [within_found next number () _ state present.found]
  refine ⟨?_, ?_⟩
  · refine account.returns number outcome going.unreturned inside
      (same.trans ((take_kept number _ next).trans (note_kept number _ _))) ?_ fun _ => busy
    rw [current]
    have pushed := push_all (Session.ending outcome) (next.lend state).stopAll
    have ended := (going.later _ later).ends outcome (fun isCut => later.cancelled.trans (cut isCut))
      { (Session.ending outcome).foldl Cell.pushEvent (next.lend state).stopAll with outbox := [] }
      (by rw [pushed]) (by rw [pushed]; exact ⟨(going.stocked.later later).axes, (going.stocked.later later).actuators⟩)
    exact .ended number _ taking chapter ((present.taken _).noted _ fun _ => rfl) ended forced
  · rw [Request.begun_append]
    intro job member
    rcases List.mem_append.mp member with motor | none
    · exact begun_by_effects number _ job motor
    · cases none

-- A turn of the flow of a run.
theorem drive_turn (number : Nat) (task : Task R)
    (account : Account machine script returned session operator (some (number, some task)) sampler ledger) (epsilon : R) :
    ∃ polled, (session.within number (.fault .cancelled) fun cell => task.poll session.handlers cell) = polled ∧
      (∀ job ∈ Request.begun polled.2.2, job.isMotor = true) ∧
      match polled.1.outcome with
      | .error left => Account machine script returned polled.2.1 operator (some (number, some left))
          (samplerAfter number epsilon sampler task) ledger
      | .ok outcome => Account machine script (returned ++ [(number, outcome)]) (polled.2.1.close number outcome).1
            operator (some (number, none)) (samplerAfter number epsilon sampler task) ledger ∧
          ∀ job ∈ Request.begun (polled.2.1.close number outcome).2, job.isMotor = true := by
  obtain ⟨state, chapter, taking, current, present, going, ready, sampling, forced⟩ := account.stage.driven epsilon
  have turn := task_turn task (session.lend state) ready
  rw [account.handlers, within_found session number _ _ state present.found, sampling]
  refine ⟨_, rfl, begun_by_effects number _, ?_⟩
  rcases result : task.poll HandlerTable.standard (session.lend state) with ⟨progress, after⟩
  rw [result] at turn
  obtain ⟨after_later, goesOn⟩ := turn
  have later : Cell.Later state.cell { after with outbox := [] } :=
    ⟨after_later.cancelled, after_later.events, after_later.axes, after_later.actuators⟩
  have stillGoing := going.later _ later
  dsimp only at goesOn ⊢
  cases ends : progress.outcome with
  | error left =>
      rw [ends] at goesOn
      obtain ⟨⟨run, rfl⟩, stillReady⟩ := goesOn
      refine account.kept (take_kept number _ session) ?_ fun _ => rfl
      rw [current]
      refine .running number _ run taking chapter (present.taken after) stillGoing ?_ forced
      rw [show ({ after with outbox := [] } : Cell R).cancelled = state.cell.cancelled from after_later.cancelled]
      exact stillReady
  | ok outcome =>
      rw [ends] at goesOn
      exact account.close (take_kept number after session) number _ chapter taking current rfl
        (present.taken after) stillGoing forced outcome fun isCut => later.cancelled.trans (goesOn isCut)

-- The end of a run is waited for, or nothing is left of it.
theorem closing_turn (number : Nat)
    (account : Account machine script returned session operator (some (number, none)) sampler ledger) :
    ∃ left next requests, Session.poll (.closing number) session = (left, next, requests) ∧
      Request.begun requests = [] ∧
      ((left = some (.closing number) ∧ Account machine script returned next operator (some (number, none)) sampler ledger) ∨
        (left = none ∧ Account machine script returned next operator none sampler ledger)) := by
  have stage := account.stage
  generalize now : ledger.current = current at stage
  cases stage with
  | ended number state taking chapter present ended forced =>
      have polled : Session.poll (.closing number) session = (some (.closing number), session, []) := by
        simp only [Session.poll, present.found, ended.unsampled, Bool.false_eq_true, if_false]
      exact ⟨_, _, _, polled, rfl, Or.inl ⟨rfl, account⟩⟩
  | sampled number state present isOver =>
      have polled : Session.poll (.closing number) session =
          (none, session.note number fun run => { run with finished := true }, [.signal (.ended number)]) := by
        simp only [Session.poll, present.found, isOver, if_true]
      refine ⟨_, _, _, polled, rfl, Or.inr ⟨rfl, ?_⟩⟩
      refine account.kept (note_kept number _ session) ?_ fun busy => nomatch busy
      rw [now]
      refine .idle fun run member => ?_
      obtain ⟨place, found⟩ := List.getElem?_of_mem member
      have inside := (List.getElem?_eq_some_iff.mp found).1
      simp only [Session.note, List.length_modify, List.getElem?_modify] at found inside
      obtain ⟨old, there, rfl⟩ := Option.map_eq_some_iff.mp found
      by_cases same : number = place
      · rw [if_pos same]
      · rw [if_neg same]
        have last := present.last
        exact present.past place old (by omega) there

-- What a chapter shows after a sample: one that had no frame has a first one that shows everything.
theorem shown_after_sample {number : Nat} {state : SessionRun R} {chapter : Chapter R}
    (telling : Telling machine number state chapter) (taking : Sampler R)
    (forced : chapter.frames = [] → taking.forced = true) (last : Nat) (cell : Cell R)
    (stocked : cell.Stocked machine) :
    ∃ first others, chapter.frames ++ (taking.sample last cell).1.toList = first :: others ∧
      first.ShowsAll machine := by
  cases telling.partly with
  | unseen place scenario number =>
      obtain ⟨frame, sampled, shows⟩ := taking.sample_forced (forced rfl) last cell machine stocked
      exact ⟨frame, [], by rw [sampled]; rfl, shows⟩
  | seen place scenario number first others shown opens => exact ⟨first, _, rfl, shown⟩

-- What a sample does to a session.
theorem sample_kept (session : Session R A) (number : Nat) (state : SessionRun R) (taking : Sampler R)
    (found : session.runs[number]? = some state) :
    session.Kept (taking.sample session.lastTick (session.lend state)).1.toList (session.sample number taking).2.1 ∧
      (session.sample number taking).2.1.runs = session.runs.modify number (fun run => { run with
        cell := { session.lend state with events := [], outbox := [] } }) ∧
      (session.sample number taking).1 = (taking.sample session.lastTick (session.lend state)).2.1 ∧
      ∀ job ∈ Request.begun (session.sample number taking).2.2, job.isMotor = true := by
  obtain ⟨-, -, drained⟩ := taking.sample_drains session.lastTick (session.lend state)
  unfold Session.sample
  rw [within_found session number _ _ state found]
  rcases result : taking.sample session.lastTick (session.lend state) with ⟨frame, next, tick, after⟩
  rw [result] at drained
  dsimp only at drained
  subst drained
  refine ⟨?_, ?_, rfl, begun_by_effects number _⟩
  · cases frame with
    | none => exact ⟨rfl, rfl, (List.append_nil _).symm, rfl, List.length_modify ..⟩
    | some frame => exact ⟨rfl, rfl, Stream.sent_push _ _, rfl, List.length_modify ..⟩
  · cases frame with
    | none => rfl
    | some frame => rfl

-- After a sample the chapter has a first frame that shows everything, and has told what was queued.
theorem chapter_after_sample {number : Nat} {state : SessionRun R} {chapter : Chapter R}
    (telling : Telling machine number state chapter) (session : Session R A) (taking : Sampler R)
    (forced : chapter.frames = [] → taking.forced = true) (news : List (Frame R))
    (sampled : (taking.sample session.lastTick (session.lend state)).1.toList = news) :
    ∃ first others, ({ chapter with frames := chapter.frames ++ news } : Chapter R) =
        ⟨chapter.place, chapter.scenario, some number, first :: others⟩ ∧ first.ShowsAll machine ∧
      Frame.told (first :: others) = Frame.told chapter.frames ++ state.cell.events := by
  obtain ⟨told, -, -⟩ := taking.sample_drains session.lastTick (session.lend state)
  have stocked : (session.lend state).Stocked machine := ⟨telling.stocked.axes, telling.stocked.actuators⟩
  obtain ⟨first, others, frames, shown⟩ := shown_after_sample telling taking forced session.lastTick _ stocked
  rw [sampled] at frames told
  refine ⟨first, others, ?_, shown, ?_⟩
  · rw [frames, telling.counted]
  · rw [← frames, Frame.told_append, told]
    rfl

theorem sampling_ends (number : Nat) (taking : Sampler R) (timer : Option Timer) (state : SessionRun R)
    (found : session.runs[number]? = some state) (closing : state.closing = true) :
    Session.poll (.sampling number taking timer) session =
      (none, (session.sample number taking).2.1.note number fun run => { run with sampled := true },
        (session.sample number taking).2.2 ++ [.signal (.sampled number)]) := by
  simp only [Session.poll, found, Option.map_some, Option.getD_some, closing, if_true]

theorem sampling_goes_on (number : Nat) (taking : Sampler R) (timer : Option Timer) (state : SessionRun R)
    (found : session.runs[number]? = some state) (unclosed : state.closing = false) :
    (∃ again issued, Session.poll (.sampling number taking timer) session =
      (some (.sampling number (session.sample number taking).1 again),
        { (session.sample number taking).2.1 with issued := issued }, (session.sample number taking).2.2)) ∨
      Session.poll (.sampling number taking timer) session = (some (.sampling number taking timer), session, []) := by
  simp only [Session.poll, found, Option.map_some, Option.getD_some, unclosed, Bool.false_eq_true, if_false]
  cases timer with
  | none => exact Or.inl ⟨_, _, rfl⟩
  | some timer =>
      by_cases due : timer.due ≤ session.now
      · simp only [due, decide_true, if_true]
        exact Or.inl ⟨_, _, rfl⟩
      · simp only [due, decide_false, Bool.false_eq_true, if_false]
        exact Or.inr trivial

-- A turn of the sampling: nothing, or a sample, the last one when the flow has returned.
theorem sampling_turn (number : Nat) (taking : Sampler R) (timer : Option Timer)
    (account : Account machine script returned session operator driver (some (number, taking)) ledger) :
    ∃ left next requests, Session.poll (.sampling number taking timer) session = (left, next, requests) ∧
      (∀ job ∈ Request.begun requests, job.isMotor = true) ∧
      ∃ sampling later, Account machine script returned next operator driver sampling later ∧
        ((left = none ∧ sampling = none) ∨
          ∃ further timer, left = some (.sampling number further timer) ∧ sampling = some (number, further)) := by
  have stage := account.stage
  generalize now : ledger.current = current at stage
  cases stage with
  | running number state run taking chapter present going ready forced =>
      obtain ⟨kept, runs, same, motors⟩ := sample_kept session number state taking present.found
      obtain ⟨first, others, frames, shown, told⟩ :=
        chapter_after_sample going.toTelling session taking forced _ rfl
      rcases sampling_goes_on number taking timer state present.found going.unclosed with
        ⟨again, issued, polled⟩ | polled
      · have keeps : session.Kept _ { (session.sample number taking).2.1 with issued := issued } :=
          ⟨kept.machine, kept.handlers, kept.frames, kept.active, kept.runs⟩
        refine ⟨_, _, _, polled, motors, _, _, account.tells keeps chapter number now going.counted ledger.closed
          (some _) rfl account.complete ?_ (fun _ => rfl), Or.inr ⟨_, _, rfl, rfl⟩⟩
        rw [frames]
        refine .running number _ run _ _ ?_ (going.sampled session first others shown told) ready nofun
        exact runs ▸ present.own _ fun _ => rfl
      · refine ⟨_, _, _, polled, ?_, _, _, account, Or.inr ⟨_, _, rfl, rfl⟩⟩
        intro job member
        cases member
  | ended number state taking chapter present ended forced =>
      obtain ⟨kept, runs, same, motors⟩ := sample_kept session number state taking present.found
      obtain ⟨first, others, frames, shown, told⟩ :=
        chapter_after_sample ended.toTelling session taking forced _ rfl
      have complete := ended.sampled first others shown told
      have polled := sampling_ends number taking timer state present.found ended.closing
      refine ⟨_, _, _, polled, ?_, _, _, account.tells (kept.trans (note_kept number _ _)) chapter number now
        ended.counted (ledger.closed ++ [⟨chapter.place, chapter.scenario, some number, first :: others⟩]) none ?_ ?_ ?_
        (fun _ => rfl), Or.inl ⟨rfl, rfl⟩⟩
      · rw [Request.begun_append]
        intro job member
        rcases List.mem_append.mp member with motor | none
        · exact motors job motor
        · cases none
      · rw [List.append_nil, ← frames]
        exact List.append_nil _
      · intro other member
        rcases List.mem_append.mp member with before | last
        · exact account.complete other before
        · rw [List.mem_singleton.mp last]
          exact complete
      · have drained := present.own (fun run => { run with
          cell := { session.lend state with events := [], outbox := [] } }) fun _ => rfl
        rw [← runs] at drained
        exact .sampled number _ (drained.noted (fun run => { run with sampled := true }) fun _ => rfl) rfl

end Account

end Workcell
