import Workcell.Proofs.Exact
import Workcell.Proofs.Session.Operating
import Workcell.Proofs.Session.Running

/-!
The lifecycle grammar of sessions: at any moment, what has been published is told in chapters.
-/

set_option autoImplicit false

namespace Workcell

variable {R A : Type}

theorem Stage.tells_current {machine : Machine R} {taken : List (Order A)} {returned : List (Nat × Outcome R)}
    {runs : List (SessionRun R)} {driver : Option (Nat × Option (Task R))} {sampler : Option (Nat × Sampler R)}
    {chapter : Chapter R} (stage : Stage machine taken returned runs driver sampler (some chapter)) :
    ∃ number state, Present runs number state ∧ Telling machine number state chapter := by
  cases stage with
  | fresh number state step chapter present going unseen => exact ⟨number, state, present, going.toTelling⟩
  | running number state run sampler chapter present going ready forced => exact ⟨number, state, present, going.toTelling⟩
  | ended number state sampler chapter present ended forced => exact ⟨number, state, present, ended.toTelling⟩

theorem Stage.touched {machine : Machine R} {taken : List (Order A)} {returned : List (Nat × Outcome R)}
    {runs : List (SessionRun R)} {number : Nat} {task : Task R} {sampler : Option (Nat × Sampler R)}
    {current : Option (Chapter R)}
    (stage : Stage machine taken returned runs (some (number, some task)) sampler current) (key : Nat) :
    Stage machine taken returned runs (some (number, some (task.touch key))) sampler current := by
  cases stage with
  | fresh number state step chapter present going unseen => exact .fresh number state step chapter present going unseen
  | running number state run sampler chapter present going ready forced =>
      exact .running number state _ sampler chapter present going (touch_ready key _ _ ready) forced

-- The sampling is begun in the first turn of the flow.
theorem sampling_begun {machine : Machine R} {taken : List (Order A)} {returned : List (Nat × Outcome R)}
    {runs : List (SessionRun R)} {number : Nat} {task : Task R} {sampler : Option (Nat × Sampler R)}
    {current : Option (Chapter R)}
    (stage : Stage machine taken returned runs (some (number, some task)) sampler current) (epsilon : R)
    (jobs : List (SessionJob R A)) (operator : Option (SessionPause A × List (SessionInstruction R A)))
    (driver : Option (Nat × Option (Task R))) (roster : Roster jobs operator driver sampler) :
    Roster (jobs ++ Request.begun (match task with
      | .fresh _ => [.begin (.sampling number (Sampler.new epsilon 0).force none)]
      | .running _ => [])) operator driver (samplerAfter number epsilon sampler task) := by
  cases stage with
  | fresh number state step chapter present going unseen =>
      have first := (Roster.sampler_iff number (Sampler.new epsilon 0).force none).mpr ⟨rfl, roster⟩
      exact first.perm (List.perm_append_singleton _ jobs).symm
  | running number state run sampler chapter present going ready forced => exact (List.append_nil jobs).symm ▸ roster

variable [Scalar R]

omit [Scalar R] in
theorem mem_chapters (ledger : Ledger R A) (chapter : Chapter R) (member : chapter ∈ ledger.chapters) :
    chapter ∈ ledger.closed ∨ ledger.current = some chapter :=
  (List.mem_append.mp member).imp_right Option.mem_toList.mp

omit [Scalar R] in
theorem earlier_chapters (ledger : Ledger R A) (chapter : Chapter R) (member : chapter ∈ ledger.chapters.dropLast) :
    chapter ∈ ledger.closed := by
  unfold Ledger.chapters at member
  cases now : ledger.current with
  | none =>
      rw [now, Option.toList_none, List.append_nil] at member
      exact List.dropLast_subset _ member
  | some current =>
      rw [now, Option.toList_some, List.dropLast_concat] at member
      exact member

theorem Account.chronicle {machine : Machine R} {script : List (Order A)} {returned : List (Nat × Outcome R)}
    {session : Session R A} {operator : Option (SessionPause A × List (SessionInstruction R A))}
    {driver : Option (Nat × Option (Task R))} {sampler : Option (Nat × Sampler R)} {ledger : Ledger R A}
    (account : Account machine script returned session operator driver sampler ledger) :
    Chronicle machine script ledger.taken returned session ledger.chapters where
  script := ⟨ledger.left, account.script⟩
  frames := account.frames
  starts := ⟨ledger.waiting, account.starts⟩
  runs := account.runs
  once := account.once
  earlier := fun chapter member => account.complete chapter (earlier_chapters ledger chapter member)
  last := by
    intro chapter last
    rcases mem_chapters ledger chapter (List.mem_of_getLast? last) with closed | now
    · exact Or.inl (account.complete chapter closed)
    · have stage := account.stage
      rw [now] at stage
      obtain ⟨number, state, present, telling⟩ := stage.tells_current
      exact Or.inr telling.partly
  refused := account.refused
  finished := by
    intro chapter member number counted finished
    rcases mem_chapters ledger chapter member with closed | now
    · exact account.complete chapter closed
    · have stage := account.stage
      rw [now] at stage
      obtain ⟨same, state, present, telling⟩ := stage.tells_current
      cases telling.counted.symm.trans counted
      simp only [Session.isFinished, present.found, present.unfinished] at finished
      cases finished

def Session.Held (machine : Machine R) (script : List (Order A)) (returned : List (Nat × Outcome R))
    (session : Session R A) (jobs : List (SessionJob R A)) : Prop :=
  ∃ operator driver sampler ledger, Roster jobs operator driver sampler ∧
    Account machine script returned session operator driver sampler ledger

namespace Session

theorem touch_held {machine : Machine R} {script : List (Order A)} {returned : List (Nat × Outcome R)}
    {session : Session R A} {job : SessionJob R A} {rest : List (SessionJob R A)}
    (held : session.Held machine script returned (job :: rest)) (key : Nat) :
    session.Held machine script returned (touch key job :: rest) := by
  obtain ⟨operator, driver, sampler, ledger, roster, account⟩ := held
  cases job with
  | motor run motor => exact ⟨operator, driver, sampler, ledger, roster, account⟩
  | operator pause script => exact ⟨operator, driver, sampler, ledger, roster, account⟩
  | closing run => exact ⟨operator, driver, sampler, ledger, roster, account⟩
  | sampling run taking timer => exact ⟨operator, driver, sampler, ledger, roster, account⟩
  | drive run task =>
      obtain ⟨rfl, others⟩ := (Roster.driver_iff _ _ rfl).mp roster
      refine ⟨operator, some (run, some (task.touch key)), sampler, ledger, ?_, ?_⟩
      · exact (Roster.driver_iff _ _ rfl).mpr ⟨rfl, others⟩
      · exact { account with stage := account.stage.touched key, desk := account.desk }

theorem turn_held {machine : Machine R} {script : List (Order A)} {returned : List (Nat × Outcome R)}
    {session : Session R A} {job : SessionJob R A} {rest : List (SessionJob R A)}
    (held : session.Held machine script returned (job :: rest)) :
    (poll job session).2.1.Held machine script (returns job session returned)
      ((poll job session).1.toList ++ rest ++ Request.begun (poll job session).2.2) := by
  obtain ⟨operator, driver, sampler, ledger, roster, account⟩ := held
  cases job with
  | motor run motor =>
      have others := (Roster.motor_iff _ rfl).mp roster
      obtain ⟨kept, motors⟩ := account.motor_turn run motor
      refine ⟨operator, driver, sampler, ledger, ?_, kept⟩
      refine (Roster.motors_iff _ motors).mpr ?_
      simp only [poll]
      cases (session.within run none fun cell => motor.poll cell).1 with
      | none => exact others
      | some left => exact (Roster.motor_iff _ rfl).mpr others
  | operator pause instructions =>
      obtain ⟨rfl, others⟩ := (Roster.operator_iff pause instructions).mp roster
      obtain ⟨post, after, later, kept, brings, job⟩ := account.operator_turn pause instructions
      refine ⟨post, after, sampler, later, brings _ _ _ ?_, kept⟩
      rw [job]
      cases post with
      | none => exact others
      | some post => exact (Roster.operator_iff post.1 post.2).mpr ⟨rfl, others⟩
  | closing run =>
      obtain ⟨rfl, others⟩ := (Roster.driver_iff _ _ rfl).mp roster
      obtain ⟨left, next, requests, polled, nothing, outcome⟩ := account.closing_turn run
      rw [polled]
      simp only [nothing, List.append_nil]
      rcases outcome with ⟨rfl, kept⟩ | ⟨rfl, kept⟩
      · exact ⟨operator, _, sampler, ledger, (Roster.driver_iff _ _ rfl).mpr ⟨rfl, others⟩, kept⟩
      · exact ⟨operator, none, sampler, ledger, others, kept⟩
  | sampling run taking timer =>
      obtain ⟨rfl, others⟩ := (Roster.sampler_iff run taking timer).mp roster
      obtain ⟨left, next, requests, polled, motors, sampling, later, kept, outcome⟩ :=
        account.sampling_turn run taking timer
      rw [polled]
      refine ⟨operator, driver, sampling, later, (Roster.motors_iff _ motors).mpr ?_, kept⟩
      rcases outcome with ⟨rfl, rfl⟩ | ⟨further, again, rfl, rfl⟩
      · exact others
      · exact (Roster.sampler_iff run further again).mpr ⟨rfl, others⟩
  | drive run task =>
      obtain ⟨rfl, others⟩ := (Roster.driver_iff _ _ rfl).mp roster
      obtain ⟨polled, turn, motors, outcome⟩ := account.drive_turn run task session.settings.sampling.epsilon
      have sampled := sampling_begun account.stage session.settings.sampling.epsilon
      simp only [poll, returns, turn]
      cases ends : polled.1.outcome with
      | error left =>
          rw [ends] at outcome
          refine ⟨operator, _, _, ledger, ?_, outcome⟩
          rw [Request.begun_append, ← List.append_assoc]
          refine (Roster.motors_iff _ motors).mpr (sampled _ operator _ ?_)
          exact (Roster.driver_iff _ _ rfl).mpr ⟨rfl, others⟩
      | ok result =>
          rw [ends] at outcome
          refine ⟨operator, _, _, ledger, ?_, outcome.1⟩
          rw [Request.begun_append, Request.begun_append, ← List.append_assoc, ← List.append_assoc]
          refine (Roster.motors_iff _ outcome.2).mpr ((Roster.motors_iff _ motors).mpr (sampled _ operator _ ?_))
          exact (Roster.driver_iff _ _ rfl).mpr ⟨rfl, others⟩

theorem held_law (machine : Machine R) (script : List (Order A)) :
    (workload (R := R) (A := A)).Law returns fun returned session jobs => session.Held machine script returned jobs where
  perm := by
    rintro returned session jobs others same ⟨operator, driver, sampler, ledger, roster, account⟩
    exact ⟨operator, driver, sampler, ledger, roster.perm same, account⟩
  touch := touch_held
  elapse := by
    rintro returned session jobs ⟨operator, driver, sampler, ledger, roster, account⟩ now
    have same : session.Kept [] { session with now := now } := ⟨rfl, rfl, (List.append_nil _).symm, rfl, rfl⟩
    exact ⟨operator, driver, sampler, ledger, roster, account.kept same account.stage fun busy => busy⟩
  turn := turn_held

theorem new_held (machine : Machine R) (driver : Driver) (catalog : Catalog (Scenario R)) (settings : SessionSettings R)
    (hook : Hook R) (script : List (Order A)) :
    (new machine driver catalog settings HandlerTable.standard hook).Held machine script []
      [.operator .ready (script.map Order.instruction)] := by
  refine ⟨_, none, none, ⟨[], script, [], none, none⟩, (Roster.operator_iff _ _).mpr ⟨rfl, rfl, rfl, rfl⟩, {
    script := rfl
    onMachine := rfl
    handlers := rfl
    frames := rfl
    starts := rfl
    runs := rfl
    once := List.Pairwise.nil
    known := fun _ member => nomatch member
    active := nofun
    refused := fun _ member => nomatch member
    complete := fun _ member => nomatch member
    stage := .idle fun _ member => nomatch member
    desk := .free .ready nofun (fun _ => rfl) rfl }⟩

end Session

theorem held_when_reached (machine : Machine R) (driver : Driver) (catalog : Catalog (Scenario R))
    (settings : SessionSettings R) (hook : Hook R) (script : List (Order A)) (returned : List (Nat × Outcome R))
    (session : Session R A) (jobs : List (SessionJob R A))
    (reached : Session.workload.Reach Session.returns
      (Session.new machine driver catalog settings HandlerTable.standard hook)
      (.operator .ready (script.map Order.instruction)) [] returned session jobs) :
    session.Held machine script returned jobs :=
  (Session.held_law machine script).reached _ _ [] (Session.new_held machine driver catalog settings hook script) returned
    session jobs reached

/-- Whatever starts and stops an operator gives, however long the waiting in between, and in whatever order the jobs of
the session take their turns: what has been published at any moment is told in chapters. -/
theorem session_tells_in_chapters (machine : Machine R) (driver : Driver) (catalog : Catalog (Scenario R))
    (settings : SessionSettings R) (hook : Hook R) (script : List (Order A)) (returned : List (Nat × Outcome R))
    (session : Session R A) (jobs : List (SessionJob R A))
    (reached : Session.workload.Reach Session.returns
      (Session.new machine driver catalog settings HandlerTable.standard hook)
      (.operator .ready (script.map Order.instruction)) [] returned session jobs) :
    ∃ taken chapters, Chronicle machine script taken returned session chapters := by
  obtain ⟨operator, driving, sampler, ledger, roster, account⟩ :=
    held_when_reached machine driver catalog settings hook script returned session jobs reached
  exact ⟨ledger.taken, ledger.chapters, account.chronicle⟩

def homingSession : Session Rat Unit :=
  Session.new gripperCell.machine gripperCell.driver ⟨[("home_all", Scenario.homeAll)]⟩
    ⟨.default, defaultWait, .ofMillis 10, 0⟩ HandlerTable.standard .propagating

def hastyOrders : List (Order Unit) := [.start "home_all" fun _ => (), .stop fun _ => (), .start "other" fun _ => ()]

def hastySession : List (Nat × Outcome Rat) × Schedule (Session Rat Unit) (SessionJob Rat Unit) :=
  Schedule.follow Session.workload Session.returns 5
    ([], Schedule.start homingSession (.operator .ready (hastyOrders.map Order.instruction)))

theorem session_tells_in_chapters_of_a_hasty_operator :
    Session.workload.Reach Session.returns homingSession (.operator .ready (hastyOrders.map Order.instruction)) []
        hastySession.1 hastySession.2.world (hastySession.2.jobs.map Prod.snd) ∧
      (Frame.told hastySession.2.world.frames.sent).map Event.kind = [.flowStarted, .flowStopped, .error] ∧
      ∃ taken chapters,
        Chronicle gripperCell.machine hastyOrders taken hastySession.1 hastySession.2.world chapters := by
  have reached := Schedule.follow_reaches Session.workload Session.returns homingSession
    (.operator .ready (hastyOrders.map Order.instruction)) [] 5
  exact ⟨reached, by decide +kernel, session_tells_in_chapters _ _ _ _ _ hastyOrders _ _ _ reached⟩

-- So is what has been published when a script has been executed.
theorem executed_session_tells_in_chapters (machine : Machine R) (driver : Driver) (catalog : Catalog (Scenario R))
    (settings : SessionSettings R) (hook : Hook R) (script : List (Order A)) (fuel : Nat) :
    ∃ returned taken chapters, Chronicle machine script taken returned
      ((Session.new machine driver catalog settings HandlerTable.standard hook).execute
        (script.map Order.instruction) fuel) chapters := by
  obtain ⟨returned, jobs, reached⟩ := Schedule.run_reaches Session.workload Session.returns
    (Session.new machine driver catalog settings HandlerTable.standard hook)
    (.operator .ready (script.map Order.instruction)) [] (fun session => session.finished) fuel
  obtain ⟨operator, driving, sampler, ledger, roster, account⟩ :=
    held_when_reached machine driver catalog settings hook script returned _ jobs reached
  exact ⟨returned, ledger.taken, ledger.chapters, account.chronicle⟩

end Workcell
