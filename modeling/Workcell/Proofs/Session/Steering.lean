import Workcell.Proofs.Session.Courses

/-!
The turns of the operator, whatever the handlers do: the session stays on its course, a flow is begun only when nobody
drives, and the orders are answered one after the other.
-/

set_option autoImplicit false

namespace Workcell

variable {R A : Type}

namespace Session

def Starts : Request (SessionJob R A) → Prop
  | .begin job => ∃ number step, job = .drive number (.fresh step)
  | .signal _ => True
  | .again _ => False
  | .rest _ => False

structure Steered (origin : Session R A) (sampler : Option (Nat × Sampler R))
    (driver driving : Option (Nat × Option (Task R))) (before after : Session R A)
    (asked : List (Request (SessionJob R A))) : Prop where
  course : after.Course origin driving sampler
  onwards : before.Onwards after
  hook : after.hook = before.hook
  now : after.now = before.now
  starts : ∀ request ∈ asked, Starts request
  brings : Brings asked driver driving
  calm : driving = none → driver = none ∧ Tells asked ∧ after.runs.length = before.runs.length

inductive Awaits (session : Session R A) (busy : Bool) : Order A → SessionPause A → Prop where
  | sleep (ms : Nat) (answer : A) (timer : Timer) (idle : session.active = none → busy = false) :
      Awaits session busy (.sleep ms answer) (.sleeping timer answer)
  | waitIdle (answer : A) (run : Nat) (idle : session.active = none → busy = false) :
      Awaits session busy (.waitIdle answer) (.idle run answer)
  | start (scenario : String) (answer : Except Fault Unit → A) (run : Nat) (inactive : session.active = none)
      (last : run + 1 = session.runs.length) :
      Awaits session busy (.start scenario answer) (.stopping run (.start scenario answer))
  | stop (answer : Bool → A) (inProgress : Bool) (run : Nat) (inactive : session.active = none)
      (last : run + 1 = session.runs.length) :
      Awaits session busy (.stop answer) (.stopping run (.stop (answer inProgress)))

-- How far the operator has come with its orders: as many as have been answered, and perhaps one that it waits for.
inductive Post (orders : List (Order A)) (session : Session R A) (busy : Bool) :
    Option (SessionPause A × List (SessionInstruction R A)) → Prop where
  | gone : Post orders session busy none
  | ready (taken left : List (Order A)) (all : taken ++ left = orders) (count : taken.length = session.log.size)
      (idle : session.active = none → busy = false) :
      Post orders session busy (some (.ready, left.map Order.instruction))
  | waiting (taken : List (Order A)) (order : Order A) (left : List (Order A)) (pause : SessionPause A)
      (all : taken ++ order :: left = orders) (count : taken.length = session.log.size)
      (awaits : session.Awaits busy order pause) :
      Post orders session busy (some (pause, left.map Order.instruction))

variable {origin session next : Session R A} {driver driving between : Option (Nat × Option (Task R))}
  {sampler : Option (Nat × Sampler R)}

theorem Awaits.beside {order : Order A} {pause : SessionPause A} {busy still : Bool}
    (awaits : session.Awaits busy order pause) (beside : session.Beside next) (less : still = true → busy = true) :
    next.Awaits still order pause := by
  have idle : (session.active = none → busy = false) → next.active = none → still = false := by
    intro before inactive
    cases still with
    | false => rfl
    | true => exact (less rfl).symm.trans (before (beside.active ▸ inactive))
  cases awaits with
  | sleep ms answer timer calm => exact .sleep ms answer timer (idle calm)
  | waitIdle answer run calm => exact .waitIdle answer run (idle calm)
  | start scenario answer run inactive last =>
      exact .start scenario answer run (beside.active.trans inactive) (last.trans beside.count.symm)
  | stop answer inProgress run inactive last =>
      exact .stop answer inProgress run (beside.active.trans inactive) (last.trans beside.count.symm)

theorem Post.beside {orders : List (Order A)} {busy still : Bool}
    {operator : Option (SessionPause A × List (SessionInstruction R A))} (post : session.Post orders busy operator)
    (beside : session.Beside next) (less : still = true → busy = true) : next.Post orders still operator := by
  cases post with
  | gone => exact .gone
  | ready taken left all count idle =>
      refine .ready taken left all (beside.log ▸ count) fun inactive => ?_
      cases still with
      | false => rfl
      | true => exact (less rfl).symm.trans (idle (beside.active ▸ inactive))
  | waiting taken order left pause all count awaits =>
      exact .waiting taken order left pause all (beside.log ▸ count) (awaits.beside beside less)

theorem Steered.same (course : session.Course origin driver sampler) (made : session.Made next)
    (active : next.active = session.active) (runs : next.runs = session.runs) (hook : next.hook = session.hook)
    (now : next.now = session.now) :
    Steered origin sampler driver driver session next [] where
  course := course.same made active runs
  onwards := .of_runs runs
  hook := hook
  now := now
  starts := nofun
  brings := brings_nothing driver
  calm none := ⟨none, nofun, congrArg List.length runs⟩

theorem Steered.refl (course : session.Course origin driver sampler) :
    Steered origin sampler driver driver session session [] :=
  .same course ⟨rfl, rfl, rfl, rfl, rfl⟩ rfl rfl rfl rfl

theorem Steered.trans {first second third : Session R A} {asked more : List (Request (SessionJob R A))}
    (before : Steered origin sampler driver between first second asked)
    (after : Steered origin sampler between driving second third more) :
    Steered origin sampler driver driving first third (asked ++ more) where
  course := after.course
  onwards := before.onwards.trans after.onwards
  hook := after.hook.trans before.hook
  now := after.now.trans before.now
  starts request member := by
    rcases List.mem_append.mp member with early | late
    · exact before.starts request early
    · exact after.starts request late
  brings := before.brings.append after.brings
  calm none := by
    obtain ⟨noneBetween, tells, count⟩ := after.calm none
    obtain ⟨noneBefore, told, countBefore⟩ := before.calm noneBetween
    refine ⟨noneBefore, fun request member => ?_, count.trans countBefore⟩
    rcases List.mem_append.mp member with early | late
    · exact told request early
    · exact tells request late

theorem Steered.noted {asked : List (Request (SessionJob R A))} {after : Session R A}
    (steered : Steered origin sampler driver driving session next asked) (made : next.Made after)
    (active : after.active = next.active) (runs : after.runs = next.runs) (hook : after.hook = next.hook)
    (now : after.now = next.now) :
    Steered origin sampler driver driving session after asked := by
  have both := steered.trans (.same steered.course made active runs hook now)
  rwa [List.append_nil] at both

theorem Steered.answered {asked : List (Request (SessionJob R A))}
    (steered : Steered origin sampler driver driving session next asked) (answer : A) :
    Steered origin sampler driver driving session (next.answer answer) asked :=
  steered.noted ⟨rfl, rfl, rfl, rfl, rfl⟩ rfl rfl rfl rfl

theorem Phase.nobody_samples {marks : List (Bool × Bool × Bool)} (phase : Phase marks none sampler) : sampler = none := by
  cases phase with
  | idle count => rfl

variable [Scalar R]

theorem Course.begin (course : session.Course origin none none) (scenario : String) :
    ∃ driving, Steered origin none none driving session (session.begin scenario).2.1 (session.begin scenario).2.2 ∧
      (session.begin scenario).2.1.log = session.log ∧
      (session.active = none → (session.begin scenario).2.1.active = none → driving = none) := by
  have refused : ∀ fault : Fault, Steered origin none none none session (session.publishFault fault) [] := fun fault =>
    .same course ⟨rfl, rfl, rfl, rfl, rfl⟩ rfl rfl rfl rfl
  unfold Session.begin
  cases Scenario.build session.catalog scenario session.machine with
  | error failure =>
      cases failure with
      | fault fault => exact ⟨none, refused fault, rfl, fun _ _ => rfl⟩
      | panic message => exact ⟨none, .refl course, rfl, fun _ _ => rfl⟩
  | ok flow =>
      have onwards := Cell.Onwards.registers.materialize_all session.newCell
      have quiet : Cell.Registers fun before after : Cell R => after.outbox = before.outbox :=
        ⟨fun _ => rfl, fun _ _ _ before after => after.trans before, fun _ _ _ _ _ _ => rfl, fun _ _ _ _ _ _ => rfl⟩
      have silent := quiet.materialize_all session.newCell
      rcases made : materializeAll session.newCell with ⟨outcome, cell⟩
      rw [made] at onwards silent
      cases outcome with
      | error failure =>
          cases failure with
          | fault fault => exact ⟨none, refused fault, rfl, fun _ _ => rfl⟩
          | panic message => exact ⟨none, .refl course, rfl, fun _ _ => rfl⟩
      | ok done =>
          cases done
          dsimp only
          refine ⟨some (session.runs.length, some (.fresh flow)),
            ⟨⟨{ course.made with }, ?_, ?_, ?_⟩, ?_, rfl, rfl, ?_, ?_, by simp⟩, rfl, by simp⟩
          · have phase := course.phase
            generalize is : session.marks = marks at phase
            cases phase with
            | idle count =>
                have length : session.runs.length = count := by
                  rw [← session.marks_length, is, List.length_replicate]
                rw [length, Session.marks, List.map_append]
                change Phase (session.marks ++ _) _ _
                rw [is]
                exact .fresh count flow
          · intro number is
            cases is
            show _ = (session.runs ++ [_]).length
            rw [List.length_append]
            rfl
          · intro run member
            rcases List.mem_append.mp member with before | last
            · exact course.cells run before
            · rw [List.mem_singleton.mp last]
              exact ⟨onwards.axes.enrolled (by rintro handle device ⟨⟩),
                onwards.actuators.enrolled (by rintro handle device ⟨⟩), silent⟩
          · intro number state there
            refine ⟨state, ?_, .refl state⟩
            exact (List.getElem?_append_left (List.getElem?_eq_some_iff.mp there).1).trans there
          · intro request member
            rw [List.mem_singleton.mp member]
            exact ⟨_, _, rfl⟩
          · exact brings_drive _ _

theorem Course.after_stop (course : session.Course origin none none) (inactive : session.active = none) (next : Stopping A) :
    ∃ driving, Steered origin none none driving session (session.afterStop next).2.1 (session.afterStop next).2.2 ∧
      (session.afterStop next).2.1.log = session.log ∧ ((session.afterStop next).2.1.active = none → driving = none) ∧
      ∀ pause, (session.afterStop next).1 ≠ .waits pause := by
  cases next with
  | stop answer => exact ⟨none, .refl course, rfl, fun _ => rfl, by rintro pause ⟨⟩⟩
  | start scenario answer =>
      obtain ⟨driving, steered, log, settled⟩ := course.begin scenario
      simp only [Session.afterStop]
      rcases result : session.begin scenario with ⟨outcome, after, asked⟩
      rw [result] at steered log settled
      cases outcome with
      | ok done => exact ⟨driving, steered, log, settled inactive, by simp⟩
      | error failure =>
          cases failure with
          | fault fault => exact ⟨driving, steered, log, settled inactive, by simp⟩
          | panic message => exact ⟨driving, steered, log, settled inactive, by simp⟩

omit [Scalar R] in
theorem cancel_hook (cell : Cell R) : cell.cancel.hook = cell.hook := by
  unfold Cell.cancel
  split <;> rfl

-- Beginning to stop cancels the active run, if there is one.
theorem Course.begin_stop (course : session.Course origin driver sampler) (settled : session.active = none → driver = none) :
    Steered origin sampler driver driver session session.beginStop.2.1 session.beginStop.2.2 ∧
      session.beginStop.2.1.log = session.log ∧ session.beginStop.2.1.active = none ∧
      (session.beginStop.1 = none → driver = none) ∧
      ∀ run, session.beginStop.1 = some run → run + 1 = session.beginStop.2.1.runs.length := by
  unfold Session.beginStop
  cases active : session.active with
  | none => exact ⟨.refl course, rfl, active, fun _ => settled active, nofun⟩
  | some run =>
      have inactive : ({ session with active := none } : Session R A).Course origin driver sampler :=
        ⟨{ course.made with }, course.phase, nofun, course.cells⟩
      obtain ⟨kept, beside, tells⟩ := inactive.within_tells run () (fun cell => ((), cell.cancel)) Cell.Onwards.cancel
        Cell.OnlySignals.cancel
      have same : (({ session with active := none } : Session R A).within run () fun cell => ((), cell.cancel)).2.1.hook =
            session.hook ∧
          (({ session with active := none } : Session R A).within run () fun cell => ((), cell.cancel)).2.1.now =
          session.now := by
        cases found : session.runs[run]? with
        | none => simp only [Session.within, found, and_self]
        | some state =>
            rw [within_found ({ session with active := none } : Session R A) run () _ state found]
            exact ⟨cancel_hook _, rfl⟩
      have last := course.active run active
      refine ⟨⟨kept, beside.onwards, same.1, same.2, fun request member => ?_, ?_, fun none => ⟨none, tells, beside.count⟩⟩,
        beside.log, beside.active, ?_, ?_⟩
      · obtain ⟨sent, rfl, -⟩ := tells request member
        trivial
      · exact brings_motors _ (fun job member => absurd (tells.begun ▸ member) List.not_mem_nil) driver
      · intro isOver
        cases busy : driver with
        | none => rfl
        | some work =>
            have unfinished := inactive.unfinished (busy ▸ rfl) run last
            simp only [unfinished, Bool.not_false, if_true] at isOver
            cases isOver
      · intro other isRun
        dsimp only at isRun
        split at isRun
        · cases isRun
          exact last.trans beside.count.symm
        · cases isRun

theorem proceed_asked (script : List (SessionInstruction R A)) (asked : List (Request (SessionJob R A)))
    (worked : Turn A × Session R A × List (Request (SessionJob R A))) :
    proceed script (worked.1, worked.2.1, asked ++ worked.2.2) =
      ((proceed script worked).1, (proceed script worked).2.1, asked ++ (proceed script worked).2.2) := by
  obtain ⟨turn, session, more⟩ := worked
  cases turn with
  | answered answer => simp only [proceed, List.append_assoc]
  | waits pause => rfl
  | broken => rfl

-- A run has come to its end that was to be stopped first.
theorem poll_stopping (run : Nat) (next : Stopping A) (script : List (SessionInstruction R A)) (session : Session R A) :
    poll (.operator (.stopping run next) script) session =
      if session.isFinished run then proceed script (session.afterStop next)
      else (some (.operator (.stopping run next) script), session, []) := by
  by_cases isOver : session.isFinished run = true
  · simp only [poll, resume, if_pos isOver]
    obtain ⟨turn, after, asked⟩ := session.afterStop next
    cases turn <;> rfl
  · simp only [poll, resume, if_neg isOver]

def Attended (origin : Session R A) (sampler : Option (Nat × Sampler R)) (driver : Option (Nat × Option (Task R)))
    (session : Session R A) (order : Order A) (worked : Turn A × Session R A × List (Request (SessionJob R A))) : Prop :=
  ∃ driving, Steered origin sampler driver driving session worked.2.1 worked.2.2 ∧ worked.2.1.log = session.log ∧
    match worked.1 with
    | .answered _ => worked.2.1.active = none → driving = none
    | .waits pause => worked.2.1.Awaits driving.isSome order pause
    | .broken => True

theorem Course.attended_after_stop (course : session.Course origin none none) (inactive : session.active = none)
    (next : Stopping A) (order : Order A) : Attended origin none none session order (session.afterStop next) := by
  obtain ⟨driving, began, log, settled, noWait⟩ := course.after_stop inactive next
  refine ⟨driving, began, log, ?_⟩
  cases turn : (session.afterStop next).1 with
  | answered answer => exact settled
  | waits pause => exact absurd turn (noWait pause)
  | broken => trivial

omit [Scalar R] in
theorem Course.isOver (course : session.Course origin driver sampler) (run : Nat) (last : run + 1 = session.runs.length)
    (isOver : session.isFinished run = true) : driver = none ∧ sampler = none := by
  have idle : driver = none := by
    cases busy : driver with
    | none => rfl
    | some work => exact absurd isOver (Bool.eq_false_iff.mp (course.unfinished (busy ▸ rfl) run last))
  subst idle
  exact ⟨rfl, course.phase.nobody_samples⟩

omit [Scalar R] in
theorem answer_log (answer : A) (session : Session R A) : (session.answer answer).log.size = session.log.size + 1 :=
  Array.size_push _

-- A stop, and what follows it.
theorem Course.stop_then (course : session.Course origin driver sampler) (settled : session.active = none → driver = none)
    (order : Order A) (next : Bool → Stopping A)
    (awaits : ∀ (session : Session R A) (busy : Bool) (run : Nat), session.active = none → run + 1 = session.runs.length →
      session.Awaits busy order (.stopping run (next true))) :
    Attended origin sampler driver session order (session.stopThen next) := by
  obtain ⟨steered, log, inactive, isOver, last⟩ := course.begin_stop settled
  unfold Session.stopThen
  rcases result : session.beginStop with ⟨stopped, after, asked⟩
  rw [result] at steered log inactive isOver last
  cases stopped with
  | some run => exact ⟨driver, steered, log, awaits after _ run inactive (last run rfl)⟩
  | none =>
      have idle := isOver rfl
      subst idle
      have alone := steered.course.phase.nobody_samples
      subst alone
      obtain ⟨driving, began, same, settledAfter, noWait⟩ := steered.course.after_stop inactive (next false)
      refine ⟨driving, steered.trans began, same.trans log, ?_⟩
      show match (after.afterStop (next false)).1 with
        | .answered _ => _
        | .waits pause => _
        | .broken => _
      cases turn : (after.afterStop (next false)).1 with
      | answered answer => exact settledAfter
      | waits pause => exact absurd turn (noWait pause)
      | broken => trivial

theorem Course.instruct (course : session.Course origin driver sampler) (settled : session.active = none → driver = none)
    (order : Order A) : Attended origin sampler driver session order (session.instruct order.instruction) := by
  have notBusy : session.active = none → driver.isSome = false := fun inactive => settled inactive ▸ rfl
  cases order with
  | start scenario answer =>
      exact course.stop_then settled (.start scenario answer) (fun _ => .start scenario answer)
        fun session _ run inactive last =>
        .start scenario answer run inactive last
  | stop answer =>
      exact course.stop_then settled (.stop answer) (fun inProgress => .stop (answer inProgress))
        fun session _ run inactive last =>
        .stop answer true run inactive last
  | sleep ms answer =>
      simp only [Order.instruction, Session.instruct, Session.hold]
      split
      · exact ⟨driver, .refl course, rfl, settled⟩
      · exact ⟨driver, .same course ⟨rfl, rfl, rfl, rfl, rfl⟩ rfl rfl rfl rfl, rfl, .sleep ms answer _ notBusy⟩
  | waitIdle answer =>
      simp only [Order.instruction, Session.instruct]
      cases active : session.active with
      | none => exact ⟨driver, .refl course, rfl, fun _ => settled active⟩
      | some run =>
          dsimp only
          split
          · exact ⟨driver, .refl course, rfl, settled⟩
          · exact ⟨driver, .refl course, rfl, .waitIdle answer run notBusy⟩

def Manned (origin : Session R A) (orders : List (Order A)) (sampler : Option (Nat × Sampler R))
    (driver : Option (Nat × Option (Task R))) (session : Session R A)
    (result : Option (SessionJob R A) × Session R A × List (Request (SessionJob R A))) : Prop :=
  ∃ operator driving, Steered origin sampler driver driving session result.2.1 result.2.2 ∧
    result.2.1.Post orders driving.isSome operator ∧ result.1 = operator.map fun post => .operator post.1 post.2

theorem Attended.proceeds {orders taken : List (Order A)} {order : Order A} {left : List (Order A)}
    {worked : Turn A × Session R A × List (Request (SessionJob R A))}
    (attended : Attended origin sampler driver session order worked) (all : taken ++ order :: left = orders)
    (count : taken.length = session.log.size)
    (follows : ∀ (after : Session R A) (driving : Option (Nat × Option (Task R))), after.Course origin driving sampler →
      (after.active = none → driving = none) → (taken ++ [order]).length = after.log.size →
      Manned origin orders sampler driving after (Session.follow (left.map Order.instruction) after)) :
    Manned origin orders sampler driver session (proceed (left.map Order.instruction) worked) := by
  obtain ⟨driving, steered, log, comes⟩ := attended
  obtain ⟨turn, next, asked⟩ := worked
  cases turn with
  | answered answer =>
      have noted := steered.answered answer
      have longer : (taken ++ [order]).length = (next.answer answer).log.size := by
        rw [answer_log, log, List.length_append, count]
        rfl
      obtain ⟨operator, further, went, post, job⟩ := follows (next.answer answer) driving noted.course comes longer
      exact ⟨operator, further, noted.trans went, post, job⟩
  | waits pause =>
      exact ⟨_, driving, steered, .waiting taken order left pause all (count.trans (congrArg Array.size log.symm))
        comes, rfl⟩
  | broken => exact ⟨none, driving, steered.noted ⟨rfl, rfl, rfl, rfl, rfl⟩ rfl rfl rfl rfl, .gone, rfl⟩

theorem Course.follow {orders taken : List (Order A)} (left : List (Order A)) (all : taken ++ left = orders)
    (course : session.Course origin driver sampler) (settled : session.active = none → driver = none)
    (count : taken.length = session.log.size) :
    Manned origin orders sampler driver session (Session.follow (left.map Order.instruction) session) := by
  induction left generalizing session driver taken with
  | nil => exact ⟨none, driver, .same course ⟨rfl, rfl, rfl, rfl, rfl⟩ rfl rfl rfl rfl, .gone, rfl⟩
  | cons order rest ih =>
      rw [List.map_cons, follow_proceeds]
      exact (course.instruct settled order).proceeds all count fun _ _ course settled count =>
        ih ((List.append_assoc _ _ _).trans all) course settled count

omit [Scalar R] in
theorem settled_of_idle (idle : session.active = none → driver.isSome = false) (inactive : session.active = none) :
    driver = none :=
  Option.not_isSome_iff_eq_none.mp (Bool.eq_false_iff.mp (idle inactive))

theorem Course.waited {order : Order A} {pause : SessionPause A} (course : session.Course origin driver sampler)
    (awaits : session.Awaits driver.isSome order pause) (script : List (SessionInstruction R A)) :
    poll (.operator pause script) session = (some (.operator pause script), session, []) ∨
      ∃ worked, poll (.operator pause script) session = proceed script worked ∧
        Attended origin sampler driver session order worked := by
  have answered : ∀ answer, (session.active = none → driver.isSome = false) →
      Attended origin sampler driver session order (.answered answer, session, []) := fun answer idle =>
    ⟨driver, .refl course, rfl, settled_of_idle idle⟩
  have stopped : ∀ run next, session.active = none → run + 1 = session.runs.length → pause = .stopping run next →
      poll (.operator pause script) session = (some (.operator pause script), session, []) ∨
        ∃ worked, poll (.operator pause script) session = proceed script worked ∧
          Attended origin sampler driver session order worked := by
    rintro run next inactive last rfl
    rw [poll_stopping]
    by_cases isOver : session.isFinished run = true
    · obtain ⟨rfl, rfl⟩ := course.isOver run last isOver
      exact Or.inr ⟨_, if_pos isOver, course.attended_after_stop inactive next order⟩
    · exact Or.inl (if_neg isOver)
  cases awaits with
  | sleep ms answer timer idle =>
      simp only [Session.poll, Session.resume]
      by_cases due : timer.due ≤ session.now
      · simp only [if_pos due]
        exact Or.inr ⟨_, rfl, answered answer idle⟩
      · simp only [if_neg due]
        exact Or.inl trivial
  | waitIdle answer run idle =>
      simp only [Session.poll, Session.resume]
      by_cases isOver : session.isFinished run = true
      · simp only [if_pos isOver]
        exact Or.inr ⟨_, rfl, answered answer idle⟩
      · simp only [if_neg isOver]
        exact Or.inl trivial
  | start scenario answer run inactive last => exact stopped run _ inactive last rfl
  | stop answer inProgress run inactive last => exact stopped run _ inactive last rfl

theorem Course.operator_turn {orders : List (Order A)} (course : session.Course origin driver sampler)
    (pause : SessionPause A) (script : List (SessionInstruction R A))
    (post : session.Post orders driver.isSome (some (pause, script))) :
    Manned origin orders sampler driver session (poll (.operator pause script) session) := by
  cases post with
  | ready taken left all count idle => exact course.follow left all (settled_of_idle idle) count
  | waiting taken order left pause all count awaits =>
      rcases course.waited awaits (left.map Order.instruction) with unchanged | ⟨worked, polled, attended⟩
      · rw [unchanged]
        exact ⟨_, driver, .refl course, .waiting taken order left pause all count awaits, rfl⟩
      · rw [polled]
        exact attended.proceeds all count fun _ _ course settled count =>
          course.follow left ((List.append_assoc _ _ _).trans all) settled count

def Reaches (origin : Session R A) (sampler : Option (Nat × Sampler R)) (driver : Option (Nat × Option (Task R)))
    (session : Session R A) (scenario : String) (answer : Except Fault Unit → A) (rest : List (Order A))
    (result : Option (SessionJob R A) × Session R A × List (Request (SessionJob R A))) : Prop :=
  ∃ middle asked, Steered origin sampler driver none session middle asked ∧ middle.active = none ∧
    (∃ reply, (middle.afterStop (.start scenario answer)).1 = .answered reply) ∧
    let begun := proceed (rest.map Order.instruction) (middle.afterStop (.start scenario answer))
    result = (begun.1, begun.2.1, asked ++ begun.2.2)

theorem Attended.reaches {order : Order A} {first rest : List (Order A)} {scenario : String} {answer : Except Fault Unit → A}
    {worked : Turn A × Session R A × List (Request (SessionJob R A))}
    (attended : Attended origin sampler driver session order worked)
    (longer : session.log.size + 1 + first.length <
      (proceed ((first ++ .start scenario answer :: rest).map Order.instruction) worked).2.1.log.size)
    (follows : ∀ (after : Session R A) (driving : Option (Nat × Option (Task R))), after.Course origin driving sampler →
      (after.active = none → driving = none) →
      after.log.size + first.length <
        (Session.follow ((first ++ .start scenario answer :: rest).map Order.instruction) after).2.1.log.size →
      Reaches origin sampler driving after scenario answer rest
        (Session.follow ((first ++ .start scenario answer :: rest).map Order.instruction) after)) :
    Reaches origin sampler driver session scenario answer rest
      (proceed ((first ++ .start scenario answer :: rest).map Order.instruction) worked) := by
  obtain ⟨driving, steered, log, comes⟩ := attended
  obtain ⟨turn, next, asked⟩ := worked
  dsimp only at steered log comes
  have unanswered : ¬ session.log.size + 1 + first.length < next.log.size := by
    rw [log]
    omega
  cases turn with
  | answered reply =>
      have noted := steered.answered reply
      obtain ⟨middle, told, went, inactive, answered, same⟩ := follows (next.answer reply) driving noted.course comes (by
        rw [answer_log, log]
        exact longer)
      refine ⟨middle, asked ++ told, noted.trans went, inactive, answered, ?_⟩
      simp only [proceed, same, List.append_assoc]
  | waits pause => exact absurd longer unanswered
  | broken => exact absurd longer unanswered

-- The log is longer after a start only if it has been answered.
theorem Course.answers (course : session.Course origin none none) (inactive : session.active = none) (next : Stopping A)
    (script : List (SessionInstruction R A))
    (longer : session.log.size < (proceed script (session.afterStop next)).2.1.log.size) :
    ∃ reply, (session.afterStop next).1 = .answered reply := by
  obtain ⟨driving, began, log, settled, noWait⟩ := course.after_stop inactive next
  rcases result : session.afterStop next with ⟨turn, after, asked⟩
  rw [result] at log longer
  have same : ¬ session.log.size < after.log.size := Nat.not_lt_of_ge (Nat.le_of_eq (congrArg Array.size log))
  cases turn with
  | answered reply => exact ⟨reply, rfl⟩
  | waits pause => exact absurd longer same
  | broken => exact absurd longer same

-- A start that is answered in the turn in which it is taken up has nothing to wait for.
theorem Course.reaches_start (course : session.Course origin driver sampler)
    (settled : session.active = none → driver = none) (scenario : String) (answer : Except Fault Unit → A)
    (rest : List (Order A)) (longer : session.log.size <
      (Session.follow ((Order.start scenario answer :: rest).map Order.instruction) session).2.1.log.size) :
    Reaches origin sampler driver session scenario answer rest
      (Session.follow ((Order.start scenario answer :: rest).map Order.instruction) session) := by
  obtain ⟨steered, log, inactive, isOver, -⟩ := course.begin_stop settled
  rw [List.map_cons, follow_proceeds] at longer ⊢
  simp only [Order.instruction, Session.instruct, Session.stopThen] at longer ⊢
  rcases result : session.beginStop with ⟨stopped, after, asked⟩
  rw [result] at steered log inactive isOver longer
  cases stopped with
  | some run =>
      simp only [proceed] at longer
      exact absurd longer (Nat.not_lt_of_ge (Nat.le_of_eq (congrArg Array.size log)))
  | none =>
      obtain rfl := isOver rfl
      obtain rfl := steered.course.phase.nobody_samples
      dsimp only at steered log inactive longer ⊢
      rw [proceed_asked] at longer ⊢
      exact ⟨after, asked, steered, inactive, steered.course.answers inactive _ _ (log ▸ longer), rfl⟩

theorem Course.follow_reaches (first : List (Order A)) (course : session.Course origin driver sampler)
    (settled : session.active = none → driver = none) (scenario : String) (answer : Except Fault Unit → A)
    (rest : List (Order A)) (longer : session.log.size + first.length <
      (Session.follow ((first ++ .start scenario answer :: rest).map Order.instruction) session).2.1.log.size) :
    Reaches origin sampler driver session scenario answer rest
      (Session.follow ((first ++ .start scenario answer :: rest).map Order.instruction) session) := by
  induction first generalizing session driver with
  | nil => exact course.reaches_start settled scenario answer rest longer
  | cons order first ih =>
      have attended := course.instruct settled order
      rw [List.cons_append, List.map_cons, follow_proceeds] at longer ⊢
      exact attended.reaches (by rw [Nat.add_assoc, Nat.add_comm 1]; exact longer) fun _ _ course settled longer =>
        ih course settled longer

omit [Scalar R] in
theorem split_after {taken left history later : List (Order A)} (same : taken ++ left = history ++ later)
    (short : taken.length ≤ history.length) : ∃ first, history = taken ++ first ∧ left = first ++ later := by
  have early : taken <+: history ++ later := ⟨left, same⟩
  obtain ⟨first, rfl⟩ := List.prefix_of_prefix_length_le early (List.prefix_append history later) short
  exact ⟨first, rfl, List.append_cancel_left (same.trans (List.append_assoc _ _ _))⟩

theorem Course.turn_reaches (course : session.Course origin driver sampler) (pause : SessionPause A)
    (script : List (SessionInstruction R A)) (history rest : List (Order A)) (scenario : String)
    (answer : Except Fault Unit → A) (post : session.Post (history ++ .start scenario answer :: rest) driver.isSome
      (some (pause, script)))
    (waiting : session.log.size ≤ history.length)
    (longer : history.length < (poll (.operator pause script) session).2.1.log.size) :
    Reaches origin sampler driver session scenario answer rest (poll (.operator pause script) session) := by
  cases post with
  | ready taken left all count idle =>
      obtain ⟨first, rfl, rfl⟩ := split_after all (count ▸ waiting)
      refine course.follow_reaches first (settled_of_idle idle) scenario answer rest ?_
      rwa [List.length_append, count] at longer
  | waiting taken order left pause all count awaits =>
      obtain ⟨first, rfl, same⟩ := split_after all (count ▸ waiting)
      rw [List.length_append, count] at longer
      rcases course.waited awaits (left.map Order.instruction) with unchanged | ⟨worked, polled, attended⟩
      · rw [unchanged] at longer
        exact absurd longer (Nat.not_lt_of_ge (Nat.le_add_right _ _))
      · cases first with
        | nil =>
            obtain ⟨rfl, rfl⟩ := List.cons.inj same
            cases awaits with
            | start scenario answer run inactive last =>
                rw [poll_stopping] at longer ⊢
                by_cases isOver : session.isFinished run = true
                · obtain ⟨rfl, rfl⟩ := course.isOver run last isOver
                  rw [if_pos isOver] at longer ⊢
                  exact ⟨session, [], .refl course, inactive, course.answers inactive _ _ longer, rfl⟩
                · rw [if_neg isOver] at longer
                  exact absurd longer (Nat.not_lt_of_ge (Nat.le_add_right _ _))
        | cons other first =>
            obtain ⟨rfl, rfl⟩ := List.cons.inj same
            rw [polled] at longer ⊢
            refine attended.reaches ?_ fun _ _ course settled longer =>
              course.follow_reaches first settled scenario answer rest longer
            rwa [List.length_cons, ← Nat.add_assoc, Nat.add_right_comm] at longer

end Session

end Workcell
