import Workcell.Proofs.Schedule.Queue
import Workcell.Proofs.Session.Steering

/-!
Histories of sessions: whatever orders an operator gives, and in whatever order the jobs take their turns, the session stays
on its course, and when the operator has a turn and nobody drives, every motor that has been begun has had a turn before.
-/

set_option autoImplicit false

namespace Workcell

variable {R A : Type}

namespace Session

def History (origin : Session R A) (orders : List (Order A)) (session : Session R A) (jobs : List (SessionJob R A)) : Prop :=
  ∃ operator driver sampler, Roster jobs operator driver sampler ∧ session.Course origin driver sampler ∧
    session.Post orders driver.isSome operator ∧ ∀ job ∈ jobs, job.Steady session

theorem History.perm {origin session : Session R A} {orders : List (Order A)} {jobs others : List (SessionJob R A)}
    (history : History origin orders session jobs) (same : jobs.Perm others) : History origin orders session others := by
  obtain ⟨operator, driver, sampler, roster, course, post, steady⟩ := history
  exact ⟨operator, driver, sampler, roster.perm same, course, post, fun job member => steady job (same.mem_iff.mpr member)⟩

variable [Scalar R]

def sorts : (workload (R := R) (A := A)).Sorts where
  desk job := job.operator?.isSome = true
  young job := ∃ run drive, job = .motor run ⟨drive, none⟩
  drives job := job.driver?.isSome = true
  touch_desk key job := by cases job <;> exact Iff.rfl
  touch_young key job := by cases job <;> simp [workload, touch]
  touch_drives key job := by cases job <;> exact Iff.rfl

theorem desk_hears (job : SessionJob R A) (desk : sorts.desk job) (leaf : Leaf) (member : leaf ∈ leaves job) (sent : Signal)
    (listens : sent ∈ leaf.signals) : ∃ run, sent = .ended run := by
  cases job with
  | motor run motor => cases desk
  | drive run task => cases desk
  | closing run => cases desk
  | sampling run sampler timer => cases desk
  | operator pause script =>
      cases pause with
      | ready => cases member
      | stopping run next =>
          rw [List.mem_singleton.mp member] at listens
          exact ⟨run, List.mem_singleton.mp listens⟩
      | sleeping timer answer =>
          rw [List.mem_singleton.mp member] at listens
          cases listens
      | idle run answer =>
          rw [List.mem_singleton.mp member] at listens
          exact ⟨run, List.mem_singleton.mp listens⟩

variable {origin session next : Session R A} {orders : List (Order A)} {job : SessionJob R A} {rest : List (SessionJob R A)}

theorem turns_of_starts
    (left : ∀ left, (poll job session).1 = some left → (sorts.desk left ↔ sorts.desk job) ∧ ¬ sorts.young left)
    (starts : ∀ request ∈ (poll job session).2.2, Starts request) : sorts.Turns job session where
  desk other goesOn := (left other goesOn).1
  aged other goesOn := (left other goesOn).2
  begun other member desk := by
    obtain ⟨number, step, rfl⟩ := starts _ member
    cases desk
  restless _ key member := starts _ member
  young := by
    left
    rintro other member ⟨run, drive, rfl⟩
    obtain ⟨number, step, is⟩ := starts _ member
    cases is

omit [Scalar R] in
theorem Tells.starts {requests : List (Request (SessionJob R A))} (tells : Tells requests) :
    ∀ request ∈ requests, Starts request := by
  intro request member
  obtain ⟨sent, rfl, -⟩ := tells request member
  trivial

theorem turns_of_asks (number : Nat) (task : Task R) (epsilon : R) (asked told : List (Request (SessionJob R A)))
    (left : SessionJob R A) (goesOn : (poll (.drive number task) session).1 = some left)
    (drives : left.driver?.isSome = true)
    (same : (poll (.drive number task) session).2.2 = samplerFor number epsilon task ++ asked ++ told)
    (asks : ∀ request ∈ asked, next.Asks number request)
    (tells : ∀ request ∈ told, ∃ sent : Signal, request = .signal sent ∧ ∀ run, sent ≠ .ended run) :
    sorts.Turns (.drive number task) session := by
  have only : ∀ other, (poll (.drive number task) session).1 = some other → other = left := fun other is =>
    Option.some.inj (is.symm.trans goesOn)
  have noDesk : ¬ sorts.desk left := by
    cases left with
    | motor run motor => exact nofun
    | operator pause script => cases drives
    | drive run task => exact nofun
    | closing run => exact nofun
    | sampling run sampler timer => exact nofun
  have cases : ∀ request ∈ (poll (.drive number task) session).2.2,
      (∃ sampler, request = .begin (.sampling number sampler none)) ∨ next.Asks number request ∨
        ∃ sent : Signal, request = .signal sent ∧ ∀ run, sent ≠ .ended run := by
    intro request member
    rw [same] at member
    rcases List.mem_append.mp member with before | last
    · rcases List.mem_append.mp before with sampler | inside
      · cases task with
        | fresh step => exact Or.inl ⟨_, List.mem_singleton.mp sampler⟩
        | running run => cases sampler
      · exact Or.inr (Or.inl (asks request inside))
    · exact Or.inr (Or.inr (tells request last))
  constructor
  · intro other is
    rw [only other is]
    exact ⟨fun desk => absurd desk noDesk, nofun⟩
  · rintro other is ⟨run, drive, rfl⟩
    obtain rfl := only _ is
    cases drives
  · intro other member desk
    rcases cases _ member with ⟨sampler, is⟩ | ⟨motor, is, -⟩ | ⟨sent, is, -⟩
    · cases is
      cases desk
    · cases is
      cases desk
    · cases is
  · exact nofun
  · refine Or.inr ⟨nofun, ⟨left, goesOn, drives⟩, fun sent member other desk leaf inside listens => ?_⟩
    obtain ⟨run, rfl⟩ := desk_hears other desk leaf inside sent listens
    rcases cases _ member with ⟨sampler, is⟩ | inner | ⟨sent, is, apart⟩
    · cases is
    · exact absurd inner nofun
    · cases is
      exact apart run rfl

omit [Scalar R] in
theorem steady_after {left : Option (SessionJob R A)} {asked : List (Request (SessionJob R A))}
    (steady : ∀ other ∈ job :: rest, other.Steady session) (onwards : session.Onwards next)
    (own : ∀ other, left = some other → other.Steady next) (begun : ∀ other, .begin other ∈ asked → other.Steady next) :
    ∀ other ∈ left.toList ++ rest ++ Request.begun asked, other.Steady next := by
  intro other member
  rcases List.mem_append.mp member with before | last
  · rcases List.mem_append.mp before with left | inside
    · exact own other (Option.mem_toList.mp left)
    · exact (steady other (List.mem_cons_of_mem _ inside)).onwards onwards
  · exact begun other (Schedule.begun_of_mem asked other last)

omit [Scalar R] in
theorem Tells.nobody {requests : List (Request (SessionJob R A))} (tells : Tells requests) (other : SessionJob R A) :
    .begin other ∉ requests := by
  intro member
  obtain ⟨sent, is, -⟩ := tells _ member
  cases is

theorem motor_history (run : Nat) (turning : Motor R)
    (history : History origin orders session (.motor run turning :: rest)) :
    History origin orders (poll (.motor run turning) session).2.1 ((poll (.motor run turning) session).1.toList ++ rest ++
        Request.begun (poll (.motor run turning) session).2.2) ∧
      sorts.Turns (.motor run turning) session := by
  obtain ⟨operator, driver, sampler, roster, course, post, steady⟩ := history
  obtain ⟨kept, beside, tells, lefts⟩ := course.motor_turn run turning (steady _ List.mem_cons_self)
  constructor
  · refine ⟨operator, driver, sampler, ?_, kept, post.beside beside id, ?_⟩
    · rw [tells.begun, List.append_nil]
      have others := (Roster.motor_iff _ rfl).mp roster
      cases left : (poll (.motor run turning) session).1 with
      | none => exact others
      | some left =>
          obtain ⟨further, rfl, -⟩ := lefts _ left
          exact (Roster.motor_iff _ rfl).mpr others
    · refine steady_after steady beside.onwards (fun other goesOn => ?_) fun other begun => absurd begun (tells.nobody other)
      obtain ⟨further, rfl, -, bears⟩ := lefts other goesOn
      exact bears
  · refine turns_of_starts (fun left goesOn => ?_) tells.starts
    obtain ⟨further, rfl, waits, -⟩ := lefts left goesOn
    refine ⟨Iff.rfl, ?_⟩
    rintro ⟨other, drive, is⟩
    cases is
    cases waits

theorem operator_history (pause : SessionPause A) (script : List (SessionInstruction R A))
    (history : History origin orders session (.operator pause script :: rest)) :
    History origin orders (poll (.operator pause script) session).2.1
    ((poll (.operator pause script) session).1.toList ++ rest ++
        Request.begun (poll (.operator pause script) session).2.2) ∧
      sorts.Turns (.operator pause script) session := by
  obtain ⟨operator, driver, sampler, roster, course, post, steady⟩ := history
  obtain ⟨rfl, others⟩ := (Roster.operator_iff pause script).mp roster
  obtain ⟨operator, driving, steered, after, left⟩ := course.operator_turn pause script post
  constructor
  · refine ⟨operator, driving, sampler, steered.brings _ _ _ ?_, steered.course, after, ?_⟩
    · rw [left]
      cases operator with
      | none => exact others
      | some post => exact (Roster.operator_iff post.1 post.2).mpr ⟨rfl, others⟩
    · refine steady_after steady steered.onwards (fun other goesOn => ?_) fun other begun => ?_
      · rw [left] at goesOn
        obtain ⟨post, -, rfl⟩ := Option.map_eq_some_iff.mp goesOn
        trivial
      · obtain ⟨number, step, rfl⟩ := steered.starts _ begun
        exact every_of_all _ (fun _ => trivial) step
  · refine turns_of_starts (fun other goesOn => ?_) steered.starts
    rw [left] at goesOn
    obtain ⟨post, -, rfl⟩ := Option.map_eq_some_iff.mp goesOn
    exact ⟨⟨fun _ => rfl, fun _ => rfl⟩, nofun⟩

theorem closing_history (run : Nat) (history : History origin orders session (.closing run :: rest)) :
    History origin orders (poll (.closing run) session).2.1 ((poll (.closing run) session).1.toList ++ rest ++
        Request.begun (poll (.closing run) session).2.2) ∧
      sorts.Turns (.closing run) session := by
  obtain ⟨operator, driver, sampler, roster, course, post, steady⟩ := history
  obtain ⟨rfl, others⟩ := (Roster.driver_iff _ _ rfl).mp roster
  rcases course.closing_turn run with polled | ⟨next, polled, kept, beside⟩
  · constructor
    · rw [polled]
      refine ⟨operator, _, sampler, ?_, course, post, ?_⟩
      · simpa [Request.begun] using roster
      · simpa [Request.begun] using steady
    · refine turns_of_starts (fun left goesOn => ?_) ?_
      · rw [polled] at goesOn
        cases goesOn
        exact ⟨Iff.rfl, nofun⟩
      · rw [polled]
        exact nofun
  · constructor
    · rw [polled]
      refine ⟨operator, none, sampler, ?_, kept, post.beside beside nofun, ?_⟩
      · simpa [Request.begun] using others
      · exact steady_after steady beside.onwards nofun fun other begun => nomatch List.mem_singleton.mp begun
    · refine turns_of_starts ?_ ?_
      · rw [polled]
        exact nofun
      · rw [polled]
        intro request member
        rw [List.mem_singleton.mp member]
        trivial

theorem sampling_history (run : Nat) (taking : Sampler R) (timer : Option Timer)
    (history : History origin orders session (.sampling run taking timer :: rest)) :
    History origin orders (poll (.sampling run taking timer) session).2.1
        ((poll (.sampling run taking timer) session).1.toList ++ rest ++
          Request.begun (poll (.sampling run taking timer) session).2.2) ∧
      sorts.Turns (.sampling run taking timer) session := by
  obtain ⟨operator, driver, sampler, roster, course, post, steady⟩ := history
  obtain ⟨rfl, others⟩ := (Roster.sampler_iff run taking timer).mp roster
  rcases course.sampling_turn run taking timer with ⟨next, told, further, again, polled, kept, beside, tells⟩ |
    ⟨next, told, polled, kept, beside, tells⟩
  · constructor
    · rw [polled]
      refine ⟨operator, driver, _, ?_, kept, post.beside beside id, ?_⟩
      · rw [tells.begun, List.append_nil]
        exact (Roster.sampler_iff run further again).mpr ⟨rfl, others⟩
      · refine steady_after steady beside.onwards (fun other goesOn => ?_) fun other begun =>
          absurd begun (tells.nobody other)
        cases goesOn
        trivial
    · refine turns_of_starts (fun left goesOn => ?_) ?_
      · rw [polled] at goesOn
        cases goesOn
        exact ⟨Iff.rfl, nofun⟩
      · rw [polled]
        exact tells.starts
  · have nobody : ∀ other, .begin other ∉ told ++ [.signal (.sampled run)] := by
      intro other member
      rcases List.mem_append.mp member with before | last
      · exact tells.nobody other before
      · cases List.mem_singleton.mp last
    constructor
    · rw [polled]
      refine ⟨operator, driver, none, ?_, kept, post.beside beside id, ?_⟩
      · rw [Request.begun_append, tells.begun]
        simpa [Request.begun] using others
      · exact steady_after steady beside.onwards nofun fun other begun => absurd begun (nobody other)
    · refine turns_of_starts ?_ ?_
      · rw [polled]
        exact nofun
      · rw [polled]
        intro request member
        rcases List.mem_append.mp member with before | last
        · exact tells.starts request before
        · rw [List.mem_singleton.mp last]
          trivial

omit [Scalar R] in
-- The sampling is begun in the first turn of the flow.
theorem Phase.sampling_begun {marks : List (Bool × Bool × Bool)} {number : Nat} {task : Task R}
    {sampler : Option (Nat × Sampler R)} (phase : Phase marks (some (number, some task)) sampler) (epsilon : R)
    (jobs : List (SessionJob R A)) (operator : Option (SessionPause A × List (SessionInstruction R A)))
    (driver : Option (Nat × Option (Task R))) (roster : Roster jobs operator driver sampler) :
    Roster (jobs ++ Request.begun (samplerFor number epsilon task)) operator driver
      (samplerAfter number epsilon sampler task) := by
  cases phase with
  | fresh count step =>
      have first := (Roster.sampler_iff number (Sampler.new epsilon 0).force none).mpr ⟨rfl, roster⟩
      exact first.perm (List.perm_append_singleton _ jobs).symm
  | running count run sampler => exact (List.append_nil jobs).symm ▸ roster

omit [Scalar R] in
theorem Phase.touched {marks : List (Bool × Bool × Bool)} {number : Nat} {task : Task R} {sampler : Option (Nat × Sampler R)}
    (phase : Phase marks (some (number, some task)) sampler) (key : Nat) :
    Phase marks (some (number, some (task.touch key))) sampler := by
  cases phase with
  | fresh number step => exact .fresh number step
  | running number run sampler => exact .running number _ sampler

omit [Scalar R] in
theorem sampler_is (number : Nat) (epsilon : R) (task : Task R) (job : SessionJob R A)
    (begun : .begin job ∈ samplerFor number epsilon task) : ∃ sampler, job = .sampling number sampler none := by
  cases task with
  | fresh step =>
      cases List.mem_singleton.mp begun
      exact ⟨_, rfl⟩
  | running run => cases begun

omit [Scalar R] in
theorem asked_motors (number : Nat) (asked : List (Request (SessionJob R A)))
    (asks : ∀ request ∈ asked, next.Asks number request) :
    ∀ job ∈ Request.begun asked, job.isMotor = true := by
  intro job member
  obtain ⟨motor, rfl, -⟩ := asks _ (Schedule.begun_of_mem asked job member)
  rfl

theorem drive_history (handlers : origin.handlers.Onwards) (run : Nat) (task : Task R)
    (history : History origin orders session (.drive run task :: rest)) :
    History origin orders (poll (.drive run task) session).2.1 ((poll (.drive run task) session).1.toList ++ rest ++
        Request.begun (poll (.drive run task) session).2.2) ∧
      sorts.Turns (.drive run task) session := by
  obtain ⟨operator, driver, sampler, roster, course, post, steady⟩ := history
  obtain ⟨rfl, others⟩ := (Roster.driver_iff _ _ rfl).mp roster
  obtain ⟨asked, taking, sampling, turn⟩ := course.drive_turn handlers run task (steady _ List.mem_cons_self)
  have sampled := Phase.sampling_begun (A := A) course.phase session.settings.sampling.epsilon
  rw [sampling] at sampled
  have begins : ∀ {next : Session R A}, (∀ request ∈ asked, next.Asks run request) → ∀ job,
      .begin job ∈ samplerFor run session.settings.sampling.epsilon task ++ asked → job.Steady next := by
    intro next asks job member
    rcases List.mem_append.mp member with sampler | inside
    · obtain ⟨other, rfl⟩ := sampler_is run _ task job sampler
      trivial
    · obtain ⟨motor, rfl, bears⟩ := asks _ inside
      exact bears
  rcases turn with ⟨left, next, polled, makes, kept, beside, asks⟩ | ⟨told, next, polled, kept, beside, tells, asks⟩
  · constructor
    · rw [polled]
      refine ⟨operator, _, _, ?_, kept, post.beside beside id, ?_⟩
      · rw [Request.begun_append, ← List.append_assoc]
        refine (Roster.motors_iff _ (asked_motors run asked asks)).mpr (sampled _ operator _ ?_)
        exact (Roster.driver_iff _ _ rfl).mpr ⟨rfl, others⟩
      · refine steady_after steady beside.onwards (fun other goesOn => ?_) (begins asks)
        cases goesOn
        exact makes
    · refine turns_of_asks run task session.settings.sampling.epsilon asked [] (.drive run left) ?_ rfl ?_ asks nofun
      · rw [polled]
      · rw [polled, List.append_nil]
  · have noMotor : ∀ other, .begin other ∉ told ++ [.signal .closing] := by
      intro other member
      rcases List.mem_append.mp member with before | last
      · exact tells.nobody other before
      · cases List.mem_singleton.mp last
    have nobody : Request.begun (told ++ [.signal .closing]) = [] :=
      List.eq_nil_iff_forall_not_mem.mpr fun other member => noMotor other (Schedule.begun_of_mem _ other member)
    constructor
    · rw [polled]
      refine ⟨operator, _, _, ?_, kept, post.beside beside id, ?_⟩
      · rw [Request.begun_append, Request.begun_append, nobody, List.append_nil, ← List.append_assoc]
        refine (Roster.motors_iff _ (asked_motors run asked asks)).mpr (sampled _ operator _ ?_)
        exact (Roster.driver_iff _ _ rfl).mpr ⟨rfl, others⟩
      · refine steady_after steady beside.onwards (fun other goesOn => ?_) fun other begun => ?_
        · cases goesOn
          trivial
        · rcases List.mem_append.mp begun with before | last
          · exact begins asks other before
          · exact absurd last (noMotor other)
    · refine turns_of_asks run task session.settings.sampling.epsilon asked (told ++ [.signal .closing]) (.closing run)
        ?_ rfl ?_
        asks ?_
      · rw [polled]
      · rw [polled]
      · intro request member
        rcases List.mem_append.mp member with before | last
        · obtain ⟨sent, rfl, inner⟩ := tells request before
          refine ⟨sent, rfl, ?_⟩
          rintro number rfl
          cases inner
        · exact ⟨.closing, List.mem_singleton.mp last, nofun⟩

theorem turn_history (handlers : origin.handlers.Onwards) (history : History origin orders session (job :: rest)) :
    History origin orders (poll job session).2.1
        ((poll job session).1.toList ++ rest ++ Request.begun (poll job session).2.2) ∧
      sorts.Turns job session := by
  cases job with
  | motor run motor => exact motor_history run motor history
  | operator pause script => exact operator_history pause script history
  | drive run task => exact drive_history handlers run task history
  | closing run => exact closing_history run history
  | sampling run sampler timer => exact sampling_history run sampler timer history

omit [Scalar R] in
theorem touch_history (history : History origin orders session (job :: rest)) (key : Nat) :
    History origin orders session (touch key job :: rest) := by
  obtain ⟨operator, driver, sampler, roster, course, post, steady⟩ := history
  cases job with
  | motor run motor => exact ⟨operator, driver, sampler, roster, course, post, steady⟩
  | operator pause script => exact ⟨operator, driver, sampler, roster, course, post, steady⟩
  | closing run => exact ⟨operator, driver, sampler, roster, course, post, steady⟩
  | sampling run taking timer => exact ⟨operator, driver, sampler, roster, course, post, steady⟩
  | drive run task =>
      obtain ⟨rfl, others⟩ := (Roster.driver_iff _ _ rfl).mp roster
      refine ⟨operator, some (run, some (task.touch key)), sampler, (Roster.driver_iff _ _ rfl).mpr ⟨rfl, others⟩,
        { course with phase := course.phase.touched key }, post, ?_⟩
      intro other member
      rcases List.mem_cons.mp member with rfl | inside
      · exact Task.Makes.touch (steady _ List.mem_cons_self) key
      · exact steady other (List.mem_cons_of_mem _ inside)

theorem history_law {G : Type} (note : SessionJob R A → Session R A → G → G) (handlers : origin.handlers.Onwards)
    (orders : List (Order A)) :
    (workload (R := R) (A := A)).Law note fun _ session jobs => History origin orders session jobs where
  perm same history := history.perm same
  touch := touch_history
  elapse := by
    rintro notes session jobs ⟨operator, driver, sampler, roster, course, post, steady⟩ now
    have beside : session.Beside { session with now := now } := ⟨.of_runs rfl, rfl, rfl, rfl⟩
    exact ⟨operator, driver, sampler, roster, course.same ⟨rfl, rfl, rfl, rfl, rfl⟩ rfl rfl, post.beside beside id,
      fun job member => (steady job member).onwards beside.onwards⟩
  turn history := (turn_history handlers history).1

omit [Scalar R] in
theorem new_history (machine : Machine R) (driver : Driver) (catalog : Catalog (Scenario R)) (settings : SessionSettings R)
    (handlers : HandlerTable R) (hook : Hook R) (orders : List (Order A)) :
    History (new machine driver catalog settings handlers hook) orders (new machine driver catalog settings handlers hook)
      [.operator .ready (orders.map Order.instruction)] := by
  refine ⟨_, none, none, (Roster.operator_iff _ _).mpr ⟨rfl, rfl, rfl, rfl⟩,
    ⟨⟨rfl, rfl, rfl, rfl, rfl⟩, .idle 0, nofun, nofun⟩, .ready [] orders rfl rfl fun _ => rfl, ?_⟩
  intro job member
  rw [List.mem_singleton.mp member]
  trivial

end Session

end Workcell
