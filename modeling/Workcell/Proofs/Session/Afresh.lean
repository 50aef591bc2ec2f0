import Workcell.Proofs.Drift.Following
import Workcell.Proofs.Exact
import Workcell.Proofs.Schedule.Handover
import Workcell.Proofs.Session.History

/-!
Every start begins afresh: whatever a session has done before, a run tells what it would tell had its start been the first
of a new session, as much later as the session has gone on.
-/

set_option autoImplicit false

namespace Workcell

variable {R A : Type}

theorem Drive.Past.stale {cell : Cell R} {drive : Drive R} (past : drive.Past cell) : drive.Stale cell := by
  cases drive with
  | axis handle motion =>
      obtain ⟨axis, there, less⟩ := past
      intro other found
      obtain rfl := Option.some.inj (there.symm.trans found)
      exact Nat.ne_of_gt less
  | actuator handle stroke began =>
      obtain ⟨actuator, there, less⟩ := past
      intro other found
      obtain rfl := Option.some.inj (there.symm.trans found)
      exact Nat.ne_of_gt less

namespace Session

theorem Phase.nobody_left {marks : List (Bool × Bool × Bool)} {sampler : Option (Nat × Sampler R)}
    (phase : Phase marks none sampler) :
    ∀ mark ∈ marks, mark = (true, true, true) := by
  cases phase with
  | idle count => exact fun mark member => List.eq_of_mem_replicate member

variable {origin session next : Session R A} {orders : List (Order A)}

-- Once nobody drives, all runs have been closed, so what drove a motor of them is past.
theorem Bears.idle {number : Nat} {drive : Drive R} {sampler : Option (Nat × Sampler R)} (bears : session.Bears number drive)
    (course : session.Course origin none sampler) (timer : Timer) :
    Idle session.runs.length session (.motor number ⟨drive, some timer⟩) := by
  obtain ⟨state, there, begun, past⟩ := bears
  have member := List.mem_of_getElem? there
  have closing : state.closing = true :=
    congrArg Prod.fst (course.phase.nobody_left state.marks (List.mem_map_of_mem member))
  exact ⟨number, drive, timer, state, rfl, (List.getElem?_eq_some_iff.mp there).1, there, (course.cells state member).2.2,
    (past closing).stale⟩

variable [Scalar R]

theorem turn_beside (handlers : origin.handlers.Onwards) (job : SessionJob R A) (rest : List (SessionJob R A))
    (history : History origin orders session (job :: rest)) (other : job.operator? = none) :
    session.Beside (poll job session).2.1 := by
  obtain ⟨operator, driver, sampler, roster, course, post, steady⟩ := history
  have own := steady job List.mem_cons_self
  cases job with
  | motor run motor => exact (course.motor_turn run motor own).2.1
  | operator pause script => cases other
  | closing run =>
      obtain ⟨rfl, -⟩ := (Roster.driver_iff _ _ rfl).mp roster
      rcases course.closing_turn run with polled | ⟨next, polled, kept, beside⟩
      · rw [polled]
        exact .refl session
      · rw [polled]
        exact beside
  | sampling run taking timer =>
      obtain ⟨rfl, -⟩ := (Roster.sampler_iff run taking timer).mp roster
      rcases course.sampling_turn run taking timer with ⟨next, told, further, again, polled, kept, beside, tells⟩ |
        ⟨next, told, polled, kept, beside, tells⟩
      · rw [polled]
        exact beside
      · rw [polled]
        exact beside
  | drive run task =>
      obtain ⟨rfl, -⟩ := (Roster.driver_iff _ _ rfl).mp roster
      obtain ⟨asked, taking, sampling, turn⟩ := course.drive_turn handlers run task own
      rcases turn with ⟨left, next, polled, makes, kept, beside, asks⟩ | ⟨told, next, polled, kept, beside, tells, asks⟩
      · rw [polled]
        exact beside
      · rw [polled]
        exact beside

theorem step_at_desk {G : Type} (handlers : origin.handlers.Onwards) (notes : G)
    (schedule after : Schedule (Session R A) (SessionJob R A))
    (stands : schedule.Stands (fun _ session jobs => History origin orders session jobs) notes [])
    (queued : schedule.Queued sorts) (stepped : schedule.step workload = some after)
    (longer : schedule.world.log.size < after.world.log.size) :
    ∃ rest pause script, schedule.ready = 0 :: rest ∧ schedule.jobs.lookup 0 = some (.operator pause script) ∧
      after = ({ schedule with ready := rest } : Schedule (Session R A) (SessionJob R A)).turn workload 0 := by
  have same : ∀ other : Session R A, other.log = schedule.world.log → ¬ schedule.world.log.size < other.log.size :=
    fun other log => Nat.not_lt_of_ge (Nat.le_of_eq (congrArg Array.size log))
  unfold Schedule.step at stepped
  cases ready : schedule.ready with
  | nil =>
      simp only [ready] at stepped
      split at stepped
      · cases stepped
        exact absurd longer (same _ (congrArg Session.log (Schedule.wakes_world workload _ _ _ _)))
      · obtain ⟨due, -, rfl⟩ := Option.map_eq_some_iff.mp stepped
        have jumped := Schedule.wakes_world workload (fun entry : Timer × Place => entry.2.job)
          (fun entry => entry.2.leaf.key)
          (sortBy (fun entry : Timer × Place => entry.1.order)
            ((schedule.timers workload).filter fun entry => decide (entry.1.due ≤ due)))
          { schedule with world := workload.elapse due schedule.world }
        exact absurd longer (same _ ((congrArg Session.log jumped).trans rfl))
  | cons number rest =>
      simp only [ready, Option.some.injEq] at stepped
      subst stepped
      cases found : schedule.jobs.lookup number with
      | none =>
          rw [Schedule.turn_of_nobody rest found] at longer
          exact absurd longer (same _ rfl)
      | some job =>
          have history := stands.front (history_law (fun _ _ notes => notes) handlers orders) number job found
          obtain ⟨others, history⟩ := history
          cases sits : job.operator? with
          | none =>
              rw [Schedule.turn_world workload schedule rest number job found] at longer
              exact absurd longer (same _ (turn_beside handlers job others history sits).log)
          | some post =>
              have desk : sorts.desk job := by
                show job.operator?.isSome = true
                rw [sits]
                rfl
              obtain rfl : number = 0 := (queued.desk (number, job) (Schedule.mem_of_lookup number job _ found)).mp desk
              cases job with
              | operator pause script => exact ⟨rest, pause, script, rfl, found, rfl⟩
              | motor run motor => cases sits
              | drive run task => cases sits
              | closing run => cases sits
              | sampling run sampler timer => cases sits

omit [Scalar R] in
theorem operator_of_member {jobs : List (SessionJob R A)}
    {operator : Option (SessionPause A × List (SessionInstruction R A))} {driver : Option (Nat × Option (Task R))}
    {sampler : Option (Nat × Sampler R)} (roster : Roster jobs operator driver sampler) (pause : SessionPause A)
    (script : List (SessionInstruction R A)) (member : .operator pause script ∈ jobs) :
    operator = some (pause, script) := by
  have inside : (pause, script) ∈ jobs.filterMap SessionJob.operator? := List.mem_filterMap.mpr ⟨_, member, rfl⟩
  rw [roster.operator] at inside
  exact Option.mem_toList.mp inside

omit [Scalar R] in
theorem motor_of_member {jobs : List (SessionJob R A)} {operator : Option (SessionPause A × List (SessionInstruction R A))}
    (roster : Roster jobs operator none none) (job : SessionJob R A) (member : job ∈ jobs) (noDesk : job.operator? = none) :
    ∃ run turning, job = .motor run turning := by
  have nobody : ∀ work, job.driver? ≠ some work := by
    intro work drives
    have inside : work ∈ jobs.filterMap SessionJob.driver? := List.mem_filterMap.mpr ⟨job, member, drives⟩
    rw [roster.driver] at inside
    cases inside
  have none : ∀ taking, job.sampler? ≠ some taking := by
    intro taking samples
    have inside : taking ∈ jobs.filterMap SessionJob.sampler? := List.mem_filterMap.mpr ⟨job, member, samples⟩
    rw [roster.sampler] at inside
    cases inside
  cases job with
  | motor run turning => exact ⟨run, turning, rfl⟩
  | operator pause script => cases noDesk
  | drive run task => exact absurd rfl (nobody _)
  | closing run => exact absurd rfl (nobody _)
  | sampling run sampler timer => exact absurd rfl (none _)

theorem others_are_motors {schedule : Schedule (Session R A) (SessionJob R A)} (queued : schedule.Queued sorts)
    (rest : List Nat) (ready : schedule.ready = 0 :: rest)
    {operator : Option (SessionPause A × List (SessionInstruction R A))}
    (roster : Roster (schedule.jobs.map Prod.snd) operator none none) (entry : Nat × SessionJob R A)
    (member : entry ∈ schedule.jobs) (other : entry.1 ≠ 0) :
    ∃ run drive timer, entry.2 = .motor run ⟨drive, some timer⟩ := by
  have noDesk : entry.2.operator? = none := by
    cases sits : entry.2.operator? with
    | none => rfl
    | some post =>
        have desk : sorts.desk entry.2 := by
          show entry.2.operator?.isSome = true
          rw [sits]
          rfl
        exact absurd ((queued.desk entry member).mp desk) other
  obtain ⟨run, ⟨drive, timer⟩, is⟩ := motor_of_member roster entry.2 (List.mem_map_of_mem member) noDesk
  cases timer with
  | some timer => exact ⟨run, drive, timer, is⟩
  | none =>
      rcases queued.young entry member ⟨run, drive, is⟩ with front | ⟨⟨-, driver, known, drives, -⟩, -⟩
      · rw [Schedule.ahead, ready] at front
        cases front
      · have inside : driver.2 ∈ schedule.jobs.map Prod.snd := List.mem_map_of_mem known
        obtain ⟨work, does⟩ := Option.isSome_iff_exists.mp drives
        have nobody : work ∈ (schedule.jobs.map Prod.snd).filterMap SessionJob.driver? :=
          List.mem_filterMap.mpr ⟨_, inside, does⟩
        rw [roster.driver] at nobody
        cases nobody

variable {drift : Drift} {ok : Call R → Prop} {past : List (SessionRun R)} {here there : Session R A}

theorem proceed_together (start : Nat) (begins : 0 < start) {asked askedThere : List Appeal}
    (poised : Poised drift ok past asked askedThere here there) (clock : there.now = here.now + drift.ahead)
    (early : here.now ≤ drift.limit) (next : Stopping A) (script : List (SessionInstruction R A))
    (plain : ∀ instruction ∈ script, instruction.Plain drift)
    (answered : ∃ reply, (there.afterStop next).1 = .answered reply) :
    Together drift ok (transfer drift past.length start begins) (Adrift drift ok past)
      (fun left leftThere => leftThere = left.map (SessionJob.adrift drift past.length) ∧
        ∀ job, left = some job → job.Fit drift ok)
      here there (proceed script (here.afterStop next)) (proceed script (there.afterStop next)) := by
  have turn := after_stop_together start begins poised clock early next
  obtain ⟨reply, replied⟩ := answered
  rcases own : here.afterStop next with ⟨outcome, session, requests⟩
  rcases ownThere : there.afterStop next with ⟨outcomeThere, sessionThere, requestsThere⟩
  rw [own, ownThere] at turn
  rw [ownThere] at replied
  obtain ⟨⟨same, -⟩, related, asks, now, nowThere, begun⟩ := turn
  dsimp only at same related asks now nowThere begun replied
  subst replied
  subst same
  have further := follow_together start begins script plain (answer_adrift related reply)
    (by
      show sessionThere.now = session.now + drift.ahead
      rw [now, nowThere, clock])
    (show session.now ≤ drift.limit from now ▸ early)
  refine ⟨further.result, further.related, ?_, further.now.trans now, further.nowThere.trans nowThere, ?_⟩
  · simp only [proceed, asks, List.map_append, further.asked]
  · intro job member
    rcases List.mem_append.mp member with before | last
    · exact begun job before
    · exact further.begun job last

def driftTo (ahead limit issued : Nat) : Drift where
  ahead := ahead
  limit := limit
  key number := number + issued
  base := 0
  rises _ _ less := Nat.add_lt_add_right less issued
  even number _ := Nat.add_right_comm number 1 issued

omit [Scalar R] in
theorem poised_for_start {sampler : Option (Nat × Sampler R)} (machine : Machine R) (driver : Driver)
    (catalog : Catalog (Scenario R)) (settings : SessionSettings R) (handlers : HandlerTable R) (hook : Hook R) (limit : Nat)
    (middle : Session R A) (course : middle.Course (new machine driver catalog settings handlers hook) none sampler)
    (inactive : middle.active = none)
    (settled : Settled (driftTo middle.now limit middle.issued) ok
      (new machine driver catalog settings handlers middle.hook : Session R A)) :
    Poised (driftTo middle.now limit middle.issued) ok middle.runs [] middle.appeals
      (new machine driver catalog settings handlers middle.hook) middle where
  machine := course.made.machine
  driver := course.made.driver
  catalog := course.made.catalog
  settings := course.made.settings
  handlers := course.made.handlers
  hook := rfl
  issued := (Nat.zero_add _).symm
  base := Nat.zero_le _
  active := inactive
  runs := ⟨[], (List.append_nil _).symm, .nil⟩
  toSettled := settled
  appeals := rfl
  appealsThere := rfl

theorem first_turn (machine : Machine R) (driver : Driver) (catalog : Catalog (Scenario R)) (settings : SessionSettings R)
    (handlers : HandlerTable R) (hook : Hook R) (scenario : String) (answer : Except Fault Unit → A)
    (script : List (SessionInstruction R A)) :
    poll (.operator .ready (.start scenario answer :: script))
        (new machine driver catalog settings handlers hook) =
      proceed script ((new machine driver catalog settings handlers hook).afterStop (.start scenario answer)) := by
  have turn := proceed_asked script [] ((new machine driver catalog settings handlers hook).afterStop
    (.start scenario answer))
  exact turn

-- Whatever is asked for, by the session or by orders, ends before the last instant that has a name, or after it, on a
-- clock that begins at `ahead` as it does on one that begins at zero, at least up to `limit`.
def PlainFrom (session : Session R A) (orders : List (Order A)) (ahead limit : Nat) : Prop :=
  ∀ drift : Drift, drift.ahead = ahead → drift.limit = limit →
    (∃ ok, Settled drift ok session) ∧ ∀ order ∈ orders, (order.instruction : SessionInstruction R A).Plain drift

section

variable (machine : Machine R) (driver : Driver) (catalog : Catalog (Scenario R)) (settings : SessionSettings R)
  (handlers : HandlerTable R)

def opening (hook : Hook R) (orders : List (Order A)) : Schedule (Session R A) (SessionJob R A) :=
  .start (new machine driver catalog settings handlers hook) (.operator .ready (orders.map Order.instruction))

theorem abreast_from_start {G : Type} (hook : Hook R) (history rest : List (Order A)) (scenario : String)
    (answer : Except Fault Unit → A) (onwards : handlers.Onwards) (notes : G)
    (schedule after : Schedule (Session R A) (SessionJob R A))
    (stands : schedule.Stands (fun _ session jobs => History (new machine driver catalog settings handlers hook)
      (history ++ .start scenario answer :: rest) session jobs) notes [])
    (queued : schedule.Queued sorts) (stepped : schedule.step workload = some after)
    (waiting : schedule.world.log.size ≤ history.length) (longer : history.length < after.world.log.size) (limit : Nat)
    (plain : PlainFrom (new machine driver catalog settings handlers schedule.world.hook : Session R A) rest
      schedule.world.now limit) :
    ∃ drift ok begins first, drift.ahead = schedule.world.now ∧ drift.limit = limit ∧
      (opening machine driver catalog settings handlers schedule.world.hook (.start scenario answer :: rest)).step workload =
        some first ∧
      first.world.now = 0 ∧
      first.Abreast workload (transfer drift schedule.world.runs.length schedule.next begins)
        (AdriftAfter drift ok schedule.world.runs.length) (SessionJob.Fit drift ok) (Idle schedule.world.runs.length)
        after := by
  obtain ⟨others, pause, script, ready, found, rfl⟩ := step_at_desk onwards notes schedule after stands queued stepped
    (Nat.lt_of_le_of_lt waiting longer)
  rw [Schedule.turn_world workload schedule others 0 _ found] at longer
  obtain ⟨jobs, front⟩ := stands.front (history_law (fun _ _ notes => notes) onwards _) 0 _ found
  have turns := (operator_history pause script front).2
  obtain ⟨operator, driven, sampler, roster, course, post, steady⟩ := stands.holds
  rw [List.append_nil] at roster steady
  have own : .operator pause script ∈ schedule.jobs.map Prod.snd := List.mem_map_of_mem (Schedule.mem_of_lookup 0 _ _ found)
  obtain rfl := operator_of_member roster pause script own
  obtain ⟨middle, asked, steered, inactive, answered, polled⟩ :=
    course.turn_reaches pause script history rest scenario answer post
    waiting longer
  obtain ⟨rfl, tells, count⟩ := steered.calm rfl
  obtain rfl := course.phase.nobody_samples
  rw [← steered.now, ← steered.hook] at plain ⊢
  rw [← count]
  let drift := driftTo middle.now limit middle.issued
  obtain ⟨⟨ok, settled⟩, plainRest⟩ := plain drift rfl rfl
  have poised := poised_for_start machine driver catalog settings handlers hook limit middle steered.course inactive settled
  have begins : 0 < schedule.next := queued.begun
  have together := proceed_together schedule.next begins poised (Nat.zero_add _).symm (Nat.zero_le _)
    (.start scenario answer) (rest.map Order.instruction) (by
      intro instruction member
      obtain ⟨order, inside, rfl⟩ := List.mem_map.mp member
      exact plainRest order inside) answered
  -- The motors of the runs before are past, and stay so.
  have idles : ∀ entry ∈ schedule.jobs, entry.1 ≠ 0 → Idle middle.runs.length middle entry.2 := by
    intro entry member other
    obtain ⟨run, drive, timer, is⟩ := others_are_motors queued others ready roster entry member other
    have bears : schedule.world.Bears run drive := by
      have own := steady entry.2 (List.mem_map_of_mem member)
      rwa [is] at own
    rw [is]
    exact (bears.onwards steered.onwards).idle steered.course timer
  have opens := first_turn machine driver catalog settings handlers middle.hook scenario answer (rest.map Order.instruction)
  generalize proceed (rest.map Order.instruction)
    ((new machine driver catalog settings handlers middle.hook).afterStop (.start scenario answer)) = begun at together opens
  generalize proceed (rest.map Order.instruction) (middle.afterStop (.start scenario answer)) = begunThere at together polled
  obtain ⟨left, world, requests⟩ := begun
  obtain ⟨leftThere, worldThere, requestsThere⟩ := begunThere
  obtain ⟨⟨sameLeft, fit⟩, related, asks, now, nowThere, begun⟩ := together
  dsimp only at sameLeft fit related asks now nowThere begun polled
  subst sameLeft
  subst asks
  obtain ⟨later, runs, -⟩ := related.runs
  have adrift : AdriftAfter drift ok middle.runs.length world worldThere := ⟨middle.runs, rfl, related⟩
  have copies := queued.toRows.hands_over (transfer drift middle.runs.length schedule.next begins) rfl others ready _ found
    (new machine driver catalog settings handlers middle.hook) world worldThere
    (.operator .ready ((Order.start scenario answer :: rest).map Order.instruction)) adrift left fit
    fun entry member other => (idles entry member other).stays (List.append_nil _).symm runs
  have granted := copies.grants (session_moves schedule.next begins) 0 requests begun
  -- What was asked before the start is told to cells of which nothing is left.
  have unheard : asked.foldl (fun schedule request => schedule.grant workload 0 request)
      (({ schedule with ready := others, world := worldThere } : Schedule (Session R A) (SessionJob R A)).leave 0
        (left.map (SessionJob.adrift drift middle.runs.length))) =
      ({ schedule with ready := others, world := worldThere } : Schedule (Session R A) (SessionJob R A)).leave 0
        (left.map (SessionJob.adrift drift middle.runs.length)) := by
    refine Schedule.signals_unheard workload 0 asked _ fun request member => ?_
    obtain ⟨sent, rfl, inner⟩ := tells request member
    refine ⟨sent, rfl, fun entry inside leaf has listens => ?_⟩
    rcases Schedule.mem_leave 0 _ entry inside with ⟨other, known⟩ | ⟨-, same⟩
    · obtain ⟨run, drive, timer, is⟩ := others_are_motors queued others ready roster entry known other
      rw [is] at has
      rw [List.mem_singleton.mp has] at listens
      cases listens
    · have desk : sorts.desk entry.2 := (turns.desk entry.2 ((congrArg Prod.fst polled).trans same)).mpr rfl
      obtain ⟨run, rfl⟩ := desk_hears entry.2 desk leaf has sent listens
      cases inner
  have turned := Schedule.turn_of_polled workload schedule others 0 _ found _ _ _ polled
  rw [List.foldl_append, unheard] at turned
  have numbered := Schedule.turn_numbered workload 0 others queued.numbered
  have turnedHere := Schedule.turn_of_polled workload
    (opening machine driver catalog settings handlers middle.hook (.start scenario answer :: rest)) [] 0 _ rfl left world
    requests opens
  rw [turned] at numbered ⊢
  refine ⟨drift, ok, begins, _, rfl, rfl, rfl, ?_, ?_⟩
  · show (({ opening machine driver catalog settings handlers middle.hook (.start scenario answer :: rest) with
      ready := [] } : Schedule (Session R A) (SessionJob R A)).turn workload 0).world.now = 0
    rw [turnedHere, Schedule.grants_world, Schedule.leave_world]
    exact now
  · show (({ opening machine driver catalog settings handlers middle.hook (.start scenario answer :: rest) with
      ready := [] } : Schedule (Session R A) (SessionJob R A)).turn workload 0).Abreast workload _ _ _ _ _
    rw [turnedHere]
    refine ⟨granted, numbered, fun _ => ?_⟩
    rw [Schedule.grants_world, Schedule.grants_world, Schedule.leave_world, Schedule.leave_world]
    show worldThere.now = world.now + drift.ahead
    rw [now, nowThere]
    exact (Nat.zero_add _).symm

theorem opening_stands (hook : Hook R) (orders : List (Order A)) (onwards : handlers.Onwards) (steps : Nat) :
    let reached := Schedule.follow workload published steps
      ([], opening machine driver catalog settings handlers hook orders)
    reached.2.Stands (fun _ session jobs => History (new machine driver catalog settings handlers hook) orders session jobs)
      reached.1 [] ∧ reached.2.Queued sorts := by
  have law : (workload (R := R) (A := A)).Law published
      fun _ session jobs => History (new machine driver catalog settings handlers hook) orders session jobs :=
    history_law published onwards orders
  have begun : (opening machine driver catalog settings handlers hook orders).Stands
      (fun _ session jobs => History (new machine driver catalog settings handlers hook) orders session jobs)
      ([] : List (Nat × Nat × Frame R)) [] :=
    Schedule.start_stands [] _ _ (new_history machine driver catalog settings handlers hook orders)
  refine ⟨Schedule.follow_stands law steps [] _ begun, Schedule.follow_queued law ?_ steps [] _ begun ?_⟩
  · intro notes session jobs job history member
    obtain ⟨before, after, rfl⟩ := List.append_of_mem member
    exact (turn_history onwards (history.perm List.perm_middle)).2
  · exact Schedule.start_queued sorts _ _ rfl nofun

/-- Runs do not leak into each other. When an operator gives orders, and one of them is a start that is answered in the
step from `schedule` to `next`: from then on the session publishes, as much later as its clock has gone on, and of runs whose
numbers are as much higher as there have been runs before, the frames that a new session publishes whose operator begins
with that start, but for their ticks and the date of the beginning. Each of the two comes to whatever the other comes to. -/
theorem start_after_history_tells_what_first_start_tells (hook : Hook R) (history rest : List (Order A)) (scenario : String)
    (answer : Except Fault Unit → A) (steps : Nat) (notes : List (Nat × Nat × Frame R))
    (schedule next : Schedule (Session R A) (SessionJob R A))
    (reached : Schedule.follow workload published steps
      ([], opening machine driver catalog settings handlers hook (history ++ .start scenario answer :: rest)) =
      (notes, schedule))
    (stepped : schedule.step workload = some next) (waiting : schedule.world.log.size ≤ history.length)
    (answered : history.length < next.world.log.size) (onwards : handlers.Onwards) (limit : Nat)
    (plain : PlainFrom (new machine driver catalog settings handlers schedule.world.hook : Session R A) rest
      schedule.world.now limit) :
    let first := opening machine driver catalog settings handlers schedule.world.hook (.start scenario answer :: rest)
    (∀ count, (∀ before, before < count → (Schedule.follow workload published before ([], first)).2.world.now ≤ limit) →
      ∃ more, SameFrames schedule.world.runs.length schedule.world.now
      (Schedule.follow workload published count ([], first)).1
        (Schedule.follow workload published more ([], next)).1) ∧
    ∀ count, (∀ before, before ≤ count →
        (Schedule.follow workload published before ([], next)).2.world.now ≤ limit + schedule.world.now) →
      ∃ fewer, SameFrames schedule.world.runs.length schedule.world.now
        (Schedule.follow workload published fewer ([], first)).1
        (Schedule.follow workload published count ([], next)).1 := by
  intro first
  obtain ⟨stands, queued⟩ := opening_stands machine driver catalog settings handlers hook
    (history ++ .start scenario answer :: rest) onwards steps
  rw [reached] at stands queued
  obtain ⟨drift, ok, begins, second, ahead, rfl, begun, zero, abreast⟩ := abreast_from_start machine driver catalog settings
    handlers hook history rest scenario answer onwards notes schedule next stands queued stepped waiting answered limit plain
  rw [← ahead]
  have moves : (workload (R := R) (A := A)).Moves published (transfer drift schedule.world.runs.length schedule.next begins)
      drift.limit (AdriftAfter drift ok schedule.world.runs.length) (SessionJob.Fit drift ok)
      (Idle schedule.world.runs.length)
      (SameFrames schedule.world.runs.length drift.ahead) := session_moves schedule.next begins
  -- The first step of the new session is the turn of its operator.
  have steps : ∀ count, Schedule.follow workload published (count + 1) ([], first) =
      Schedule.follow workload published count ([], second) := by
    intro count
    rw [Schedule.follow, begun]
    rfl
  constructor
  · intro count early
    cases count with
    | zero => exact ⟨0, rfl⟩
    | succ count =>
        obtain ⟨more, -, same⟩ := abreast.comes_there moves count [] [] rfl fun before less => by
          have bound := early (before + 1) (Nat.succ_lt_succ less)
          rwa [steps] at bound
        refine ⟨more, ?_⟩
        rw [steps]
        exact same
  · intro count early
    have soon : second.world.now ≤ drift.limit := by
      rw [zero]
      exact Nat.zero_le _
    obtain ⟨fewer, -, same⟩ := abreast.comes_here moves count [] [] rfl soon early
    refine ⟨fewer + 1, ?_⟩
    rw [steps]
    exact same

end

def clamping (orders : List (Order Unit)) : Schedule (Session Rat Unit) (SessionJob Rat Unit) :=
  opening gripperCell.machine gripperCell.driver ⟨[("clamp", fun _ => .ok (Flow.fireAndWait "gripper" true))]⟩
    ⟨.default, defaultWait, .ofMillis 10, 0⟩ .standard .propagating orders

def clampOrder : Order Unit := .start "clamp" fun _ => ()

def brokenClamp : List (Order Unit) := [clampOrder, .sleep 10 (), .stop fun _ => ()]

def clampBroken : List (Nat × Nat × Frame Rat) × Schedule (Session Rat Unit) (SessionJob Rat Unit) :=
  Schedule.follow workload published 11 ([], clamping (brokenClamp ++ [clampOrder]))

theorem clamping_plain : PlainFrom (clamping []).world ([] : List (Order Unit)) 10 1000 := by
  intro drift ahead limit
  have short : ∀ span : Duration, span ≤ defaultWait → drift.Plain span := by
    intro span small
    apply drift.plain_of_short
    rw [ahead, limit]
    exact Nat.lt_of_le_of_lt (Nat.add_le_add_left small _) (by decide +kernel)
  refine ⟨⟨Call.Plain drift, ?_⟩, nofun⟩
  refine {
    waitBound := short _ (Nat.le_refl _)
    sampleTick := short _ (by decide +kernel)
    period := short _ (by decide +kernel)
    ticks := ?_
    flows := ?_
    carried := HandlerTable.standard_carried drift }
  · rintro tick same
    cases same
    exact short _ (by decide +kernel)
  · intro scenario flow built
    by_cases named : scenario = "clamp"
    · subst named
      cases built
      exact ⟨nofun, nofun⟩
    · have missing : Catalog.find? (clamping []).world.catalog scenario = none :=
        List.lookup_eq_none_iff.mpr fun entry member => by
          obtain rfl := List.mem_singleton.mp member
          exact bne_iff_ne.mpr named
      rw [Scenario.build, missing] at built
      cases built

theorem start_after_broken_clamp_tells_what_first_start_tells :
    ∃ next, clampBroken.2.step workload = some next ∧ clampBroken.2.world.log.size ≤ brokenClamp.length ∧
      brokenClamp.length < next.world.log.size ∧
      ((Schedule.follow workload published 80 ([], clamping [clampOrder])).1.map fun note =>
        note.2.2.events.map fun events => events.map Event.kind) = [some [.flowStarted], some [.flowStopped]] ∧
      ∃ more, SameFrames 1 10 (Schedule.follow workload published 80 ([], clamping [clampOrder])).1
        (Schedule.follow workload published more ([], next)).1 := by
  have steps : (clampBroken.2.step workload).isSome := by decide +kernel
  obtain ⟨next, stepped⟩ := Option.isSome_iff_exists.mp steps
  have waiting : clampBroken.2.world.log.size ≤ brokenClamp.length := by decide +kernel
  have answered : (clampBroken.2.step workload).all fun next => brokenClamp.length < next.world.log.size := by decide +kernel
  rw [stepped] at answered
  have answered := of_decide_eq_true answered
  refine ⟨next, stepped, waiting, answered, by decide +kernel, ?_⟩
  have early : ∀ before, before < 80 →
      (Schedule.follow workload published before ([], clamping [clampOrder])).2.world.now ≤ 1000 := by
    decide +kernel
  have runs : clampBroken.2.world.runs.length = 1 := by decide +kernel
  have now : clampBroken.2.world.now = 10 := by decide +kernel
  have silent : clampBroken.2.world.hook.script.isEmpty = true ∧ clampBroken.2.world.hook.final.isNone = true := by
    decide +kernel
  have hook : clampBroken.2.world.hook = .propagating :=
    congrArg₂ Hook.mk (List.isEmpty_iff.mp silent.1) (Option.isNone_iff_eq_none.mp silent.2)
  have same := start_after_history_tells_what_first_start_tells gripperCell.machine gripperCell.driver
    ⟨[("clamp", fun _ => .ok (Flow.fireAndWait "gripper" true))]⟩ ⟨.default, defaultWait, .ofMillis 10, 0⟩ .standard
    .propagating brokenClamp [] "clamp" (fun _ => ()) 11 clampBroken.1 clampBroken.2 next rfl stepped waiting answered
    HandlerTable.standard_onwards 1000
  rw [runs, now, hook] at same
  exact (same clamping_plain).1 80 early

-- The first of these orders is answered when a history has been, and what is published from then on until everything
-- is at rest is not what a new session publishes that begins with these orders.
def TellsOtherwise (opened : List (Order Unit) → Schedule (Session Rat Unit) (SessionJob Rat Unit))
    (history orders : List (Order Unit)) : Prop :=
  ∃ steps schedule next count, (Schedule.follow workload published steps ([], opened (history ++ orders))).2 = schedule ∧
    schedule.step workload = some next ∧ schedule.world.log.size ≤ history.length ∧ history.length < next.world.log.size ∧
    (Schedule.follow workload published count ([], opened orders)).2.step workload = none ∧
    (Schedule.follow workload published count ([], next)).2.step workload = none ∧
    ¬ SameFrames schedule.world.runs.length schedule.world.now
      (Schedule.follow workload published count ([], opened orders)).1
      (Schedule.follow workload published count ([], next)).1

-- Frames that are published at other offsets are other frames.
theorem tells_otherwise_of_offsets (opened : List (Order Unit) → Schedule (Session Rat Unit) (SessionJob Rat Unit))
    (history orders : List (Order Unit)) (steps count : Nat)
    (waiting : (Schedule.follow workload published steps ([], opened (history ++ orders))).2.world.log.size ≤ history.length)
    (rests : ((Schedule.follow workload published count ([], opened orders)).2.step workload).isNone)
    (parts : ((Schedule.follow workload published steps ([], opened (history ++ orders))).2.step workload).any fun next =>
      history.length < next.world.log.size ∧ ((Schedule.follow workload published count ([], next)).2.step workload).isNone ∧
        (Schedule.follow workload published count ([], next)).1.map (fun note => note.2.1) ≠
          (Schedule.follow workload published count ([], opened orders)).1.map fun note =>
            note.2.1 + (Schedule.follow workload published steps ([], opened (history ++ orders))).2.world.now) :
    TellsOtherwise opened history orders := by
  obtain ⟨next, stepped, parts⟩ := (Option.any_eq_true _ _).mp parts
  obtain ⟨answered, ended, other⟩ := of_decide_eq_true parts
  refine ⟨steps, _, next, count, rfl, stepped, waiting, answered, Option.isNone_iff_eq_none.mp rests,
    Option.isNone_iff_eq_none.mp ended, fun same => other ?_⟩
  have offsets := congrArg (List.map fun note => note.2.1) same
  rw [List.map_map, List.map_map] at offsets
  exact offsets

-- A delay that ends shortly before the last instant that has a name, in a session that hardly ever samples.
def patient (orders : List (Order Unit)) : Schedule (Session Rat Unit) (SessionJob Rat Unit) :=
  opening gripperCell.machine gripperCell.driver
    ⟨[("wait", fun _ => .ok (Flow.action systemName .delay [Flow.number ((2 ^ 63 - 2 ^ 32) * 1000)]))]⟩
    ⟨⟨10000000000000, 0⟩, defaultWait, .ofMillis 10, 0⟩ .standard .propagating orders

-- A handler of the host's own that waits as long as the clock has gone.
def punctual (orders : List (Order Unit)) : Schedule (Session Rat Unit) (SessionJob Rat Unit) :=
  opening gripperCell.machine gripperCell.driver ⟨[("wait", fun _ => .ok Flow.noOp)]⟩
    ⟨.default, defaultWait, .ofMillis 10, 0⟩
    ⟨[(⟨.noOp, none⟩, fun _ => Act.change fun cell => cell.awaitDelay (.ofMillis cell.now))]⟩ .propagating orders

def waitOrder : Order Unit := .start "wait" fun _ => ()

-- After a history of 158 years the delay is over in thirty, and who looks at the clock sees how long the history was.
theorem start_after_long_history_tells_otherwise :
    TellsOtherwise patient [waitOrder, .stop fun _ => (), .sleep 5000000000000 ()]
        [waitOrder, .sleep 977616000000 (), .stop fun _ => ()] ∧
      TellsOtherwise punctual [waitOrder, .sleep 1 ()] [waitOrder] := by
  constructor
  · exact tells_otherwise_of_offsets patient _ _ 6 15 (by decide +kernel) (by decide +kernel) (by decide +kernel)
  · exact tells_otherwise_of_offsets punctual _ _ 5 20 (by decide +kernel) (by decide +kernel) (by decide +kernel)

end Session

end Workcell
