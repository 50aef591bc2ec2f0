import Workcell.Proofs.Drift.Orders
import Workcell.Proofs.Schedule.Abreast

/-!
A session adrift on the scheduler: motors of the runs before, whose devices have been stopped, are old jobs that have nothing
left to do, and the other jobs move as they do in the session itself.
-/

set_option autoImplicit false

namespace Workcell

variable {R A : Type} {drift : Drift} {ok : Call R → Prop} {ago : Nat} (start : Nat) (begins : 0 < start)

-- A device that has been given something else to do since, if it is there at all.
def Drive.Stale (cell : Cell R) : Drive R → Prop
  | .axis handle motion => ∀ axis, cell.axes.get? handle = some axis → axis.generation ≠ motion.generation
  | .actuator handle stroke _ =>
      ∀ actuator, cell.actuators.get? handle = some actuator → actuator.generation ≠ stroke.generation

theorem step_of_stale [Scalar R] (cell : Cell R) (drive : Drive R) (stale : drive.Stale cell) :
    Motor.step cell drive = none := by
  cases drive with
  | axis handle motion =>
      simp only [Motor.step]
      cases found : cell.axes.get? handle with
      | none => rfl
      | some axis =>
          have past : motion.tick? axis = none := if_neg (stale axis found)
          simp [past]
  | actuator handle stroke began =>
      simp only [Motor.step]
      cases found : cell.actuators.get? handle with
      | none => rfl
      | some actuator =>
          have past : stroke.tick? (Duration.ofMillis (cell.now - began)) actuator = none := if_neg (stale actuator found)
          simp [past]

namespace Session

-- A motor of a run before, which will find at its next step that there is nothing left to do.
def Idle (ago : Nat) (there : Session R A) (job : SessionJob R A) : Prop :=
  ∃ run drive timer state, job = .motor run ⟨drive, some timer⟩ ∧ run < ago ∧ there.runs[run]? = some state ∧
    state.cell.outbox = [] ∧ drive.Stale state.cell

-- What is done to the runs from then on is nothing to the motors of the runs before.
theorem Idle.stays {past later more : List (SessionRun R)} {before after : Session R A} {old : SessionJob R A}
    (idle : Idle past.length before old) (runs : before.runs = past ++ later) (runsAfter : after.runs = past ++ more) :
    Idle past.length after old := by
  obtain ⟨run, drive, timer, state, rfl, early, found, silent, stale⟩ := idle
  refine ⟨run, drive, timer, state, rfl, early, ?_, silent, stale⟩
  rw [runs, List.getElem?_append_left early] at found
  rw [runsAfter, List.getElem?_append_left early, found]

variable [Scalar R]

def published (job : SessionJob R A) (session : Session R A) (notes : List (Nat × Nat × Frame R)) :
    List (Nat × Nat × Frame R) :=
  match job with
  | .sampling run _ _ => notes ++ (session.news (poll job session).2.1).map fun frame => (run, session.now, frame)
  | _ => notes

-- The same frames at the same times, from a later time on and of later runs, but for their ticks and dates.
omit [Scalar R] in
def SameFrames (ago ahead : Nat) (notes other : List (Nat × Nat × Frame R)) : Prop :=
  other.map (fun note => (note.1, note.2.1, note.2.2.undated)) =
    notes.map fun note => (note.1 + ago, note.2.1 + ahead, note.2.2.undated)

theorem idle_turn (there : Session R A) (run : Nat) (drive : Drive R) (timer : Timer) (state : SessionRun R)
    (found : there.runs[run]? = some state) (silent : state.cell.outbox = []) (stale : drive.Stale state.cell) :
    poll (.motor run ⟨drive, some timer⟩) there =
      (if timer.due ≤ there.now then none else some (.motor run ⟨drive, some timer⟩), there.take run (there.lend state),
        []) := by
  have turn : Motor.poll ⟨drive, some timer⟩ (there.lend state) =
      (if timer.due ≤ there.now then none else some ⟨drive, some timer⟩, there.lend state) := by
    have ended : Motor.step (there.lend state) drive = none := step_of_stale _ _ (by cases drive <;> exact stale)
    have reaches : (there.lend state).reached timer = decide (timer.due ≤ there.now) := rfl
    by_cases due : timer.due ≤ there.now
    · simp [Motor.poll, reaches, due, ended]
    · simp [Motor.poll, reaches, due]
  have asked : (there.lend state).outbox = [] := silent
  simp only [poll, within_found there run none _ state found, turn, asked, List.map_nil]
  split <;> rfl

omit [Scalar R] in
theorem taken_runs (there : Session R A) (run : Nat) (state : SessionRun R) (found : there.runs[run]? = some state)
    (other : Nat) :
    (there.take run (there.lend state)).runs[other]? =
      if run = other then some { state with cell := { there.lend state with outbox := [] } } else there.runs[other]? := by
  show (there.runs.modify run _)[other]? = _
  rw [List.getElem?_modify]
  by_cases same : run = other
  · subst same
    simp [found]
  · simp [same]

omit [Scalar R] in
theorem taken_idle (there : Session R A) (run : Nat) (state : SessionRun R) (found : there.runs[run]? = some state)
    (old : SessionJob R A) (idle : Idle ago there old) : Idle ago (there.take run (there.lend state)) old := by
  obtain ⟨other, drive, timer, own, rfl, before, foundToo, silent, stale⟩ := idle
  by_cases same : run = other
  · subst same
    obtain rfl : state = own := Option.some.inj (found.symm.trans foundToo)
    refine ⟨run, drive, timer, _, rfl, before, (taken_runs there run state found run).trans (if_pos rfl), rfl, ?_⟩
    cases drive <;> exact stale
  · exact ⟨other, drive, timer, own, rfl, before,
      (taken_runs there run state found other).trans ((if_neg same).trans foundToo), silent, stale⟩

omit [Scalar R] in
theorem modify_past (past later : List (SessionRun R)) (number : Nat) (before : number < past.length)
    (change : SessionRun R → SessionRun R) : (past ++ later).modify number change = past.modify number change ++ later := by
  induction past generalizing number with
  | nil => cases before
  | cons run rest ih =>
      cases number with
      | zero => rfl
      | succ number => exact congrArg (run :: ·) (ih number (Nat.lt_of_succ_lt_succ before))

omit [Scalar R] in
-- What a motor of a run before does to its own cell is nothing to the runs from then on.
theorem taken_past {past : List (SessionRun R)} {here there : Session R A} (adrift : Adrift drift ok past here there)
    (run : Nat) (before : run < past.length) (state : SessionRun R) :
    ∃ others : List (SessionRun R), others.length = past.length ∧
    Adrift drift ok others here (there.take run (there.lend state)) := by
  obtain ⟨later, runs, paired⟩ := adrift.runs
  refine ⟨past.modify run fun own => { own with cell := { there.lend state with outbox := [] } },
    List.length_modify _ _ _, ?_⟩
  refine { adrift with active := ?_, runs := ⟨later, ?_, paired⟩ }
  · rw [List.length_modify]
    exact adrift.active
  · show there.runs.modify _ _ = _
    rw [runs, modify_past past later run before]

section

omit [Scalar R]

mutual
theorem run_leaves_inner (run : Run R) : ∀ leaf ∈ run.leaves, ∀ sent ∈ leaf.signals, sent.isInner = true := by
  cases run with
  | waiting key wait =>
      intro leaf member sent listens
      rw [Run.leaves, List.mem_singleton] at member
      subst member
      rcases List.mem_cons.mp listens with rfl | own
      · rfl
      · cases wait with
        | delay timer => cases own
        | idle axis timer =>
            rw [List.mem_singleton.mp own]
            rfl
        | settled actuator on timer =>
            rw [List.mem_singleton.mp own]
            rfl
        | probe axis threshold deadline timer => cases own
  | attempt step number inside => exact run_leaves_inner inside
  | bound run next select => exact run_leaves_inner run
  | mapped run transform => exact run_leaves_inner run
  | joined key woken branches => exact branches_leaves_inner branches
  | repeated run inner left => exact run_leaves_inner run
  | resting key inner => exact nofun

theorem branch_leaves_inner (branch : Branch R) : ∀ leaf ∈ branch.leaves, ∀ sent ∈ leaf.signals, sent.isInner = true := by
  cases branch with
  | running run => exact run_leaves_inner run
  | fresh step => exact nofun
  | ended value => exact nofun
  | failed fault => exact nofun

theorem branches_leaves_inner (branches : List (Branch R)) :
    ∀ leaf ∈ Run.leavesOf branches, ∀ sent ∈ leaf.signals, sent.isInner = true := by
  cases branches with
  | nil => exact nofun
  | cons branch rest =>
      intro leaf member
      rcases List.mem_append.mp member with first | later
      · exact branch_leaves_inner branch leaf first
      · exact branches_leaves_inner rest leaf later
end

end

omit [Scalar R] in
theorem leaves_adrift (job : SessionJob R A) :
    leaves (job.adrift drift ago) = (leaves job).map ((transfer drift ago start begins).leaf job) := by
  cases job with
  | motor run motor =>
      obtain ⟨way, timer⟩ := motor
      cases timer <;> rfl
  | operator pause script => cases pause <;> rfl
  | drive run task =>
      rw [SessionJob.adrift, leaves, leaves, Task.recast_leaves drift.cast drift.cast_times]
      refine List.map_congr_left fun leaf member => ?_
      have inner : ∀ sent ∈ leaf.signals, sent.isInner = true := by
        cases task with
        | fresh step => cases member
        | running run => exact run_leaves_inner run leaf member
      have same : leaf.signals.map (Signal.adrift ago) = leaf.signals :=
        (List.map_congr_left fun sent listens => sent.inner_adrift ago (inner sent listens)).trans (List.map_id _)
      simp only [Leaf.recast, Transfer.leaf, transfer, same]
      rfl
  | closing run => rfl
  | sampling run sampler timer => rfl

omit [Scalar R] in
theorem listener (job : SessionJob R A) (leaf : Leaf) (member : leaf ∈ leaves job) (sent : Signal)
    (listens : sent ∈ leaf.signals) :
    SessionJob.leafKey drift job = if sent.isInner = true then drift.key else id := by
  cases job with
  | motor run motor =>
      rw [List.mem_singleton.mp member] at listens
      cases listens
  | operator pause script =>
      cases pause with
      | ready => cases member
      | stopping run next =>
          rw [List.mem_singleton.mp member] at listens
          rw [List.mem_singleton.mp listens]
          rfl
      | sleeping timer answer =>
          rw [List.mem_singleton.mp member] at listens
          cases listens
      | idle run answer =>
          rw [List.mem_singleton.mp member] at listens
          rw [List.mem_singleton.mp listens]
          rfl
  | drive run task =>
      cases task with
      | fresh step => cases member
      | running inside =>
          rw [if_pos (run_leaves_inner inside leaf member sent listens)]
          rfl
  | closing run =>
      rw [List.mem_singleton.mp member] at listens
      rw [List.mem_singleton.mp listens]
      rfl
  | sampling run sampler timer =>
      rw [List.mem_singleton.mp member] at listens
      rw [List.mem_singleton.mp listens]
      rfl

theorem published_adrift {past : List (SessionRun R)} {here there : Session R A} (adrift : Adrift drift ok past here there)
    (clock : there.now = here.now + drift.ahead) (early : here.now ≤ drift.limit) (job : SessionJob R A)
    (notes other : List (Nat × Nat × Frame R)) (same : SameFrames past.length drift.ahead notes other) :
    SameFrames past.length drift.ahead (published job here notes)
      (published (job.adrift drift past.length) there other) := by
  cases job with
  | sampling run sampler timer =>
      have news := (sampling_turn_together 1 Nat.one_pos adrift clock early run sampler timer).2
      have paired := congrArg (List.map fun frame : Frame R => (run + past.length, here.now + drift.ahead, frame)) news
      unfold SameFrames at same ⊢
      simp only [published, SessionJob.adrift, List.map_append, same, List.map_map, Function.comp_def, clock] at paired ⊢
      rw [paired]
  | motor run motor => exact same
  | operator pause script => exact same
  | drive run task => exact same
  | closing run => exact same

def AdriftAfter (drift : Drift) (ok : Call R → Prop) (ago : Nat) (here there : Session R A) : Prop :=
  ∃ past : List (SessionRun R), past.length = ago ∧ Adrift drift ok past here there

theorem session_moves : (workload (R := R) (A := A)).Moves published (transfer drift ago start begins) drift.limit
    (AdriftAfter drift ok ago) (SessionJob.Fit drift ok) (Idle ago) (SameFrames ago drift.ahead) where
  now_elapse _ _ := rfl
  elapse_here := by
    rintro here there ⟨past, count, adrift⟩ now
    exact ⟨past, count, { adrift with }⟩
  elapse_there := by
    rintro here there ⟨past, count, adrift⟩ now
    exact ⟨past, count, { adrift with }⟩
  elapse_idle := by
    rintro there job idle now
    exact idle
  touch_fit := by
    intro job fit key
    cases job with
    | drive run task => exact Task.Makes.touch fit key
    | motor run motor => trivial
    | operator pause script => exact fit
    | closing run => trivial
    | sampling run sampler timer => trivial
  touch job key := by
    cases job with
    | drive run task => exact congrArg (SessionJob.drive _) (Task.touch_recast drift.cast drift.cast_apart key task)
    | motor run motor => rfl
    | operator pause script => rfl
    | closing run => rfl
    | sampling run sampler timer => rfl
  touch_leaf job key := by
    cases job with
    | drive run task => exact congrArg (SessionJob.drive _) (Task.touch_recast drift.cast drift.cast_apart key task)
    | motor run motor => rfl
    | operator pause script => rfl
    | closing run => rfl
    | sampling run sampler timer => rfl
  leaf_key job key := by cases job <;> rfl
  leaves := leaves_adrift start begins
  ranks := by
    intro job other leaf further signal member memberToo listens listensToo
    have first : (transfer drift ago start begins).leafKey job = _ := listener job leaf member signal listens
    have second : (transfer drift ago start begins).leafKey other = _ := listener other further memberToo signal listensToo
    rw [first, second]
    split
    · exact drift.key_lt_iff _ _
    · exact Iff.rfl
  poll := by
    rintro here there job ⟨past, rfl, adrift⟩ fit clock early
    have turn := turn_together start begins adrift clock early job fit
    obtain ⟨⟨left, leftFit⟩, related, asked, now, nowThere, begun⟩ := turn
    refine ⟨(poll (job.adrift drift past.length) there).2.1, ?_, ⟨past, rfl, related⟩, ⟨now, nowThere⟩, leftFit,
      begun, ?_, ?_⟩
    · exact Prod.ext left (Prod.ext rfl asked)
    · obtain ⟨later, runs, -⟩ := adrift.runs
      obtain ⟨more, runsAfter, -⟩ := related.runs
      exact fun old idle => idle.stays runs runsAfter
    · exact fun notes other same => published_adrift adrift clock early job notes other same
  rests := by
    rintro there old ⟨run, drive, timer, state, rfl, before, found, silent, stale⟩
    refine ⟨timer, 0, there.take run (there.lend state), rfl, fun _ => rfl,
      idle_turn there run drive timer state found silent stale, rfl, ?_, fun other idle =>
      taken_idle there run state found other idle,
      fun _ => rfl⟩
    rintro here ⟨past, count, adrift⟩
    obtain ⟨others, same, stays⟩ := taken_past adrift run (count ▸ before) state
    exact ⟨others, same.trans count, stays⟩

end Session

end Workcell
