import Workcell.Proofs.Awaiting.Axes
import Workcell.Proofs.Cancellation.Turn
import Workcell.Proofs.Joining.Served

/-!
Axes that are waited for side by side. In a turn of the run every branch that has been woken looks at its axis: it ends when
the axis stands still, and it ends with the axis stopped when the time for waiting is over; otherwise it waits on.
-/

set_option autoImplicit false

namespace Workcell

variable {R : Type} [Scalar R]

structure Homing (R : Type) where
  step : Step R
  handle : Nat
  leg : Leg
  homed : Bool
  axis : Axis R
  key : Nat
  order : Nat
  mover : Option Nat

omit [Scalar R] in
def Homing.run (limit : Nat) (homing : Homing R) : Run R :=
  .attempt homing.step 1 (.waiting homing.key (.idle homing.handle ⟨limit, homing.order⟩))

omit [Scalar R] in
def Run.abreast (outer inner : Step R) (key : Nat) (woken : List Nat) (branches : List (Branch R)) : Run R :=
  .attempt outer 1 (.attempt inner 1 (.joined key woken branches))

omit [Scalar R] in
def Axis.halt (axis : Axis R) : Axis R := if axis.state.moving then axis.stop else axis

namespace Cell

omit [Scalar R]

variable {cell : Cell R} {handle : Nat}

theorem stop_axis_frame (handle : Nat) (cell : Cell R) :
    (cell.stopAxis handle).now = cell.now ∧ (cell.stopAxis handle).cancelled = cell.cancelled ∧
      (cell.stopAxis handle).axes.index = cell.axes.index ∧
      ∀ other, other ≠ handle → (cell.stopAxis handle).axes.get? other = cell.axes.get? other := by
  unfold stopAxis
  split
  · have others : ∀ axis other, other ≠ handle → (cell.axes.set handle axis).get? other = cell.axes.get? other :=
      fun axis other differs => List.getElem?_set_ne (Ne.symm differs)
    unfold putAxis
    split
    · exact ⟨rfl, rfl, rfl, others _⟩
    · exact ⟨rfl, rfl, rfl, others _⟩
  · exact ⟨rfl, rfl, rfl, fun _ _ => rfl⟩

end Cell

namespace Homing

variable {table : HandlerTable R} {limit : Nat}

-- A turn of a branch for each of the ways that its axis and the clock may be.
theorem turn_still (homing : Homing R) (cell : Cell R) (axis : Axis R) (uncut : cell.cancelled = false)
    (there : cell.axes.get? homing.handle = some axis) (still : axis.state.moving = false) :
    (homing.run limit).resume table cell =
      (.done (.number axis.state.position), cell.trace homing.step .completed 1) := by
  refine Run.resume_ended table homing.step 1 homing.key _ cell cell _ uncut ?_
  have rests : cell.moving homing.handle = false := by simpa [Cell.moving, there] using still
  simp [Cell.look, Cell.lookIdle, rests, Cell.position, there]

theorem turn_late (homing : Homing R) (cell : Cell R) (axis : Axis R) (uncut : cell.cancelled = false)
    (there : cell.axes.get? homing.handle = some axis) (moves : axis.state.moving = true) (late : limit ≤ cell.now) :
    (homing.run limit).resume table cell =
      (.done (.number axis.state.position), (cell.stopAxis homing.handle).trace homing.step .completed 1) := by
  refine Run.resume_ended table homing.step 1 homing.key _ cell _ _ uncut ?_
  have going : cell.moving homing.handle = true := by simpa [Cell.moving, there] using moves
  simp [Cell.look, Cell.lookIdle, Cell.reached, going, late, Cell.position, there]

theorem turn_early (homing : Homing R) (cell : Cell R) (axis : Axis R) (uncut : cell.cancelled = false)
    (there : cell.axes.get? homing.handle = some axis) (moves : axis.state.moving = true) (early : cell.now < limit) :
    (homing.run limit).resume table cell = (.pending (homing.run limit), cell) := by
  refine Run.resume_waits table homing.step 1 homing.key _ _ cell cell uncut ?_
  have going : cell.moving homing.handle = true := by simpa [Cell.moving, there] using moves
  simp [Cell.look, Cell.lookIdle, Cell.reached, going, Nat.not_le_of_lt early]

end Homing

structure Homing.Abreast (limit : Nat) (homings : List (Homing R)) (branches : List (Branch R)) (cell : Cell R) : Prop where
  length : branches.length = homings.length
  apart : ∀ (index other : Nat) (homing another : Homing R), homings[index]? = some homing → homings[other]? = some another →
    index ≠ other → homing.handle ≠ another.handle
  each : ∀ (index : Nat) (homing : Homing R), homings[index]? = some homing →
    (∃ value, branches[index]? = some (.ended value)) ∨
      branches[index]? = some (.running (homing.run limit)) ∧ ∃ axis, cell.axes.get? homing.handle = some axis
  uncut : cell.cancelled = false

-- What has become of the branches and of the cell in the course of the turn: a branch is as it was, and so is its
-- axis; or it has ended where its axis was, which moves no more.
structure Homing.Course (limit : Nat) (homings : List (Homing R)) (start : List (Branch R)) (before : Cell R)
    (branches : List (Branch R)) (cell : Cell R) : Prop where
  length : branches.length = start.length
  now : cell.now = before.now
  uncut : cell.cancelled = false
  index : cell.axes.index = before.axes.index
  each : ∀ (index : Nat) (homing : Homing R), homings[index]? = some homing →
    branches[index]? = start[index]? ∧ cell.axes.get? homing.handle = before.axes.get? homing.handle ∨
      start[index]? = some (.running (homing.run limit)) ∧ ∃ axis, before.axes.get? homing.handle = some axis ∧
        (axis.state.moving = false ∨ limit ≤ before.now) ∧ cell.axes.get? homing.handle = some axis.halt ∧
        branches[index]? = some (.ended (.number axis.state.position))
  early : before.now < limit → ∃ traces, cell = { before with traces := traces }

def Homing.Settled (limit : Nat) (homings : List (Homing R)) (start : List (Branch R)) (before : Cell R) (index : Nat)
    (branches : List (Branch R)) : Prop :=
  ∀ (homing : Homing R) (axis : Axis R), homings[index]? = some homing → start[index]? = some (.running (homing.run limit)) →
    before.axes.get? homing.handle = some axis → (axis.state.moving = false ∨ limit ≤ before.now) →
    branches[index]? = some (.ended (.number axis.state.position))

namespace Homing.Abreast

variable {table : HandlerTable R} {limit : Nat} {homings : List (Homing R)} {start : List (Branch R)} {before : Cell R}

omit [Scalar R] in
theorem begins (abreast : Abreast limit homings start before) : Course limit homings start before start before :=
  ⟨rfl, rfl, abreast.uncut, rfl, fun _ _ _ => Or.inl ⟨rfl, rfl⟩, fun _ => ⟨before.traces, rfl⟩⟩

omit [Scalar R] in
theorem homing_of (abreast : Abreast limit homings start before) {index : Nat} (inside : index < start.length) :
    ∃ homing, homings[index]? = some homing :=
  ⟨_, List.getElem?_eq_getElem (abreast.length ▸ inside)⟩

omit [Scalar R] in
theorem open_waits (abreast : Abreast limit homings start before) {branches : List (Branch R)} {cell : Cell R}
    (course : Course limit homings start before branches cell) {index : Nat} {branch : Branch R}
    (present : branches[index]? = some branch) (isOpen : branch.isOpen = true) :
    ∃ homing axis, homings[index]? = some homing ∧ branch = .running (homing.run limit) ∧
      start[index]? = some (.running (homing.run limit)) ∧ before.axes.get? homing.handle = some axis ∧
      cell.axes.get? homing.handle = some axis := by
  obtain ⟨homing, known⟩ := abreast.homing_of (course.length ▸ (List.getElem?_eq_some_iff.mp present).1)
  rcases course.each index homing known with ⟨same, view⟩ | ⟨-, axis, -, -, -, ended⟩
  · rcases abreast.each index homing known with ⟨value, ended⟩ | ⟨running, axis, there⟩
    · cases present.symm.trans (same.trans ended)
      cases isOpen
    · cases present.symm.trans (same.trans running)
      exact ⟨homing, axis, known, rfl, running, there, view.trans there⟩
  · cases present.symm.trans ended
    cases isOpen

omit [Scalar R] in
theorem course_fine (abreast : Abreast limit homings start before) {branches : List (Branch R)} {cell : Cell R}
    (course : Course limit homings start before branches cell) : Branch.Fine branches := by
  intro fault member
  obtain ⟨index, inside, same⟩ := List.getElem_of_mem member
  have present : branches[index]? = some (.failed fault) := List.getElem?_eq_some_iff.mpr ⟨inside, same⟩
  obtain ⟨homing, known⟩ := abreast.homing_of (course.length ▸ inside)
  rcases course.each index homing known with ⟨kept, -⟩ | ⟨-, axis, -, -, -, ended⟩
  · rcases abreast.each index homing known with ⟨value, ended⟩ | ⟨running, -⟩
    · cases present.symm.trans (kept.trans ended)
    · cases present.symm.trans (kept.trans running)
  · cases present.symm.trans ended

omit [Scalar R] in
theorem ends (abreast : Abreast limit homings start before) {branches : List (Branch R)} {cell after : Cell R}
    (course : Course limit homings start before branches cell) {index : Nat} {homing : Homing R} {axis : Axis R}
    (known : homings[index]? = some homing) (running : start[index]? = some (.running (homing.run limit)))
    (there : before.axes.get? homing.handle = some axis) (isOver : axis.state.moving = false ∨ limit ≤ before.now)
    (now : after.now = cell.now) (uncut : after.cancelled = cell.cancelled) (same : after.axes.index = cell.axes.index)
    (stands : after.axes.get? homing.handle = some axis.halt)
    (others : ∀ other, other ≠ homing.handle → after.axes.get? other = cell.axes.get? other)
    (early : before.now < limit → ∃ traces, after = { cell with traces := traces }) :
    let later := branches.set index (.ended (.number axis.state.position))
    Course limit homings start before later after ∧ Settled limit homings start before index later ∧
      ∀ other, Settled limit homings start before other branches → Settled limit homings start before other later := by
  intro later
  have inside : index < branches.length := by
    rw [course.length, abreast.length]
    exact (List.getElem?_eq_some_iff.mp known).1
  have own : later[index]? = some (.ended (.number axis.state.position)) := List.getElem?_set_self inside
  have settled : Settled limit homings start before index later := by
    intro another seen isAnother _ isThere _
    cases known.symm.trans isAnother
    cases there.symm.trans isThere
    exact own
  refine ⟨⟨(List.length_set ..).trans course.length, now.trans course.now, uncut.trans course.uncut, same.trans course.index,
    fun other another isAnother => ?_, fun soon => ?_⟩, settled, fun other isSettled => ?_⟩
  · by_cases here : index = other
    · subst here
      cases known.symm.trans isAnother
      exact Or.inr ⟨running, axis, there, isOver, stands, own⟩
    · have kept : later[other]? = branches[other]? := List.getElem?_set_ne here
      have view := others another.handle (abreast.apart other index another homing isAnother known (Ne.symm here))
      rw [kept, view]
      exact course.each other another isAnother
  · obtain ⟨traces, rfl⟩ := course.early soon
    obtain ⟨traces, rfl⟩ := early soon
    exact ⟨traces, rfl⟩
  · by_cases here : index = other
    · exact here ▸ settled
    · intro another seen isAnother isRunning isThere isDone
      have kept : later[other]? = branches[other]? := List.getElem?_set_ne here
      rw [kept]
      exact isSettled another seen isAnother isRunning isThere isDone

theorem tame (abreast : Abreast limit homings start before) :
    Poll.Tame (Run.resumeAll table start) (Course limit homings start before) (Settled limit homings start before) where
  polled branches cell course := by
    rw [resume_all_eq_map, List.length_map]
    exact course.length
  fine _ _ course := abreast.course_fine course
  turn branches cell index branch poll course present isOpen polled := by
    obtain ⟨homing, axis, known, rfl, running, there, view⟩ := abreast.open_waits course present isOpen
    have isPoll : poll = (homing.run limit).resume table := by
      rw [resume_all_eq_map, List.getElem?_map, running] at polled
      exact (Option.some.inj polled).symm
    rw [isPoll]
    cases moving : axis.state.moving with
    | false =>
        have halted : axis.halt = axis := by rw [Axis.halt, moving, if_neg Bool.false_ne_true]
        have stands : (cell.trace homing.step .completed 1).axes.get? homing.handle = some axis.halt := halted.symm ▸ view
        have now : (cell.trace homing.step .completed 1).now = cell.now := rfl
        obtain ⟨onward, settled, keeps⟩ := abreast.ends course known running there (Or.inl moving) now rfl rfl stands
          (fun _ _ => rfl) fun _ => ⟨_, rfl⟩
        exact ⟨_, _, _, homing.turn_still cell axis course.uncut view moving, .ended _, onward, settled, keeps⟩
    | true =>
        by_cases late : limit ≤ before.now
        · have halted : axis.halt = axis.stop := by rw [Axis.halt, moving, if_pos rfl]
          obtain ⟨now, uncut, same, others⟩ := cell.stop_axis_frame homing.handle
          have isNow : ((cell.stopAxis homing.handle).trace homing.step .completed 1).now = cell.now := now
          have stands : (cell.stopAxis homing.handle).axes.get? homing.handle = some axis.halt :=
            halted ▸ Cell.stopped_axis axis view
          obtain ⟨onward, settled, keeps⟩ :=
            abreast.ends course known running there (Or.inr late) isNow uncut same stands others
            fun early => absurd late (Nat.not_le_of_lt early)
          exact ⟨_, _, _, homing.turn_late cell axis course.uncut view moving (course.now ▸ late), .ended _, onward, settled,
            keeps⟩
        · have early := Nat.lt_of_not_le late
          have unchanged : branches.set index (.running (homing.run limit)) = branches := by
            obtain ⟨inside, same⟩ := List.getElem?_eq_some_iff.mp present
            rw [← same]
            exact List.set_getElem_self inside
          refine ⟨_, _, _, homing.turn_early cell axis course.uncut view moving (course.now ▸ early), .waits _, ?_⟩
          rw [unchanged]
          refine ⟨course, fun another seen isAnother _ isThere isDone => ?_, fun _ => id⟩
          cases known.symm.trans isAnother
          cases there.symm.trans isThere
          rcases isDone with still | past
          · rw [moving] at still
            cases still
          · exact absurd past late
  shut branches cell index course closed := by
    intro homing axis known running there isDone
    rcases course.each index homing known with ⟨same, -⟩ | ⟨-, seen, isThere, -, -, ended⟩
    · have open_ := closed _ (same.trans running)
      cases open_
    · cases there.symm.trans isThere
      exact ended

end Homing.Abreast

namespace Run

variable {outer inner : Step R} {key : Nat} {least : List Nat} {branches : List (Branch R)} {run : Run R} {limit : Nat}

def Awake (outer inner : Step R) (key : Nat) (least : List Nat) (branches : List (Branch R)) (run : Run R) : Prop :=
  ∃ woken, least ⊆ woken ∧ run = abreast outer inner key woken branches

omit [Scalar R] in
theorem leaf_of_branch {index : Nat} {branch : Branch R} (present : branches[index]? = some branch) {leaf : Leaf}
    (member : leaf ∈ branch.leaves) : leaf ∈ leavesOf branches := by
  induction branches generalizing index with
  | nil => cases present
  | cons first rest ih =>
      rw [leavesOf, List.mem_append]
      cases index with
      | zero =>
          cases present
          exact Or.inl member
      | succ index => exact Or.inr (ih present)

omit [Scalar R] in
theorem branch_of_leaf {leaf : Leaf} (member : leaf ∈ leavesOf branches) :
    ∃ (index : Nat) (branch : Branch R), branches[index]? = some branch ∧ leaf ∈ branch.leaves := by
  induction branches with
  | nil => cases member
  | cons branch rest ih =>
      rw [leavesOf, List.mem_append] at member
      rcases member with own | later
      · exact ⟨0, branch, rfl, own⟩
      · obtain ⟨index, found, present, inside⟩ := ih later
        exact ⟨index + 1, found, present, inside⟩

omit [Scalar R] in
theorem Awake.leaf (awake : run.Awake outer inner key least branches) {index : Nat} {homing : Homing R}
    (present : branches[index]? = some (.running (homing.run limit))) :
    (⟨homing.key, some ⟨limit, homing.order⟩, [.cancelled, .axis homing.handle]⟩ : Leaf) ∈ run.leaves := by
  obtain ⟨woken, -, rfl⟩ := awake
  exact leaf_of_branch present (List.mem_singleton.mpr rfl)

omit [Scalar R] in
theorem no_holders (key start : Nat) (none : ∀ branch ∈ branches, branch.holds key = false) :
    holders key start branches = [] := by
  induction branches generalizing start with
  | nil => rfl
  | cons branch rest ih =>
      rw [holders, none branch List.mem_cons_self, if_neg Bool.false_ne_true]
      exact ih (start + 1) fun other member => none other (List.mem_cons_of_mem _ member)

omit [Scalar R] in
theorem touch_all_firm (firm : ∀ branch ∈ branches, ∀ key, branch.touch key = branch) (key : Nat) :
    touchAll key branches = branches := by
  induction branches with
  | nil => rfl
  | cons branch rest ih =>
      rw [touchAll, firm branch List.mem_cons_self, ih fun other member => firm other (List.mem_cons_of_mem _ member)]

omit [Scalar R] in
theorem touch_abreast (firm : ∀ branch ∈ branches, ∀ key, branch.touch key = branch) (woken : List Nat) (other : Nat) :
    (abreast outer inner key woken branches).touch other =
      abreast outer inner key (enqueue woken (holders other 0 branches)) branches := by
  simp only [abreast, touch, touch_all_firm firm]

omit [Scalar R] in
theorem Awake.touch (firm : ∀ branch ∈ branches, ∀ key, branch.touch key = branch)
    (awake : run.Awake outer inner key least branches) (other : Nat) :
    (run.touch other).Awake outer inner key least branches := by
  obtain ⟨woken, has, rfl⟩ := awake
  exact ⟨_, fun place member => (mem_enqueue _ _ _).mpr (Or.inl (has member)), touch_abreast firm woken other⟩

omit [Scalar R] in
theorem Awake.told (firm : ∀ branch ∈ branches, ∀ key, branch.touch key = branch)
    (awake : run.Awake outer inner key least branches) {index : Nat} {homing : Homing R}
    (present : branches[index]? = some (.running (homing.run limit))) :
    (run.touch homing.key).Awake outer inner key (index :: least) branches := by
  obtain ⟨woken, has, rfl⟩ := awake
  refine ⟨_, fun place member => (mem_enqueue _ _ _).mpr ?_, touch_abreast firm woken homing.key⟩
  rcases List.mem_cons.mp member with rfl | old
  · have holds : (Branch.running (homing.run limit) : Branch R).holds homing.key = true := by
      simp [Branch.holds, Homing.run, holds]
    have held := mem_holders homing.key 0 branches place _ present holds
    rw [Nat.zero_add] at held
    exact Or.inr held
  · exact Or.inl (has old)

theorem resume_abreast_done (table : HandlerTable R) (woken : List Nat) {cell after : Cell R} {value : Value R}
    (joined : Poll.join key woken branches (resumeAll table branches) cell = (.done value, after)) :
    (abreast outer inner key woken branches).resume table cell =
      (.done value, (after.trace inner .completed 1).trace outer .completed 1) := by
  simp only [abreast, resume, joined]
  rfl

theorem resume_abreast_waits (table : HandlerTable R) (woken left : List Nat) {later : List (Branch R)}
    {cell after : Cell R}
    (joined : Poll.join key woken branches (resumeAll table branches) cell = (.pending (.joined key left later), after)) :
    (abreast outer inner key woken branches).resume table cell = (.pending (abreast outer inner key left later), after) := by
  simp only [abreast, resume, joined]
  rfl

end Run

end Workcell
