import Workcell.Proofs.Upkeep.Law

/-!
Branches side by side: what setting one of them does to the waits, the faults that are due and the values. Rounds of their
turns keep up what the turns of the branches keep up.
-/

set_option autoImplicit false

namespace Workcell

variable {R : Type} {ok : Call R → Prop} {blame : Fault → Prop}

namespace Run

theorem fit_all_iff (branches : List (Branch R)) :
    Run.FitAll ok blame branches ↔ ∀ branch ∈ branches, branch.Fit ok blame := by
  induction branches with
  | nil => simp [Run.FitAll]
  | cons branch rest ih => simp [Run.FitAll, ih]

theorem fit_all_set (branches : List (Branch R)) (index : Nat) (branch : Branch R)
    (fit : Run.FitAll ok blame branches) (fresh : branch.Fit ok blame) :
    Run.FitAll ok blame (branches.set index branch) := by
  rw [fit_all_iff] at fit ⊢
  intro other member
  rcases List.mem_or_eq_of_mem_set member with old | rfl
  · exact fit other old
  · exact fresh

theorem waits_of_split (branches : List (Branch R)) (index : Nat) (branch : Branch R)
    (present : branches[index]? = some branch) :
    ∃ rest, (Run.waitsOf branches).Perm (branch.waits ++ rest) ∧
      ∀ other, (Run.waitsOf (branches.set index other)).Perm (other.waits ++ rest) := by
  induction branches generalizing index with
  | nil => simp at present
  | cons head tail ih =>
      cases index with
      | zero =>
          cases present
          exact ⟨Run.waitsOf tail, .refl _, fun _ => .refl _⟩
      | succ index =>
          obtain ⟨rest, same, replaced⟩ := ih index present
          refine ⟨head.waits ++ rest, ?_, ?_⟩
          · exact (same.append_left head.waits).trans (List.perm_append_comm_assoc _ _ _)
          · intro other
            exact ((replaced other).append_left head.waits).trans (List.perm_append_comm_assoc _ _ _)

theorem waits_of_fresh (steps : List (Step R)) : Run.waitsOf (steps.map Branch.fresh) = [] := by
  induction steps with
  | nil => rfl
  | cons step rest ih => exact ih

end Run

namespace Branch

theorem closed_waits (branch : Branch R) (closed : ¬ branch.isOpen = true) : branch.waits = [] := by
  cases branch with
  | running run => exact absurd rfl closed
  | fresh step => rfl
  | ended value => rfl
  | failed fault => rfl

theorem waits_of_over (branches : List (Branch R)) (values : List (Value R)) (isOver : values? branches = some values) :
    Run.waitsOf branches = [] := by
  induction branches generalizing values with
  | nil => rfl
  | cons branch rest ih =>
      cases branch with
      | ended value =>
          obtain ⟨later, found, -⟩ := Option.map_eq_some_iff.mp isOver
          exact ih later found
      | fresh step => cases isOver
      | running run => cases isOver
      | failed fault => cases isOver

theorem fresh_is_open (branch : Branch R) (fresh : branch.isFresh = true) : branch.isOpen = true := by
  cases branch with
  | fresh step => rfl
  | running run => rfl
  | ended value => cases fresh
  | failed fault => cases fresh

theorem not_due_without_failed (branches : List (Branch R)) (sound : ∀ branch ∈ branches, branch.isFailed = false) :
    due? branches = none := by
  induction branches with
  | nil => rfl
  | cons branch rest ih =>
      cases branch with
      | ended value => exact ih fun other member => sound other (List.mem_cons_of_mem _ member)
      | failed fault => exact absurd (sound (.failed fault) (by simp)) (by simp [isFailed])
      | fresh step => rfl
      | running run => rfl

theorem due_after_running (branches : List (Branch R)) (index : Nat) (branch : Branch R) (run : Run R)
    (present : branches[index]? = some branch) (isOpen : branch.isOpen = true) :
    due? (branches.set index (.running run)) = due? branches := by
  induction branches generalizing index with
  | nil => simp at present
  | cons head tail ih =>
      cases index with
      | zero =>
          cases present
          cases branch with
          | fresh step => rfl
          | running old => rfl
          | ended value => cases isOpen
          | failed fault => cases isOpen
      | succ index =>
          cases head with
          | ended value => exact ih index present
          | fresh step => rfl
          | running old => rfl
          | failed fault => rfl

theorem due_after_failed (branches : List (Branch R)) (index : Nat) (fault due : Fault)
    (notDue : due? branches = none) (isDue : due? (branches.set index (.failed fault)) = some due) : due = fault := by
  induction branches generalizing index with
  | nil => cases isDue
  | cons head tail ih =>
      cases index with
      | zero =>
          cases isDue
          rfl
      | succ index =>
          cases head with
          | ended value => exact ih index notDue isDue
          | fresh step => cases isDue
          | running old => cases isDue
          | failed earlier => cases notDue

theorem due_fit (branches : List (Branch R)) (due : Fault) (fit : Run.FitAll ok blame branches)
    (isDue : due? branches = some due) : blame due := by
  induction branches with
  | nil => cases isDue
  | cons head tail ih =>
      cases head with
      | ended value => exact ih fit.2 isDue
      | failed fault =>
          cases isDue
          exact fit.1
      | fresh step => cases isDue
      | running run => cases isDue

-- A join that is neither over nor due to fail is held up by a branch that runs.
theorem Unsettled.running {branches : List (Branch R)} (unsettled : Unsettled branches) :
    ∃ run, Branch.running run ∈ branches := by
  obtain ⟨begun, notDue, notOver, -⟩ := unsettled
  induction branches with
  | nil => cases notOver
  | cons head tail ih =>
      cases head with
      | running run => exact ⟨run, by simp⟩
      | fresh step => exact absurd (begun (.fresh step) (by simp)) (by simp [isFresh])
      | failed fault => cases notDue
      | ended value =>
          have isOver : values? tail = none := by simpa [values?] using notOver
          obtain ⟨run, member⟩ := ih (fun other member => begun other (List.mem_cons_of_mem _ member)) notDue isOver
          exact ⟨run, List.mem_cons_of_mem _ member⟩

end Branch

end Workcell

namespace Workcell.Upkeep

variable {R : Type} {ok : Call R → Prop} {blame : Fault → Prop} {holds : List (Wait R) → Cell R → Prop}

def AfterHalt (blame : Fault → Prop) (holds : List (Wait R) → Cell R → Prop) (waits : List (Wait R))
    (halt : Halt) (cell : Cell R) : Prop :=
  holds waits cell ∧ ∀ fault, halt = .failed fault → blame fault

theorem halt_after (waits : List (Wait R)) (halt : Halt) (cell : Cell R)
    (halted : AfterHalt blame holds waits halt cell) : After ok blame holds waits (halt.progress, cell) := by
  cases halt with
  | failed fault => exact ⟨halted.1, halted.2 fault rfl⟩
  | broken message => exact halted.1

def InOrder (ok : Call R → Prop) (blame : Fault → Prop) (holds : List (Wait R) → Cell R → Prop)
    (waits : List (Wait R)) : Except Halt (List (Branch R)) × Cell R → Prop
  | (.ok branches, cell) => holds (Run.waitsOf branches ++ waits) cell ∧ Run.FitAll ok blame branches ∧
      ∀ branch ∈ branches, branch.isFresh = false ∧ branch.isFailed = false
  | (.error halt, cell) => AfterHalt blame holds waits halt cell

-- The branches that have had no turn yet are those that are still to come in the queue; as the last of them
-- gets its turn before as many turns are given as branches were open, none is left out of a round that ends.
structure Sitting (queue : List Nat) (round : Poll.Round R) : Prop where
  notDue : Branch.due? round.branches = none
  nodup : queue.Nodup
  quiet : round.woken = []
  begun : (∀ branch ∈ round.branches, branch.isFresh = false) ∨
    ((∀ index branch, round.branches[index]? = some branch → (branch.isFresh = true ↔ index ∈ queue)) ∧
      round.branches.countP Branch.isFresh + round.given ≤ round.opened)

def InWakingOrder (ok : Call R → Prop) (blame : Fault → Prop) (holds : List (Wait R) → Cell R → Prop)
    (waits : List (Wait R)) (size : Nat) : Except Halt (Poll.Round R) × Cell R → Prop
  | (.ok round, cell) => holds (Run.waitsOf round.branches ++ waits) cell ∧ Run.FitAll ok blame round.branches ∧
      Branch.due? round.branches = none ∧ (∀ branch ∈ round.branches, branch.isFresh = false) ∧ round.woken.Nodup ∧
      round.branches.length = size
  | (.error halt, cell) => AfterHalt blame holds waits halt cell

theorem fresh_le_open (branches : List (Branch R)) :
    branches.countP Branch.isFresh ≤ Branch.openCount branches := by
  rw [Branch.openCount, ← List.countP_eq_length_filter]
  exact List.countP_mono_left fun branch _ fresh => Branch.fresh_is_open branch fresh

theorem begun_after_turn (queue : List Nat) (index : Nat) (branches : List (Branch R)) (branch turned : Branch R)
    (present : branches[index]? = some branch) (began : turned.isFresh = false) (nodup : (index :: queue).Nodup)
    (lined : ∀ place other, branches[place]? = some other → (other.isFresh = true ↔ place ∈ index :: queue)) :
    (∀ place other, (branches.set index turned)[place]? = some other → (other.isFresh = true ↔ place ∈ queue)) ∧
      (branches.set index turned).countP Branch.isFresh + 1 = branches.countP Branch.isFresh := by
  obtain ⟨inside, rfl⟩ := List.getElem?_eq_some_iff.mp present
  have fresh : branches[index].isFresh = true := (lined index _ present).mpr (by simp)
  have counted : 0 < branches.countP Branch.isFresh :=
    List.countP_pos_iff.mpr ⟨branches[index], List.getElem_mem inside, fresh⟩
  constructor
  · intro place other found
    rw [List.getElem?_set] at found
    by_cases same : index = place
    · subst place
      simp only [if_true, if_pos inside, Option.some.injEq] at found
      subst other
      simpa [began] using (List.nodup_cons.mp nodup).1
    · rw [if_neg same] at found
      rw [lined place other found]
      simp [Ne.symm same]
  · rw [List.countP_set inside]
    simp only [fresh, began, if_true]
    simp
    omega

theorem sitting_skips (queue : List Nat) (index : Nat) (round : Poll.Round R) (sitting : Sitting (index :: queue) round)
    (skipped : ∀ branch, round.branches[index]? = some branch → ¬ branch.isOpen = true) : Sitting queue round := by
  obtain ⟨notDue, nodup, quiet, begun⟩ := sitting
  refine ⟨notDue, (List.nodup_cons.mp nodup).2, quiet, ?_⟩
  rcases begun with begun | ⟨lined, counted⟩
  · exact Or.inl begun
  · refine Or.inr ⟨?_, counted⟩
    intro place branch found
    rw [lined place branch found, List.mem_cons]
    constructor
    · rintro (rfl | member)
      · have fresh := (lined place branch found).mpr (by simp)
        exact absurd (Branch.fresh_is_open branch fresh) (skipped branch found)
      · exact member
    · exact Or.inr

theorem sitting_goes_on (queue : List Nat) (index given opened : Nat) (round : Poll.Round R)
    (branch turned : Branch R) (sitting : Sitting (index :: queue) round) (present : round.branches[index]? = some branch)
    (began : turned.isFresh = false) (notDue : Branch.due? (round.branches.set index turned) = none)
    (counted : (round.branches.set index turned).countP Branch.isFresh + 1 = round.branches.countP Branch.isFresh →
      round.branches.countP Branch.isFresh + round.given ≤ round.opened →
      (round.branches.set index turned).countP Branch.isFresh + given ≤ opened) :
    Sitting queue ⟨round.branches.set index turned, round.woken, given, opened⟩ := by
  obtain ⟨-, nodup, quiet, begun⟩ := sitting
  refine ⟨notDue, (List.nodup_cons.mp nodup).2, quiet, ?_⟩
  rcases begun with begun | ⟨lined, before⟩
  · refine Or.inl ?_
    intro other member
    rcases List.mem_or_eq_of_mem_set member with old | rfl
    · exact begun other old
    · exact began
  · obtain ⟨stillLined, fewer⟩ := begun_after_turn queue index round.branches branch turned present began nodup lined
    exact Or.inr ⟨stillLined, counted fewer before⟩

theorem nobody_left_out (queue : List Nat) (branches : List (Branch R)) (round : Poll.Round R)
    (sitting : Sitting queue ⟨branches, round.woken, round.given + 1, round.opened⟩)
    (last : round.given + 1 = round.opened) : ∀ branch ∈ branches, branch.isFresh = false := by
  rcases sitting.begun with begun | ⟨-, counted⟩
  · exact begun
  · have zero : branches.countP Branch.isFresh = 0 := by
      dsimp only at counted
      omega
    intro branch member
    simpa using List.countP_eq_zero.mp zero branch member

-- Every branch gets at most one turn in a round, so the poll made of it is still the poll of what is left of it.
theorem still_ready (polls : List (Poll R)) (queue : List Nat) (index : Nat) (branches : List (Branch R))
    (turned : Branch R) (absent : index ∉ queue)
    (ready : ∀ place ∈ queue, ∀ branch, branches[place]? = some branch →
      ∃ poll, polls[place]? = some poll ∧ (branch.isOpen = true → Keeps ok blame holds branch.waits poll)) :
    ∀ place ∈ queue, ∀ branch, (branches.set index turned)[place]? = some branch →
      ∃ poll, polls[place]? = some poll ∧ (branch.isOpen = true → Keeps ok blame holds branch.waits poll) := by
  intro place member branch found
  have different : index ≠ place := fun same => absent (same ▸ member)
  rw [List.getElem?_set_ne different] at found
  exact ready place member branch found

variable [Scalar R] {handlers : HandlerTable R}

mutual
theorem abandon_keeps (law : Upkeep handlers ok blame holds) (run : Run R) (waits : List (Wait R)) (cell : Cell R)
    (held : holds (run.waits ++ waits) cell) : holds waits (run.abandon cell) := by
  cases run with
  | waiting key wait => exact law.abandon held
  | attempt step number inside => exact abandon_keeps law inside waits cell held
  | bound run next select => exact abandon_keeps law run waits cell held
  | mapped run transform => exact abandon_keeps law run waits cell held
  | joined key woken branches => exact abandon_all_keeps law branches waits cell held
  | repeated run inner left => exact abandon_keeps law run waits cell held
  | resting key inner => exact held

theorem abandon_branch_keeps (law : Upkeep handlers ok blame holds) (branch : Branch R) (waits : List (Wait R))
    (cell : Cell R) (held : holds (branch.waits ++ waits) cell) : holds waits (branch.abandon cell) := by
  cases branch with
  | running run => exact abandon_keeps law run waits cell held
  | fresh step => exact held
  | ended value => exact held
  | failed fault => exact held

theorem abandon_all_keeps (law : Upkeep handlers ok blame holds) (branches : List (Branch R)) (waits : List (Wait R))
    (cell : Cell R) (held : holds (Run.waitsOf branches ++ waits) cell) :
    holds waits (Run.abandonAll branches cell) := by
  cases branches with
  | nil => exact held
  | cons branch rest =>
      have split : holds (branch.waits ++ (Run.waitsOf rest ++ waits)) cell := by
        simpa only [Run.waitsOf, List.append_assoc] using held
      exact abandon_all_keeps law rest waits _ (abandon_branch_keeps law branch _ cell split)
end

theorem cons_in_order (law : Upkeep handlers ok blame holds) (branch : Branch R) (fit : branch.Fit ok blame)
    (begun : branch.isFresh = false) (sound : branch.isFailed = false) (waits : List (Wait R))
    (rest : Except Halt (List (Branch R)) × Cell R) (after : InOrder ok blame holds (branch.waits ++ waits) rest) :
    InOrder ok blame holds waits (Poll.inOrder.cons branch rest) := by
  rcases rest with ⟨result, cell⟩
  cases result with
  | error halt => exact ⟨abandon_branch_keeps law branch waits cell after.1, after.2⟩
  | ok branches =>
      obtain ⟨held, allFit, all⟩ := after
      refine ⟨?_, ⟨fit, allFit⟩, ?_⟩
      · apply law.perm _ held
        simpa only [Run.waitsOf, List.append_assoc] using List.perm_append_comm_assoc _ _ _
      · intro other member
        rcases List.mem_cons.mp member with rfl | inside
        · exact ⟨begun, sound⟩
        · exact all other inside

theorem in_order_keeps (law : Upkeep handlers ok blame holds) (pairs : List (Branch R × Poll R))
    (keeps : ∀ pair ∈ pairs, pair.1.isOpen = true → Keeps ok blame holds pair.1.waits pair.2)
    (fit : ∀ pair ∈ pairs, pair.1.Fit ok blame) (sound : ∀ pair ∈ pairs, pair.1.isFailed = false)
    (waits : List (Wait R)) (cell : Cell R) (held : holds (Run.waitsOf (pairs.map Prod.fst) ++ waits) cell) :
    InOrder ok blame holds waits (Poll.inOrder pairs cell) := by
  induction pairs generalizing waits cell with
  | nil => exact ⟨held, trivial, by simp⟩
  | cons pair rest ih =>
      obtain ⟨branch, poll⟩ := pair
      have later : ∀ pair ∈ rest, pair ∈ (branch, poll) :: rest := fun pair member => List.mem_cons_of_mem _ member
      have step := ih (fun pair member => keeps pair (later pair member)) (fun pair member => fit pair (later pair member))
        (fun pair member => sound pair (later pair member))
      have split : holds (branch.waits ++ (Run.waitsOf (rest.map Prod.fst) ++ waits)) cell := by
        simpa only [List.map_cons, Run.waitsOf, List.append_assoc] using held
      by_cases isOpen : branch.isOpen = true
      · have turn : After ok blame holds _ (poll cell) := keeps (branch, poll) (by simp) isOpen _ cell split
        simp only [Poll.inOrder, if_pos isOpen]
        rcases result : poll cell with ⟨progress, after⟩
        rw [result] at turn
        cases progress with
        | done value => exact cons_in_order law (.ended value) trivial rfl rfl waits _ (step waits after turn)
        | fault fault =>
            refine ⟨abandon_all_keeps law _ waits after turn.1, ?_⟩
            intro other same
            cases same
            exact turn.2
        | panicked message => exact ⟨abandon_all_keeps law _ waits after turn, fun _ same => nomatch same⟩
        | pending run =>
            refine cons_in_order law (.running run) turn.2 rfl rfl waits _ (step _ after ?_)
            exact law.perm (List.perm_append_comm_assoc _ _ _) turn.1
      · have begun : branch.isFresh = false := by
          cases fresh : branch.isFresh with
          | false => rfl
          | true => exact absurd (Branch.fresh_is_open branch fresh) isOpen
        have none : branch.waits = [] := Branch.closed_waits branch isOpen
        simp only [Poll.inOrder, if_neg isOpen]
        refine cons_in_order law branch (fit (branch, poll) (by simp)) begun (sound (branch, poll) (by simp)) waits _ ?_
        rw [none] at split ⊢
        exact step waits cell split

theorem settle_round (law : Upkeep handlers ok blame holds) (branches : List (Branch R)) (woken : List Nat)
    (waits : List (Wait R)) (cell : Cell R) (size : Nat) (go : Poll.Round R → Cell R → Except Halt (Poll.Round R) × Cell R)
    (fit : Run.FitAll ok blame branches) (held : holds (Run.waitsOf branches ++ waits) cell)
    (further : Branch.due? branches = none →
      InWakingOrder ok blame holds waits size (go ⟨branches, woken, 0, Branch.openCount branches⟩ cell)) :
    InWakingOrder ok blame holds waits size (Poll.inWakingOrder.settle branches woken cell go) := by
  unfold Poll.inWakingOrder.settle
  cases due : Branch.due? branches with
  | none => exact further due
  | some fault =>
      refine ⟨abandon_all_keeps law branches waits cell held, ?_⟩
      intro other same
      cases same
      exact Branch.due_fit branches fault fit due

theorem in_waking_order_keeps (law : Upkeep handlers ok blame holds) (key : Nat) (polls : List (Poll R))
    (queue : List Nat) (round : Poll.Round R) (sitting : Sitting queue round)
    (ready : ∀ index ∈ queue, ∀ branch, round.branches[index]? = some branch →
      ∃ poll, polls[index]? = some poll ∧ (branch.isOpen = true → Keeps ok blame holds branch.waits poll))
    (fit : Run.FitAll ok blame round.branches) (waits : List (Wait R)) (cell : Cell R)
    (held : holds (Run.waitsOf round.branches ++ waits) cell) :
    InWakingOrder ok blame holds waits round.branches.length (Poll.inWakingOrder key polls queue round cell) := by
  induction queue generalizing round cell with
  | nil =>
      refine ⟨held, fit, sitting.notDue, ?_, by simp [sitting.quiet], rfl⟩
      rcases sitting.begun with begun | ⟨lined, -⟩
      · exact begun
      · intro branch member
        obtain ⟨index, found⟩ := List.getElem?_of_mem member
        have idle := lined index branch found
        simpa using idle
  | cons index queue ih =>
      have absent := (List.nodup_cons.mp sitting.nodup).1
      have others := fun place (member : place ∈ queue) => ready place (List.mem_cons_of_mem _ member)
      rw [Poll.inWakingOrder]
      cases present : round.branches[index]? with
      | none =>
          exact ih round (sitting_skips queue index round sitting (by simp [present])) others fit cell held
      | some branch =>
          obtain ⟨poll, polled, keeps⟩ := ready index (by simp) branch present
          simp only [polled]
          by_cases isOpen : branch.isOpen = true
          · rw [if_pos isOpen]
            obtain ⟨rest, same, replaced⟩ := Run.waits_of_split round.branches index branch present
            have turn : After ok blame holds (rest ++ waits) (poll cell) := by
              apply keeps isOpen
              rw [← List.append_assoc]
              exact law.perm (same.append_right waits) held
            have put : ∀ turned after, holds (turned.waits ++ (rest ++ waits)) after →
                holds (Run.waitsOf (round.branches.set index turned) ++ waits) after := by
              intro turned after heldAfter
              rw [← List.append_assoc] at heldAfter
              exact law.perm ((replaced turned).symm.append_right waits) heldAfter
            -- A branch that has ended, well or not, leaves the round to the fault that is due, or to go on afresh.
            have ended : ∀ turned after, turned.isFresh = false → turned.Fit ok blame →
                holds (turned.waits ++ (rest ++ waits)) after →
                InWakingOrder ok blame holds waits round.branches.length
                  (Poll.inWakingOrder.settle (round.branches.set index turned) round.woken after
                    (fun round cell => Poll.inWakingOrder key polls queue round cell)) := by
              intro turned after began turnedFit heldAfter
              have nextFit := Run.fit_all_set round.branches index turned fit turnedFit
              have nextHeld := put turned after heldAfter
              refine settle_round law _ _ waits after _ _ nextFit nextHeld ?_
              intro notDue
              have next := ih _ (sitting_goes_on queue index 0 _ round branch turned sitting present began notDue
                (fun _ _ => fresh_le_open _)) (still_ready polls queue index _ turned absent others) nextFit after nextHeld
              simpa only [List.length_set] using next
            rcases result : poll cell with ⟨progress, after⟩
            rw [result] at turn
            cases progress with
            | panicked message =>
                have nextHeld := put (.failed .cancelled) after turn
                exact ⟨abandon_all_keeps law _ waits after nextHeld, fun _ same => nomatch same⟩
            | done value => exact ended (.ended value) after rfl trivial turn
            | fault fault => exact ended (.failed fault) after rfl turn.2 turn.1
            | pending run =>
                have nextFit := Run.fit_all_set round.branches index (.running run) fit turn.2
                have nextHeld := put (.running run) after turn.1
                have notDue : Branch.due? (round.branches.set index (.running run)) = none :=
                  (Branch.due_after_running round.branches index branch run present isOpen).trans sitting.notDue
                have seated := sitting_goes_on queue index (round.given + 1) round.opened round branch (.running run)
                  sitting present rfl notDue (fun fewer before => by omega)
                by_cases last : round.given + 1 = round.opened
                · simp only [if_pos last]
                  exact ⟨law.again nextHeld key, nextFit, notDue, nobody_left_out queue _ round seated last,
                    (List.nodup_cons.mp sitting.nodup).2, by simp⟩
                · simp only [if_neg last]
                  have next := ih _ seated (still_ready polls queue index _ _ absent others) nextFit after nextHeld
                  simpa only [List.length_set] using next
          · rw [if_neg isOpen]
            refine ih round (sitting_skips queue index round sitting ?_) others fit cell held
            intro other found
            cases present.symm.trans found
            exact isOpen

end Workcell.Upkeep
