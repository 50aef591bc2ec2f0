import Mathlib.Data.List.Perm.Subperm
import Workcell.Proofs.Cancellation.Unwinding
import Workcell.Run.Task

/-!
Turns in a cancelled cell come down whatever the handlers are: two polls that differ in their handlers alone do the
same. The fault of the cancelled run passes every attempt, sequence and loop above it, and among branches it is the
first fault to count, since no branch ends well any more.
-/

set_option autoImplicit false

namespace Workcell

variable {R : Type} {ok : Call R → Prop} {blame : Fault → Prop}

-- What a turn in a cancelled cell comes to, where the places `asleep` get no turn.
inductive Unwound (asleep : List Nat) (cell : Cell R) : Progress R × Cell R → Prop where
  | down {after} (unwinding : Cell.Unwinding cell after) : Unwound asleep cell (.fault .cancelled, after)
  | later {after} (rest : Run R) (unwinding : Cell.Unwinding cell after) (left : rest.places ⊆ asleep) :
      Unwound asleep cell (.pending rest, after)

def Poll.Unwinds (asleep : List Nat) (poll other : Poll R) : Prop :=
  ∀ cell, cell.cancelled = true → poll cell = other cell ∧ Unwound asleep cell (poll cell)

namespace Poll.Unwinds

theorem bind (asleep : List Nat) (poll other : Poll R) (hold : Run R → Run R) (next then_ : Value R → Poll R)
    (unwinds : Unwinds asleep poll other) (samePlaces : ∀ run, (hold run).places = run.places) :
    Unwinds asleep (poll.bind hold next) (other.bind hold then_) := by
  intro cell cut
  obtain ⟨same, unwound⟩ := unwinds cell cut
  unfold Poll.bind
  rw [← same]
  generalize poll cell = turn at unwound ⊢
  cases unwound with
  | down unwinding => exact ⟨rfl, .down unwinding⟩
  | later rest unwinding left => exact ⟨rfl, .later _ unwinding (samePlaces rest ▸ left)⟩

theorem look [Scalar R] (key : Nat) (wait : Wait R) (asleep : List Nat) :
    Unwinds asleep (Poll.look key wait) (Poll.look key wait) := by
  intro cell cut
  refine ⟨rfl, ?_⟩
  rw [Poll.look, if_pos cut]
  exact .down (Cell.Unwinding.same.abandon wait)

-- A cancelled attempt is traced as failed; neither the next one nor the host comes after it.
theorem reattempted (step : Step R) (asleep : List Nat) (poll other body otherBody : Poll R) (number : Nat)
    (unwinds : Unwinds asleep poll other) :
    Unwinds asleep
      (fun cell => let (progress, cell) := poll cell; step.reattempted body number progress cell)
      (fun cell => let (progress, cell) := other cell; step.reattempted otherBody number progress cell) := by
  intro cell cut
  obtain ⟨same, unwound⟩ := unwinds cell cut
  dsimp only
  rw [← same]
  generalize poll cell = turn at unwound ⊢
  cases unwound with
  | down unwinding => exact ⟨rfl, .down (unwinding.failed step number)⟩
  | later rest unwinding left => exact ⟨rfl, .later _ unwinding left⟩

theorem endless (inner : Step R) (body other : Poll R) (asleep : List Nat) :
    Unwinds asleep (Poll.endless body inner) (Poll.endless other inner) := by
  intro cell cut
  have isOver : ∀ work : Poll R, Poll.endless work inner cell = (.fault .cancelled, cell) := fun _ => if_pos cut
  rw [isOver body, isOver other]
  exact ⟨rfl, .down .same⟩

end Poll.Unwinds

namespace Branch

def hasEnded : Branch R → Bool
  | .ended _ => true
  | _ => false

structure Left (awake : Bool) (before after : Branch R) : Prop where
  unended : before.hasEnded = false → after.hasEnded = false
  places : after.places ⊆ if awake then before.asleep else before.places

def AllLeft (awake : Nat → Bool) (before after : List (Branch R)) : Prop :=
  ∀ (index : Nat) (branch : Branch R), after[index]? = some branch →
    ∃ old, before[index]? = some old ∧ Left (awake index) old branch

theorem closed_places (branch : Branch R) (closed : ¬ branch.isOpen = true) : branch.places = [] := by
  cases branch with
  | running run => exact absurd rfl closed
  | fresh step => rfl
  | ended value => rfl
  | failed fault => rfl

theorem closed_left (branch : Branch R) (closed : ¬ branch.isOpen = true) (awake : Bool) : Left awake branch branch :=
  ⟨id, by rw [closed_places branch closed]; exact List.nil_subset _⟩

theorem not_over_of_unended (branches : List (Branch R)) (branch : Branch R) (member : branch ∈ branches)
    (unended : branch.hasEnded = false) : values? branches = none := by
  induction branches with
  | nil => cases member
  | cons head rest ih =>
      cases head with
      | ended value =>
          rcases List.mem_cons.mp member with rfl | later
          · cases unended
          · exact congrArg (Option.map fun values => value :: values) (ih later)
      | fresh step => rfl
      | running run => rfl
      | failed fault => rfl

end Branch

variable {turn other : Branch R → Poll R}

inductive UnwoundInOrder (branches : List (Branch R)) (cell : Cell R) :
    Except Halt (List (Branch R)) × Cell R → Prop where
  | down {after} (unwinding : Cell.Unwinding cell after) :
      UnwoundInOrder branches cell (.error (.failed .cancelled), after)
  | later {after} (left : List (Branch R)) (unwinding : Cell.Unwinding cell after)
      (size : left.length = branches.length) (each : Branch.AllLeft (fun _ => true) branches left) :
      UnwoundInOrder branches cell (.ok left, after)

theorem cons_unwound (branch kept : Branch R) (branches : List (Branch R)) (cell between : Cell R)
    (first : Cell.Unwinding cell between) (left : Branch.Left true branch kept)
    (result : Except Halt (List (Branch R)) × Cell R) (unwound : UnwoundInOrder branches between result) :
    UnwoundInOrder (branch :: branches) cell (Poll.inOrder.cons kept result) := by
  cases unwound with
  | down unwinding => exact .down ((first.trans unwinding).abandon_branch kept)
  | later rest unwinding size each =>
      refine .later (kept :: rest) (first.trans unwinding) (congrArg Nat.succ size) ?_
      intro index present found
      cases index with
      | zero =>
          cases found
          exact ⟨branch, rfl, left⟩
      | succ index => exact each index present found

theorem in_order_unwinds (branches : List (Branch R))
    (unwinds : ∀ branch ∈ branches, branch.isOpen = true → (turn branch).Unwinds branch.asleep (other branch))
    (cell : Cell R) (cut : cell.cancelled = true) :
    Poll.inOrder (branches.zip (branches.map turn)) cell = Poll.inOrder (branches.zip (branches.map other)) cell ∧
      UnwoundInOrder branches cell (Poll.inOrder (branches.zip (branches.map turn)) cell) := by
  induction branches generalizing cell with
  | nil =>
      refine ⟨rfl, .later [] .same rfl ?_⟩
      intro index branch found
      cases found
  | cons branch rest ih =>
      have later := ih fun other member => unwinds other (List.mem_cons_of_mem _ member)
      simp only [List.map_cons, List.zip_cons_cons, Poll.inOrder]
      by_cases isOpen : branch.isOpen = true
      · rw [if_pos isOpen, if_pos isOpen]
        obtain ⟨same, unwound⟩ := unwinds branch (by simp) isOpen cell cut
        rw [← same]
        generalize turn branch cell = result at unwound ⊢
        cases unwound with
        | down unwinding =>
            have rests : ∀ polls : Branch R → Poll R, (rest.zip (rest.map polls)).map Prod.fst = rest := fun polls =>
              List.map_fst_zip (by simp)
            dsimp only
            rw [rests turn, rests other]
            exact ⟨rfl, .down (unwinding.abandon_all rest)⟩
        | later run unwinding left =>
            obtain ⟨sameRest, unwoundRest⟩ := later _ (unwinding.cancelled.trans cut)
            dsimp only
            rw [← sameRest]
            exact ⟨rfl, cons_unwound branch (.running run) rest cell _ unwinding ⟨fun _ => rfl, left⟩ _ unwoundRest⟩
      · rw [if_neg isOpen, if_neg isOpen]
        obtain ⟨sameRest, unwoundRest⟩ := later cell cut
        rw [← sameRest]
        exact ⟨rfl, cons_unwound branch branch rest cell cell .same (Branch.closed_left branch isOpen true) _ unwoundRest⟩

def openAt (branches : List (Branch R)) (index : Nat) : Bool := (branches[index]?).any Branch.isOpen

theorem open_indices (branches : List (Branch R)) :
    ((List.range branches.length).filter (openAt branches)).length = Branch.openCount branches := by
  induction branches with
  | nil => rfl
  | cons branch rest ih =>
      have shifted : openAt (branch :: rest) ∘ Nat.succ = openAt rest := rfl
      rw [List.length_cons, List.range_succ_eq_map, List.filter_cons, List.filter_map, shifted]
      by_cases isOpen : branch.isOpen = true
      · simpa [openAt, Branch.openCount, isOpen] using ih
      · simpa [openAt, Branch.openCount, isOpen] using ih

theorem queued_le_open (queue : List Nat) (branches : List (Branch R)) (nodup : queue.Nodup) :
    (queue.filter (openAt branches)).length ≤ Branch.openCount branches := by
  rw [← open_indices branches]
  apply List.Subperm.length_le
  apply List.subperm_of_subset (nodup.filter _)
  intro index member
  obtain ⟨queued, isOpen⟩ := List.mem_filter.mp member
  have inside : index < branches.length := by
    by_contra outside
    simp [openAt, List.getElem?_eq_none (Nat.le_of_not_lt outside)] at isOpen
  exact List.mem_filter.mpr ⟨List.mem_range.mpr inside, isOpen⟩

-- The queue still has no more open branches than turns may be given, so a round that stops for having given as many
-- turns as branches are open leaves no open branch of its queue without one.
structure Queued (original : List (Branch R)) (woken queue : List Nat) (round : Poll.Round R) : Prop where
  notDue : Branch.due? round.branches = none
  nodup : queue.Nodup
  quiet : round.woken = []
  size : round.branches.length = original.length
  untouched : ∀ index ∈ queue, round.branches[index]? = original[index]?
  bounded : (queue.filter (openAt round.branches)).length + round.given ≤ round.opened
  left : ∀ (index : Nat) (branch : Branch R), index ∉ queue → round.branches[index]? = some branch →
    ∃ old, original[index]? = some old ∧ Branch.Left (woken.contains index) old branch

inductive UnwoundInWakingOrder (original : List (Branch R)) (woken : List Nat) (cell : Cell R) :
    Except Halt (Poll.Round R) × Cell R → Prop where
  | down {after} (unwinding : Cell.Unwinding cell after) :
      UnwoundInWakingOrder original woken cell (.error (.failed .cancelled), after)
  | later {after} (round : Poll.Round R) (unwinding : Cell.Unwinding cell after)
      (size : round.branches.length = original.length)
      (each : Branch.AllLeft (fun index => woken.contains index) original round.branches) :
      UnwoundInWakingOrder original woken cell (.ok round, after)

theorem filter_open_set (queue : List Nat) (branches : List (Branch R)) (index : Nat) (branch : Branch R)
    (absent : index ∉ queue) :
    queue.filter (openAt (branches.set index branch)) = queue.filter (openAt branches) := by
  apply List.filter_congr
  intro place member
  have different : index ≠ place := fun same => absent (same ▸ member)
  simp [openAt, List.getElem?_set_ne different]

theorem queued_skips (original : List (Branch R)) (woken queue : List Nat) (index : Nat) (round : Poll.Round R)
    (queued : Queued original woken (index :: queue) round)
    (skipped : ∀ branch, round.branches[index]? = some branch → ¬ branch.isOpen = true) :
    Queued original woken queue round := by
  refine ⟨queued.notDue, (List.nodup_cons.mp queued.nodup).2, queued.quiet, queued.size,
    fun place member => queued.untouched place (List.mem_cons_of_mem _ member), ?_, ?_⟩
  · have fewer := ((List.sublist_cons_self index queue).filter (openAt round.branches)).length_le
    have bounded := queued.bounded
    omega
  · intro place branch absent found
    by_cases same : place = index
    · subst place
      refine ⟨branch, (queued.untouched index (by simp)).symm.trans found, ?_⟩
      exact Branch.closed_left branch (skipped branch found) _
    · exact queued.left place branch (by simp [same, absent]) found

theorem queued_goes_on (original : List (Branch R)) (woken queue : List Nat) (index given opened : Nat)
    (round : Poll.Round R) (branch kept : Branch R) (queued : Queued original woken (index :: queue) round)
    (awake : woken.contains index = true) (present : round.branches[index]? = some branch)
    (left : Branch.Left true branch kept) (notDue : Branch.due? (round.branches.set index kept) = none)
    (bounded : (queue.filter (openAt (round.branches.set index kept))).length + given ≤ opened) :
    Queued original woken queue ⟨round.branches.set index kept, round.woken, given, opened⟩ := by
  have absent := (List.nodup_cons.mp queued.nodup).1
  refine ⟨notDue, (List.nodup_cons.mp queued.nodup).2, queued.quiet, ?_, ?_, bounded, ?_⟩
  · rw [List.length_set]
    exact queued.size
  · intro place member
    have different : index ≠ place := fun same => absent (same ▸ member)
    rw [List.getElem?_set_ne different]
    exact queued.untouched place (List.mem_cons_of_mem _ member)
  · intro place other gone found
    rw [List.getElem?_set] at found
    by_cases same : index = place
    · subst place
      have inside := (List.getElem?_eq_some_iff.mp present).1
      simp only [if_true, if_pos inside, Option.some.injEq] at found
      subst other
      rw [awake]
      exact ⟨branch, (queued.untouched index (by simp)).symm.trans present, left⟩
    · rw [if_neg same] at found
      exact queued.left place other (by simp [Ne.symm same, gone]) found

theorem all_left_of_queued (original : List (Branch R)) (woken queue : List Nat) (round : Poll.Round R)
    (queued : Queued original woken queue round) (closed : queue.filter (openAt round.branches) = []) :
    Branch.AllLeft (fun index => woken.contains index) original round.branches := by
  intro index branch found
  by_cases member : index ∈ queue
  · refine ⟨branch, (queued.untouched index member).symm.trans found, Branch.closed_left branch ?_ _⟩
    intro isOpen
    have listed : index ∈ queue.filter (openAt round.branches) :=
      List.mem_filter.mpr ⟨member, by simp [openAt, found, isOpen]⟩
    rw [closed] at listed
    cases listed
  · exact queued.left index branch member found

theorem further_unwound (original : List (Branch R)) (woken : List Nat) (cell between : Cell R)
    (first : Cell.Unwinding cell between) (result other : Except Halt (Poll.Round R) × Cell R)
    (unwinds : result = other ∧ UnwoundInWakingOrder original woken between result) :
    result = other ∧ UnwoundInWakingOrder original woken cell result := by
  obtain ⟨same, unwound⟩ := unwinds
  refine ⟨same, ?_⟩
  cases unwound with
  | down unwinding => exact .down (first.trans unwinding)
  | later round unwinding size each => exact .later round (first.trans unwinding) size each

theorem in_waking_order_unwinds (original : List (Branch R))
    (unwinds : ∀ branch ∈ original, branch.isOpen = true → (turn branch).Unwinds branch.asleep (other branch))
    (key : Nat) (woken queue : List Nat) (awake : ∀ index ∈ queue, woken.contains index = true) (round : Poll.Round R)
    (queued : Queued original woken queue round) (cell : Cell R) (cut : cell.cancelled = true) :
    Poll.inWakingOrder key (original.map turn) queue round cell =
        Poll.inWakingOrder key (original.map other) queue round cell ∧
      UnwoundInWakingOrder original woken cell (Poll.inWakingOrder key (original.map turn) queue round cell) := by
  induction queue generalizing round cell with
  | nil => exact ⟨rfl, .later round .same queued.size (all_left_of_queued original woken [] round queued rfl)⟩
  | cons index queue ih =>
      have next := ih fun place member => awake place (List.mem_cons_of_mem _ member)
      have same := queued.untouched index (by simp)
      rw [Poll.inWakingOrder, Poll.inWakingOrder]
      cases present : round.branches[index]? with
      | none => exact next round (queued_skips original woken queue index round queued (by simp [present])) cell cut
      | some branch =>
          have here : original[index]? = some branch := same.symm.trans present
          simp only [List.getElem?_map, here, Option.map_some]
          by_cases isOpen : branch.isOpen = true
          · rw [if_pos isOpen, if_pos isOpen]
            obtain ⟨alike, unwound⟩ := unwinds branch (List.mem_of_getElem? here) isOpen cell cut
            rw [← alike]
            generalize turn branch cell = result at unwound ⊢
            cases unwound with
            | down unwinding =>
                rename_i after
                dsimp only
                unfold Poll.inWakingOrder.settle
                cases due : Branch.due? (round.branches.set index (.failed .cancelled)) with
                | some fault =>
                    have first := Branch.due_after_failed round.branches index .cancelled fault queued.notDue due
                    subst fault
                    exact ⟨rfl, .down (unwinding.abandon_all _)⟩
                | none =>
                    have seated := queued_goes_on original woken queue index 0 _ round branch (.failed .cancelled) queued
                      (awake index (by simp)) present ⟨fun _ => rfl, List.nil_subset _⟩ due
                      (queued_le_open queue _ (List.nodup_cons.mp queued.nodup).2)
                    exact further_unwound original woken cell after unwinding _ _
                      (next _ seated after (unwinding.cancelled.trans cut))
            | later run unwinding left =>
                rename_i after
                have notDue : Branch.due? (round.branches.set index (.running run)) = none :=
                  (Branch.due_after_running round.branches index branch run present isOpen).trans queued.notDue
                have bounded : (queue.filter (openAt (round.branches.set index (.running run)))).length +
                    (round.given + 1) ≤ round.opened := by
                  have before := queued.bounded
                  rw [List.filter_cons_of_pos (by simp [openAt, present, isOpen]), List.length_cons] at before
                  rw [filter_open_set queue _ index _ (List.nodup_cons.mp queued.nodup).1]
                  omega
                have seated := queued_goes_on original woken queue index (round.given + 1) round.opened round branch
                  (.running run) queued (awake index (by simp)) present ⟨fun _ => rfl, left⟩ notDue bounded
                dsimp only
                by_cases last : round.given + 1 = round.opened
                · rw [if_pos last, if_pos last]
                  have each := all_left_of_queued original woken queue _ seated (List.length_eq_zero_iff.mp (by
                    dsimp only
                    omega))
                  exact ⟨rfl, .later _ (unwinding.again key) seated.size each⟩
                · rw [if_neg last, if_neg last]
                  exact further_unwound original woken cell after unwinding _ _
                    (next _ seated after (unwinding.cancelled.trans cut))
          · rw [if_neg isOpen, if_neg isOpen]
            refine next round (queued_skips original woken queue index round queued ?_) cell cut
            intro other found
            cases present.symm.trans found
            exact isOpen

theorem gather_unwound (key : Nat) (kept : List Nat) (awake : Nat → Bool) (branches left : List (Branch R)) (run : Run R)
    (member : Branch.running run ∈ branches) (size : left.length = branches.length)
    (each : Branch.AllLeft awake branches left) :
    Poll.gather key kept left = .pending (.joined key kept left) ∧
      Run.placesOf left ⊆ Run.asleepAmong awake 0 branches := by
  constructor
  · obtain ⟨index, found⟩ := List.getElem?_of_mem member
    have inside : index < left.length := size ▸ (List.getElem?_eq_some_iff.mp found).1
    have present := List.getElem?_eq_getElem inside
    obtain ⟨old, before, remains⟩ := each index _ present
    cases found.symm.trans before
    have notOver := Branch.not_over_of_unended left _ (List.mem_of_getElem? present) (remains.unended rfl)
    rw [Poll.gather, notOver]
  · intro place inside
    obtain ⟨index, branch, found, held⟩ := (mem_places_of place left).mp inside
    obtain ⟨old, before, remains⟩ := each index branch found
    exact (mem_asleep_among place 0 awake branches).mpr ⟨index, old, before, by
      rw [Nat.zero_add]
      exact remains.places held⟩

theorem join_unwinds (key : Nat) (woken : List Nat) (nodup : woken.Nodup) (branches : List (Branch R))
    (unsettled : Branch.Unsettled branches)
    (unwinds : ∀ branch ∈ branches, branch.isOpen = true → (turn branch).Unwinds branch.asleep (other branch)) :
    (Poll.join key woken branches (branches.map turn)).Unwinds (Run.joined key woken branches).asleep
      (Poll.join key woken branches (branches.map other)) := by
  intro cell cut
  obtain ⟨run, member⟩ := unsettled.running
  unfold Poll.join Run.asleep
  by_cases few : branches.length ≤ Branch.few
  · have awake : Run.awake woken branches = fun _ => true := funext fun index => by simp [Run.awake, few]
    obtain ⟨same, unwound⟩ := in_order_unwinds branches unwinds cell cut
    rw [if_pos few, if_pos few, ← same, awake]
    generalize Poll.inOrder (branches.zip (branches.map turn)) cell = result at unwound ⊢
    cases unwound with
    | down unwinding => exact ⟨rfl, .down unwinding⟩
    | later left unwinding size each =>
        obtain ⟨pending, places⟩ := gather_unwound key [] _ branches left run member size each
        dsimp only
        rw [pending]
        exact ⟨rfl, .later _ unwinding places⟩
  · have awake : Run.awake woken branches = fun index => woken.contains index :=
      funext fun index => by simp [Run.awake, few]
    have queued : Queued branches woken woken ⟨branches, [], 0, Branch.openCount branches⟩ :=
      ⟨unsettled.notDue, nodup, rfl, rfl, fun _ _ => rfl, queued_le_open woken branches nodup,
        fun index branch absent found => ⟨branch, found, id, by simp [absent]⟩⟩
    obtain ⟨same, unwound⟩ := in_waking_order_unwinds branches unwinds key woken woken (by simp) _ queued cell cut
    rw [if_neg few, if_neg few, ← same, awake]
    generalize Poll.inWakingOrder key (branches.map turn) woken _ cell = result at unwound ⊢
    cases unwound with
    | down unwinding => exact ⟨rfl, .down unwinding⟩
    | later round unwinding size each =>
        obtain ⟨pending, places⟩ := gather_unwound key round.woken _ branches round.branches run member size each
        dsimp only
        rw [pending]
        exact ⟨rfl, .later _ unwinding places⟩

section

variable [Scalar R] (handlers others : HandlerTable R)

theorem resume_all_eq_map (branches : List (Branch R)) :
    Run.resumeAll handlers branches = branches.map (Branch.resume handlers) := by
  induction branches with
  | nil => rfl
  | cons branch rest ih => rw [Run.resumeAll, ih, List.map_cons]

mutual
theorem resume_unwinds (run : Run R) (fit : run.Fit ok blame) :
    (run.resume handlers).Unwinds run.asleep (run.resume others) := by
  cases run with
  | waiting key wait => exact Poll.Unwinds.look key wait _
  | attempt step number inside =>
      exact Poll.Unwinds.reattempted step _ _ _ _ _ number (resume_unwinds inside fit.2)
  | bound run next select =>
      rw [Run.resume, Run.resume]
      exact Poll.Unwinds.bind _ _ _ _ _ _ (resume_unwinds run fit.1) fun _ => rfl
  | mapped run transform =>
      rw [Run.resume, Run.resume]
      exact Poll.Unwinds.bind _ _ _ _ _ _ (resume_unwinds run fit) fun _ => rfl
  | joined key woken branches =>
      rw [Run.resume, Run.resume, resume_all_eq_map, resume_all_eq_map]
      exact join_unwinds key woken fit.2.2 branches fit.2.1 (resume_all_unwinds branches fit.1 fit.2.1.begun)
  | repeated run inner left =>
      rw [Run.resume, Run.resume]
      exact Poll.Unwinds.bind _ _ _ _ _ _ (resume_unwinds run fit.1) fun _ => rfl
  | resting key inner =>
      rw [Run.resume, Run.resume]
      exact Poll.Unwinds.endless inner _ _ _

theorem resume_all_unwinds (branches : List (Branch R)) (fit : Run.FitAll ok blame branches)
    (begun : ∀ branch ∈ branches, branch.isFresh = false) :
    ∀ branch ∈ branches, branch.isOpen = true →
      (branch.resume handlers).Unwinds branch.asleep (branch.resume others) := by
  cases branches with
  | nil => simp
  | cons head rest =>
      intro branch member isOpen
      rcases List.mem_cons.mp member with same | later
      · rw [same] at isOpen ⊢
        exact resume_branch_unwinds head fit.1 (begun head (by simp)) isOpen
      · exact resume_all_unwinds rest fit.2 (fun other inside => begun other (List.mem_cons_of_mem _ inside)) branch later
          isOpen

theorem resume_branch_unwinds (branch : Branch R) (fit : branch.Fit ok blame) (begun : branch.isFresh = false)
    (isOpen : branch.isOpen = true) :
    (branch.resume handlers).Unwinds branch.asleep (branch.resume others) := by
  cases branch with
  | running run => exact resume_unwinds run fit
  | fresh step => cases begun
  | ended value => cases isOpen
  | failed fault => cases isOpen
end

end

end Workcell
