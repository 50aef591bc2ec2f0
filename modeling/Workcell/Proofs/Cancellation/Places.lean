import Workcell.Proofs.Upkeep.Join
import Workcell.Proofs.Upkeep.Touch

/-!
The places at which a run is suspended, and those of them that the next turn of the run passes by.

Among few branches every one gets a turn. Among many only the woken ones do, so the places under the others sleep on
until somebody wakes them.
-/

set_option autoImplicit false

namespace Workcell

variable {R : Type} {ok : Call R → Prop} {blame : Fault → Prop}

mutual
def Run.places : Run R → List Nat
  | .waiting key _ => [key]
  | .attempt _ _ inside => inside.places
  | .bound run _ _ => run.places
  | .mapped run _ => run.places
  | .joined _ _ branches => Run.placesOf branches
  | .repeated run _ _ => run.places
  | .resting key _ => [key]

def Branch.places : Branch R → List Nat
  | .running run => run.places
  | _ => []

def Run.placesOf : List (Branch R) → List Nat
  | [] => []
  | branch :: rest => branch.places ++ Run.placesOf rest
end

def Run.awake (woken : List Nat) (branches : List (Branch R)) (index : Nat) : Bool :=
  decide (branches.length ≤ Branch.few) || woken.contains index

mutual
-- The places that the next turn passes by.
def Run.asleep : Run R → List Nat
  | .waiting _ _ => []
  | .attempt _ _ inside => inside.asleep
  | .bound run _ _ => run.asleep
  | .mapped run _ => run.asleep
  | .joined _ woken branches => Run.asleepAmong (Run.awake woken branches) 0 branches
  | .repeated run _ _ => run.asleep
  | .resting _ _ => []

def Branch.asleep : Branch R → List Nat
  | .running run => run.asleep
  | _ => []

def Run.asleepAmong (awake : Nat → Bool) : Nat → List (Branch R) → List Nat
  | _, [] => []
  | index, branch :: rest =>
      (if awake index then branch.asleep else branch.places) ++ Run.asleepAmong awake (index + 1) rest
end

theorem mem_places_of (key : Nat) (branches : List (Branch R)) :
    key ∈ Run.placesOf branches ↔
      ∃ (index : Nat) (branch : Branch R), branches[index]? = some branch ∧ key ∈ branch.places := by
  induction branches with
  | nil => simp [Run.placesOf]
  | cons head rest ih =>
      rw [Run.placesOf, List.mem_append, ih]
      constructor
      · rintro (first | ⟨index, branch, found, inside⟩)
        · exact ⟨0, head, rfl, first⟩
        · exact ⟨index + 1, branch, found, inside⟩
      · rintro ⟨index, branch, found, inside⟩
        cases index with
        | zero =>
            cases found
            exact Or.inl inside
        | succ index => exact Or.inr ⟨index, branch, found, inside⟩

theorem mem_asleep_among (key start : Nat) (awake : Nat → Bool) (branches : List (Branch R)) :
    key ∈ Run.asleepAmong awake start branches ↔ ∃ (index : Nat) (branch : Branch R), branches[index]? = some branch ∧
      key ∈ if awake (start + index) then branch.asleep else branch.places := by
  induction branches generalizing start with
  | nil => simp [Run.asleepAmong]
  | cons head rest ih =>
      rw [Run.asleepAmong, List.mem_append, ih]
      constructor
      · rintro (first | ⟨index, branch, found, inside⟩)
        · exact ⟨0, head, rfl, first⟩
        · exact ⟨index + 1, branch, found, by rwa [Nat.add_right_comm, Nat.add_assoc] at inside⟩
      · rintro ⟨index, branch, found, inside⟩
        cases index with
        | zero =>
            cases found
            exact Or.inl inside
        | succ index => exact Or.inr ⟨index, branch, found, by rwa [Nat.add_right_comm, Nat.add_assoc]⟩

mutual
theorem asleep_is_place (run : Run R) : run.asleep ⊆ run.places := by
  cases run with
  | waiting key wait => exact List.nil_subset _
  | attempt step number inside => exact asleep_is_place inside
  | bound run next select => exact asleep_is_place run
  | mapped run transform => exact asleep_is_place run
  | joined key woken branches => exact asleep_among_is_place _ 0 branches
  | repeated run inner left => exact asleep_is_place run
  | resting key inner => exact List.nil_subset _

theorem asleep_branch_is_place (branch : Branch R) : branch.asleep ⊆ branch.places := by
  cases branch with
  | running run => exact asleep_is_place run
  | fresh step => exact List.nil_subset _
  | ended value => exact List.nil_subset _
  | failed fault => exact List.nil_subset _

theorem asleep_among_is_place (awake : Nat → Bool) (start : Nat) (branches : List (Branch R)) :
    Run.asleepAmong awake start branches ⊆ Run.placesOf branches := by
  cases branches with
  | nil => exact List.nil_subset _
  | cons branch rest =>
      refine List.append_subset.mpr ⟨?_, ?_⟩
      · refine List.subset_append_of_subset_left _ ?_
        split
        · exact asleep_branch_is_place branch
        · exact List.Subset.refl _
      · exact List.subset_append_of_subset_right _ (asleep_among_is_place awake (start + 1) rest)
end

mutual
theorem touch_places (key : Nat) (run : Run R) : (run.touch key).places = run.places := by
  cases run with
  | waiting own wait => rfl
  | attempt step number inside => exact touch_places key inside
  | bound run next select => exact touch_places key run
  | mapped run transform => exact touch_places key run
  | joined own woken branches => exact touch_all_places key branches
  | repeated run inner left => exact touch_places key run
  | resting own inner => rfl

theorem touch_branch_places (key : Nat) (branch : Branch R) : (branch.touch key).places = branch.places := by
  cases branch with
  | running run => exact touch_places key run
  | fresh step => rfl
  | ended value => rfl
  | failed fault => rfl

theorem touch_all_places (key : Nat) (branches : List (Branch R)) :
    Run.placesOf (Run.touchAll key branches) = Run.placesOf branches := by
  cases branches with
  | nil => rfl
  | cons branch rest =>
      rw [Run.touchAll, Run.placesOf, Run.placesOf, touch_branch_places key branch, touch_all_places key rest]
end

theorem mem_holders (key start : Nat) (branches : List (Branch R)) (index : Nat) (branch : Branch R)
    (found : branches[index]? = some branch) (holds : branch.holds key = true) :
    start + index ∈ Run.holders key start branches := by
  induction branches generalizing start index with
  | nil => cases found
  | cons head rest ih =>
      rw [Run.holders]
      cases index with
      | zero =>
          cases found
          simp [holds]
      | succ index =>
          have later := ih (start + 1) index found
          rw [Nat.add_right_comm, Nat.add_assoc] at later
          split
          · exact List.mem_cons_of_mem _ later
          · exact later

mutual
theorem place_is_held (key : Nat) (run : Run R) (place : key ∈ run.places) : run.holds key = true := by
  cases run with
  | waiting own wait => simpa [Run.holds] using (List.mem_singleton.mp place).symm
  | attempt step number inside => exact place_is_held key inside place
  | bound run next select => exact place_is_held key run place
  | mapped run transform => exact place_is_held key run place
  | joined own woken branches =>
      obtain ⟨index, branch, found, holds⟩ := place_of_is_held key branches place
      have holder := mem_holders key 0 branches index branch found holds
      simp [Run.holds, List.ne_nil_of_mem holder]
  | repeated run inner left => exact place_is_held key run place
  | resting own inner => simpa [Run.holds] using (List.mem_singleton.mp place).symm

theorem place_of_is_held (key : Nat) (branches : List (Branch R)) (place : key ∈ Run.placesOf branches) :
    ∃ (index : Nat) (branch : Branch R), branches[index]? = some branch ∧ branch.holds key = true := by
  cases branches with
  | nil => cases place
  | cons branch rest =>
      rcases List.mem_append.mp place with first | later
      · exact ⟨0, branch, rfl, place_of_branch_is_held key branch first⟩
      · obtain ⟨index, other, found, holds⟩ := place_of_is_held key rest later
        exact ⟨index + 1, other, found, holds⟩

theorem place_of_branch_is_held (key : Nat) (branch : Branch R) (place : key ∈ branch.places) :
    branch.holds key = true := by
  cases branch with
  | running run => exact place_is_held key run place
  | fresh step => cases place
  | ended value => cases place
  | failed fault => cases place
end

theorem mem_enqueue (queue more : List Nat) (entry : Nat) : entry ∈ enqueue queue more ↔ entry ∈ queue ∨ entry ∈ more := by
  unfold enqueue
  induction more generalizing queue with
  | nil => simp
  | cons head rest ih =>
      rw [List.foldl_cons, ih, List.mem_cons]
      by_cases present : queue.contains head = true
      · have inside : head ∈ queue := by simpa using present
        rw [if_pos present]
        constructor
        · exact fun member => member.imp_right Or.inr
        · rintro (old | rfl | later)
          · exact Or.inl old
          · exact Or.inl inside
          · exact Or.inr later
      · rw [if_neg present, List.mem_append, List.mem_singleton, or_assoc]

mutual
-- A place that has been woken sleeps no longer, and no other falls asleep.
theorem touch_asleep (key other : Nat) (run : Run R) (sleeps : other ∈ (run.touch key).asleep) :
    other ∈ run.asleep ∧ other ≠ key := by
  cases run with
  | waiting own wait => cases sleeps
  | attempt step number inside => exact touch_asleep key other inside sleeps
  | bound run next select => exact touch_asleep key other run sleeps
  | mapped run transform => exact touch_asleep key other run sleeps
  | joined own woken branches =>
      rw [Run.touch, Run.asleep] at sleeps
      exact touch_asleep_among key other branches 0 (Run.awake woken branches)
        (Run.awake (enqueue woken (Run.holders key 0 branches)) (Run.touchAll key branches))
        (by
          intro index woke
          simpa [Run.awake, touch_all_length, mem_enqueue, or_assoc] using woke) sleeps
  | repeated run inner left => exact touch_asleep key other run sleeps
  | resting own inner => cases sleeps

theorem touch_branch_asleep (key other : Nat) (branch : Branch R) (sleeps : other ∈ (branch.touch key).asleep) :
    other ∈ branch.asleep ∧ other ≠ key := by
  cases branch with
  | running run => exact touch_asleep key other run sleeps
  | fresh step => cases sleeps
  | ended value => cases sleeps
  | failed fault => cases sleeps

theorem touch_asleep_among (key other : Nat) (branches : List (Branch R)) (start : Nat) (before after : Nat → Bool)
    (wakes : ∀ index, before index = true ∨ index ∈ Run.holders key start branches → after index = true)
    (sleeps : other ∈ Run.asleepAmong after start (Run.touchAll key branches)) :
    other ∈ Run.asleepAmong before start branches ∧ other ≠ key := by
  cases branches with
  | nil => cases sleeps
  | cons branch rest =>
      have later : ∀ index, index ∈ Run.holders key (start + 1) rest → index ∈ Run.holders key start (branch :: rest) := by
        intro index member
        rw [Run.holders]
        split
        · exact List.mem_cons_of_mem _ member
        · exact member
      rw [Run.touchAll, Run.asleepAmong] at sleeps
      rw [Run.asleepAmong]
      rcases List.mem_append.mp sleeps with here | there
      · by_cases woke : after start = true
        · rw [if_pos woke] at here
          obtain ⟨before, different⟩ := touch_branch_asleep key other branch here
          refine ⟨List.mem_append_left _ ?_, different⟩
          split
          · exact before
          · exact asleep_branch_is_place branch before
        · rw [if_neg woke, touch_branch_places] at here
          have slept : ¬ before start = true := fun awake => woke (wakes start (Or.inl awake))
          rw [if_neg slept]
          refine ⟨List.mem_append_left _ here, ?_⟩
          rintro rfl
          have holder := mem_holders other start (branch :: rest) 0 branch rfl (place_of_branch_is_held other branch here)
          exact woke (wakes start (Or.inr holder))
      · obtain ⟨before, different⟩ := touch_asleep_among key other rest (start + 1) _ _
          (fun index woke => wakes index (woke.imp_right (later index))) there
        exact ⟨List.mem_append_right _ before, different⟩
end

theorem wake_asleep (keys : List Nat) (other : Nat) (run : Run R) (sleeps : other ∈ (run.wake keys).asleep) :
    other ∈ run.asleep ∧ other ∉ keys := by
  induction keys generalizing run with
  | nil => exact ⟨sleeps, by simp⟩
  | cons key rest ih =>
      obtain ⟨before, absent⟩ := ih (run.touch key) sleeps
      obtain ⟨earlier, different⟩ := touch_asleep key other run before
      exact ⟨earlier, by simp [different, absent]⟩

mutual
-- A run that is fit to go on is suspended somewhere.
theorem fit_has_place (run : Run R) (fit : run.Fit ok blame) : ∃ key, key ∈ run.places := by
  cases run with
  | waiting key wait => exact ⟨key, by simp [Run.places]⟩
  | attempt step number inside => exact fit_has_place inside fit.2
  | bound run next select => exact fit_has_place run fit.1
  | mapped run transform => exact fit_has_place run fit
  | joined key woken branches =>
      obtain ⟨run, member⟩ := fit.2.1.running
      exact fit_all_have_place branches fit.1 run member
  | repeated run inner left => exact fit_has_place run fit.1
  | resting key inner => exact ⟨key, by simp [Run.places]⟩

theorem fit_all_have_place (branches : List (Branch R)) (fit : Run.FitAll ok blame branches) (run : Run R)
    (member : Branch.running run ∈ branches) : ∃ key, key ∈ Run.placesOf branches := by
  cases branches with
  | nil => cases member
  | cons branch rest =>
      by_cases first : Branch.running run = branch
      · subst branch
        obtain ⟨key, place⟩ := fit_has_place run fit.1
        exact ⟨key, List.mem_append_left _ place⟩
      · have later : Branch.running run ∈ rest := (List.mem_cons.mp member).resolve_left first
        obtain ⟨key, place⟩ := fit_all_have_place rest fit.2 run later
        exact ⟨key, List.mem_append_right _ place⟩
end

end Workcell
