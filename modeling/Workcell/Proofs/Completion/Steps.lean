import Workcell.Flow.Build
import Workcell.Proofs.Completion.Ends

/-!
Steps that end well, put together. A step takes the scene to another one within a budget if its parts do so one after
another. Branches side by side end well if each of them does and all leave the scene as it is; each open branch adds its
own budget to that of the whole, and its end.
-/

set_option autoImplicit false

namespace Workcell

section

variable {R : Type}

mutual
theorem touch_leaves (key : Nat) (run : Run R) : (run.touch key).leaves = run.leaves := by
  cases run with
  | waiting own wait => rfl
  | attempt step number inside => exact touch_leaves key inside
  | bound run next select => exact touch_leaves key run
  | mapped run transform => exact touch_leaves key run
  | joined own woken branches => exact touch_all_leaves key branches
  | repeated run inner left => exact touch_leaves key run
  | resting own inner => rfl

theorem touch_branch_leaves (key : Nat) (branch : Branch R) : (branch.touch key).leaves = branch.leaves := by
  cases branch with
  | running run => exact touch_leaves key run
  | fresh step => rfl
  | ended value => rfl
  | failed fault => rfl

theorem touch_all_leaves (key : Nat) (branches : List (Branch R)) :
    Run.leavesOf (Run.touchAll key branches) = Run.leavesOf branches := by
  cases branches with
  | nil => rfl
  | cons branch rest =>
      rw [Run.touchAll, Run.leavesOf, Run.leavesOf, touch_branch_leaves key branch, touch_all_leaves key rest]
end

theorem wake_leaves (keys : List Nat) (run : Run R) : (run.wake keys).leaves = run.leaves := by
  induction keys generalizing run with
  | nil => rfl
  | cons key rest ih => exact (ih (run.touch key)).trans (touch_leaves key run)

def Branch.wake (keys : List Nat) : Branch R → Branch R
  | .running run => .running (run.wake keys)
  | branch => branch

theorem wake_joined (keys : List Nat) (key : Nat) (woken : List Nat) (branches : List (Branch R)) :
    ∃ stirred, (Run.joined key woken branches).wake keys = .joined key stirred (branches.map (Branch.wake keys)) := by
  induction keys generalizing woken branches with
  | nil =>
      refine ⟨woken, ?_⟩
      have same : branches.map (Branch.wake []) = branches := by
        refine (List.map_congr_left fun branch _ => ?_).trans (List.map_id branches)
        cases branch <;> rfl
      rw [same]
      rfl
  | cons first rest ih =>
      have touched : Run.touchAll first branches = branches.map (Branch.wake [first]) := by
        induction branches with
        | nil => rfl
        | cons branch others ihBranches =>
            rw [Run.touchAll, ihBranches, List.map_cons]
            cases branch <;> rfl
      obtain ⟨stirred, same⟩ := ih (enqueue woken (Run.holders first 0 branches)) (Run.touchAll first branches)
      refine ⟨stirred, same.trans ?_⟩
      rw [touched, List.map_map]
      congr 1
      refine List.map_congr_left fun branch _ => ?_
      cases branch <;> rfl

def Branch.last : Branch R → Option (List Leaf)
  | .running run => some run.leaves
  | _ => none

section

variable [Scalar R] (handlers : HandlerTable R) (scene : Scene R)

def Poll.EachEnds (turns : Nat) : (budget : Nat) → List (Branch R × Poll R) → Prop
  | _, [] => True
  | budget, (branch, poll) :: rest => ∃ others, Poll.EachEnds turns others rest ∧
      match branch with
      | .ended _ => budget = others
      | .failed _ => False
      | branch => ∃ own, budget = own + 1 + others ∧ ∀ cell : Cell R, cell.scene = scene →
          poll.Ends handlers (fun left => left = scene) (fun left => left = scene) turns own branch.last cell

def Branch.AllGo (turns now : Nat) : (left : Nat) → List (Branch R) → Prop
  | _, [] => True
  | left, branch :: rest => ∃ others, Branch.AllGo turns now others rest ∧
      match branch with
      | .ended _ => left = others
      | .running run => ∃ own, left = own + 1 + others ∧ run.Timed now ∧
          run.Goes handlers (fun left => left = scene) (fun left => left = scene) turns own scene
      | _ => False

end

variable [Scalar R] {handlers : HandlerTable R} {scene : Scene R} {turns : Nat}

omit [Scalar R] in
theorem spends_le {budget left : Nat} {last : Option (List Leaf)} {leaves : List Leaf} {asked : Prop}
    (spends : Spends budget left last leaves asked) : left ≤ budget := by
  rcases spends with less | ⟨same, -⟩
  · exact Nat.le_of_lt less
  · exact Nat.le_of_eq same

namespace Poll

structure Rounds (handlers : HandlerTable R) (scene : Scene R) (turns budget : Nat) (entries : List (Branch R × Poll R))
    (cell : Cell R) (branches : List (Branch R)) (after : Cell R) (left : Nat) : Prop where
  round : inOrder entries cell = (.ok branches, after)
  instant : after.now = cell.now
  same : after.scene = scene
  go : Branch.AllGo handlers scene turns after.now left branches
  length : branches.length = entries.length
  spends : Spends budget left (some (Run.leavesOf (entries.map Prod.fst))) (Run.leavesOf branches)
    (after.outbox = cell.outbox ∧ ∀ entry ∈ entries, entry.1.isFresh = false)

-- A branch that is open has its turn before the rest of the round.
theorem open_rounds (branch : Branch R) (poll : Poll R) (rest : List (Branch R × Poll R)) (own others : Nat)
    (isOpen : branch.isOpen = true) (cell : Cell R)
    (ends : poll.Ends handlers (fun left => left = scene) (fun left => left = scene) turns own branch.last cell)
    (later : ∀ between : Cell R, between.scene = scene →
      ∃ branches after left, Rounds handlers scene turns others rest between branches after left) :
    ∃ branches after left,
      Rounds handlers scene turns (own + 1 + others) ((branch, poll) :: rest) cell branches after left := by
  rw [Ends.settles_iff] at ends
  rcases turned : poll cell with ⟨progress, between⟩
  rw [turned] at ends
  cases progress with
  | fault fault => exact ends.elim
  | panicked message => exact ends.elim
  | done value =>
      obtain ⟨instant, same⟩ := ends
      obtain ⟨branches, after, left, rounds⟩ := later between same
      refine ⟨.ended value :: branches, after, left, ?_, rounds.instant.trans instant, rounds.same,
        ⟨left, rounds.go, rfl⟩, congrArg (· + 1) rounds.length, Or.inl ?_⟩
      · simp only [inOrder, if_pos isOpen, turned, rounds.round, inOrder.cons]
      · have bound := spends_le rounds.spends
        omega
  | pending run =>
      obtain ⟨instant, same, timed, leftOwn, spends, goes⟩ := ends
      obtain ⟨branches, after, left, rounds⟩ := later between same
      refine ⟨.running run :: branches, after, leftOwn + 1 + left, ?_, rounds.instant.trans instant, rounds.same,
        ⟨left, rounds.go, leftOwn, rfl, ?_, same ▸ goes⟩, congrArg (· + 1) rounds.length, ?_⟩
      · simp only [inOrder, if_pos isOpen, turned, rounds.round, inOrder.cons]
      · rw [rounds.instant]
        exact timed
      · have bound := spends_le spends
        have boundRest := spends_le rounds.spends
        rcases spends with less | ⟨all, waited, quiet⟩
        · exact Or.inl (by omega)
        · rcases rounds.spends with less | ⟨allRest, waitedRest, quietRest, begun⟩
          · exact Or.inl (by omega)
          · cases branch with
            | ended value => cases isOpen
            | failed fault => cases isOpen
            | fresh step => cases waited
            | running before =>
                refine Or.inr ⟨by omega, ?_, quietRest.trans quiet, ?_⟩
                · have sameLeaves := Option.some.inj waited
                  have sameRest := Option.some.inj waitedRest
                  simp only [List.map_cons, Run.leavesOf, Branch.leaves, sameLeaves, sameRest]
                · intro entry member
                  rcases List.mem_cons.mp member with rfl | other
                  · rfl
                  · exact begun entry other

theorem in_order_rounds (entries : List (Branch R × Poll R)) (budget : Nat)
    (each : EachEnds handlers scene turns budget entries) (cell : Cell R) (same : cell.scene = scene) :
    ∃ branches after left, Rounds handlers scene turns budget entries cell branches after left := by
  induction entries generalizing budget cell with
  | nil => exact ⟨[], cell, budget, rfl, rfl, same, trivial, rfl, Or.inr ⟨rfl, rfl, rfl, by simp⟩⟩
  | cons entry rest ih =>
      obtain ⟨branch, poll⟩ := entry
      obtain ⟨others, eachRest, own⟩ := each
      cases branch with
      | failed fault => exact own.elim
      | fresh step =>
          obtain ⟨own, rfl, ends⟩ := own
          exact open_rounds _ poll rest own others rfl cell (ends cell same) fun between still =>
            ih others eachRest between still
      | running run =>
          obtain ⟨own, rfl, ends⟩ := own
          exact open_rounds _ poll rest own others rfl cell (ends cell same) fun between still =>
            ih others eachRest between still
      | ended value =>
          obtain ⟨branches, after, left, rounds⟩ := ih others eachRest cell same
          refine ⟨.ended value :: branches, after, left, ?_, rounds.instant, rounds.same, ⟨left, rounds.go, rfl⟩,
            congrArg (· + 1) rounds.length, ?_⟩
          · simp only [inOrder, Branch.isOpen, Bool.false_eq_true, if_false, rounds.round, inOrder.cons]
          · rw [show budget = others from own]
            rcases rounds.spends with less | ⟨all, waited, quiet, begun⟩
            · exact Or.inl less
            · refine Or.inr ⟨all, ?_, quiet, ?_⟩
              · have sameRest := Option.some.inj waited
                simp only [List.map_cons, Run.leavesOf, Branch.leaves, sameRest]
              · intro entry member
                rcases List.mem_cons.mp member with rfl | other
                · rfl
                · exact begun entry other

end Poll

namespace Branch.AllGo

theorem leaves_timed {now left : Nat} (branches : List (Branch R))
    (go : AllGo handlers scene turns now left branches) (leaf : Leaf) (member : leaf ∈ Run.leavesOf branches) :
    ∃ timer, leaf.timer = some timer ∧ now < timer.due := by
  induction branches generalizing left with
  | nil => cases member
  | cons branch rest ih =>
      obtain ⟨others, goRest, own⟩ := go
      rw [Run.leavesOf] at member
      rcases List.mem_append.mp member with here | later
      · cases branch with
        | running run =>
            obtain ⟨-, -, timed, -⟩ := own
            exact timed.2 leaf here
        | ended value => cases here
        | fresh step => cases here
        | failed fault => cases here
      · exact ih goRest later

theorem some_leaf {now left : Nat} (branches : List (Branch R)) (go : AllGo handlers scene turns now left branches)
    (unfinished : Branch.values? branches = none) : Run.leavesOf branches ≠ [] := by
  induction branches generalizing left with
  | nil => cases unfinished
  | cons branch rest ih =>
      obtain ⟨others, goRest, own⟩ := go
      intro nobody
      rw [Run.leavesOf] at nobody
      obtain ⟨here, later⟩ := List.append_eq_nil_iff.mp nobody
      cases branch with
      | running run =>
          obtain ⟨-, -, timed, -⟩ := own
          exact timed.1 here
      | ended value =>
          refine ih goRest ?_ later
          simpa [Branch.values?] using unfinished
      | fresh step => exact own
      | failed fault => exact own

-- The branches that have been woken end well by their next turns.
theorem next {now left : Nat} (branches : List (Branch R))
    (go : AllGo handlers scene (turns + 1) now left branches) (keys : List Nat) :
    Poll.EachEnds handlers scene turns left
      ((branches.map (Branch.wake keys)).zip (Run.resumeAll handlers (branches.map (Branch.wake keys)))) := by
  induction branches generalizing left with
  | nil => trivial
  | cons branch rest ih =>
      obtain ⟨others, goRest, own⟩ := go
      refine ⟨others, ih goRest, ?_⟩
      cases branch with
      | ended value => exact own
      | fresh step => exact own.elim
      | failed fault => exact own.elim
      | running run =>
          obtain ⟨own, rfl, -, goes⟩ := own
          refine ⟨own, rfl, fun cell same => ?_⟩
          show Poll.Ends _ _ _ turns own (some (run.wake keys).leaves) _ cell
          rw [wake_leaves]
          exact goes keys cell same

end Branch.AllGo

theorem resume_all_zip_length (branches : List (Branch R)) :
    (branches.zip (Run.resumeAll handlers branches)).map Prod.fst = branches := by
  induction branches with
  | nil => rfl
  | cons branch rest ih => rw [Run.resumeAll, List.zip_cons_cons, List.map_cons, ih]

theorem Poll.join_settles (later : Nat → Run R → Scene R → Prop) (key : Nat) (woken : List Nat)
    (branches : List (Branch R)) (polls : List (Poll R)) (few : branches.length ≤ Branch.few)
    (paired : (branches.zip polls).map Prod.fst = branches) (budget : Nat)
    (each : EachEnds handlers scene turns budget (branches.zip polls)) (last : Option (List Leaf))
    (waited : branches ≠ [] → (∀ branch ∈ branches, branch.isFresh = false) → last = some (Run.leavesOf branches))
    (cell : Cell R) (same : cell.scene = scene)
    (goesOn : ∀ left now left', left.length = branches.length → Branch.AllGo handlers scene turns now left' left →
      later left' (.joined key [] left) scene) :
    Settles (fun left => left = scene) (fun left => left = scene) later budget last cell
      (Poll.join key woken branches polls cell) := by
  obtain ⟨turned, after, left, round, instant, still, go, length, spends⟩ := in_order_rounds _ budget each cell same
  rw [paired] at spends
  have size : (branches.zip polls).length = branches.length := by
    rw [← List.length_map Prod.fst, paired]
  rw [Poll.join, if_pos few, round]
  simp only [Poll.gather]
  cases values : Branch.values? turned with
  | some values => exact ⟨instant, still⟩
  | none =>
      refine ⟨instant, still, ⟨go.some_leaf turned values, go.leaves_timed turned⟩, left, ?_,
        still ▸ goesOn turned after.now left (length.trans size) go⟩
      rcases spends with less | ⟨all, stayed, quiet, begun⟩
      · exact Or.inl less
      · refine Or.inr ⟨all, ?_, quiet⟩
        have several : branches ≠ [] := by
          rintro rfl
          rw [List.length_eq_zero_iff.mp (length.trans size)] at values
          cases values
        refine (waited several fun branch member => ?_).trans stayed
        rw [← paired] at member
        obtain ⟨entry, inside, rfl⟩ := List.mem_map.mp member
        exact begun entry inside

theorem Poll.join_ends (key : Nat) (woken : List Nat) (branches : List (Branch R)) (polls : List (Poll R))
    (few : branches.length ≤ Branch.few) (paired : (branches.zip polls).map Prod.fst = branches) (budget : Nat)
    (each : EachEnds handlers scene turns budget (branches.zip polls)) (last : Option (List Leaf))
    (waited : branches ≠ [] → (∀ branch ∈ branches, branch.isFresh = false) → last = some (Run.leavesOf branches))
    (cell : Cell R) (same : cell.scene = scene) :
    (Poll.join key woken branches polls).Ends handlers (fun left => left = scene) (fun left => left = scene) turns
      budget last cell := by
  induction turns generalizing woken branches polls budget last cell with
  | zero =>
      exact join_settles _ key woken branches polls few paired budget each last waited cell same fun _ _ _ _ _ => trivial
  | succ turns ih =>
      refine join_settles _ key woken branches polls few paired budget each last waited cell same ?_
      intro turned now left length go keys between stays
      obtain ⟨stirred, woke⟩ := wake_joined keys key [] turned
      rw [woke, Run.resume]
      have leaves : Run.leavesOf (turned.map (Branch.wake keys)) = Run.leavesOf turned := by
        have stay := wake_leaves keys (Run.joined key [] turned)
        rw [woke] at stay
        exact stay
      refine ih stirred _ _ ?_ (resume_all_zip_length _) left (go.next turned keys) _ ?_ between stays
      · rw [List.length_map, length]
        exact few
      · intro _ _
        rw [leaves]
        rfl

end

variable {R : Type} [Scalar R]

-- The step ends well wherever it begins in the first scene, and leaves the final one; in between the scene is `calm`.
def Step.Comes (handlers : HandlerTable R) (calm : Scene R → Prop) (step : Step R) (first final : Scene R)
    (budget : Nat) : Prop :=
  ∀ turns (cell : Cell R), cell.scene = first →
    (step.start handlers).Ends handlers calm (fun left => left = final) turns budget none cell

def Step.Takes (tick : Duration) (handlers : HandlerTable R) (step : Step R) (first final : Scene R) (budget : Nat) :
    Prop :=
  step.Comes handlers (fun left => left.Ready tick) first final budget

def Step.Stays (handlers : HandlerTable R) (step : Step R) (scene : Scene R) (budget : Nat) : Prop :=
  step.Comes handlers (fun left => left = scene) scene scene budget

namespace Step

variable {handlers : HandlerTable R} {calm : Scene R → Prop} {first mid final : Scene R} {tick : Duration}
  {budget more : Nat}

theorem comes_of_dispatch (step : Step R) (going : first.cancelled = false)
    (body : ∀ turns (cell : Cell R), cell.scene = first →
      (step.dispatch handlers).Ends handlers calm (fun left => left = final) turns budget none cell) :
    step.Comes handlers calm first final budget := by
  intro turns cell same
  have uncut : cell.cancelled = false := by
    rw [← going, ← same]
    rfl
  exact Poll.Ends.attempted step _ uncut (body turns _ same)

theorem Stays.takes {step : Step R} (stays : step.Stays handlers first budget) (ready : first.Ready tick) :
    step.Takes tick handlers first first budget :=
  fun turns cell same => (stays turns cell same).weaken (fun _ left => left ▸ ready) fun _ left => left

theorem Takes.andThen {step other : Step R} (takes : step.Takes tick handlers first mid budget)
    (takesOther : other.Takes tick handlers mid final more) (going : first.cancelled = false) :
    (Flow.andThen step other).Takes tick handlers first final (budget + more) := by
  refine comes_of_dispatch _ going fun turns cell same => ?_
  rw [Flow.andThen, Flow.sequence, dispatch]
  exact Poll.Ends.bind (.bound _ none) more (takes turns cell same) fun turns _ between still =>
    takesOther turns between still

theorem Takes.scope {inner : Step R} (takes : inner.Takes tick handlers first final budget) (going : first.cancelled = false)
    (name : String) : (Flow.scope name inner).Takes tick handlers first final budget := by
  refine comes_of_dispatch _ going fun turns cell same => ?_
  rw [Flow.scope, dispatch]
  exact takes turns cell same

theorem Takes.repeated (scene : Nat → Scene R) (inner : Step R) (going : ∀ round, (scene round).cancelled = false)
    (takes : ∀ round, inner.Takes tick handlers (scene round) (scene (round + 1)) budget) (count : Nat) :
    (Flow.repeated inner count).Takes tick handlers (scene 0) (scene count) (count * budget) := by
  have iterations : ∀ left round value turns (cell : Cell R), cell.scene = scene round →
      (Poll.iterations (inner.start handlers) inner left value).Ends handlers (fun left => left.Ready tick)
        (fun last => last = scene (round + left)) turns (left * budget) none cell := by
    intro left
    induction left with
    | zero =>
        intro round value turns cell same
        rw [Poll.Ends.settles_iff]
        exact ⟨rfl, same⟩
    | succ left ih =>
        intro round value turns cell same
        have uncut : cell.cancelled = false := by
          rw [← going round, ← same]
          rfl
        have once := Poll.Ends.bind (.repeated inner (some left)) (left * budget) (takes round turns cell same)
          fun turns value between still => ih (round + 1) value turns between still
        rw [Poll.Ends.settles_iff] at once ⊢
        rw [Poll.iterations, Poll.iterate, if_neg (by simp [uncut]), Nat.succ_mul, Nat.add_comm (left * budget)]
        have last : round + 1 + left = round + (left + 1) := by omega
        rw [last] at once
        exact once
  refine comes_of_dispatch _ (going 0) fun turns cell same => ?_
  have whole := iterations count 0 .unit turns cell same
  rw [Nat.zero_add] at whole
  rw [Flow.repeated, dispatch, if_neg (by omega), Int.toNat_natCast]
  exact whole

theorem Stays.parallel (label : Label) (steps : List (Step R)) (few : steps.length ≤ Branch.few)
    (going : first.cancelled = false) (stays : ∀ step ∈ steps, step.Stays handlers first budget) :
    (Step.parallel label steps).Stays handlers first ((budget + 1) * steps.length) := by
  have each : ∀ turns, Poll.EachEnds handlers first turns ((budget + 1) * steps.length)
      ((steps.map Branch.fresh).zip (startAll handlers steps)) := by
    intro turns
    clear few
    induction steps with
    | nil => trivial
    | cons step rest ih =>
        refine ⟨(budget + 1) * rest.length, ih fun other member => stays other (List.mem_cons_of_mem _ member), budget,
          ?_, fun cell same => stays step List.mem_cons_self turns cell same⟩
        rw [List.length_cons, Nat.mul_succ]
        omega
  have paired : ((steps.map Branch.fresh).zip (startAll handlers steps)).map Prod.fst = steps.map Branch.fresh := by
    clear each stays few
    induction steps with
    | nil => rfl
    | cons step rest ih => rw [startAll, List.map_cons, List.zip_cons_cons, List.map_cons, ih]
  refine comes_of_dispatch _ going fun turns cell same => ?_
  rw [dispatch, Poll.Ends.settles_iff]
  have joined := Poll.join_ends cell.issue.1 (List.range steps.length) _ _ (by simpa using few) paired _ (each turns) none
    (fun several begun => ?_) cell.issue.2 same
  · rw [Poll.Ends.settles_iff] at joined
    exact joined
  · cases steps with
    | nil => exact absurd rfl several
    | cons step rest => exact absurd (begun _ List.mem_cons_self) (by simp [Branch.isFresh])

end Step

end Workcell
