import Mathlib.Data.List.Forall2
import Workcell.Proofs.Kin.Law

/-!
Turns in kindred cells. Branches side by side get the same rounds in the same order; a whole step, and what is left of it,
cast anew does in the one cell what it does in the other.
-/

set_option autoImplicit false

namespace Workcell

variable {R : Type} [Scalar R]

variable {handlers : HandlerTable R} {ok : Call R → Prop} {cast : Recast R} {kin : Cell R → Cell R → Prop}

mutual
theorem abandon_kin (law : Kindred handlers ok cast kin) (run : Run R) (cell copy : Cell R) (alike : kin cell copy) :
    kin (run.abandon cell) ((run.recast cast).abandon copy) := by
  cases run with
  | waiting key wait => exact law.abandon alike wait
  | attempt step number inside => exact abandon_kin law inside cell copy alike
  | bound run next select => exact abandon_kin law run cell copy alike
  | mapped run transform => exact abandon_kin law run cell copy alike
  | joined key woken branches => exact abandon_all_kin law branches cell copy alike
  | repeated run inner left => exact abandon_kin law run cell copy alike
  | resting key inner => exact alike

theorem abandon_branch_kin (law : Kindred handlers ok cast kin) (branch : Branch R) (cell copy : Cell R)
    (alike : kin cell copy) : kin (branch.abandon cell) ((branch.recast cast).abandon copy) := by
  cases branch with
  | running run => exact abandon_kin law run cell copy alike
  | fresh step => exact alike
  | ended value => exact alike
  | failed fault => exact alike

theorem abandon_all_kin (law : Kindred handlers ok cast kin) (branches : List (Branch R)) (cell copy : Cell R)
    (alike : kin cell copy) :
    kin (Run.abandonAll branches cell) (Run.abandonAll (Run.recastAll cast branches) copy) := by
  cases branches with
  | nil => exact alike
  | cons branch rest => exact abandon_all_kin law rest _ _ (abandon_branch_kin law branch cell copy alike)
end

namespace Poll

inductive KinBranches (cast : Recast R) (kin : Cell R → Cell R → Prop) :
    List (Branch R × Poll R) → List (Branch R × Poll R) → Prop where
  | nil : KinBranches cast kin [] []
  | cons {rest restCopy} (branch : Branch R) (poll other : Poll R) (same : Kin cast kin poll other)
      (others : KinBranches cast kin rest restCopy) :
      KinBranches cast kin ((branch, poll) :: rest) ((branch.recast cast, other) :: restCopy)

omit [Scalar R] in
theorem KinBranches.names {turns copies : List (Branch R × Poll R)} (alike : KinBranches cast kin turns copies) :
    copies.map Prod.fst = Run.recastAll cast (turns.map Prod.fst) := by
  induction alike with
  | nil => simp [Run.recastAll]
  | cons branch poll other same others ih => simp [Run.recastAll, ih]

def recastRound (cast : Recast R) :
    Except Halt (List (Branch R)) → Except Halt (List (Branch R))
  | .ok branches => .ok (Run.recastAll cast branches)
  | .error stop => .error stop

variable (law : Kindred handlers ok cast kin)

include law

theorem cons_kin (branch : Branch R) (result resultCopy : Except Halt (List (Branch R)) × Cell R)
    (same : resultCopy.1 = recastRound cast result.1) (alike : kin result.2 resultCopy.2) :
    (inOrder.cons (branch.recast cast) resultCopy).1 = recastRound cast (inOrder.cons branch result).1 ∧
      kin (inOrder.cons branch result).2 (inOrder.cons (branch.recast cast) resultCopy).2 := by
  obtain ⟨round, cell⟩ := result
  obtain ⟨roundCopy, copy⟩ := resultCopy
  cases same
  cases round with
  | ok branches => exact ⟨by simp [inOrder.cons, recastRound, Run.recastAll], alike⟩
  | error stop => exact ⟨rfl, abandon_branch_kin law branch cell copy alike⟩

theorem in_order_kin (turns copies : List (Branch R × Poll R)) (same : KinBranches cast kin turns copies)
    (cell copy : Cell R) (alike : kin cell copy) :
    (inOrder copies copy).1 = recastRound cast (inOrder turns cell).1 ∧
      kin (inOrder turns cell).2 (inOrder copies copy).2 := by
  induction same generalizing cell copy with
  | nil => exact ⟨by simp [inOrder, recastRound, Run.recastAll], alike⟩
  | @cons rest restCopy branch poll other same others ih =>
      have names := others.names
      simp only [inOrder, Branch.recast_is_open]
      by_cases isOpen : branch.isOpen = true
      · simp only [if_pos isOpen]
        obtain ⟨outcome, after⟩ := same cell copy alike
        rcases result : poll cell with ⟨progress, later⟩
        rcases resultCopy : other copy with ⟨progressCopy, laterCopy⟩
        rw [result, resultCopy] at outcome after
        cases outcome
        cases progress with
        | done value =>
            obtain ⟨rounds, alikeNow⟩ := ih later laterCopy after
            exact cons_kin law (.ended value) _ _ rounds alikeNow
        | pending run =>
            obtain ⟨rounds, alikeNow⟩ := ih later laterCopy after
            exact cons_kin law (.running run) _ _ rounds alikeNow
        | fault fault =>
            refine ⟨rfl, ?_⟩
            simp only [names]
            exact abandon_all_kin law _ later laterCopy after
        | panicked message =>
            refine ⟨rfl, ?_⟩
            simp only [names]
            exact abandon_all_kin law _ later laterCopy after
      · simp only [if_neg isOpen]
        obtain ⟨rounds, alikeNow⟩ := ih cell copy alike
        exact cons_kin law branch _ _ rounds alikeNow

omit [Scalar R] law in
theorem kin_at (polls copies : List (Poll R)) (same : List.Forall₂ (Kin cast kin) polls copies) (index : Nat) :
    (polls[index]? = none ∧ copies[index]? = none) ∨
      ∃ poll other, polls[index]? = some poll ∧ copies[index]? = some other ∧ Kin cast kin poll other := by
  induction same generalizing index with
  | nil => exact Or.inl ⟨rfl, rfl⟩
  | cons first _ ih =>
      cases index with
      | zero => exact Or.inr ⟨_, _, rfl, rfl, first⟩
      | succ index => exact ih index

omit [Scalar R] law in
theorem kin_branches (branches : List (Branch R)) (polls copies : List (Poll R))
    (same : List.Forall₂ (Kin cast kin) polls copies) :
    KinBranches cast kin (branches.zip polls) ((Run.recastAll cast branches).zip copies) := by
  induction same generalizing branches with
  | nil => simpa using KinBranches.nil
  | cons first _ ih =>
      cases branches with
      | nil => simpa [Run.recastAll] using KinBranches.nil
      | cons branch rest => simpa [Run.recastAll] using KinBranches.cons branch _ _ first (ih rest)

def Round.recast (cast : Recast R) (round : Round R) : Round R :=
  ⟨Run.recastAll cast round.branches, round.woken, round.given, round.opened⟩

def recastRounds (cast : Recast R) : Except Halt (Round R) → Except Halt (Round R)
  | .ok round => .ok (round.recast cast)
  | .error stop => .error stop

omit [Scalar R] law in
theorem recast_set (branches : List (Branch R)) (index : Nat) (branch : Branch R) :
    (Run.recastAll cast branches).set index (branch.recast cast) =
      Run.recastAll cast (branches.set index branch) := by
  simp [Run.recast_all_eq_map, List.map_set]

def KinGo (cast : Recast R) (kin : Cell R → Cell R → Prop)
    (go goCopy : Round R → Cell R → Except Halt (Round R) × Cell R) : Prop :=
  ∀ round cell copy, kin cell copy →
    (goCopy (round.recast cast) copy).1 = recastRounds cast (go round cell).1 ∧
      kin (go round cell).2 (goCopy (round.recast cast) copy).2

theorem settle_round_kin (branches : List (Branch R)) (woken : List Nat) (cell copy : Cell R) (alike : kin cell copy)
    (go goCopy : Round R → Cell R → Except Halt (Round R) × Cell R) (goes : KinGo cast kin go goCopy) :
    (inWakingOrder.settle (Run.recastAll cast branches) woken copy goCopy).1 =
        recastRounds cast (inWakingOrder.settle branches woken cell go).1 ∧
      kin (inWakingOrder.settle branches woken cell go).2
        (inWakingOrder.settle (Run.recastAll cast branches) woken copy goCopy).2 := by
  have due : Branch.due? (Run.recastAll cast branches) = Branch.due? branches := by
    rw [Run.recast_all_eq_map, Branch.recast_due]
  have opened : Branch.openCount (Run.recastAll cast branches) = Branch.openCount branches := by
    rw [Run.recast_all_eq_map, Branch.recast_open_count]
  unfold inWakingOrder.settle
  rw [due, opened]
  cases Branch.due? branches with
  | some fault => exact ⟨rfl, abandon_all_kin law branches cell copy alike⟩
  | none => exact goes ⟨branches, woken, 0, Branch.openCount branches⟩ cell copy alike

theorem in_waking_order_kin (key : Nat) (polls copies : List (Poll R))
    (same : List.Forall₂ (Kin cast kin) polls copies) (queue : List Nat) :
    KinGo cast kin (inWakingOrder key polls queue) (inWakingOrder (cast.key key) copies queue) := by
  -- Numbers of branches are queued, and which are open is not a matter of names: the queues are worked off alike.
  induction queue with
  | nil => exact fun round cell copy alike => ⟨rfl, alike⟩
  | cons index queue ih =>
      rintro ⟨branches, woken, given, opened⟩ cell copy alike
      have names : (Run.recastAll cast branches)[index]? = (branches[index]?).map (Branch.recast cast) := by
        simp [Run.recast_all_eq_map]
      simp only [Round.recast, inWakingOrder, names]
      cases branches[index]? with
      | none => exact ih ⟨branches, woken, given, opened⟩ cell copy alike
      | some branch =>
          rcases kin_at polls copies same index with ⟨gone, goneCopy⟩ | ⟨poll, other, here, hereCopy, turn⟩
          · simp only [gone, goneCopy, Option.map_some]
            exact ih ⟨branches, woken, given, opened⟩ cell copy alike
          · simp only [here, hereCopy, Option.map_some, Branch.recast_is_open]
            by_cases isOpen : branch.isOpen = true
            · simp only [if_pos isOpen]
              obtain ⟨outcome, after⟩ := turn cell copy alike
              rcases result : poll cell with ⟨progress, later⟩
              rcases resultCopy : other copy with ⟨progressCopy, laterCopy⟩
              rw [result, resultCopy] at outcome after
              cases outcome
              cases progress with
              | panicked message =>
                  refine ⟨rfl, ?_⟩
                  have left := abandon_all_kin law (branches.set index (.failed .cancelled)) later laterCopy after
                  rw [← recast_set] at left
                  exact left
              | pending run =>
                  have put := @recast_set R cast branches index (.running run)
                  simp only [Branch.recast] at put
                  simp only [put]
                  by_cases spent : given + 1 = opened
                  · simp only [if_pos spent]
                    exact ⟨rfl, law.again after key⟩
                  · simp only [if_neg spent]
                    exact ih ⟨branches.set index (.running run), woken, given + 1, opened⟩ later laterCopy after
              | done value =>
                  have goes := settle_round_kin law (branches.set index (.ended value)) woken later laterCopy after _ _ ih
                  rw [← recast_set] at goes
                  exact goes
              | fault fault =>
                  have goes := settle_round_kin law (branches.set index (.failed fault)) woken later laterCopy after _ _ ih
                  rw [← recast_set] at goes
                  exact goes
            · simp only [if_neg isOpen]
              exact ih ⟨branches, woken, given, opened⟩ cell copy alike

omit [Scalar R] law in
theorem recast_gather (key : Nat) (woken : List Nat) (branches : List (Branch R)) :
    gather (cast.key key) woken (Run.recastAll cast branches) = (gather key woken branches).recast cast := by
  have values : Branch.values? (Run.recastAll cast branches) = Branch.values? branches := by
    rw [Run.recast_all_eq_map, Branch.recast_values]
  unfold gather
  rw [values]
  cases Branch.values? branches with
  | some values => rfl
  | none => simp [Progress.recast, Run.recast]

theorem join_kin (key : Nat) (woken : List Nat) (branches : List (Branch R)) (polls copies : List (Poll R))
    (same : List.Forall₂ (Kin cast kin) polls copies) :
    Kin cast kin (join key woken branches polls) (join (cast.key key) woken (Run.recastAll cast branches) copies) := by
  intro cell copy alike
  have number : (Run.recastAll cast branches).length = branches.length := by simp [Run.recast_all_eq_map]
  have opened : Branch.openCount (Run.recastAll cast branches) = Branch.openCount branches := by
    rw [Run.recast_all_eq_map, Branch.recast_open_count]
  unfold join
  rw [number, opened]
  by_cases few : branches.length ≤ Branch.few
  · rw [if_pos few, if_pos few]
    obtain ⟨rounds, after⟩ := in_order_kin law _ _ (kin_branches branches polls copies same) cell copy alike
    rcases result : inOrder (branches.zip polls) cell with ⟨round, later⟩
    rcases resultCopy : inOrder ((Run.recastAll cast branches).zip copies) copy with ⟨roundCopy, laterCopy⟩
    rw [result, resultCopy] at rounds after
    cases rounds
    cases round with
    | ok branches => exact ⟨recast_gather key [] branches, after⟩
    | error stop => cases stop <;> exact ⟨rfl, after⟩
  · rw [if_neg few, if_neg few]
    obtain ⟨rounds, after⟩ := in_waking_order_kin law key polls copies same woken
      ⟨branches, [], 0, Branch.openCount branches⟩ cell copy alike
    simp only [Round.recast] at rounds after
    rcases result : inWakingOrder key polls woken ⟨branches, [], 0, Branch.openCount branches⟩ cell with ⟨round, later⟩
    rcases resultCopy : inWakingOrder (cast.key key) copies woken
      ⟨Run.recastAll cast branches, [], 0, Branch.openCount branches⟩ copy with ⟨roundCopy, laterCopy⟩
    rw [result, resultCopy] at rounds after
    cases rounds
    cases round with
    | ok round => exact ⟨recast_gather key round.woken round.branches, after⟩
    | error stop => cases stop <;> exact ⟨rfl, after⟩

theorem fork_kin (steps : List (Step R)) (polls copies : List (Poll R))
    (same : List.Forall₂ (Kin cast kin) polls copies) :
    Kin cast kin (fork steps polls) (fork (Step.renamedAll cast.name steps) copies) := by
  intro cell copy alike
  obtain ⟨issued, after⟩ := law.issue alike
  have begun : (Step.renamedAll cast.name steps).map Branch.fresh = Run.recastAll cast (steps.map Branch.fresh) := by
    rw [Run.recast_all_fresh, Run.recast_all_eq_map]
  have joins := join_kin law cell.issued (List.range steps.length) (steps.map Branch.fresh) polls copies same _ _ after
  unfold fork
  rw [Step.renamed_all_length, begun]
  simpa [Cell.issue, issued] using joins

end Poll

namespace Poll

theorem rest_kin (law : Kindred handlers ok cast kin) (inner : Step R) :
    Kin cast kin (rest inner) (rest (inner.renamed cast.name)) := by
  intro cell copy alike
  obtain ⟨issued, after⟩ := law.issue alike
  refine ⟨by simpa [rest, Cell.issue, Progress.recast, Run.recast] using issued, ?_⟩
  have asked := law.rest after cell.issued
  simpa [rest, Cell.issue, issued] using asked

variable (law : Kindred handlers ok cast kin) (body other : Poll R) (same : Kin cast kin body other) (inner : Step R)

include law same

theorem iterate_kin (left : Option Nat) (next after : Value R → Poll R)
    (second : ∀ value, Kin cast kin (next value) (after value)) :
    Kin cast kin (iterate body inner left next) (iterate other (inner.renamed cast.name) left after) := by
  intro cell copy alike
  unfold iterate
  rw [law.cancelled alike]
  by_cases cut : cell.cancelled = true
  · rw [if_pos cut, if_pos cut]
    exact ⟨rfl, alike⟩
  · rw [if_neg cut, if_neg cut]
    exact Kin.bind body other _ _ next after same second (fun run => by simp [Run.recast]) cell copy alike

theorem iterations_kin (left : Nat) (last : Value R) :
    Kin cast kin (iterations body inner left last) (iterations other (inner.renamed cast.name) left last) := by
  induction left generalizing last with
  | zero => exact Kin.done last
  | succ left ih => exact iterate_kin law body other same inner (some left) _ _ ih

theorem endless_kin : Kin cast kin (endless body inner) (endless other (inner.renamed cast.name)) :=
  iterate_kin law body other same inner none _ _ fun _ => rest_kin law inner

theorem further_kin (left : Option Nat) (last : Value R) :
    Kin cast kin (further body inner left last) (further other (inner.renamed cast.name) left last) := by
  cases left with
  | none => exact rest_kin law inner
  | some left => exact iterations_kin law body other same inner left last

end Poll

mutual
theorem dispatch_kin (law : Kindred handlers ok cast kin) (step : Step R) (every : step.Every ok) :
    Poll.Kin cast kin (step.dispatch handlers) ((step.renamed cast.name).dispatch handlers) := by
  cases step with
  | action label device operation args =>
      rw [Step.renamed, Step.dispatch, Step.dispatch]
      exact Poll.Kin.perform law _ every
  | sequence label first next select =>
      rw [Step.renamed, Step.dispatch, Step.dispatch]
      have begun := Step.attempted_kin law first _ _ (dispatch_kin law first every.1)
      refine Poll.Kin.bind _ _ _ _ _ _ begun (fun value => ?_) fun run => by simp [Run.recast]
      exact Poll.Kin.select _ _ value select (follow_kin law (next value) (every.2 value))
  | map label source transform =>
      rw [Step.renamed, Step.dispatch, Step.dispatch]
      exact Poll.Kin.map _ _ transform (Step.attempted_kin law source _ _ (dispatch_kin law source every))
  | scope label inner =>
      rw [Step.renamed, Step.dispatch, Step.dispatch]
      exact Step.attempted_kin law inner _ _ (dispatch_kin law inner every)
  | parallel label steps =>
      rw [Step.renamed, Step.dispatch, Step.dispatch]
      exact Poll.fork_kin law steps _ _ (start_all_kin law steps every)
  | loop label inner count =>
      rw [Step.renamed, Step.dispatch, Step.dispatch]
      have begun := Step.attempted_kin law inner _ _ (dispatch_kin law inner every)
      by_cases endless : count < 0
      · simp only [if_pos endless]
        exact Poll.endless_kin law _ _ begun inner
      · simp only [if_neg endless]
        exact Poll.iterations_kin law _ _ begun inner _ _

theorem follow_kin (law : Kindred handlers ok cast kin) (next : Except (Option String) (Step R))
    (every : Step.EveryNext ok next) :
    Poll.Kin cast kin (Step.follow handlers next) (Step.follow handlers (Step.renamedNext cast.name next)) := by
  cases next with
  | ok step =>
      rw [Step.renamedNext, Step.follow, Step.follow]
      exact Step.attempted_kin law step _ _ (dispatch_kin law step every)
  | error message =>
      rw [Step.renamedNext, Step.follow]
      exact Poll.Kin.broken message

theorem start_all_kin (law : Kindred handlers ok cast kin) (steps : List (Step R)) (every : Step.EveryOf ok steps) :
    List.Forall₂ (Poll.Kin cast kin) (Step.startAll handlers steps)
      (Step.startAll handlers (Step.renamedAll cast.name steps)) := by
  cases steps with
  | nil =>
      rw [Step.renamedAll, Step.startAll]
      exact .nil
  | cons step rest =>
      rw [Step.renamedAll, Step.startAll, Step.startAll]
      exact .cons (Step.attempted_kin law step _ _ (dispatch_kin law step every.1)) (start_all_kin law rest every.2)
end

theorem start_kin (law : Kindred handlers ok cast kin) (step : Step R) (every : step.Every ok) :
    Poll.Kin cast kin (step.start handlers) ((step.renamed cast.name).start handlers) :=
  Step.attempted_kin law step _ _ (dispatch_kin law step every)

mutual
theorem resume_kin (law : Kindred handlers ok cast kin) (run : Run R) (every : run.Every ok) :
    Poll.Kin cast kin (run.resume handlers) ((run.recast cast).resume handlers) := by
  cases run with
  | waiting key wait =>
      rw [Run.recast, Run.resume, Run.resume]
      exact Poll.Kin.look law key wait
  | attempt step number inside =>
      rw [Run.recast, Run.resume, Run.resume]
      intro cell copy alike
      obtain ⟨outcome, after⟩ := resume_kin law inside every.2 cell copy alike
      rcases result : inside.resume handlers cell with ⟨progress, later⟩
      rcases resultCopy : (inside.recast cast).resume handlers copy with ⟨progressCopy, laterCopy⟩
      rw [result, resultCopy] at outcome after
      cases outcome
      simp only [result, resultCopy]
      exact Step.reattempted_kin law step _ _ (dispatch_kin law step every.1) number progress later laterCopy after
  | bound run next select =>
      rw [Run.recast, Run.resume, Run.resume]
      refine Poll.Kin.bind _ _ _ _ _ _ (resume_kin law run every.1) (fun value => ?_) fun run => by simp [Run.recast]
      exact Poll.Kin.select _ _ value select (follow_kin law (next value) (every.2 value))
  | mapped run transform =>
      rw [Run.recast, Run.resume, Run.resume]
      exact Poll.Kin.map _ _ transform (resume_kin law run every)
  | joined key woken branches =>
      rw [Run.recast, Run.resume, Run.resume]
      exact Poll.join_kin law key woken branches _ _ (resume_all_kin law branches every)
  | repeated run inner left =>
      rw [Run.recast, Run.resume, Run.resume]
      exact Poll.Kin.bind _ _ _ _ _ _ (resume_kin law run every.1)
        (Poll.further_kin law _ _ (start_kin law inner every.2) inner left) fun run => by simp [Run.recast]
  | resting key inner =>
      rw [Run.recast, Run.resume, Run.resume]
      exact Poll.endless_kin law _ _ (start_kin law inner every) inner

theorem resume_branch_kin (law : Kindred handlers ok cast kin) (branch : Branch R) (every : branch.Every ok) :
    Poll.Kin cast kin (branch.resume handlers) ((branch.recast cast).resume handlers) := by
  cases branch with
  | fresh step =>
      rw [Branch.recast, Branch.resume, Branch.resume]
      exact start_kin law step every
  | running run =>
      rw [Branch.recast, Branch.resume, Branch.resume]
      exact resume_kin law run every
  | ended value =>
      rw [Branch.recast, Branch.resume]
      exact Poll.Kin.done value
  | failed fault =>
      rw [Branch.recast, Branch.resume]
      exact fun _ _ alike => ⟨rfl, alike⟩

theorem resume_all_kin (law : Kindred handlers ok cast kin) (branches : List (Branch R))
    (every : Run.EveryOf ok branches) :
    List.Forall₂ (Poll.Kin cast kin) (Run.resumeAll handlers branches)
      (Run.resumeAll handlers (Run.recastAll cast branches)) := by
  cases branches with
  | nil =>
      rw [Run.recastAll, Run.resumeAll]
      exact .nil
  | cons branch rest =>
      rw [Run.recastAll, Run.resumeAll, Run.resumeAll]
      exact .cons (resume_branch_kin law branch every.1) (resume_all_kin law rest every.2)
end

end Workcell
