import Workcell.Proofs.Sturdy.Law
import Workcell.Scenario

/-!
The scenarios that come with the cell are sturdy on every machine whose axes have their limits in order.
-/

set_option autoImplicit false

namespace Workcell

variable {R : Type}

theorem Flow.plain_sturdy (name : String) : (Flow.plainLabel name).Sturdy := ⟨(by decide : 0 < Step.maxRetries), rfl⟩

namespace Step.Sturdy

theorem action (device : String) (operation : Operation) (args : List (Arg R)) :
    (Flow.action device operation args).Sturdy := Flow.plain_sturdy _

theorem and_then {first second : Step R} (isFirst : first.Sturdy) (isSecond : second.Sturdy) :
    (Flow.andThen first second).Sturdy := ⟨Flow.plain_sturdy _, isFirst, fun _ => isSecond⟩

theorem parallel {steps : List (Step R)} (each : ∀ step ∈ steps, step.Sturdy) : (Flow.parallel steps).Sturdy :=
  ⟨Flow.plain_sturdy _, (Step.sturdy_all_iff steps).mpr each⟩

theorem repeated {inner : Step R} (sturdy : inner.Sturdy) (count : Int) : (Flow.repeated inner count).Sturdy :=
  ⟨Flow.plain_sturdy _, sturdy⟩

theorem scope (name : String) {inner : Step R} (sturdy : inner.Sturdy) : (Flow.scope name inner).Sturdy :=
  ⟨Flow.plain_sturdy _, sturdy⟩

theorem named (name : String) {step : Step R} (sturdy : step.Sturdy) : (step.named name).Sturdy := by
  cases step with
  | action label device operation args => exact sturdy
  | sequence label first next select => exact sturdy
  | map label source transform => exact sturdy
  | scope label inner => exact sturdy
  | parallel label steps => exact sturdy
  | loop label inner count => exact sturdy

theorem chain {steps : List (Step R)} (each : ∀ step ∈ steps, step.Sturdy) : (Flow.chain steps).Sturdy := by
  induction steps with
  | nil => exact action _ _ _
  | cons first rest ih =>
      have isFirst := each first List.mem_cons_self
      cases rest with
      | nil => exact isFirst
      | cons second others => exact and_then isFirst (ih fun step member => each step (List.mem_cons_of_mem _ member))

end Step.Sturdy

namespace Scenario

-- On this machine it builds a sturdy flow or refuses with a fault.
def SturdyOn (machine : Machine R) (scenario : Scenario R) : Prop :=
  match scenario machine with
  | .ok flow => flow.Sturdy
  | .error (.fault _) => True
  | .error (.panic _) => False

variable [Scalar R]

open Step.Sturdy

omit [Scalar R] in
theorem carrying_sturdy (x z gripper suction : String) (stops : Stops R) :
    (carrying x z gripper suction stops).Sturdy := by
  have acts : ∀ device operation (args : List (Arg R)), (Flow.action device operation args).Sturdy := action
  have picks : (pick x z gripper suction stops).Sturdy := by
    refine scope _ (chain fun step member => ?_)
    simp only [List.mem_cons, List.not_mem_nil, or_false] at member
    rcases member with rfl | rfl | rfl | rfl | rfl | rfl
    all_goals exact acts _ _ _
  have places : (place x z gripper suction stops).Sturdy := by
    refine scope _ (chain fun step member => ?_)
    simp only [List.mem_cons, List.not_mem_nil, or_false] at member
    rcases member with rfl | rfl | rfl | rfl | rfl | rfl
    all_goals exact acts _ _ _
  have rounds : (round x z gripper suction stops).Sturdy := by
    refine chain fun step member => ?_
    simp only [List.mem_cons, List.not_mem_nil, or_false] at member
    rcases member with rfl | rfl | rfl | rfl | rfl
    · exact named _ (acts systemName .spawn _)
    · exact picks
    · exact places
    · exact named _ (acts systemName .transform _)
    · exact named _ (acts systemName .consume _)
  refine scope _ (chain fun step member => ?_)
  simp only [List.mem_cons, List.not_mem_nil, or_false] at member
  rcases member with rfl | rfl
  · refine named _ (parallel fun step member => ?_)
    simp only [List.mem_cons, List.not_mem_nil, or_false] at member
    rcases member with rfl | rfl
    all_goals exact acts _ _ _
  · exact repeated rounds 3

theorem builtin_sturdy (machine : Machine R) (ordered : ∀ spec ∈ machine.axes, spec.min ≤ spec.max) (name : String)
    (scenario : Scenario R) (member : (name, scenario) ∈ (builtin (R := R)).entries) : scenario.SturdyOn machine := by
  simp only [builtin, List.mem_cons, Prod.mk.injEq, List.not_mem_nil, or_false] at member
  rcases member with ⟨-, rfl⟩ | ⟨-, rfl⟩ | ⟨-, rfl⟩
  · unfold SturdyOn axisDemo
    split
    next flow built =>
      split at built
      · cases built
        exact named _ (and_then (action _ _ _) (action _ _ _))
      · cases built
    · trivial
    next message broke =>
      split at broke
      · cases broke
      · cases broke
  · refine scope _ (parallel fun step inside => ?_)
    obtain ⟨spec, -, rfl⟩ := List.mem_map.mp inside
    exact action _ _ _
  · unfold SturdyOn pickAndPlace
    rcases axes : machine.axes with _ | ⟨x, _ | ⟨z, rest⟩⟩
    · trivial
    · trivial
    · dsimp only
      cases firstOf machine .cylinder with
      | none => trivial
      | some gripper =>
          cases firstOf machine .vacuum with
          | none => trivial
          | some suction =>
              have inOrder : z.min ≤ z.max := ordered z (axes ▸ List.mem_cons_of_mem x List.mem_cons_self)
              simp only [stops?, AxisSpec.homePosition?, AxisSpec.clamp?, if_pos inOrder, bind, Option.bind]
              exact carrying_sturdy x.id z.id gripper suction _

end Scenario

end Workcell
