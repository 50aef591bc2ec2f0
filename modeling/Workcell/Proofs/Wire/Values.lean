import Workcell.Proofs.Wire.Frames
import Workcell.Value.Wire

/-!
Values on the wire: the text of a value carries no tags and is still read back as that value and no other, as long as its
lists are not nested deeper than a reader follows them.
-/

set_option autoImplicit false

namespace Workcell.Value

variable {R : Type}

mutual
def depth : Value R → Nat
  | .list items => depthOfItems items + 1
  | _ => 0

def depthOfItems : List (Value R) → Nat
  | [] => 0
  | item :: rest => max item.depth (depthOfItems rest)
end

mutual
def numbers : Value R → List R
  | .number x => [x]
  | .list items => numbersOfItems items
  | _ => []

def numbersOfItems : List (Value R) → List R
  | [] => []
  | item :: rest => item.numbers ++ numbersOfItems rest
end

variable [Scalar R]

open Document.Json (Reread RereadItems literalTree)

theorem number_of_tree (tree : Tree R) (x : R) (stands : Document.asNumber tree = some x) :
    ofTree? tree = some (.number x) ∧ ∀ depth, tree.readable depth = true := by
  cases tree with
  | int i =>
      cases stands
      exact ⟨by rw [ofTree?], fun depth => by cases depth <;> rfl⟩
  | number y =>
      cases stands
      exact ⟨by rw [ofTree?], fun depth => by cases depth <;> rfl⟩
  | null | bool | text | list | record | unreadable => cases stands

omit [Scalar R] in
theorem leaf_readable (tree : Tree R) (leaf : ∀ depth, tree.readable depth = true) (depth : Nat) :
    tree.readable depth = decide (0 ≤ depth) := by
  rw [leaf depth, decide_eq_true (Nat.zero_le depth)]

mutual
theorem tree_reread : (value : Value R) → (∀ x ∈ value.numbers, Scalar.isFinite x = true) →
    (∀ x ∈ value.numbers, Scalar.Wires x) →
    ∃ other, Reread value.tree other ∧ ofTree? other = some value ∧
      ∀ depth, other.readable depth = decide (value.depth ≤ depth)
  | .unit, _, _ => ⟨.null, .null, rfl, leaf_readable _ fun depth => by cases depth <;> rfl⟩
  | .bool b, _, _ => ⟨.bool b, .bool b, rfl, leaf_readable _ fun depth => by cases depth <;> rfl⟩
  | .text s, _, _ => ⟨.text s, .text s, rfl, leaf_readable _ fun depth => by cases depth <;> rfl⟩
  | .number x, finite, exact => by
      have own : x ∈ (Value.number x).numbers := List.mem_singleton_self x
      obtain ⟨literal, formed, spelled, stands⟩ := exact x own (finite x own)
      obtain ⟨claimed, readable⟩ := number_of_tree _ x stands
      exact ⟨literalTree literal, .number x literal formed spelled, claimed, leaf_readable _ readable⟩
  | .list items, finite, exact => by
      obtain ⟨others, reread, claimed, nested⟩ := treeItems_reread items finite exact
      refine ⟨.list others, .list reread, by rw [ofTree?, claimed]; rfl, fun depth => ?_⟩
      cases depth with
      | zero => rfl
      | succ depth =>
          have deeper : (Value.list items).depth ≤ depth + 1 ↔ depthOfItems items ≤ depth := Nat.succ_le_succ_iff
          exact (nested depth).trans (decide_eq_decide.mpr deeper.symm)

theorem treeItems_reread : (items : List (Value R)) → (∀ x ∈ numbersOfItems items, Scalar.isFinite x = true) →
    (∀ x ∈ numbersOfItems items, Scalar.Wires x) →
    ∃ others, RereadItems (treeItems items) others ∧ ofTreeItems? others = some items ∧
      ∀ depth, Tree.readableItems depth others = decide (depthOfItems items ≤ depth)
  | [], _, _ => ⟨[], .nil, rfl, fun depth => (decide_eq_true (Nat.zero_le depth)).symm⟩
  | item :: rest, finite, exact => by
      obtain ⟨other, first, claimed, nested⟩ := tree_reread item (fun x member => finite x (List.mem_append_left _ member))
        fun x member => exact x (List.mem_append_left _ member)
      obtain ⟨others, later, restClaimed, restNested⟩ := treeItems_reread rest
        (fun x member => finite x (List.mem_append_right _ member)) fun x member => exact x (List.mem_append_right _ member)
      refine ⟨other :: others, .cons first later, ?_, fun depth => ?_⟩
      · rw [ofTreeItems?, claimed, restClaimed]
        rfl
      · rw [Tree.readableItems, nested, restNested, depthOfItems, ← Bool.decide_and]
        exact decide_eq_decide.mpr max_le_iff.symm
end

theorem read_write (value : Value R) (finite : ∀ x ∈ value.numbers, Scalar.isFinite x = true)
    (exact : ∀ x ∈ value.numbers, Scalar.Wires x) :
    read? value.write = if value.depth ≤ Tree.maxDepth then some value else none := by
  obtain ⟨other, reread, claimed, nested⟩ := tree_reread value finite exact
  rw [read?, write, Document.Json.read_write value.tree other reread, Option.bind_some, nested, claimed]
  simp

/-- A value of finite numbers is read back from its text, so the text is that of no other one. The numbers' own texts are
taken to stand for them. -/
theorem text_tells_the_value (value : Value R) (finite : ∀ x ∈ value.numbers, Scalar.isFinite x = true)
    (exact : ∀ x ∈ value.numbers, Scalar.Wires x) (shallow : value.depth ≤ Tree.maxDepth) :
    read? value.write = some value ∧
    ∀ other : Value R, (∀ x ∈ other.numbers, Scalar.isFinite x = true) → (∀ x ∈ other.numbers, Scalar.Wires x) →
      other.depth ≤ Tree.maxDepth → other.write = value.write → other = value := by
  have back : read? value.write = some value := by rw [read_write value finite exact, if_pos shallow]
  refine ⟨back, fun other otherFinite otherExact otherShallow same => ?_⟩
  have otherBack : read? other.write = some other := by rw [read_write other otherFinite otherExact, if_pos otherShallow]
  rw [same, back] at otherBack
  exact (Option.some.inj otherBack).symm

-- A state, negative zero, a text that looks like a list, and below another list a number with an exponent and nothing.
theorem text_tells_a_nested_value :
    let value : Value Float := .list [.bool true, .number (-0.0), .text "[\"]\n", .list [.number 1e300, .list [], .unit]]
    value.write = "[true,-0.0,\"[\\\"]\\n\",[1e+300,[],null]]" ∧ read? value.write = some value ∧
    ∀ other : Value Float, (∀ x ∈ other.numbers, Scalar.isFinite x = true) → (∀ x ∈ other.numbers, Scalar.Wires x) →
      other.depth ≤ Tree.maxDepth → other.write = value.write → other = value := by
  intro value
  have digits (c : Char) (cs : List Char) (all : (c :: cs).all Document.isDigit = true) :
      Document.Literal.Digits (c :: cs) := ⟨List.cons_ne_nil c cs, List.all_eq_true.mp all⟩
  have zero : Scalar.Wires (-0.0 : Float) := by
    refine fun _ => ⟨⟨true, ['0'], some ['0'], none⟩, ⟨.inl rfl, ?_, nofun⟩, by decide +kernel, by decide +kernel⟩
    rintro _ ⟨⟩
    exact digits '0' [] rfl
  have huge : Scalar.Wires (1e300 : Float) := by
    refine fun _ => ⟨⟨false, ['1'], none, some (false, ['3', '0', '0'])⟩,
      ⟨.inr ⟨digits '1' [] rfl, by decide⟩, nofun, ?_⟩, by decide +kernel, by decide +kernel⟩
    rintro _ _ ⟨⟩
    exact digits '3' ['0', '0'] rfl
  have exact : ∀ x ∈ value.numbers, Scalar.Wires x := by
    intro x member
    rcases List.mem_pair.mp member with rfl | rfl
    · exact zero
    · exact huge
  exact ⟨by decide +kernel, text_tells_the_value value (by decide +kernel) exact (by decide)⟩

end Workcell.Value
