import Workcell.Proofs.Session.Sampling

/-!
Tables ordered by name: each name stands in them once, so what a table holds under a name is what it says of it. Banks
keep their indexes in this order, and a sample finds one value for each registered device.
-/

set_option autoImplicit false

namespace Workcell

namespace Tree

variable {A : Type}

def Ordered (fields : List (String × A)) : Prop := fields.Pairwise fun first second => first.1 < second.1

theorem ordered_insert (name : String) (value : A) (fields : List (String × A)) (ordered : Ordered fields) :
    Ordered (insertField name value fields) := by
  induction fields with
  | nil => simp [insertField, Ordered]
  | cons field rest ih =>
      obtain ⟨other, old⟩ := field
      obtain ⟨above, later⟩ := List.pairwise_cons.mp ordered
      by_cases same : name = other
      · subst other
        rw [insertField, if_pos rfl]
        exact List.pairwise_cons.mpr ⟨above, later⟩
      · by_cases before : name < other
        · rw [insertField, if_neg same, if_pos before]
          refine List.pairwise_cons.mpr ⟨?_, ordered⟩
          intro entry member
          rcases List.mem_cons.mp member with rfl | inside
          · exact before
          · exact String.lt_trans before (above entry inside)
        · rw [insertField, if_neg same, if_neg before]
          have after : other < name := Std.lt_of_le_of_ne (String.not_lt.mp before) (Ne.symm same)
          refine List.pairwise_cons.mpr ⟨?_, ih later⟩
          intro entry member
          rcases mem_insert name value rest entry member with rfl | inside
          · exact after
          · exact above entry inside

theorem ordered_fold (fields table : List (String × A)) (ordered : Ordered table) :
    Ordered (fields.foldl (fun table field => insertField field.1 field.2 table) table) := by
  induction fields generalizing table with
  | nil => exact ordered
  | cons field rest ih => exact ih _ (ordered_insert field.1 field.2 table ordered)

theorem ordered_order (fields : List (String × A)) : Ordered (orderFields fields) :=
  ordered_fold fields [] List.Pairwise.nil

theorem lookup_of_mem (fields : List (String × A)) (ordered : Ordered fields) (name : String) (value : A)
    (member : (name, value) ∈ fields) : fields.lookup name = some value := by
  induction fields with
  | nil => cases member
  | cons field rest ih =>
      obtain ⟨other, old⟩ := field
      obtain ⟨above, later⟩ := List.pairwise_cons.mp ordered
      rcases List.mem_cons.mp member with first | inside
      · cases first
        simp
      · have before : other < name := above (name, value) inside
        have differs : (name == other) = false := by
          simpa using fun same : name = other => String.lt_irrefl other (same ▸ before)
        rw [List.lookup_cons, differs]
        exact ih later inside

-- Fields put into a table leave it with the one value that they have for a name, or with its own.
theorem lookup_fold (name : String) (value : A) (fields table : List (String × A))
    (only : ∀ entry ∈ fields, entry.1 = name → entry.2 = value)
    (known : (name, value) ∈ fields ∨ table.lookup name = some value) :
    (fields.foldl (fun table field => insertField field.1 field.2 table) table).lookup name = some value := by
  induction fields generalizing table with
  | nil => exact known.resolve_left List.not_mem_nil
  | cons field rest ih =>
      apply ih _ fun entry member => only entry (List.mem_cons_of_mem _ member)
      by_cases same : field.1 = name
      · right
        have first : field.2 = value := only field List.mem_cons_self same
        simp only [same, first, lookup_insert_self]
      · rcases known with member | before
        · rcases List.mem_cons.mp member with rfl | later
          · exact absurd rfl same
          · exact Or.inl later
        · right
          rw [lookup_insert_other _ _ _ _ (Ne.symm same)]
          exact before

end Tree

namespace Bank

variable {D : Type}

def Ordered (bank : Bank D) : Prop := Tree.Ordered bank.index

theorem ordered_add (bank : Bank D) (id : String) (device : D) (ordered : bank.Ordered) : (bank.add id device).Ordered :=
  Tree.ordered_insert id bank.slots.length bank.index ordered

theorem found_of_registered (bank : Bank D) (ordered : bank.Ordered) (id : String) (handle : Nat) (device : D)
    (member : (id, handle, device) ∈ bank.registered) : bank.find? id = some (handle, device) := by
  obtain ⟨indexed, present⟩ := (bank.mem_registered id handle device).mp member
  have named : bank.handle? id = some handle := Tree.lookup_of_mem bank.index ordered id handle indexed
  simp [find?, named, present]

theorem registered_of_found (bank : Bank D) (id : String) (handle : Nat) (device : D)
    (found : bank.find? id = some (handle, device)) : (id, handle, device) ∈ bank.registered := by
  obtain ⟨slot, named, held⟩ := Option.bind_eq_some_iff.mp found
  obtain ⟨other, present, same⟩ := Option.map_eq_some_iff.mp held
  cases same
  exact (bank.mem_registered id handle device).mpr ⟨HandlerTable.mem_of_lookup id handle _ named, present⟩

end Bank

variable {R : Type} [Scalar R]

namespace Actuator

-- What frames show of an actuator: one while it is at rest at on, else zero.
def shown (actuator : Actuator R) : R := if actuator.state.settledAt true then Scalar.one else Scalar.zero

end Actuator

namespace Sampler

theorem values_ordered (cell : Cell R) : Tree.Ordered (values cell) := Tree.ordered_order _

theorem actuator_value (cell : Cell R) (ordered : cell.actuators.Ordered) (id : String) (handle : Nat)
    (actuator : Actuator R) (found : cell.actuators.find? id = some (handle, actuator)) :
    (values cell).lookup id = some actuator.shown := by
  have member := cell.actuators.registered_of_found id handle actuator found
  unfold values Tree.orderFields
  -- The actuators come last, so nothing that the axes have under this id is left.
  rw [List.foldl_append]
  apply Tree.lookup_fold
  · intro entry inside same
    obtain ⟨⟨name, slot, other⟩, registered, rfl⟩ := List.mem_map.mp inside
    subst same
    have again := cell.actuators.found_of_registered ordered _ _ _ registered
    rw [found] at again
    cases again
    rfl
  · exact Or.inl (List.mem_map.mpr ⟨_, member, rfl⟩)

theorem axis_value (cell : Cell R) (axes : cell.axes.Ordered) (actuators : cell.actuators.Ordered) (id : String)
    (handle : Nat) (axis : Axis R) (found : cell.axes.find? id = some (handle, axis))
    (alone : cell.actuators.find? id = none) : (values cell).lookup id = some axis.state.position := by
  have member := cell.axes.registered_of_found id handle axis found
  unfold values Tree.orderFields
  apply Tree.lookup_fold
  · intro entry inside same
    rcases List.mem_append.mp inside with first | second
    · obtain ⟨⟨name, slot, other⟩, registered, rfl⟩ := List.mem_map.mp first
      subst same
      have again := cell.axes.found_of_registered axes _ _ _ registered
      rw [found] at again
      cases again
      rfl
    · obtain ⟨⟨name, slot, other⟩, registered, rfl⟩ := List.mem_map.mp second
      subst same
      have taken := cell.actuators.found_of_registered actuators _ _ _ registered
      rw [alone] at taken
      cases taken
  · exact Or.inl (List.mem_append_left _ (List.mem_map.mpr ⟨_, member, rfl⟩))

end Sampler

end Workcell
