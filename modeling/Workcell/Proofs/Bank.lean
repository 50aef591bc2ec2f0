import Workcell.Cell.Basic

/-!
Tables ordered by name, and the banks of devices that are kept in them: what registering a device and putting it into
its slot does to the others.
-/

set_option autoImplicit false

namespace Workcell

namespace Tree

theorem lookup_insert_self {A : Type} (name : String) (value : A) (fields : List (String × A)) :
    (insertField name value fields).lookup name = some value := by
  induction fields with
  | nil => simp [insertField]
  | cons field rest ih =>
      obtain ⟨other, old⟩ := field
      by_cases same : name = other
      · simp [insertField, same]
      · by_cases before : name < other
        · simp [insertField, same, before]
        · have differs : (name == other) = false := by simpa using same
          simp only [insertField, if_neg same, if_neg before, List.lookup_cons, differs]
          exact ih

theorem lookup_insert_other {A : Type} (name query : String) (value : A) (fields : List (String × A))
    (different : query ≠ name) : (insertField name value fields).lookup query = fields.lookup query := by
  have differs : (query == name) = false := by simpa using different
  induction fields with
  | nil => simp [insertField, List.lookup_cons, differs]
  | cons field rest ih =>
      obtain ⟨other, old⟩ := field
      by_cases same : name = other
      · subst other
        simp [insertField, List.lookup_cons, differs]
      · by_cases before : name < other
        · simp [insertField, same, before, List.lookup_cons, differs]
        · simp [insertField, same, before, List.lookup_cons, ih]

theorem mem_insert {A : Type} (name : String) (value : A) (fields : List (String × A)) (entry : String × A)
    (member : entry ∈ insertField name value fields) : entry = (name, value) ∨ entry ∈ fields := by
  induction fields with
  | nil => exact Or.inl (List.mem_singleton.mp member)
  | cons field rest ih =>
      obtain ⟨other, old⟩ := field
      rw [insertField] at member
      split at member
      · rcases List.mem_cons.mp member with new | later
        · exact Or.inl new
        · exact Or.inr (List.mem_cons_of_mem _ later)
      · split at member
        · rcases List.mem_cons.mp member with new | later
          · exact Or.inl new
          · exact Or.inr later
        · rcases List.mem_cons.mp member with first | later
          · exact Or.inr (first ▸ List.mem_cons_self)
          · exact (ih later).imp_right fun inside => List.mem_cons_of_mem _ inside

end Tree

namespace Bank

variable {D : Type}

def Has (bank : Bank D) (id : String) : Prop :=
  ∃ handle device, bank.handle? id = some handle ∧ bank.get? handle = some device

def Registered (bank : Bank D) (handle : Nat) : Prop := ∃ id, (id, handle) ∈ bank.index

def Grown (before after : Bank D) : Prop := ∀ id, before.Has id → after.Has id

theorem grown_set (bank : Bank D) (handle : Nat) (device : D) : Grown bank (bank.set handle device) := by
  rintro id ⟨slot, old, registered, present⟩
  by_cases same : handle = slot
  · subst slot
    have inside : handle < bank.slots.length := (List.getElem?_eq_some_iff.mp present).1
    exact ⟨handle, device, registered, by simp [get?, set, inside]⟩
  · exact ⟨slot, old, registered, by simpa [get?, set, List.getElem?_set_ne same] using present⟩

theorem has_added (bank : Bank D) (id : String) (device : D) : (bank.add id device).Has id :=
  ⟨bank.slots.length, device, Tree.lookup_insert_self id _ _, by simp [get?, add]⟩

theorem grown_add (bank : Bank D) (id : String) (device : D) : Grown bank (bank.add id device) := by
  rintro other ⟨slot, old, registered, present⟩
  by_cases same : other = id
  · subst other
    exact has_added bank id device
  · refine ⟨slot, old, ?_, ?_⟩
    · exact (Tree.lookup_insert_other id other _ _ same).trans registered
    · exact (List.getElem?_append_left (List.getElem?_eq_some_iff.mp present).1).trans present

theorem mem_registered (bank : Bank D) (id : String) (handle : Nat) (device : D) :
    (id, handle, device) ∈ bank.registered ↔ (id, handle) ∈ bank.index ∧ bank.get? handle = some device := by
  unfold registered
  rw [List.mem_filterMap]
  constructor
  · rintro ⟨⟨name, slot⟩, member, found⟩
    obtain ⟨other, present, same⟩ := Option.map_eq_some_iff.mp found
    cases same
    exact ⟨member, present⟩
  · rintro ⟨member, present⟩
    exact ⟨(id, handle), member, by simp [present]⟩

theorem get_set {bank : Bank D} {handle : Nat} {old : D} (there : bank.get? handle = some old) (device : D) :
    (bank.set handle device).get? handle = some device := by
  have inside : handle < bank.slots.length := (List.getElem?_eq_some_iff.mp there).1
  simp [get?, set, inside]

theorem get_of_set (bank : Bank D) (slot handle : Nat) (device found : D)
    (present : (bank.set slot device).get? handle = some found) :
    (handle = slot ∧ found = device) ∨ (handle ≠ slot ∧ bank.get? handle = some found) := by
  unfold get? set at present
  rw [List.getElem?_set] at present
  by_cases same : slot = handle
  · rw [if_pos same] at present
    split at present
    · cases present
      exact Or.inl ⟨same.symm, rfl⟩
    · cases present
  · rw [if_neg same] at present
    exact Or.inr ⟨Ne.symm same, present⟩

theorem of_added (bank : Bank D) (id : String) (device found : D) (handle : Nat)
    (registered : (bank.add id device).Registered handle) (present : (bank.add id device).get? handle = some found) :
    found = device ∨ (bank.Registered handle ∧ bank.get? handle = some found) := by
  unfold get? add at present
  by_cases inside : handle < bank.slots.length
  · rw [List.getElem?_append_left inside] at present
    obtain ⟨name, member⟩ := registered
    rcases Tree.mem_insert _ _ _ _ member with new | old
    · cases new
      exact absurd inside (Nat.lt_irrefl _)
    · exact Or.inr ⟨⟨name, old⟩, present⟩
  · rw [List.getElem?_append_right (Nat.le_of_not_lt inside)] at present
    exact Or.inl (by simpa using List.mem_of_getElem? present)

end Bank

end Workcell
