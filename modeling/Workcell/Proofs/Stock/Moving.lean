import Mathlib.Data.List.Basic
import Workcell.Proofs.Stock.Accounted

/-!
Materials on the move. A material taken from one station is put down at another, and one that stood there before is off the
table, with no event that tells of it. All others stay where they are.
-/

set_option autoImplicit false

namespace Workcell

namespace Tree

variable {A : Type}

-- A name stands in an ordered table once, so without it one field less is left at most.
theorem perm_without (name : String) (fields : List (String × A)) (ordered : Ordered fields) :
    ((fields.lookup name).toList ++ (fields.filter fun field => !(field.1 == name)).map Prod.snd).Perm
      (fields.map Prod.snd) := by
  induction fields with
  | nil => simp
  | cons field rest ih =>
      obtain ⟨other, value⟩ := field
      obtain ⟨above, later⟩ := List.pairwise_cons.mp ordered
      by_cases here : other = name
      · subst other
        have others : rest.filter (fun field => !(field.1 == name)) = rest := List.filter_eq_self.mpr fun entry member => by
          simpa using fun same : entry.1 = name => String.lt_irrefl name (same ▸ above entry member)
        simp [others]
      · have differs : (name == other) = false := by simpa using Ne.symm here
        rw [List.lookup_cons, differs, List.filter_cons_of_pos (by simpa using here), List.map_cons, List.map_cons]
        exact List.perm_middle.trans ((ih later).cons value)

theorem perm_insert (name : String) (value : A) (fields : List (String × A)) (ordered : Ordered fields) :
    ((fields.lookup name).toList ++ (insertField name value fields).map Prod.snd).Perm (value :: fields.map Prod.snd) := by
  induction fields with
  | nil => simp [insertField]
  | cons field rest ih =>
      obtain ⟨other, old⟩ := field
      obtain ⟨above, later⟩ := List.pairwise_cons.mp ordered
      by_cases same : name = other
      · subst other
        rw [insertField, if_pos rfl, List.lookup_cons_self]
        exact List.Perm.swap value old _
      · have differs : (name == other) = false := by simpa using same
        by_cases before : name < other
        · have absent : rest.lookup name = none := List.lookup_eq_none_iff.mpr fun entry member => by
            simpa using fun named : name = entry.1 =>
              String.lt_irrefl name (String.lt_trans before (named ▸ above entry member))
          rw [insertField, if_neg same, if_pos before, List.lookup_cons, differs]
          simp [absent]
        · rw [insertField, if_neg same, if_neg before, List.lookup_cons, differs]
          exact List.perm_middle.trans (((ih later).cons old).trans (List.Perm.swap value old _))

end Tree

namespace MaterialTable

def materials (table : MaterialTable) : List Material := table.entries.map Prod.snd

-- What comes of an empty table as materials are put down and taken up.
inductive Reached : MaterialTable → Prop where
  | empty : Reached .empty
  | put {table} (station : String) (material : Material) (before : Reached table) : Reached (table.put station material)
  | take {table} (station : String) (before : Reached table) : Reached (table.take station).2

theorem Reached.ordered {table : MaterialTable} (reached : table.Reached) : table.Ordered := by
  induction reached with
  | empty => exact List.Pairwise.nil
  | put station material before ih => exact ordered_put _ station material ih
  | @take table station before ih =>
      unfold MaterialTable.take
      cases table.at? station with
      | none => exact ih
      | some material => exact ordered_clear _ station ih

-- What a material that comes to `destination` from `source` takes the place of.
def displaced (table : MaterialTable) (source destination : String) : List Material :=
  if destination = source then [] else (table.at? destination).toList

-- A material has gone from one station to another.
structure Moved (source destination : String) (material : Material) (before after : MaterialTable) : Prop where
  stood : before.at? source = some material
  stands : after.at? destination = some material
  left : source ≠ destination → after.at? source = none
  others : ∀ station, station ≠ source → station ≠ destination → after.at? station = before.at? station
  kept : (before.displaced source destination ++ after.materials).Perm before.materials

theorem moved (table : MaterialTable) (ordered : table.Ordered) (source destination : String) (material : Material)
    (stands : table.at? source = some material) :
    Moved source destination material table ((table.clear source).put destination material) where
  stood := stands
  stands := by rw [at_put, Function.update_self]
  left apart := by rw [at_put, Function.update_of_ne apart, at_clear, Function.update_self]
  others station notSource notDestination := by
    rw [at_put, Function.update_of_ne notDestination, at_clear, Function.update_of_ne notSource]
  kept := by
    have without : (material :: (table.clear source).materials).Perm table.materials := by
      have cleared := Tree.perm_without source table.entries ordered
      rwa [show table.entries.lookup source = some material from stands] at cleared
    have displaces : table.displaced source destination = ((table.clear source).at? destination).toList := by
      rw [displaced, at_clear]
      by_cases same : destination = source
      · rw [if_pos same, same, Function.update_self, Option.toList_none]
      · rw [if_neg same, Function.update_of_ne same]
    rw [displaces]
    exact (Tree.perm_insert destination material _ (table.ordered_clear source ordered)).trans without

theorem Moved.lossless_iff {source destination : String} {material : Material} {before after : MaterialTable}
    (moved : Moved source destination material before after) :
    after.materials.Perm before.materials ↔ destination = source ∨ before.at? destination = none := by
  have nothing : before.displaced source destination = [] ↔ destination = source ∨ before.at? destination = none := by
    rw [displaced]
    by_cases same : destination = source
    · simp [same]
    · simp [same]
  rw [← nothing]
  constructor
  · intro same
    have counted := moved.kept.length_eq
    rw [List.length_append, same.length_eq] at counted
    exact List.eq_nil_of_length_eq_zero (by omega)
  · intro bare
    have kept := moved.kept
    rwa [bare, List.nil_append] at kept

end MaterialTable

variable {R : Type}

def Cell.Handed (before after : Cell R) : Prop := before.materials.Reached → after.materials.Reached

namespace Cell.Handed

theorem of_same (before after : Cell R) (materials : after.materials = before.materials) : Handed before after :=
  fun reached => materials ▸ reached

theorem placing : Placing (R := R) Handed where
  refl _ reached := reached
  trans _ _ _ before after reached := after (before reached)
  putAxis cell handle before after := of_same _ _ (cell.put_axis_keeps handle before after).2.2.1
  putActuator cell handle before after := of_same _ _ (cell.put_actuator_keeps handle before after).2.2.1
  effect _ _ := of_same _ _ rfl

variable [Scalar R]

theorem basis : Basis (R := R) Handed where
  refl := placing.refl
  trans := placing.trans
  timer _ _ := of_same _ _ rfl
  assign _ _ _ := of_same _ _ rfl
  ids _ _ := of_same _ _ rfl
  put _ station material reached := reached.put station material
  take _ station reached := reached.take station
  event _ _ _ := of_same _ _ rfl
  addAxis _ _ _ _ _ _ := of_same _ _ rfl
  addActuator _ _ _ _ _ _ := of_same _ _ rfl
  stopAxis := placing.stop_axis
  stopActuator := placing.stop_actuator

theorem life (others : Cell R → Cell R → Prop) (outside : ∀ before after, others before after → Handed before after)
    (step : Step R) (cell : Cell R) (reached : cell.materials.Reached) (woken : List Nat) (progress : Progress R)
    (after : Cell R) (lived : Life .standard others (.fresh step) cell woken progress after) :
    after.materials.Reached := by
  have law : Upkeep (R := R) .standard (fun _ => True) (fun _ => True) fun _ cell => cell.materials.Reached :=
    basis.upkeep (fun _ _ _ _ _ _ => of_same _ _ rfl) _
      (fun cell call handler _ resolved =>
        Action.standard_within placing.command_axis placing.fire_actuator basis cell call handler resolved)
      _ _ (fun _ _ handed => handed) (fun _ _ => trivial) fun _ _ _ => trivial
  have kept := law.life_keeps others (fun _ before after changed => outside before after changed) step
    (every_of_all _ (fun _ => trivial) step) cell reached woken progress after lived
  cases progress with
  | done value => exact kept
  | fault fault => exact kept.1
  | panicked message => exact kept
  | pending run => exact kept.1

end Cell.Handed

-- An operation has moved a material from `source` to `destination`, answers with its id and tells of it by one event.
def Cell.Carried (source destination : String) (event : Material → Event R) (before : Cell R) (reply : Reply R)
    (after : Cell R) : Prop :=
  ∃ material, reply = .value (.text material.id) ∧ after.events = before.events ++ [event material] ∧
    MaterialTable.Moved source destination material before.materials after.materials ∧
    (after.materials.materials.Perm before.materials.materials ↔
      destination = source ∨ before.materials.at? destination = none)

-- What attaching and detaching have in common, each with its own event.
theorem Action.carry_apply (source destination : String) (event : Material → Event R) (cell after : Cell R)
    (reply : Reply R) (reached : cell.materials.Reached)
    (ended : (do
      let material ← Stock.take source
      Act.tell fun cell => (cell.putMaterial destination material).pushEvent (event material)
      Act.yield (.text material.id) : Act R (Reply R)) cell = (.ok reply, after)) :
    cell.Carried source destination event reply after := by
  rw [Act.bind_apply, take_apply] at ended
  cases stands : cell.materials.at? source with
  | none =>
      rw [stands] at ended
      cases ended
  | some material =>
      rw [stands] at ended
      cases ended
      have moved := cell.materials.moved reached.ordered source destination material stands
      exact ⟨material, rfl, rfl, moved, moved.lossless_iff⟩

variable [Scalar R]

/-- Attaching and detaching move one material and leave the others where they are, but for one that stands at the
destination: it is gone, and the one event does not tell of it. So no material is lost just when the destination is empty
or the station that the material comes from. -/
theorem moves_lose_only_what_they_displace (cell : Cell R) (reached : cell.materials.Reached) (call : Call R)
    (reply : Reply R) (after : Cell R) :
    (Action.Stock.attach call cell = (.ok reply, after) → ∃ holder source, call.text 0 "holder" = .ok holder ∧
      call.text 1 "source" = .ok source ∧ cell.Carried source holder (.attach holder source) reply after) ∧
    (Action.Stock.detach call cell = (.ok reply, after) → ∃ holder target, call.text 0 "holder" = .ok holder ∧
      call.text 1 "target" = .ok target ∧ cell.Carried holder target (.detach holder target) reply after) := by
  constructor
  · intro ended
    rw [Action.Stock.attach] at ended
    cases holds : call.text 0 "holder" with
    | error fault =>
        rw [holds] at ended
        cases ended
    | ok holder =>
        cases comes : call.text 1 "source" with
        | error fault =>
            rw [holds, comes] at ended
            cases ended
        | ok source =>
            rw [holds, comes] at ended
            exact ⟨holder, source, rfl, rfl, Action.carry_apply source holder _ cell after reply reached ended⟩
  · intro ended
    rw [Action.Stock.detach] at ended
    cases holds : call.text 0 "holder" with
    | error fault =>
        rw [holds] at ended
        cases ended
    | ok holder =>
        cases goes : call.text 1 "target" with
        | error fault =>
            rw [holds, goes] at ended
            cases ended
        | ok target =>
            rw [holds, goes] at ended
            exact ⟨holder, target, rfl, rfl, Action.carry_apply holder target _ cell after reply reached ended⟩

def boltAndNut : Cell Rat := (gripperCell.putMaterial "left" ⟨"a", "bolt"⟩).putMaterial "right" ⟨"b", "nut"⟩

def gripNut : Call Rat := ⟨systemName, .attach, [.literal (.text "gripper"), .literal (.text "right")], none⟩

theorem bolt_stays_when_nut_is_gripped :
    boltAndNut.materials.Reached ∧ ∃ reply after, Action.Stock.attach gripNut boltAndNut = (.ok reply, after) ∧
      after.materials.entries = [("gripper", ⟨"b", "nut"⟩), ("left", ⟨"a", "bolt"⟩)] ∧
      after.materials.materials.Perm boltAndNut.materials.materials := by
  have reached : boltAndNut.materials.Reached := (MaterialTable.Reached.empty.put "left" _).put "right" _
  refine ⟨reached, _, _, rfl, by decide, ?_⟩
  obtain ⟨holder, source, holds, -, material, -, -, -, lossless⟩ :=
    (moves_lose_only_what_they_displace boltAndNut reached gripNut _ _).1 rfl
  cases holds
  exact lossless.mpr (.inr rfl)

-- Moving the nut onto the bolt: the bolt is gone.
theorem bolt_is_lost_under_nut : ∃ (cell after : Cell Rat) (call : Call Rat) (reply : Reply Rat),
    cell.materials.Reached ∧ Action.Stock.attach call cell = (.ok reply, after) ∧
      cell.materials.materials = [⟨"a", "bolt"⟩, ⟨"b", "nut"⟩] ∧ after.materials.materials = [⟨"b", "nut"⟩] :=
  ⟨boltAndNut, _, ⟨systemName, .attach, [.literal (.text "left"), .literal (.text "right")], none⟩, _,
    (MaterialTable.Reached.empty.put "left" _).put "right" _, rfl, by decide, by decide⟩

end Workcell
