import Mathlib.Data.List.Nodup

/-!
Motions that are still carried out. Each of them was begun at a generation of its own, and none at a later one than the
device has come to: as soon as the generation moves on, all that are left have been superseded.
-/

set_option autoImplicit false

namespace Workcell

structure Outstanding {E : Type} (generation : E → Nat) (last : Nat) (entries : List E) : Prop where
  past : ∀ entry ∈ entries, generation entry ≤ last
  single : (entries.map generation).Nodup

namespace Outstanding

variable {E : Type} {generation : E → Nat} {last : Nat} {entries : List E}

theorem nothing : Outstanding generation last [] := ⟨fun _ member => absurd member List.not_mem_nil, List.nodup_nil⟩

theorem superseded (outstanding : Outstanding generation last entries) (entry : E) (member : entry ∈ entries) :
    generation entry ≠ last + 1 := by
  have bound := outstanding.past entry member
  omega

theorem moved_on (outstanding : Outstanding generation last entries) : Outstanding generation (last + 1) entries where
  past entry member := Nat.le_succ_of_le (outstanding.past entry member)
  single := outstanding.single

theorem begun (outstanding : Outstanding generation last entries) (fresh : E) (own : generation fresh = last + 1) :
    Outstanding generation (last + 1) (entries ++ [fresh]) where
  past := by
    intro entry member
    rcases List.mem_append.mp member with old | new
    · exact outstanding.moved_on.past entry old
    · exact Nat.le_of_eq (List.mem_singleton.mp new ▸ own)
  single := by
    rw [List.map_append, List.nodup_append]
    refine ⟨outstanding.single, by simp, ?_⟩
    intro taken member other new
    obtain ⟨entry, listed, rfl⟩ := List.mem_map.mp member
    rw [List.mem_singleton.mp new, own]
    exact outstanding.superseded entry listed

theorem removed (outstanding : Outstanding generation last entries) (index : Nat) :
    Outstanding generation last (entries.eraseIdx index) where
  past entry member := outstanding.past entry (List.mem_of_mem_eraseIdx member)
  single := outstanding.single.sublist ((List.eraseIdx_sublist _ _).map _)

theorem others_differ (outstanding : Outstanding generation last entries) (index : Nat) (entry : E)
    (present : entries[index]? = some entry) (other : E) (member : other ∈ entries.eraseIdx index) :
    generation other ≠ generation entry := by
  obtain ⟨place, different, found⟩ := List.mem_eraseIdx_iff_getElem?.mp member
  have inside : place < (entries.map generation).length := by
    simpa using (List.getElem?_eq_some_iff.mp found).1
  intro same
  exact different ((List.getElem?_inj inside outstanding.single).mp (by simp [found, present, same]))

end Outstanding

end Workcell
