import Workcell.Document.Tree

/-!
Catalogs: things registered under names, each name once, listed in the order of the names.
-/

set_option autoImplicit false

namespace Workcell

structure Catalog (A : Type) where
  entries : List (String × A)

namespace Catalog

variable {A : Type}

def empty : Catalog A := ⟨[]⟩

def names (catalog : Catalog A) : List String := catalog.entries.map Prod.fst

def find? (catalog : Catalog A) (name : String) : Option A := catalog.entries.lookup name

def register (catalog : Catalog A) (name : String) (entry : A) : Option (Catalog A) :=
  match catalog.find? name with
  | some _ => none
  | none => some ⟨Tree.insertField name entry catalog.entries⟩

end Catalog

end Workcell
