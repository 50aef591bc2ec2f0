import Workcell.Scalar

/-!
Documents: the trees that texts of either notation are read into and that wire texts are written from.

A leaf that follows the grammar but has no value here (a number beyond the range, text with half of a surrogate
pair) is kept as `unreadable`: it is refused where its value is asked for and passes where it is ignored.
-/

set_option autoImplicit false

namespace Workcell

inductive Tree (R : Type) where
  | null
  | bool (b : Bool)
  | int (i : Int)
  | number (x : R)
  | text (s : String)
  | list (items : List (Tree R))
  | record (fields : List (String × Tree R))
  | unreadable

namespace Tree

-- How deep lists and records may be nested where a whole tree is asked for.
def maxDepth : Nat := 127

variable {R : Type}

instance : Inhabited (Tree R) := ⟨.null⟩

mutual
def readable : (depth : Nat) → Tree R → Bool
  | _, .unreadable => false
  | 0, .list _ => false
  | 0, .record _ => false
  | depth + 1, .list items => readableItems depth items
  | depth + 1, .record fields => readableFields depth fields
  | _, _ => true

def readableItems : (depth : Nat) → List (Tree R) → Bool
  | _, [] => true
  | depth, item :: rest => readable depth item && readableItems depth rest

def readableFields : (depth : Nat) → List (String × Tree R) → Bool
  | _, [] => true
  | depth, (_, item) :: rest => readable depth item && readableFields depth rest
end

def insertField {A : Type} (name : String) (value : A) : List (String × A) → List (String × A)
  | [] => [(name, value)]
  | (other, old) :: rest =>
      if name = other then (name, value) :: rest
      else if name < other then (name, value) :: (other, old) :: rest
      else (other, old) :: insertField name value rest

-- A table ordered by name; of several fields with one name the last counts.
def orderFields {A : Type} (fields : List (String × A)) : List (String × A) :=
  fields.foldl (fun table field => insertField field.1 field.2 table) []

mutual
def ordered : Tree R → Tree R
  | .list items => .list (orderedItems items)
  | .record fields => .record (orderFields (orderedFields fields))
  | other => other

def orderedItems : List (Tree R) → List (Tree R)
  | [] => []
  | item :: rest => ordered item :: orderedItems rest

def orderedFields : List (String × Tree R) → List (String × Tree R)
  | [] => []
  | (name, item) :: rest => (name, ordered item) :: orderedFields rest
end

def field? (name : String) : Tree R → Option (Tree R)
  | .record fields => fields.lookup name
  | _ => none

end Tree

end Workcell
