import Workcell.Document.Tree

/-!
Materials and the stations that hold them. A station holds at most one material; the table is kept in the order of
the stations' names, and every change bumps its revision.
-/

set_option autoImplicit false

namespace Workcell

structure Material where
  id : String
  className : String
  deriving DecidableEq, Repr

structure MaterialTable where
  entries : List (String × Material)
  revision : Nat
  deriving DecidableEq, Repr

namespace MaterialTable

def empty : MaterialTable := ⟨[], 0⟩

def at? (table : MaterialTable) (station : String) : Option Material := table.entries.lookup station

def put (table : MaterialTable) (station : String) (material : Material) : MaterialTable :=
  ⟨Tree.insertField station material table.entries, table.revision + 1⟩

def clear (table : MaterialTable) (station : String) : MaterialTable :=
  ⟨table.entries.filter fun entry => !(entry.1 == station), table.revision + 1⟩

def take (table : MaterialTable) (station : String) : Option Material × MaterialTable :=
  match table.at? station with
  | some material => (some material, table.clear station)
  | none => (none, table)

end MaterialTable

end Workcell
