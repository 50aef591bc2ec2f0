import Workcell.Document.Tree

/-!
Tables of a configuration text while it is read.

A table is begun by its own header, implied by the header of a table inside it, or implied by a dotted key. A header
may follow for a table that headers alone implied, a dotted key may add to one that dotted keys alone began, and no
key is given twice.
-/

set_option autoImplicit false

namespace Workcell.Document.Toml

inductive Origin where
  | header
  | impliedByHeader
  | impliedByKey
  deriving DecidableEq, Repr

inductive Node (R : Type) where
  | value (tree : Tree R)
  | table (origin : Origin) (entries : List (String × Node R))
  | tables (elements : List (List (String × Node R)))

variable {R : Type}

abbrev Entries (R : Type) := List (String × Node R)

def replaceEntry (name : String) (node : Node R) : Entries R → Entries R
  | [] => [(name, node)]
  | (other, old) :: rest => if other = name then (name, node) :: rest else (other, old) :: replaceEntry name node rest

-- Puts `tree` under `name` below the tables of `path`. `fits` says whether the table reached takes the entry.
def putDotted (tree : Tree R) (name : String) : (path : List String) → (fits : Bool) → Entries R → Option (Entries R)
  | [], fits, entries =>
      if fits && (entries.lookup name).isNone then some (entries ++ [(name, .value tree)]) else none
  | step :: path, _, entries =>
      match entries.lookup step with
      | none => (putDotted tree name path true []).map fun inner => entries ++ [(step, .table .impliedByKey inner)]
      | some (.table .header _) => none
      | some (.table origin inner) =>
          (putDotted tree name path (decide (origin = .impliedByKey)) inner).map fun inner =>
            replaceEntry step (.table origin inner) entries
      | some (.tables elements) =>
          match elements.getLast? with
          | some last =>
              (putDotted tree name path false last).map fun last =>
                replaceEntry step (.tables (elements.dropLast ++ [last])) entries
          | none => none
      | some (.value _) => none

-- Changes the entries of the table that a header's path leads to: of several tables under one name the last.
def within (change : Entries R → Option (Entries R)) : (path : List String) → Entries R → Option (Entries R)
  | [], entries => change entries
  | step :: path, entries =>
      match entries.lookup step with
      | none => (within change path []).map fun inner => entries ++ [(step, .table .impliedByHeader inner)]
      | some (.table origin inner) =>
          (within change path inner).map fun inner => replaceEntry step (.table origin inner) entries
      | some (.tables elements) =>
          match elements.getLast? with
          | some last =>
              (within change path last).map fun last =>
                replaceEntry step (.tables (elements.dropLast ++ [last])) entries
          | none => none
      | some (.value _) => none

def beginTable (name : String) (entries : Entries R) : Option (Entries R) :=
  match entries.lookup name with
  | none => some (entries ++ [(name, .table .header [])])
  | some (.table .impliedByHeader inner) => some (replaceEntry name (.table .header inner) entries)
  | some _ => none

def beginElement (name : String) (entries : Entries R) : Option (Entries R) :=
  match entries.lookup name with
  | none => some (entries ++ [(name, .tables [[]])])
  | some (.tables elements) => some (replaceEntry name (.tables (elements ++ [[]])) entries)
  | some _ => none

mutual
def Node.tree : Node R → Tree R
  | .value tree => tree
  | .table _ entries => .record (entriesTree entries)
  | .tables elements => .list (elementsTree elements)

def entriesTree : Entries R → List (String × Tree R)
  | [] => []
  | (name, node) :: rest => (name, node.tree) :: entriesTree rest

def elementsTree : List (Entries R) → List (Tree R)
  | [] => []
  | entries :: rest => .record (entriesTree entries) :: elementsTree rest
end

end Workcell.Document.Toml
