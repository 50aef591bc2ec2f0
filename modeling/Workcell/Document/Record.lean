import Workcell.Document.Tree

/-!
Reading typed records out of documents.

A record is given by its named fields, unknown names being ignored and a known name given twice refused, or by a
list of its fields in order. The two notations differ in small ways, which the dialect names.
-/

set_option autoImplicit false

namespace Workcell.Document

inductive Dialect where
  | json
  | toml
  deriving DecidableEq, Repr

def Dialect.allowsSurplus : Dialect → Bool
  | .json => false
  | .toml => true

variable {R : Type}

-- What stands beside the name of a variant that carries nothing.
def Dialect.isNothing : Dialect → Tree R → Bool
  | .json, .null => true
  | .toml, .list [] => true
  | .toml, .record [] => true
  | _, _ => false

def fieldsOf (dialect : Dialect) (names : List String) : Tree R → Option (List (String × Tree R))
  | .record fields =>
      let known := fields.filter fun field => names.contains field.1
      if names.all fun name => decide ((known.filter fun field => field.1 == name).length ≤ 1) then some known
      else none
  | .list items =>
      if items.length ≤ names.length ∨ dialect.allowsSurplus then some (names.zip items) else none
  | _ => none

variable {A : Type}

def required (name : String) (decode : Tree R → Option A) (fields : List (String × Tree R)) : Option A :=
  match fields.lookup name with
  | some tree => decode tree
  | none => none

def defaulted (name : String) (absent : A) (decode : Tree R → Option A) (fields : List (String × Tree R)) :
    Option A :=
  match fields.lookup name with
  | some tree => decode tree
  | none => some absent

def optional (decode : Tree R → Option A) : Tree R → Option (Option A)
  | .null => some none
  | tree => (decode tree).map some

def asText : Tree R → Option String
  | .text s => some s
  | _ => none

def asNat (limit : Nat) : Tree R → Option Nat
  | .int i => if 0 ≤ i ∧ i < limit then some i.toNat else none
  | _ => none

def asList (decode : Tree R → Option A) : Tree R → Option (List A)
  | .list items => items.mapM decode
  | _ => none

def asNumber [Scalar R] : Tree R → Option R
  | .int i => some (if 0 ≤ i then Scalar.ofNat i.toNat else Scalar.negate (Scalar.ofNat i.natAbs))
  | .number x => some x
  | _ => none

-- A variant without contents: its name, or a record of its name and nothing.
def asVariant (dialect : Dialect) (named : String → Option A) : Tree R → Option A
  | .text s => named s
  | .record [(s, tree)] => if dialect.isNothing tree then named s else none
  | _ => none

end Workcell.Document
