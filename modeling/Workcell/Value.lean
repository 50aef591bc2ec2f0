import Workcell.Document.Tree

/-!
Values that steps produce and hand on: nothing, states, numbers, texts, and the ordered results of branches.
-/

set_option autoImplicit false

namespace Workcell

inductive Value (R : Type) where
  | unit
  | bool (b : Bool)
  | number (x : R)
  | text (s : String)
  | list (items : List (Value R))

namespace Value

variable {R : Type}

def asText? : Value R → Option String
  | .text s => some s
  | _ => none

def asList? : Value R → Option (List (Value R))
  | .list items => some items
  | _ => none

def isUnit : Value R → Bool
  | .unit => true
  | _ => false

mutual
def tree : Value R → Tree R
  | .unit => .null
  | .bool b => .bool b
  | .number x => .number x
  | .text s => .text s
  | .list items => .list (treeItems items)

def treeItems : List (Value R) → List (Tree R)
  | [] => []
  | item :: rest => item.tree :: treeItems rest
end

variable [Scalar R]

def asNumber? : Value R → Option R
  | .number x => some x
  | .bool true => some Scalar.one
  | .bool false => some Scalar.zero
  | _ => none

def asBool? : Value R → Option Bool
  | .bool b => some b
  | .number x => some (!(x == Scalar.zero))
  | _ => none

mutual
def plain : Value R → String
  | .unit => "()"
  | .bool true => "true"
  | .bool false => "false"
  | .number x => Scalar.plain x
  | .text s => s
  | .list items => "[" ++ plainItems items ++ "]"

def plainItems : List (Value R) → String
  | [] => ""
  | [item] => item.plain
  | item :: rest => item.plain ++ ", " ++ plainItems rest
end

mutual
def same : Value R → Value R → Bool
  | .unit, .unit => true
  | .bool a, .bool b => a == b
  | .number x, .number y => x == y
  | .text s, .text t => s == t
  | .list xs, .list ys => sameItems xs ys
  | _, _ => false

def sameItems : List (Value R) → List (Value R) → Bool
  | [], [] => true
  | x :: xs, y :: ys => same x y && sameItems xs ys
  | _, _ => false
end

mutual
def ofTree? : Tree R → Option (Value R)
  | .null => some .unit
  | .bool b => some (.bool b)
  | .int i => some (.number (if 0 ≤ i then Scalar.ofNat i.toNat else Scalar.negate (Scalar.ofNat i.natAbs)))
  | .number x => some (.number x)
  | .text s => some (.text s)
  | .list items => (ofTreeItems? items).map .list
  | .record _ => none
  | .unreadable => none

def ofTreeItems? : List (Tree R) → Option (List (Value R))
  | [] => some []
  | item :: rest => do
      let item ← ofTree? item
      let rest ← ofTreeItems? rest
      pure (item :: rest)
end

end Value

end Workcell
