import Workcell.Value

/-!
Expressions of recipes: values computed from values that were bound earlier, the last one bound first.
-/

set_option autoImplicit false

namespace Workcell.Recipe

inductive Expr (R : Type) where
  | literal (value : Value R)
  | list (items : List (Expr R))
  | bound (index : Nat)
  | sum (a b : Expr R)
  | product (a b : Expr R)
  | less (a b : Expr R)
  | equal (a b : Expr R)
  | negation (a : Expr R)
  | text (a : Expr R)
  | asNumber (a : Expr R)
  | asBool (a : Expr R)
  | asText (a : Expr R)
  | length (a : Expr R)
  | itemOf (a : Expr R) (index : Nat)
  | isUnit (a : Expr R)

variable {R : Type} [Scalar R]

def orUnit {A : Type} (make : A → Value R) : Option A → Value R
  | some a => make a
  | none => .unit

def ofNumbers {A : Type} (make : A → Value R) (f : R → R → A) (a b : Value R) : Value R :=
  match a.asNumber?, b.asNumber? with
  | some x, some y => make (f x y)
  | _, _ => .unit

mutual
def Expr.eval (env : List (Value R)) : Expr R → Value R
  | .literal value => value
  | .list items => .list (Expr.evalAll env items)
  | .bound index => env.getD index .unit
  | .sum a b => ofNumbers .number (fun x y => x + y) (a.eval env) (b.eval env)
  | .product a b => ofNumbers .number (fun x y => x * y) (a.eval env) (b.eval env)
  | .less a b => ofNumbers .bool (fun x y => decide (x < y)) (a.eval env) (b.eval env)
  | .equal a b => .bool ((a.eval env).same (b.eval env))
  | .negation a => orUnit (fun b => .bool (!b)) (a.eval env).asBool?
  | .text a => .text (a.eval env).plain
  | .asNumber a => orUnit .number (a.eval env).asNumber?
  | .asBool a => orUnit .bool (a.eval env).asBool?
  | .asText a => orUnit .text (a.eval env).asText?
  | .length a => orUnit (fun items => .number (Scalar.ofNat items.length)) (a.eval env).asList?
  | .itemOf a index => (((a.eval env).asList?).bind fun items => items[index]?).getD .unit
  | .isUnit a => .bool (a.eval env).isUnit

def Expr.evalAll (env : List (Value R)) : List (Expr R) → List (Value R)
  | [] => []
  | first :: rest => first.eval env :: Expr.evalAll env rest
end

end Workcell.Recipe
