import Workcell.Flow.Build
import Workcell.Recipe.Expr

/-!
Recipes: flows written down as data, with expressions where a flow has functions.

A recipe is built into a step under the values bound so far. The second part of a sequence is built while the flow
runs, when the first result is bound; a part that cannot be built then becomes a step that fails.
-/

set_option autoImplicit false

namespace Workcell.Recipe

-- An argument of an action: a value, or a target computed from the position, which is bound last.
inductive ArgExpr (R : Type) where
  | value (e : Expr R)
  | position (e : Expr R)

inductive Decoration where
  | named (name : String)
  | retry (n : Int)
  | timeout (span : Duration)
  | onError (mode : ErrorMode)
  deriving DecidableEq, Repr

abbrev Word (R : Type) := List (Value R) → Step R

inductive Plan (R : Type) where
  | action (device : Expr R) (operation : String) (args : List (ArgExpr R))
  | word (make : Word R) (args : List (Expr R))
  | moveBy (device target : Expr R)
  | delay (ms : Nat)
  | sequence (first next : Plan R) (select : Option (Expr R))
  | andThen (first next : Plan R)
  | map (source : Plan R) (transform : Expr R)
  | parallel (plans : List (Plan R))
  | chain (plans : List (Plan R))
  | repeated (inner : Plan R) (count : Int)
  | scope (name : String) (inner : Plan R)
  | branch (test : Expr R) (yes no : Plan R)
  | decorated (plan : Plan R) (decoration : Decoration)

variable {R : Type}

def Decoration.apply : Decoration → Step R → Step R
  | .named name, step => step.named name
  | .retry n, step => step.withRetry n
  | .timeout span, step => step.withTimeout span
  | .onError mode, step => step.onError mode

def textOf (value : Value R) : String := value.asText?.getD ""

variable [Scalar R]

def numberOf (value : Value R) : R := value.asNumber?.getD Scalar.nan

def boolOf (value : Value R) : Bool := value.asBool?.getD false

def valueAt (args : List (Value R)) (index : Nat) : Value R := args.getD index .unit

def textAt (args : List (Value R)) (index : Nat) : String := textOf (valueAt args index)

def numberAt (args : List (Value R)) (index : Nat) : R := numberOf (valueAt args index)

def boolAt (args : List (Value R)) (index : Nat) : Bool := boolOf (valueAt args index)

def words : List (String × Word R) :=
  [("move_to", fun a => Flow.moveTo (textAt a 0) (numberAt a 1)),
    ("move_to_and_wait", fun a => Flow.moveToAndWait (textAt a 0) (numberAt a 1)),
    ("move_to_and_wait_at", fun a => Flow.moveToAndWaitAt (textAt a 0) (numberAt a 1) (numberAt a 2)),
    ("move_until", fun a => Flow.moveUntil (textAt a 0) (numberAt a 1) (numberAt a 2)),
    ("home", fun a => Flow.home (textAt a 0)),
    ("stop", fun a => Flow.stop (textAt a 0)),
    ("fire", fun a => Flow.fire (textAt a 0) (boolAt a 1)),
    ("fire_and_wait", fun a => Flow.fireAndWait (textAt a 0) (boolAt a 1)),
    ("wait_for", fun a => Flow.waitFor (textAt a 0) (boolAt a 1)),
    ("read_analog", fun a => Flow.readAnalog (textAt a 0) (numberAt a 1)),
    ("check_level", fun a => Flow.checkLevel (boolAt a 0)),
    ("set_variable", fun a => Flow.setVariable (textAt a 0) (valueAt a 1)),
    ("throw", fun a => Flow.throw (textAt a 0)),
    ("no_op", fun _ => Flow.noOp),
    ("spawn", fun a => Flow.spawn (textAt a 0) (textAt a 1)),
    ("transform", fun a => Flow.transform (textAt a 0) (textAt a 1)),
    ("consume", fun a => Flow.consume (textAt a 0)),
    ("bind", fun a => Flow.bind (textAt a 0) (textAt a 1) (textAt a 2)),
    ("unbind", fun a => Flow.unbind (textAt a 0)),
    ("attach", fun a => Flow.attach (textAt a 0) (textAt a 1)),
    ("detach", fun a => Flow.detach (textAt a 0) (textAt a 1))]

def word? (name : String) : Option (Word R) := words.lookup name

def ArgExpr.eval (env : List (Value R)) : ArgExpr R → Arg R
  | .value e => .literal (e.eval env)
  | .position e => .position fun position => numberOf (e.eval (.number position :: env))

def orThrow : Except String (Step R) → Step R
  | .ok step => step
  | .error message => Flow.throw message

mutual
def Plan.build (env : List (Value R)) : Plan R → Except String (Step R)
  | .action device operation args =>
      match Operation.named? operation with
      | some named => .ok (Flow.action (textOf (device.eval env)) named (args.map (ArgExpr.eval env)))
      | none => .error (Operation.unknownMessage operation)
  | .word make args => .ok (make (Expr.evalAll env args))
  | .moveBy device target =>
      .ok (Flow.moveBy (textOf (device.eval env)) fun position => numberOf (target.eval (.number position :: env)))
  | .delay ms => .ok (Flow.delay ms)
  | .sequence first next select => do
      let first ← first.build env
      let second := fun value => orThrow (next.build (value :: env))
      pure (match select with
        | none => Flow.sequence first second
        | some select => Flow.sequenceWith first second fun a b => select.eval (a :: b :: env))
  | .andThen first next => do
      let first ← first.build env
      let next ← next.build env
      pure (Flow.andThen first next)
  | .map source transform => do
      let source ← source.build env
      pure (Flow.map source fun value => transform.eval (value :: env))
  | .parallel plans => (Plan.buildAll env plans).map Flow.parallel
  | .chain plans => (Plan.buildAll env plans).map Flow.chain
  | .repeated inner count => do
      let inner ← inner.build env
      pure (Flow.repeated inner count)
  | .scope name inner => do
      let inner ← inner.build env
      pure (Flow.scope name inner)
  | .branch test yes no => if boolOf (test.eval env) then yes.build env else no.build env
  | .decorated plan decoration => do
      let step ← plan.build env
      pure (decoration.apply step)

def Plan.buildAll (env : List (Value R)) : List (Plan R) → Except String (List (Step R))
  | [] => .ok []
  | plan :: rest => do
      let step ← plan.build env
      let rest ← Plan.buildAll env rest
      pure (step :: rest)
end

end Workcell.Recipe
