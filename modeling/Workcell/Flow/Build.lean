import Workcell.Flow.Step

/-!
Words for building flows: combinators, and one word for each operation.
-/

set_option autoImplicit false

namespace Workcell.Flow

variable {R : Type}

def plainLabel (name : String) : Label := ⟨name, .default⟩

def action (device : String) (operation : Operation) (args : List (Arg R)) : Step R :=
  .action (plainLabel (device ++ "." ++ operation.name)) device operation args

def sequence (first : Step R) (next : Value R → Step R) : Step R :=
  .sequence (plainLabel "Sequence") first (fun value => .ok (next value)) none

def sequenceWith (first : Step R) (next : Value R → Step R) (select : Value R → Value R → Value R) : Step R :=
  .sequence (plainLabel "Sequence") first (fun value => .ok (next value)) (some select)

def andThen (first second : Step R) : Step R := sequence first fun _ => second

def map (source : Step R) (transform : Value R → Value R) : Step R :=
  .map (plainLabel "Map") source transform

def parallel (steps : List (Step R)) : Step R := .parallel (plainLabel "Parallel") steps

def repeated (inner : Step R) (count : Int) : Step R := .loop (plainLabel "Loop") inner count

def scope (name : String) (inner : Step R) : Step R := .scope (plainLabel name) inner

def noOp : Step R := action systemName .noOp []

def chain : List (Step R) → Step R
  | [] => noOp
  | [last] => last
  | first :: rest => andThen first (chain rest)

def number (x : R) : Arg R := .literal (.number x)

def text (s : String) : Arg R := .literal (.text s)

def state (b : Bool) : Arg R := .literal (.bool b)

def moveTo (device : String) (target : R) : Step R := action device .moveTo [number target]

def moveBy (device : String) (target : R → R) : Step R := action device .moveTo [.position target]

def moveToAndWait (device : String) (target : R) : Step R := action device .moveToAndWait [number target]

def moveToAndWaitAt (device : String) (target speed : R) : Step R :=
  action device .moveToAndWait [number target, number speed]

def moveUntil (device : String) (target threshold : R) : Step R :=
  action device .moveUntil [number target, number threshold]

def home (device : String) : Step R := action device .home []

def stop (device : String) : Step R := action device .stop []

def fire (device : String) (on : Bool) : Step R := action device .fire [state on]

def fireAndWait (device : String) (on : Bool) : Step R := action device .fireAndWait [state on]

def waitFor (device : String) (on : Bool) : Step R := action device .cylinderWaitFor [state on]

def readAnalog (variableName : String) (absent : R) : Step R :=
  action systemName .readAnalog [text variableName, number absent]

def checkLevel (expected : Bool) : Step R := action systemName .checkLevel [state expected]

def setVariable (name : String) (value : Value R) : Step R :=
  action systemName .setVariable [text name, .literal value]

def delay [Scalar R] (ms : Nat) : Step R := action systemName .delay [number (Scalar.ofNat ms)]

def throw (message : String) : Step R := action systemName .throw [text message]

def spawn (station className : String) : Step R := action systemName .spawn [text station, text className]

def transform (station className : String) : Step R := action systemName .transform [text station, text className]

def consume (station : String) : Step R := action systemName .consume [text station]

def bind (station id className : String) : Step R :=
  action systemName .bind [text station, text id, text className]

def unbind (station : String) : Step R := action systemName .unbind [text station]

def attach (holder source : String) : Step R := action systemName .attach [text holder, text source]

def detach (holder target : String) : Step R := action systemName .detach [text holder, text target]

end Workcell.Flow
