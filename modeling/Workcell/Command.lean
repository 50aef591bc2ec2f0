import Workcell.Document.Json

/-!
Commands of the control channel: start a scenario, or stop the run in progress.
-/

set_option autoImplicit false

namespace Workcell

inductive Command where
  | start (scenario : String)
  | stop
  deriving DecidableEq, Repr

namespace Command

variable {R : Type}

def tree : Command → Tree R
  | .start scenario => .record [("cmd", .text "Start"), ("scenario", .text scenario)]
  | .stop => .record [("cmd", .text "Stop")]

def single? (name : String) (fields : List (String × Tree R)) : Option (Tree R) :=
  match fields.filter fun field => field.1 == name with
  | [(_, tree)] => some tree
  | _ => none

def ofTree? (tree : Tree R) : Option Command :=
  if tree.readable Tree.maxDepth then
    match tree with
    | .record fields =>
        match single? "cmd" fields with
        | some (.text "Start") =>
            match single? "scenario" fields with
            | some (.text scenario) => some (.start scenario)
            | _ => none
        | some (.text "Stop") => some .stop
        | _ => none
    | .list [.text "Start", .text scenario] => some (.start scenario)
    | .list [.text "Stop"] => some .stop
    | _ => none
  else none

variable (R) [Scalar R]

-- Reads one line of the channel; numbers in parts that are ignored are read as `R`.
def read? (text : String) : Option Command := (Document.Json.read (R := R) text).bind ofTree?

end Command

end Workcell
