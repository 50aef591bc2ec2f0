import Workcell.Flow.Step
import Workcell.Text.Quoted

/-!
Structural dumps of flows: every part that is data, with `<fn>` where a function stands.
-/

set_option autoImplicit false

namespace Workcell

def dumpRecord (name : String) (fields : List (String × String)) : String :=
  name ++ " \x7b " ++ String.intercalate ", " (fields.map fun field => field.1 ++ ": " ++ field.2) ++ " \x7d"

def dumpList (items : List String) : String := "[" ++ String.intercalate ", " items ++ "]"

def dumpOption : Option String → String
  | none => "None"
  | some s => "Some(" ++ s ++ ")"

variable {R : Type} [Scalar R]

mutual
def Value.dump : Value R → String
  | .unit => "Unit"
  | .bool true => "Bool(true)"
  | .bool false => "Bool(false)"
  | .number x => "Number(" ++ Scalar.dump x ++ ")"
  | .text s => "Text(" ++ Text.quoted s ++ ")"
  | .list items => "List(" ++ dumpList (Value.dumpItems items) ++ ")"

def Value.dumpItems : List (Value R) → List String
  | [] => []
  | item :: rest => item.dump :: Value.dumpItems rest
end

def Arg.dump : Arg R → String
  | .literal value => "Value(" ++ value.dump ++ ")"
  | .position _ => "Position(<fn>)"

def Policy.dump (policy : Policy) : String :=
  dumpRecord "Policy"
    [("retry_count", toString policy.retries),
      ("timeout", dumpOption (policy.timeout.map Duration.dump)),
      ("error_handling", policy.onError.name)]

def Label.dumpFields (label : Label) : List (String × String) :=
  [("name", Text.quoted label.name), ("policy", label.policy.dump)]

mutual
def Step.dump : Step R → String
  | .action label device operation args =>
      dumpRecord "Action" (label.dumpFields ++
        [("device", Text.quoted device), ("operation", operation.name), ("args", dumpList (args.map Arg.dump))])
  | .sequence label first _ _ => dumpRecord "Sequence" (label.dumpFields ++ [("first", first.dump)])
  | .map label source _ => dumpRecord "Map" (label.dumpFields ++ [("source", source.dump)])
  | .scope label inner => dumpRecord "Scope" (label.dumpFields ++ [("inner", inner.dump)])
  | .parallel label steps => dumpRecord "Parallel" (label.dumpFields ++ [("steps", dumpList (Step.dumpItems steps))])
  | .loop label inner count =>
      dumpRecord "Loop" (label.dumpFields ++ [("inner", inner.dump), ("count", toString count)])

def Step.dumpItems : List (Step R) → List String
  | [] => []
  | step :: rest => step.dump :: Step.dumpItems rest
end

end Workcell
