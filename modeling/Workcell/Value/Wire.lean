import Workcell.Document.Json
import Workcell.Value

/-!
The wire text of values: they are written without tags, so the shape of the text alone tells what is meant. Records
stand for no value.
-/

set_option autoImplicit false

namespace Workcell.Value

variable {R : Type} [Scalar R]

def write (value : Value R) : String := Document.Json.write value.tree

def read? (text : String) : Option (Value R) :=
  (Document.Json.read text).bind fun tree => if tree.readable Tree.maxDepth then ofTree? tree else none

end Workcell.Value
