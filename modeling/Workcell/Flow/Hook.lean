import Workcell.Fault
import Workcell.Flow.Step

/-!
Escalation: what the host answers when a step that asks it has used up its attempts. A hook is a script of answers,
taken in turn, and a last answer for every question after them.
-/

set_option autoImplicit false

namespace Workcell

inductive Resolution (R : Type) where
  | propagate
  | substitute (value : Value R)
  | retry

structure Hook (R : Type) where
  script : List (Resolution R)
  final : Option (Value R)

structure Appeal where
  step : String
  mode : ErrorMode
  code : String
  deriving DecidableEq, Repr

namespace Hook

variable {R : Type}

def propagating : Hook R := ⟨[], none⟩

def skipping (value : Value R) : Hook R := ⟨[], some value⟩

def answer (hook : Hook R) : Resolution R × Hook R :=
  match hook.script with
  | resolution :: rest => (resolution, ⟨rest, hook.final⟩)
  | [] => (match hook.final with
      | some value => .substitute value
      | none => .propagate, hook)

end Hook

end Workcell
