import Workcell.Cell.Wait

/-!
Suspended runs.

A run that cannot go on at once leaves a tree of what is still to be done: waits at the leaves, and above them what
becomes of their outcomes. A turn goes over that tree and gives the outcome of the run or the tree that is left.
Places in the tree that somebody may wake carry keys.
-/

set_option autoImplicit false

namespace Workcell

mutual
inductive Run (R : Type) where
  | waiting (key : Nat) (wait : Wait R)
  | attempt (step : Step R) (number : Nat) (inside : Run R)
  | bound (run : Run R) (next : Value R → Except (Option String) (Step R))
      (select : Option (Value R → Value R → Value R))
  | mapped (run : Run R) (transform : Value R → Value R)
  -- Branches side by side; `woken` tells which of them have been woken, where there are many.
  | joined (key : Nat) (woken : List Nat) (branches : List (Branch R))
  | repeated (run : Run R) (inner : Step R) (left : Option Nat)
  | resting (key : Nat) (inner : Step R)

inductive Branch (R : Type) where
  | fresh (step : Step R)
  | running (run : Run R)
  | ended (value : Value R)
  -- Ended by a fault that is not due yet.
  | failed (fault : Fault)
end

inductive Progress (R : Type) where
  | done (value : Value R)
  | fault (fault : Fault)
  | panicked (message : Option String)
  | pending (run : Run R)

abbrev Poll (R : Type) := Cell R → Progress R × Cell R

variable {R : Type}

namespace Poll

def bind (poll : Poll R) (hold : Run R → Run R) (next : Value R → Poll R) : Poll R := fun cell =>
  match poll cell with
  | (.done value, cell) => next value cell
  | (.fault fault, cell) => (.fault fault, cell)
  | (.panicked message, cell) => (.panicked message, cell)
  | (.pending run, cell) => (.pending (hold run), cell)

def map (poll : Poll R) (transform : Value R → Value R) : Poll R :=
  poll.bind (fun run => .mapped run transform) fun value cell => (.done (transform value), cell)

end Poll

-- Somebody who can be woken: by a timer, by a signal, and, where it is an action, by the end of the run.
structure Leaf where
  key : Nat
  timer : Option Timer
  signals : List Signal
  deriving DecidableEq, Repr

def Leaf.ofWait (key : Nat) (wait : Wait R) : Leaf := ⟨key, some wait.timer, .cancelled :: wait.signal?.toList⟩

mutual
def Run.leaves : Run R → List Leaf
  | .waiting key wait => [Leaf.ofWait key wait]
  | .attempt _ _ inside => inside.leaves
  | .bound run _ _ => run.leaves
  | .mapped run _ => run.leaves
  | .joined _ _ branches => Run.leavesOf branches
  | .repeated run _ _ => run.leaves
  | .resting _ _ => []

def Branch.leaves : Branch R → List Leaf
  | .running run => run.leaves
  | _ => []

def Run.leavesOf : List (Branch R) → List Leaf
  | [] => []
  | branch :: rest => branch.leaves ++ Run.leavesOf rest
end

mutual
def Run.abandon : Run R → Cell R → Cell R
  | .waiting _ wait, cell => wait.abandon cell
  | .attempt _ _ inside, cell => inside.abandon cell
  | .bound run _ _, cell => run.abandon cell
  | .mapped run _, cell => run.abandon cell
  | .joined _ _ branches, cell => Run.abandonAll branches cell
  | .repeated run _ _, cell => run.abandon cell
  | .resting _ _, cell => cell

def Branch.abandon : Branch R → Cell R → Cell R
  | .running run, cell => run.abandon cell
  | _, cell => cell

def Run.abandonAll : List (Branch R) → Cell R → Cell R
  | [], cell => cell
  | branch :: rest, cell => Run.abandonAll rest (branch.abandon cell)
end

mutual
def Run.holds (key : Nat) : Run R → Bool
  | .waiting own _ => own == key
  | .attempt _ _ inside => inside.holds key
  | .bound run _ _ => run.holds key
  | .mapped run _ => run.holds key
  | .joined own _ branches => own == key || !(Run.holders key 0 branches).isEmpty
  | .repeated run _ _ => run.holds key
  | .resting own _ => own == key

def Branch.holds (key : Nat) : Branch R → Bool
  | .running run => run.holds key
  | _ => false

def Run.holders (key : Nat) : Nat → List (Branch R) → List Nat
  | _, [] => []
  | index, branch :: rest =>
      let rest := Run.holders key (index + 1) rest
      if branch.holds key then index :: rest else rest
end

def enqueue {A : Type} [BEq A] (queue : List A) (more : List A) : List A :=
  more.foldl (fun queue a => if queue.contains a then queue else queue ++ [a]) queue

mutual
def Run.touch (key : Nat) : Run R → Run R
  | .waiting own wait => .waiting own wait
  | .attempt step number inside => .attempt step number (inside.touch key)
  | .bound run next select => .bound (run.touch key) next select
  | .mapped run transform => .mapped (run.touch key) transform
  | .joined own woken branches =>
      .joined own (enqueue woken (Run.holders key 0 branches)) (Run.touchAll key branches)
  | .repeated run inner left => .repeated (run.touch key) inner left
  | .resting own inner => .resting own inner

def Branch.touch (key : Nat) : Branch R → Branch R
  | .running run => .running (run.touch key)
  | .fresh step => .fresh step
  | .ended value => .ended value
  | .failed fault => .failed fault

def Run.touchAll (key : Nat) : List (Branch R) → List (Branch R)
  | [] => []
  | branch :: rest => branch.touch key :: Run.touchAll key rest
end

end Workcell
