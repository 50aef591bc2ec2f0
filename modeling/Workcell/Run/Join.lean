import Workcell.Run.Basic

/-!
Branches side by side.

A few branches are all given a turn, in their order, whenever the run has one; the first fault found is the fault of
the whole, and later branches get no turn any more. Of many branches only those that have been woken get a turn, in
the order of their waking, and outcomes count in the order of the branches: a fault is due once every branch before
it has ended. Once a turn was given to as many branches as are open, the others wait for the next turn of the run.
Whatever ends the whole, the branches that are left are given up.
-/

set_option autoImplicit false

namespace Workcell

namespace Branch

variable {R : Type}

def few : Nat := 30

def isOpen : Branch R → Bool
  | .fresh _ => true
  | .running _ => true
  | _ => false

def values? : List (Branch R) → Option (List (Value R))
  | [] => some []
  | .ended value :: rest => (values? rest).map fun values => value :: values
  | _ :: _ => none

-- The fault that is due: of a branch before which all have ended well.
def due? : List (Branch R) → Option Fault
  | .ended _ :: rest => due? rest
  | .failed fault :: _ => some fault
  | _ => none

def openCount (branches : List (Branch R)) : Nat := (branches.filter isOpen).length

def ofProgress : Progress R → Except (Option String) (Branch R)
  | .done value => .ok (.ended value)
  | .fault fault => .ok (.failed fault)
  | .pending run => .ok (.running run)
  | .panicked message => .error message

end Branch

variable {R : Type}

inductive Halt where
  | failed (fault : Fault)
  | broken (message : Option String)
  deriving DecidableEq, Repr

def Halt.progress : Halt → Progress R
  | .failed fault => .fault fault
  | .broken message => .panicked message

namespace Poll

def inOrder : List (Branch R × Poll R) → Cell R → Except Halt (List (Branch R)) × Cell R
  | [], cell => (.ok [], cell)
  | (branch, poll) :: rest, cell =>
      if branch.isOpen then
        match poll cell with
        | (.fault fault, cell) => (.error (.failed fault), Run.abandonAll (rest.map Prod.fst) cell)
        | (.panicked message, cell) => (.error (.broken message), Run.abandonAll (rest.map Prod.fst) cell)
        | (.done value, cell) => cons (.ended value) (inOrder rest cell)
        | (.pending run, cell) => cons (.running run) (inOrder rest cell)
      else cons branch (inOrder rest cell)
where
  cons (branch : Branch R) : Except Halt (List (Branch R)) × Cell R → Except Halt (List (Branch R)) × Cell R
    | (.ok branches, cell) => (.ok (branch :: branches), cell)
    | (.error stop, cell) => (.error stop, branch.abandon cell)

structure Round (R : Type) where
  branches : List (Branch R)
  woken : List Nat
  -- Turns given since a branch ended.
  given : Nat
  opened : Nat

def inWakingOrder (key : Nat) (polls : List (Poll R)) :
    (queue : List Nat) → Round R → Cell R → Except Halt (Round R) × Cell R
  | [], round, cell => (.ok round, cell)
  | index :: queue, round, cell =>
      match round.branches[index]?, polls[index]? with
      | some branch, some poll =>
          if branch.isOpen then
            match poll cell with
            | (.panicked message, cell) =>
                (.error (.broken message), Run.abandonAll (round.branches.set index (.failed .cancelled)) cell)
            | (.pending run, cell) =>
                let branches := round.branches.set index (.running run)
                let given := round.given + 1
                if given = round.opened then (.ok ⟨branches, queue, given, round.opened⟩, cell.effect (.again key))
                else inWakingOrder key polls queue ⟨branches, round.woken, given, round.opened⟩ cell
            | (.done value, cell) =>
                settle (round.branches.set index (.ended value)) round.woken cell
                  (fun round cell => inWakingOrder key polls queue round cell)
            | (.fault fault, cell) =>
                settle (round.branches.set index (.failed fault)) round.woken cell
                  (fun round cell => inWakingOrder key polls queue round cell)
          else inWakingOrder key polls queue round cell
      | _, _ => inWakingOrder key polls queue round cell
where
  settle (branches : List (Branch R)) (woken : List Nat) (cell : Cell R)
      (go : Round R → Cell R → Except Halt (Round R) × Cell R) : Except Halt (Round R) × Cell R :=
    match Branch.due? branches with
    | some fault => (.error (.failed fault), Run.abandonAll branches cell)
    | none => go ⟨branches, woken, 0, Branch.openCount branches⟩ cell

def gather (key : Nat) (woken : List Nat) (branches : List (Branch R)) : Progress R :=
  match Branch.values? branches with
  | some values => .done (.list values)
  | none => .pending (.joined key woken branches)

def join (key : Nat) (woken : List Nat) (branches : List (Branch R)) (polls : List (Poll R)) : Poll R := fun cell =>
  if branches.length ≤ Branch.few then
    match inOrder (branches.zip polls) cell with
    | (.ok branches, cell) => (gather key [] branches, cell)
    | (.error stop, cell) => (stop.progress, cell)
  else
    match inWakingOrder key polls woken ⟨branches, [], 0, Branch.openCount branches⟩ cell with
    | (.ok round, cell) => (gather key round.woken round.branches, cell)
    | (.error stop, cell) => (stop.progress, cell)

def fork (steps : List (Step R)) (polls : List (Poll R)) : Poll R := fun cell =>
  let (key, cell) := cell.issue
  join key (List.range steps.length) (steps.map Branch.fresh) polls cell

end Poll

end Workcell
