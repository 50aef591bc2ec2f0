import Workcell.Proofs.Upkeep.Life

/-!
The turns of branches side by side: which branch got a turn, what the turn found, what it came to and what it left.

The log of a round follows the round step by step. What the branches have returned is read off the log alone, and a
tally ties it to the branches: each returns at most once, and what it has returned is what the join holds of it.
-/

set_option autoImplicit false

namespace Workcell

variable {R : Type}

namespace Branch

structure Turn (R : Type) where
  index : Nat
  began : Cell R
  progress : Progress R
  ended : Cell R

def Turn.returned (log : List (Turn R)) (index : Nat) : List (Progress R) :=
  (log.filter fun turn => turn.index == index && !turn.progress.isPending).map Turn.progress

def returns : Branch R → List (Progress R)
  | .ended value => [.done value]
  | .failed fault => [.fault fault]
  | _ => []

end Branch

namespace Poll

def turnsInOrder : (index : Nat) → List (Branch R × Poll R) → Cell R → List (Branch.Turn R)
  | _, [], _ => []
  | index, (branch, poll) :: rest, cell =>
      if branch.isOpen then
        match poll cell with
        | (.fault fault, after) => [⟨index, cell, .fault fault, after⟩]
        | (.panicked message, after) => [⟨index, cell, .panicked message, after⟩]
        | (.done value, after) => ⟨index, cell, .done value, after⟩ :: turnsInOrder (index + 1) rest after
        | (.pending run, after) => ⟨index, cell, .pending run, after⟩ :: turnsInOrder (index + 1) rest after
      else turnsInOrder (index + 1) rest cell

def turnsInWakingOrder (polls : List (Poll R)) : (queue : List Nat) → Round R → Cell R → List (Branch.Turn R)
  | [], _, _ => []
  | index :: queue, round, cell =>
      match round.branches[index]?, polls[index]? with
      | some branch, some poll =>
          if branch.isOpen then
            match poll cell with
            | (.panicked message, after) => [⟨index, cell, .panicked message, after⟩]
            | (.pending run, after) =>
                ⟨index, cell, .pending run, after⟩ ::
                  if round.given + 1 = round.opened then []
                  else
                    turnsInWakingOrder polls queue
                      ⟨round.branches.set index (.running run), round.woken, round.given + 1, round.opened⟩ after
            | (.done value, after) =>
                ⟨index, cell, .done value, after⟩ ::
                  further (round.branches.set index (.ended value)) round.woken
                    fun round => turnsInWakingOrder polls queue round after
            | (.fault fault, after) =>
                ⟨index, cell, .fault fault, after⟩ ::
                  further (round.branches.set index (.failed fault)) round.woken
                    fun round => turnsInWakingOrder polls queue round after
          else turnsInWakingOrder polls queue round cell
      | _, _ => turnsInWakingOrder polls queue round cell
where
  further (branches : List (Branch R)) (woken : List Nat) (go : Round R → List (Branch.Turn R)) :
      List (Branch.Turn R) :=
    match Branch.due? branches with
    | some _ => []
    | none => go ⟨branches, woken, 0, Branch.openCount branches⟩

def turns (woken : List Nat) (branches : List (Branch R)) (polls : List (Poll R)) (cell : Cell R) :
    List (Branch.Turn R) :=
  if branches.length ≤ Branch.few then turnsInOrder 0 (branches.zip polls) cell
  else turnsInWakingOrder polls woken ⟨branches, [], 0, Branch.openCount branches⟩ cell

end Poll

namespace Branch

namespace Turn

theorem returned_nil (index : Nat) : returned ([] : List (Turn R)) index = [] := rfl

theorem returned_append (log more : List (Turn R)) (index : Nat) :
    returned (log ++ more) index = returned log index ++ returned more index := by
  simp [returned]

theorem returned_other (turn : Turn R) (log : List (Turn R)) (index : Nat) (other : turn.index ≠ index) :
    returned (turn :: log) index = returned log index := by
  simp [returned, other]

theorem returned_own (turn : Turn R) (log : List (Turn R)) (isOver : turn.progress.isPending = false) :
    returned (turn :: log) turn.index = turn.progress :: returned log turn.index := by
  simp [returned, isOver]

theorem mem_returned (log : List (Turn R)) (turn : Turn R) (member : turn ∈ log)
    (isOver : turn.progress.isPending = false) : turn.progress ∈ returned log turn.index :=
  List.mem_map.mpr ⟨turn, List.mem_filter.mpr ⟨member, by simp [isOver]⟩, rfl⟩

end Turn

theorem open_returns (branch : Branch R) (isOpen : branch.isOpen = true) : branch.returns = [] := by
  cases branch with
  | fresh step => rfl
  | running run => rfl
  | ended value => cases isOpen
  | failed fault => cases isOpen

def turned : Progress R → Branch R
  | .done value => .ended value
  | .fault fault => .failed fault
  | .pending run => .running run
  | .panicked _ => .failed .cancelled

structure Turn.Own (polls : List (Poll R)) (branches : List (Branch R)) (cell : Cell R) (turn : Turn R) : Prop where
  began : turn.began = cell
  polled : ∃ poll, polls[turn.index]? = some poll ∧ poll cell = (turn.progress, turn.ended)
  isOpen : ∃ branch, branches[turn.index]? = some branch ∧ branch.isOpen = true

def Turn.leaves (turn : Turn R) (branches : List (Branch R)) : List (Branch R) :=
  branches.set turn.index (turned turn.progress)

theorem turn_returns (branch : Branch R) (isOpen : branch.isOpen = true) (turn : Turn R)
    (whole : ∀ message, turn.progress ≠ .panicked message) :
    branch.returns ++ Turn.returned [turn] turn.index = (turned turn.progress).returns := by
  rw [open_returns branch isOpen, List.nil_append]
  cases turn with
  | mk index began progress ended =>
      cases progress with
      | done value => simp [Turn.returned, turned, returns, Progress.isPending]
      | fault fault => simp [Turn.returned, turned, returns, Progress.isPending]
      | pending run => simp [Turn.returned, turned, returns, Progress.isPending]
      | panicked message => exact absurd rfl (whole message)

theorem Turn.whole_of_pending (turn : Turn R) (pending : turn.progress.isPending = true) :
    ∀ message, turn.progress ≠ .panicked message := by
  intro message panicked
  rw [panicked] at pending
  cases pending

theorem Turn.Own.leaves_due {polls : List (Poll R)} {branches : List (Branch R)} {cell : Cell R} {turn : Turn R}
    (own : turn.Own polls branches cell) (pending : turn.progress.isPending = true) :
    due? (turn.leaves branches) = due? branches := by
  obtain ⟨branch, present, isOpen⟩ := own.isOpen
  unfold Turn.leaves
  cases progress : turn.progress with
  | pending run => exact due_after_running branches turn.index branch run present isOpen
  | done value => simp [progress, Progress.isPending] at pending
  | fault fault => simp [progress, Progress.isPending] at pending
  | panicked message => simp [progress, Progress.isPending] at pending

-- The log tells how the branches, of which the first has the index `base`, have become the new ones.
structure Tally (base : Nat) (branches new : List (Branch R)) (log : List (Turn R)) : Prop where
  length : new.length = branches.length
  told : ∀ (index : Nat) (before after : Branch R), branches[index]? = some before → new[index]? = some after →
    before.returns ++ Turn.returned log (base + index) = after.returns
  within : ∀ turn ∈ log, turn.index < base + branches.length

namespace Tally

theorem refl (base : Nat) (branches : List (Branch R)) : Tally base branches branches [] where
  length := rfl
  told index before after present same := by
    cases present.symm.trans same
    exact List.append_nil _
  within turn member := nomatch member

theorem trans {base : Nat} {branches between new : List (Branch R)} {log more : List (Turn R)}
    (first : Tally base branches between log) (second : Tally base between new more) :
    Tally base branches new (log ++ more) where
  length := second.length.trans first.length
  told index before after present found := by
    have inside : index < between.length := first.length ▸ (List.getElem?_eq_some_iff.mp present).1
    have middle : between[index]? = some between[index] := List.getElem?_eq_getElem inside
    rw [Turn.returned_append, ← List.append_assoc, first.told index _ _ present middle]
    exact second.told index _ _ middle found
  within turn member := by
    rcases List.mem_append.mp member with early | late
    · exact first.within turn early
    · exact first.length ▸ second.within turn late

theorem turn {polls : List (Poll R)} {branches : List (Branch R)} {cell : Cell R} {turn : Turn R}
    (own : turn.Own polls branches cell) (whole : ∀ message, turn.progress ≠ .panicked message) :
    Tally 0 branches (turn.leaves branches) [turn] where
  length := by simp [Turn.leaves]
  told place before after found later := by
    obtain ⟨branch, present, isOpen⟩ := own.isOpen
    rw [Nat.zero_add]
    unfold Turn.leaves at later
    by_cases same : turn.index = place
    · subst place
      have inside : turn.index < branches.length := (List.getElem?_eq_some_iff.mp present).1
      rw [List.getElem?_set_self inside] at later
      cases later
      cases found.symm.trans present
      exact turn_returns before isOpen turn whole
    · rw [List.getElem?_set_ne same] at later
      cases found.symm.trans later
      rw [Turn.returned_other _ _ _ same, Turn.returned_nil, List.append_nil]
  within other member := by
    obtain ⟨branch, present, -⟩ := own.isOpen
    cases List.mem_singleton.mp member
    rw [Nat.zero_add]
    exact (List.getElem?_eq_some_iff.mp present).1

-- The two logs do not meet: the turns of the first branch stand at `base`, those of the others above it.
theorem cons (base : Nat) (before after : Branch R) (branches new : List (Branch R)) (own log : List (Turn R))
    (first : before.returns ++ Turn.returned own base = after.returns) (ownPlace : ∀ turn ∈ own, turn.index = base)
    (places : ∀ turn ∈ log, base < turn.index) (rest : Tally (base + 1) branches new log) :
    Tally base (before :: branches) (after :: new) (own ++ log) where
  length := congrArg (· + 1) rest.length
  told index earlier later present found := by
    rw [Turn.returned_append]
    cases index with
    | zero =>
        cases present
        cases found
        have none : Turn.returned log (base + 0) = [] := by
          simp only [Turn.returned, List.map_eq_nil_iff, List.filter_eq_nil_iff]
          intro turn member
          have above := places turn member
          have differs : turn.index ≠ base := by omega
          simp [differs]
        rw [none, List.append_nil]
        exact first
    | succ index =>
        have none : Turn.returned own (base + (index + 1)) = [] := by
          simp only [Turn.returned, List.map_eq_nil_iff, List.filter_eq_nil_iff]
          intro turn member
          have differs : turn.index ≠ base + (index + 1) := by
            rw [ownPlace turn member]
            omega
          simp [differs]
        rw [none, List.nil_append]
        have same : base + (index + 1) = base + 1 + index := by omega
        rw [same]
        exact rest.told index earlier later present found
  within turn member := by
    rw [List.length_cons]
    rcases List.mem_append.mp member with early | late
    · have same := ownPlace turn early
      omega
    · have inside := rest.within turn late
      omega

end Tally

end Branch

end Workcell
