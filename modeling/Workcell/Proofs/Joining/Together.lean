import Workcell.Proofs.Joining.Rounds

/-!
Attempts at branches side by side from their beginning on, with the log of all the turns that the branches get. Between
two turns of the node others are at work on the cell and wake places of it. Branches that never suspend do side by side
what they do one after another, up to the first that fails.
-/

set_option autoImplicit false

namespace Workcell

variable {R : Type}

def Poll.inTurn : (polls : List (Poll R)) → (earlier : List (Value R)) → Poll R
  | [], earlier => Poll.done (.list earlier)
  | poll :: rest, earlier => poll.bind (fun run => run) fun value => inTurn rest (earlier ++ [value])

namespace Branch

theorem abandon_fresh (steps : List (Step R)) (cell : Cell R) :
    Run.abandonAll (steps.map Branch.fresh) cell = cell := by
  rw [abandon_all_gives_up, Run.waits_of_fresh]
  rfl

theorem abandon_ended (values : List (Value R)) (rest : List (Branch R)) (cell : Cell R) :
    Run.abandonAll (values.map .ended ++ rest) cell = Run.abandonAll rest cell := by
  induction values with
  | nil => rfl
  | cons value values ih => exact ih

theorem due_ended (values : List (Value R)) (rest : List (Branch R)) :
    due? (values.map .ended ++ rest) = due? rest := by
  induction values with
  | nil => rfl
  | cons value values ih => exact ih

theorem due_fresh (steps : List (Step R)) : due? (steps.map Branch.fresh) = none := by
  cases steps with
  | nil => rfl
  | cons step rest => rfl

theorem values_ended (values : List (Value R)) : values? (values.map .ended) = some values := by
  induction values with
  | nil => rfl
  | cons value values ih => simp [values?, ih]

end Branch

namespace Poll

-- The first poll of those that are run in turn does not suspend.
theorem in_turn_head (poll : Poll R) (rest : List (Poll R)) (earlier : List (Value R)) (cell : Cell R)
    (straight : (inTurn (poll :: rest) earlier cell).1.isPending = false) :
    (∃ value after, poll cell = (.done value, after) ∧
      inTurn (poll :: rest) earlier cell = inTurn rest (earlier ++ [value]) after) ∨
    (∃ fault after, poll cell = (.fault fault, after) ∧ inTurn (poll :: rest) earlier cell = (.fault fault, after)) ∨
    ∃ message after, poll cell = (.panicked message, after) ∧
      inTurn (poll :: rest) earlier cell = (.panicked message, after) := by
  simp only [inTurn, bind] at straight ⊢
  rcases result : poll cell with ⟨progress, after⟩
  cases progress with
  | done value => exact Or.inl ⟨value, after, rfl, rfl⟩
  | fault fault => exact Or.inr (Or.inl ⟨fault, after, rfl, rfl⟩)
  | panicked message => exact Or.inr (Or.inr ⟨message, after, rfl, rfl⟩)
  | pending run => simp [result, Progress.isPending] at straight

theorem in_order_in_turn (steps : List (Step R)) (polls : List (Poll R)) (sameLength : polls.length = steps.length)
    (earlier : List (Value R)) (cell : Cell R) (straight : (inTurn polls earlier cell).1.isPending = false) :
    (∃ values after, inTurn polls earlier cell = (.done (.list (earlier ++ values)), after) ∧
      inOrder ((steps.map Branch.fresh).zip polls) cell = (.ok (values.map .ended), after)) ∨
    ∃ halt after, inTurn polls earlier cell = (halt.progress, after) ∧
      inOrder ((steps.map Branch.fresh).zip polls) cell = (.error halt, after) := by
  induction polls generalizing steps earlier cell with
  | nil =>
      cases steps with
      | nil => exact Or.inl ⟨[], cell, by simp [inTurn, done], rfl⟩
      | cons step steps => cases sameLength
  | cons poll polls ih =>
      cases steps with
      | nil => cases sameLength
      | cons step steps =>
          have rest := ih steps (Nat.succ.inj sameLength)
          -- Branches that have had no turn hold no waits, so giving them up changes nothing.
          have dropped : ∀ after, Run.abandonAll (((steps.map Branch.fresh).zip polls).map Prod.fst) after = after := by
            intro after
            rw [List.map_fst_zip (by simp [Nat.succ.inj sameLength])]
            exact Branch.abandon_fresh steps after
          rcases in_turn_head poll polls earlier cell straight with
            ⟨value, after, turn, same⟩ | ⟨fault, after, turn, same⟩ | ⟨message, after, turn, same⟩
          · rw [same] at straight ⊢
            rcases rest (earlier ++ [value]) after straight with ⟨values, last, ends, round⟩ | ⟨halt, last, ends, round⟩
            · refine Or.inl ⟨value :: values, last, by rw [ends]; simp, ?_⟩
              simp [inOrder, Branch.isOpen, turn, round, inOrder.cons]
            · refine Or.inr ⟨halt, last, ends, ?_⟩
              simp [inOrder, Branch.isOpen, turn, round, inOrder.cons, Branch.abandon]
          · refine Or.inr ⟨.failed fault, after, same, ?_⟩
            simp [inOrder, Branch.isOpen, turn, dropped]
          · refine Or.inr ⟨.broken message, after, same, ?_⟩
            simp [inOrder, Branch.isOpen, turn, dropped]

theorem set_next (earlier : List (Value R)) (step : Step R) (steps : List (Step R)) (branch : Branch R) :
    (earlier.map Branch.ended ++ (step :: steps).map Branch.fresh).set earlier.length branch =
      earlier.map Branch.ended ++ branch :: steps.map Branch.fresh := by
  rw [List.set_append_right _ _ (by simp)]
  simp

-- Every turn ends a branch, so the count of turns given never holds the others up.
theorem in_waking_order_in_turn (key : Nat) (polls rest : List (Poll R)) (steps : List (Step R))
    (sameLength : rest.length = steps.length) (earlier : List (Value R))
    (places : ∀ index, polls[earlier.length + index]? = rest[index]?) (opened : Nat) (cell : Cell R)
    (straight : (inTurn rest earlier cell).1.isPending = false) :
    (∃ values after opened', inTurn rest earlier cell = (.done (.list values), after) ∧
      inWakingOrder key polls (List.range' earlier.length rest.length)
        ⟨earlier.map .ended ++ steps.map .fresh, [], 0, opened⟩ cell = (.ok ⟨values.map .ended, [], 0, opened'⟩, after)) ∨
    ∃ halt after, inTurn rest earlier cell = (halt.progress, after) ∧
      inWakingOrder key polls (List.range' earlier.length rest.length)
        ⟨earlier.map .ended ++ steps.map .fresh, [], 0, opened⟩ cell = (.error halt, after) := by
  induction rest generalizing steps earlier opened cell with
  | nil =>
      cases steps with
      | nil => exact Or.inl ⟨earlier, cell, opened, rfl, by simp [inWakingOrder]⟩
      | cons step steps => cases sameLength
  | cons poll rest ih =>
      cases steps with
      | nil => cases sameLength
      | cons step steps =>
          have polled : polls[earlier.length]? = some poll := places 0
          have present : (earlier.map Branch.ended ++ (step :: steps).map Branch.fresh)[earlier.length]? =
              some (.fresh step) := by simp
          have queue : List.range' earlier.length (poll :: rest).length =
              earlier.length :: List.range' (earlier.length + 1) rest.length := List.range'_succ
          simp only [queue, inWakingOrder, present, polled, Branch.isOpen, if_true]
          rcases in_turn_head poll rest earlier cell straight with
            ⟨value, after, turn, same⟩ | ⟨fault, after, turn, same⟩ | ⟨message, after, turn, same⟩
          · rw [same] at straight ⊢
            have next : (earlier.map Branch.ended ++ (step :: steps).map Branch.fresh).set earlier.length (.ended value) =
                (earlier ++ [value]).map Branch.ended ++ steps.map Branch.fresh := by
              rw [set_next]
              simp
            have notDue : Branch.due? ((earlier ++ [value]).map Branch.ended ++ steps.map Branch.fresh) = none :=
              (Branch.due_ended _ _).trans (Branch.due_fresh steps)
            have further := ih steps (Nat.succ.inj sameLength) (earlier ++ [value])
              (fun index => by simpa [Nat.add_assoc, Nat.add_comm] using places (index + 1))
              (Branch.openCount ((earlier ++ [value]).map Branch.ended ++ steps.map Branch.fresh)) after straight
            simp only [turn, next, inWakingOrder.settle, notDue]
            simpa using further
          · refine Or.inr ⟨.failed fault, after, same, ?_⟩
            have due : Branch.due? (earlier.map Branch.ended ++ .failed fault :: steps.map Branch.fresh) = some fault :=
              Branch.due_ended _ _
            simp only [turn, set_next, inWakingOrder.settle, due, Branch.abandon_ended, Run.abandonAll, Branch.abandon,
              Branch.abandon_fresh]
          · refine Or.inr ⟨.broken message, after, same, ?_⟩
            simp only [turn, set_next, Branch.abandon_ended, Run.abandonAll, Branch.abandon, Branch.abandon_fresh]

theorem gather_ended (key : Nat) (woken : List Nat) (values : List (Value R)) :
    gather key woken (values.map Branch.ended) = .done (.list values) := by
  simp [gather, Branch.values_ended]

-- Branches of which none suspends, side by side and one after another.
theorem fork_in_turn (steps : List (Step R)) (polls : List (Poll R)) (sameLength : polls.length = steps.length)
    (cell : Cell R) (straight : (inTurn polls [] cell.issue.2).1.isPending = false) :
    fork steps polls cell = inTurn polls [] cell.issue.2 := by
  have forked : fork steps polls cell =
      join cell.issue.1 (List.range steps.length) (steps.map Branch.fresh) polls cell.issue.2 := rfl
  rw [forked]
  generalize cell.issue.2 = began at straight ⊢
  simp only [join, List.length_map]
  by_cases few : steps.length ≤ Branch.few
  · rw [if_pos few]
    rcases in_order_in_turn steps polls sameLength [] began straight with ⟨values, after, ends, round⟩ |
      ⟨halt, after, ends, round⟩
    · rw [ends, round]
      simp [gather_ended]
    · rw [ends, round]
  · rw [if_neg few]
    have queue : List.range steps.length = List.range' 0 polls.length := by
      rw [sameLength, List.range_eq_range']
    rcases in_waking_order_in_turn cell.issue.1 polls polls steps sameLength [] (by simp)
        (Branch.openCount (steps.map Branch.fresh)) began straight with
      ⟨values, after, opened, ends, round⟩ | ⟨halt, after, ends, round⟩
    · rw [ends, queue]
      simp only [List.map_nil, List.nil_append, List.length_nil] at round
      rw [round]
      simp [gather_ended]
    · rw [ends, queue]
      simp only [List.map_nil, List.nil_append, List.length_nil] at round
      rw [round]

end Poll

namespace Branch

theorem touch_returns (key : Nat) (branch : Branch R) : (branch.touch key).returns = branch.returns := by
  cases branch with
  | running run => rfl
  | fresh step => rfl
  | ended value => rfl
  | failed fault => rfl

theorem Tally.touched (key : Nat) (branches : List (Branch R)) : Tally 0 branches (Run.touchAll key branches) [] where
  length := touch_all_length key branches
  told index before after present found := by
    rw [Turn.returned_nil, List.append_nil]
    induction branches generalizing index with
    | nil => cases present
    | cons branch rest ih =>
        cases index with
        | zero =>
            cases present
            cases found
            exact (touch_returns key before).symm
        | succ index => exact ih index present found
  within turn member := nomatch member

-- Waking places of a join changes neither what its branches have returned nor whether a fault is due.
theorem wake_joined (keys : List Nat) (key : Nat) (woken : List Nat) (branches : List (Branch R)) :
    ∃ queue touched, (Run.joined key woken branches).wake keys = .joined key queue touched ∧
      Tally 0 branches touched [] ∧ due? touched = due? branches := by
  induction keys generalizing woken branches with
  | nil => exact ⟨woken, branches, rfl, .refl 0 branches, rfl⟩
  | cons next keys ih =>
      obtain ⟨queue, touched, same, tally, due⟩ :=
        ih (enqueue woken (Run.holders next 0 branches)) (Run.touchAll next branches)
      exact ⟨queue, touched, same, (Tally.touched next branches).trans tally, due.trans (touch_keeps_due next branches)⟩

def JoinEnds (branches : List (Branch R)) (log : List (Turn R)) : Progress R × Cell R → Prop
  | (.done value, _) => ∃ new values, Tally 0 branches new log ∧ values? new = some values ∧ value = .list values
  | (.pending run, _) => ∃ key woken new, run = .joined key woken new ∧ Tally 0 branches new log ∧
      values? new = none ∧ (branches.length ≤ few → ∀ turn ∈ log, turn.progress.fails = false) ∧
      (¬branches.length ≤ few → due? new = none)
  | (.fault fault, after) => ∃ earlier turn new, Turn.Last log earlier turn after ∧ Tally 0 branches new log ∧
      (branches.length ≤ few → (∀ turn ∈ earlier, turn.progress.fails = false) ∧ turn.progress = .fault fault) ∧
      (¬branches.length ≤ few → due? new = some fault)
  | (.panicked message, after) => ∃ earlier turn new, Turn.Last log earlier turn after ∧ Tally 0 branches new earlier ∧
      (branches.length ≤ few → ∀ turn ∈ earlier, turn.progress.fails = false) ∧
      (¬branches.length ≤ few → due? new = none) ∧ turn.progress = .panicked message ∧
      ∃ branch, new[turn.index]? = some branch ∧ branch.isOpen = true

theorem join_ends (key : Nat) (woken : List Nat) (branches : List (Branch R)) (polls : List (Poll R))
    (sameLength : polls.length = branches.length) (notDue : ¬branches.length ≤ few → due? branches = none)
    (cell : Cell R) :
    JoinEnds branches (Poll.turns woken branches polls cell) (Poll.join key woken branches polls cell) := by
  unfold Poll.join Poll.turns
  by_cases isFew : branches.length ≤ few
  · simp only [if_pos isFew]
    have ends := ends_in_order (Poll.in_order_course 0 (branches.zip polls) cell)
    rw [List.map_fst_zip (by omega)] at ends
    rcases result : Poll.inOrder (branches.zip polls) cell with ⟨round, after⟩
    rw [result] at ends
    cases round with
    | ok new =>
        simp only [Poll.gather]
        cases isOver : values? new with
        | some values => exact ⟨new, values, ends.1, isOver, rfl⟩
        | none => exact ⟨key, [], new, rfl, ends.1, isOver, fun _ => ends.2, absurd isFew⟩
    | error halt =>
        cases halt with
        | failed fault =>
            obtain ⟨earlier, turn, new, last, fine, tally, failed⟩ := ends
            exact ⟨earlier, turn, new, last, tally, fun _ => ⟨fine, failed⟩, absurd isFew⟩
        | broken message =>
            obtain ⟨earlier, turn, new, last, fine, tally, panicked, place, branch, same, present, isOpen⟩ := ends
            rw [Nat.zero_add] at same
            exact ⟨earlier, turn, new, last, tally, fun _ => fine, absurd isFew, panicked, branch, same ▸ present, isOpen⟩
  · simp only [if_neg isFew]
    have ends := ends_in_waking_order
      (Poll.in_waking_order_course key polls woken ⟨branches, [], 0, openCount branches⟩ cell) (notDue isFew)
    rcases result : Poll.inWakingOrder key polls woken ⟨branches, [], 0, openCount branches⟩ cell with ⟨round, after⟩
    rw [result] at ends
    cases round with
    | ok round =>
        simp only [Poll.gather]
        cases isOver : values? round.branches with
        | some values => exact ⟨round.branches, values, ends.1, isOver, rfl⟩
        | none => exact ⟨key, round.woken, round.branches, rfl, ends.1, isOver, (absurd · isFew), fun _ => ends.2⟩
    | error halt =>
        cases halt with
        | failed fault =>
            obtain ⟨earlier, turn, new, last, tally, due⟩ := ends
            exact ⟨earlier, turn, new, last, tally, (absurd · isFew), fun _ => due⟩
        | broken message =>
            obtain ⟨earlier, turn, new, last, tally, due, panicked, branch, present, isOpen⟩ := ends
            exact ⟨earlier, turn, new, last, tally, (absurd · isFew), fun _ => due, panicked, branch, present, isOpen⟩

theorem JoinEnds.after (branches between : List (Branch R)) (log more : List (Turn R)) (tally : Tally 0 branches between log)
    (fine : branches.length ≤ few → ∀ turn ∈ log, turn.progress.fails = false) (ended : Progress R × Cell R)
    (ends : JoinEnds between more ended) : JoinEnds branches (log ++ more) ended := by
  have both : ∀ part : List (Turn R), (between.length ≤ few → ∀ turn ∈ part, turn.progress.fails = false) →
      branches.length ≤ few → ∀ turn ∈ log ++ part, turn.progress.fails = false := by
    intro part partFine isFew turn member
    rcases List.mem_append.mp member with early | late
    · exact fine isFew turn early
    · exact partFine (tally.length ▸ isFew) turn late
  rcases ended with ⟨progress, cell⟩
  cases progress with
  | done value =>
      obtain ⟨new, values, told, isOver, same⟩ := ends
      exact ⟨new, values, tally.trans told, isOver, same⟩
  | pending run =>
      obtain ⟨key, woken, new, same, told, isOver, fineLater, notDue⟩ := ends
      exact ⟨key, woken, new, same, tally.trans told, isOver, both more fineLater, tally.length ▸ notDue⟩
  | fault fault =>
      obtain ⟨earlier, turn, new, ⟨split, left⟩, told, first, due⟩ := ends
      refine ⟨log ++ earlier, turn, new, ⟨by rw [split, List.append_assoc], left⟩, tally.trans told, ?_,
        tally.length ▸ due⟩
      intro isFew
      have isFewBetween : between.length ≤ few := tally.length ▸ isFew
      exact ⟨both earlier (fun _ => (first isFewBetween).1) isFew, (first isFewBetween).2⟩
  | panicked message =>
      obtain ⟨earlier, turn, new, ⟨split, left⟩, told, fineLater, notDue, rest⟩ := ends
      exact ⟨log ++ earlier, turn, new, ⟨by rw [split, List.append_assoc], left⟩, tally.trans told, both earlier fineLater,
        tally.length ▸ notDue, rest⟩

end Branch

variable [Scalar R]

def Run.turns (handlers : HandlerTable R) : Run R → Cell R → List (Branch.Turn R)
  | .joined _ woken branches, cell => Poll.turns woken branches (Run.resumeAll handlers branches) cell
  | _, _ => []

-- An attempt at branches side by side, with the turns that they have got, what the node has come to in the last of
-- its turns and the cell then. Before a turn places of the run are woken, and `others` change the cell between two
-- turns.
inductive Together (handlers : HandlerTable R) (others : Cell R → Cell R → Prop) (label : Label) (steps : List (Step R))
    (cell : Cell R) : List (Branch.Turn R) → Progress R → Cell R → Prop where
  | first {progress after} (turn : (Step.parallel label steps).dispatch handlers cell = (progress, after)) :
      Together handlers others label steps cell
        (Poll.turns (List.range steps.length) (steps.map .fresh) (Step.startAll handlers steps) cell.issue.2) progress after
  | next {log run before between progress after} (keys : List Nat)
      (earlier : Together handlers others label steps cell log (.pending run) before) (changed : others before between)
      (turn : (run.wake keys).resume handlers between = (progress, after)) :
      Together handlers others label steps cell (log ++ (run.wake keys).turns handlers between) progress after

namespace Together

def inTwo (handlers : HandlerTable R) (change : Cell R → Cell R) (keys : List Nat) (label : Label)
    (steps : List (Step R)) (cell : Cell R) : List (Branch.Turn R) × Progress R × Cell R :=
  let begun := Poll.turns (List.range steps.length) (steps.map .fresh) (Step.startAll handlers steps) cell.issue.2
  match (Step.parallel label steps).dispatch handlers cell with
  | (.pending run, before) =>
      (begun ++ (run.wake keys).turns handlers (change before), (run.wake keys).resume handlers (change before))
  | ended => (begun, ended)

theorem in_two (handlers : HandlerTable R) (others : Cell R → Cell R → Prop) (change : Cell R → Cell R)
    (allowed : ∀ cell, others cell (change cell)) (keys : List Nat) (label : Label) (steps : List (Step R))
    (cell : Cell R) :
    Together handlers others label steps cell (inTwo handlers change keys label steps cell).1
      (inTwo handlers change keys label steps cell).2.1 (inTwo handlers change keys label steps cell).2.2 := by
  rcases result : (Step.parallel label steps).dispatch handlers cell with ⟨progress, after⟩
  have first : Together handlers others label steps cell _ progress after := .first result
  simp only [inTwo, result]
  cases progress with
  | done value => exact first
  | fault fault => exact first
  | panicked message => exact first
  | pending run => exact .next keys first (allowed after) rfl

variable {handlers : HandlerTable R} {others : Cell R → Cell R → Prop} {label : Label} {steps : List (Step R)}
  {cell after : Cell R} {log : List (Branch.Turn R)} {progress : Progress R}

theorem ends (together : Together handlers others label steps cell log progress after) :
    Branch.JoinEnds (steps.map .fresh) log (progress, after) := by
  induction together with
  | first turn =>
      rw [← turn, Step.dispatch]
      refine Branch.join_ends cell.issue.1 _ (steps.map .fresh) (Step.startAll handlers steps) ?_ ?_ cell.issue.2
      · rw [Upkeep.start_all_length, List.length_map]
      · exact fun _ => Branch.due_fresh steps
  | next keys earlier changed turn ih =>
      rename_i log run before between progress after
      obtain ⟨key, woken, branches, rfl, tally, -, fine, notDue⟩ := ih
      obtain ⟨queue, touched, same, kept, due⟩ := Branch.wake_joined keys key woken branches
      rw [same] at turn ⊢
      -- What has been woken is what the earlier turns have left, so their log tells how it came about.
      have whole : Branch.Tally 0 (steps.map .fresh) touched log := by
        have joined := tally.trans kept
        rwa [List.append_nil] at joined
      refine Branch.JoinEnds.after _ touched log _ whole fine _ ?_
      rw [← turn, Run.resume]
      refine Branch.join_ends key queue touched (Run.resumeAll handlers touched)
        (Upkeep.resume_all_length handlers touched) ?_ between
      intro many
      rw [due]
      exact notDue (whole.length ▸ many)

end Together

end Workcell
