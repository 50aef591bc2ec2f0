import Workcell.Proofs.Joining.Turns

/-!
Rounds by their logs: what a round comes to can be told from the turns in it.

The course of a round is what may happen in it from turn to turn; whatever holds of rounds is shown along their course.
A round in order ends with the first turn that fails. A round in the order of waking ends with the turn after which a
fault is due, so it may outlast turns that fail.

The log of a round is the round: its turns follow one another on the cell, each the own turn of its branch, and nothing
else is done to the cell than that waits are given up or another turn is asked for.
-/

set_option autoImplicit false

namespace Workcell

variable {R : Type}

def Cell.giveUp (waits : List (Wait R)) (cell : Cell R) : Cell R := waits.foldl (fun cell wait => wait.abandon cell) cell

namespace Cell

theorem give_up_append (waits more : List (Wait R)) (cell : Cell R) :
    cell.giveUp (waits ++ more) = (cell.giveUp waits).giveUp more := List.foldl_append

end Cell

mutual
theorem abandon_gives_up (run : Run R) (cell : Cell R) : run.abandon cell = cell.giveUp run.waits := by
  cases run with
  | waiting key wait => rfl
  | attempt step number inside => exact abandon_gives_up inside cell
  | bound run next select => exact abandon_gives_up run cell
  | mapped run transform => exact abandon_gives_up run cell
  | joined key woken branches => exact abandon_all_gives_up branches cell
  | repeated run inner left => exact abandon_gives_up run cell
  | resting key inner => rfl

theorem abandon_branch_gives_up (branch : Branch R) (cell : Cell R) :
    branch.abandon cell = cell.giveUp branch.waits := by
  cases branch with
  | running run => exact abandon_gives_up run cell
  | fresh step => rfl
  | ended value => rfl
  | failed fault => rfl

theorem abandon_all_gives_up (branches : List (Branch R)) (cell : Cell R) :
    Run.abandonAll branches cell = cell.giveUp (Run.waitsOf branches) := by
  cases branches with
  | nil => rfl
  | cons branch rest =>
      rw [Run.abandonAll, Run.waitsOf, Cell.give_up_append, abandon_branch_gives_up, abandon_all_gives_up rest]
end

def Progress.fails : Progress R → Bool
  | .fault _ => true
  | .panicked _ => true
  | _ => false

namespace Poll

open Branch (Turn)

inductive CourseInOrder : (index : Nat) → List (Branch R × Poll R) → Cell R → List (Turn R) →
    Except Halt (List (Branch R)) × Cell R → Prop where
  | nil {index cell} : CourseInOrder index [] cell [] (.ok [], cell)
  | skip {index branch poll rest cell log ended} (isOver : ¬branch.isOpen = true)
      (later : CourseInOrder (index + 1) rest cell log ended) :
      CourseInOrder index ((branch, poll) :: rest) cell log (inOrder.cons branch ended)
  | turn {index branch poll rest cell progress after log ended} (isOpen : branch.isOpen = true)
      (result : poll cell = (progress, after)) (fine : progress.fails = false)
      (later : CourseInOrder (index + 1) rest after log ended) :
      CourseInOrder index ((branch, poll) :: rest) cell (⟨index, cell, progress, after⟩ :: log)
        (inOrder.cons (Branch.turned progress) ended)
  | fault {index branch poll rest cell fault after} (isOpen : branch.isOpen = true)
      (result : poll cell = (.fault fault, after)) :
      CourseInOrder index ((branch, poll) :: rest) cell [⟨index, cell, .fault fault, after⟩]
        (.error (.failed fault), Run.abandonAll (rest.map Prod.fst) after)
  | panic {index branch poll rest cell message after} (isOpen : branch.isOpen = true)
      (result : poll cell = (.panicked message, after)) :
      CourseInOrder index ((branch, poll) :: rest) cell [⟨index, cell, .panicked message, after⟩]
        (.error (.broken message), Run.abandonAll (rest.map Prod.fst) after)

theorem in_order_course (index : Nat) (pairs : List (Branch R × Poll R)) (cell : Cell R) :
    CourseInOrder index pairs cell (turnsInOrder index pairs cell) (inOrder pairs cell) := by
  induction pairs generalizing index cell with
  | nil => exact .nil
  | cons pair rest ih =>
      obtain ⟨branch, poll⟩ := pair
      by_cases isOpen : branch.isOpen = true
      · simp only [inOrder, turnsInOrder, if_pos isOpen]
        rcases result : poll cell with ⟨progress, after⟩
        cases progress with
        | done value => exact .turn isOpen result rfl (ih (index + 1) after)
        | pending run => exact .turn isOpen result rfl (ih (index + 1) after)
        | fault fault => exact .fault isOpen result
        | panicked message => exact .panic isOpen result
      · simp only [inOrder, turnsInOrder, if_neg isOpen]
        exact .skip isOpen (ih (index + 1) cell)

inductive CourseInWakingOrder (key : Nat) (polls : List (Poll R)) : Round R → Cell R → List (Turn R) →
    Except Halt (Round R) × Cell R → Prop where
  | rest {round cell} : CourseInWakingOrder key polls round cell [] (.ok round, cell)
  | panic {round cell turn message} (own : turn.Own polls round.branches cell)
      (panicked : turn.progress = .panicked message) :
      CourseInWakingOrder key polls round cell [turn]
        (.error (.broken message), Run.abandonAll (turn.leaves round.branches) turn.ended)
  | due {round cell turn fault} (own : turn.Own polls round.branches cell)
      (whole : ∀ message, turn.progress ≠ .panicked message)
      (due : Branch.due? (turn.leaves round.branches) = some fault) :
      CourseInWakingOrder key polls round cell [turn]
        (.error (.failed fault), Run.abandonAll (turn.leaves round.branches) turn.ended)
  | yields {round cell turn left} (own : turn.Own polls round.branches cell) (pending : turn.progress.isPending = true)
      (same : left.branches = turn.leaves round.branches) :
      CourseInWakingOrder key polls round cell [turn] (.ok left, turn.ended.effect (.again key))
  | turn {round next cell turn log ended} (own : turn.Own polls round.branches cell)
      (whole : ∀ message, turn.progress ≠ .panicked message) (same : next.branches = turn.leaves round.branches)
      (goesOn : turn.progress.isPending = true ∨ Branch.due? next.branches = none)
      (later : CourseInWakingOrder key polls next turn.ended log ended) :
      CourseInWakingOrder key polls round cell (turn :: log) ended

theorem settling_course (key : Nat) (polls : List (Poll R)) (round : Round R) (cell : Cell R) (turn : Turn R)
    (own : turn.Own polls round.branches cell) (whole : ∀ message, turn.progress ≠ .panicked message)
    (log : Round R → List (Turn R)) (go : Round R → Cell R → Except Halt (Round R) × Cell R)
    (later : ∀ next, CourseInWakingOrder key polls next turn.ended (log next) (go next turn.ended)) :
    CourseInWakingOrder key polls round cell
      (turn :: turnsInWakingOrder.further (turn.leaves round.branches) round.woken log)
      (inWakingOrder.settle (turn.leaves round.branches) round.woken turn.ended go) := by
  unfold turnsInWakingOrder.further inWakingOrder.settle
  cases due : Branch.due? (turn.leaves round.branches) with
  | some fault => exact .due own whole due
  | none => exact .turn own whole rfl (.inr due) (later _)

theorem in_waking_order_course (key : Nat) (polls : List (Poll R)) (queue : List Nat) (round : Round R) (cell : Cell R) :
    CourseInWakingOrder key polls round cell (turnsInWakingOrder polls queue round cell)
      (inWakingOrder key polls queue round cell) := by
  induction queue generalizing round cell with
  | nil => exact .rest
  | cons index queue ih =>
      rw [inWakingOrder, turnsInWakingOrder]
      cases present : round.branches[index]? with
      | none => exact ih round cell
      | some branch =>
          cases polled : polls[index]? with
          | none => exact ih round cell
          | some poll =>
              by_cases isOpen : branch.isOpen = true
              · simp only [if_pos isOpen]
                rcases result : poll cell with ⟨progress, after⟩
                have own : Turn.Own polls round.branches cell ⟨index, cell, progress, after⟩ :=
                  ⟨rfl, ⟨poll, polled, result⟩, branch, present, isOpen⟩
                cases progress with
                | panicked message => exact .panic own rfl
                | pending run =>
                    by_cases last : round.given + 1 = round.opened
                    · simp only [if_pos last]
                      exact .yields own rfl rfl
                    · simp only [if_neg last]
                      exact .turn own (by simp) rfl (.inl rfl) (ih _ after)
                | done value =>
                    exact settling_course key polls round cell _ own (by simp) _ _ fun next => ih next after
                | fault fault =>
                    exact settling_course key polls round cell _ own (by simp) _ _ fun next => ih next after
              · simp only [if_neg isOpen]
                exact ih round cell

end Poll

namespace Branch

def Turn.Last (log : List (Turn R)) (earlier : List (Turn R)) (turn : Turn R) (after : Cell R) : Prop :=
  log = earlier ++ [turn] ∧ ∃ waits, after = turn.ended.giveUp waits

def EndsInOrder (base : Nat) (branches : List (Branch R)) (log : List (Turn R)) :
    Except Halt (List (Branch R)) × Cell R → Prop
  | (.ok new, _) => Tally base branches new log ∧ ∀ turn ∈ log, turn.progress.fails = false
  | (.error (.failed fault), after) => ∃ earlier turn new, Turn.Last log earlier turn after ∧
      (∀ turn ∈ earlier, turn.progress.fails = false) ∧ Tally base branches new log ∧ turn.progress = .fault fault
  | (.error (.broken message), after) => ∃ earlier turn new, Turn.Last log earlier turn after ∧
      (∀ turn ∈ earlier, turn.progress.fails = false) ∧ Tally base branches new earlier ∧
      turn.progress = .panicked message ∧
      ∃ place branch, turn.index = base + place ∧ new[place]? = some branch ∧ branch.isOpen = true

def EndsInWakingOrder (branches : List (Branch R)) (log : List (Turn R)) :
    Except Halt (Poll.Round R) × Cell R → Prop
  | (.ok round, _) => Tally 0 branches round.branches log ∧ due? round.branches = none
  | (.error (.failed fault), after) => ∃ earlier turn new, Turn.Last log earlier turn after ∧
      Tally 0 branches new log ∧ due? new = some fault
  | (.error (.broken message), after) => ∃ earlier turn new, Turn.Last log earlier turn after ∧
      Tally 0 branches new earlier ∧ due? new = none ∧ turn.progress = .panicked message ∧
      ∃ branch, new[turn.index]? = some branch ∧ branch.isOpen = true

theorem places_in_order {index : Nat} {pairs : List (Branch R × Poll R)} {cell : Cell R} {log : List (Turn R)}
    {ended : Except Halt (List (Branch R)) × Cell R} (course : Poll.CourseInOrder index pairs cell log ended) :
    ∀ turn ∈ log, index ≤ turn.index := by
  induction course with
  | nil => exact List.forall_mem_nil _
  | skip isOver later ih => exact fun turn member => Nat.le_of_succ_le (ih turn member)
  | turn isOpen result fine later ih =>
      intro turn member
      rcases List.mem_cons.mp member with rfl | inside
      · exact Nat.le_refl _
      · exact Nat.le_of_succ_le (ih turn inside)
  | fault isOpen result => simp
  | panic isOpen result => simp

theorem ends_cons (base : Nat) (before after : Branch R) (branches : List (Branch R)) (own log : List (Turn R))
    (first : before.returns ++ Turn.returned own base = after.returns) (ownPlace : ∀ turn ∈ own, turn.index = base)
    (ownFine : ∀ turn ∈ own, turn.progress.fails = false) (places : ∀ turn ∈ log, base < turn.index)
    (rest : Except Halt (List (Branch R)) × Cell R) (ends : EndsInOrder (base + 1) branches log rest) :
    EndsInOrder base (before :: branches) (own ++ log) (Poll.inOrder.cons after rest) := by
  have fine : ∀ part : List (Turn R), (∀ turn ∈ part, turn.progress.fails = false) →
      ∀ turn ∈ own ++ part, turn.progress.fails = false := by
    intro part partFine turn member
    rcases List.mem_append.mp member with early | late
    · exact ownFine turn early
    · exact partFine turn late
  rcases rest with ⟨result, cell⟩
  cases result with
  | ok new => exact ⟨.cons base before after branches new own log first ownPlace places ends.1, fine log ends.2⟩
  | error halt =>
      cases halt with
      | failed fault =>
          obtain ⟨earlier, turn, new, ⟨split, waits, rfl⟩, earlierFine, tally, failed⟩ := ends
          refine ⟨own ++ earlier, turn, after :: new, ⟨by rw [split, List.append_assoc], ?_⟩, fine earlier earlierFine,
            .cons base before after branches new own log first ownPlace places tally, failed⟩
          exact ⟨waits ++ after.waits, by rw [Cell.give_up_append, abandon_branch_gives_up]⟩
      | broken message =>
          obtain ⟨earlier, turn, new, ⟨split, waits, rfl⟩, earlierFine, tally, panicked, place, branch, same, present,
            isOpen⟩ := ends
          have earlierPlaces : ∀ turn ∈ earlier, base < turn.index :=
            fun turn member => places turn (split ▸ List.mem_append_left _ member)
          refine ⟨own ++ earlier, turn, after :: new, ⟨by rw [split, List.append_assoc], ?_⟩, fine earlier earlierFine,
            .cons base before after branches new own earlier first ownPlace earlierPlaces tally, panicked, place + 1,
            branch, by omega, present, isOpen⟩
          exact ⟨waits ++ after.waits, by rw [Cell.give_up_append, abandon_branch_gives_up]⟩

theorem ends_in_order {base : Nat} {pairs : List (Branch R × Poll R)} {cell : Cell R} {log : List (Turn R)}
    {ended : Except Halt (List (Branch R)) × Cell R} (course : Poll.CourseInOrder base pairs cell log ended) :
    EndsInOrder base (pairs.map Prod.fst) log ended := by
  induction course with
  | nil => exact ⟨.refl _ [], List.forall_mem_nil _⟩
  | @skip base branch poll rest cell log ended isOver later ih =>
      refine ends_cons base branch branch _ [] log (List.append_nil _) ?_ ?_ (places_in_order later) ended ih
      · exact List.forall_mem_nil _
      · exact List.forall_mem_nil _
  | @turn base branch poll rest cell progress after log ended isOpen result fine later ih =>
      have whole : ∀ message, progress ≠ .panicked message := by
        rintro message rfl
        cases fine
      refine ends_cons base branch (turned progress) _ [⟨base, cell, progress, after⟩] log ?_ ?_ ?_
        (places_in_order later) ended ih
      · exact turn_returns branch isOpen ⟨base, cell, progress, after⟩ whole
      · simp
      · simp [fine]
  | @fault base branch poll rest cell fault after isOpen result =>
      -- The branches behind this one have had no turn, so they are given up as they stand.
      refine ⟨[], _, .failed fault :: rest.map Prod.fst, ⟨rfl, _, abandon_all_gives_up _ after⟩, ?_, ?_, rfl⟩
      · exact List.forall_mem_nil _
      · refine .cons base branch (.failed fault) _ _ [⟨base, cell, .fault fault, after⟩] [] ?_ ?_ ?_ (.refl _ _)
        · exact turn_returns branch isOpen ⟨base, cell, .fault fault, after⟩ (by simp)
        · simp
        · exact List.forall_mem_nil _
  | @panic base branch poll rest cell message after isOpen result =>
      refine ⟨[], _, branch :: rest.map Prod.fst, ⟨rfl, _, abandon_all_gives_up _ after⟩, ?_, .refl base _, rfl, 0, branch,
        rfl, rfl, isOpen⟩
      exact List.forall_mem_nil _

variable {key : Nat} {polls : List (Poll R)} {round : Poll.Round R} {cell : Cell R} {log : List (Turn R)}
  {ended : Except Halt (Poll.Round R) × Cell R}

theorem ends_after_turn {branches between : List (Branch R)} {turn : Turn R} (first : Tally 0 branches between [turn])
    (ends : EndsInWakingOrder between log ended) : EndsInWakingOrder branches (turn :: log) ended := by
  rcases ended with ⟨result, cell⟩
  cases result with
  | ok round => exact ⟨first.trans ends.1, ends.2⟩
  | error halt =>
      cases halt with
      | failed fault =>
          obtain ⟨earlier, last, new, ⟨split, left⟩, tally, due⟩ := ends
          exact ⟨turn :: earlier, last, new, ⟨by rw [split]; rfl, left⟩, first.trans tally, due⟩
      | broken message =>
          obtain ⟨earlier, last, new, ⟨split, left⟩, tally, rest⟩ := ends
          exact ⟨turn :: earlier, last, new, ⟨by rw [split]; rfl, left⟩, first.trans tally, rest⟩

theorem still_not_due {next : Poll.Round R} {turn : Turn R} (own : turn.Own polls round.branches cell)
    (same : next.branches = turn.leaves round.branches)
    (goesOn : turn.progress.isPending = true ∨ due? next.branches = none) (notDue : due? round.branches = none) :
    due? next.branches = none := by
  rcases goesOn with pending | none
  · rw [same, own.leaves_due pending]
    exact notDue
  · exact none

theorem ends_in_waking_order (course : Poll.CourseInWakingOrder key polls round cell log ended)
    (notDue : due? round.branches = none) : EndsInWakingOrder round.branches log ended := by
  induction course with
  | rest => exact ⟨.refl 0 _, notDue⟩
  | panic own panicked =>
      exact ⟨[], _, _, ⟨rfl, _, abandon_all_gives_up _ _⟩, .refl 0 _, notDue, panicked, own.isOpen⟩
  | due own whole due => exact ⟨[], _, _, ⟨rfl, _, abandon_all_gives_up _ _⟩, .turn own whole, due⟩
  | @yields round cell turn left own pending same =>
      refine ⟨same ▸ .turn own (turn.whole_of_pending pending), ?_⟩
      rw [same, own.leaves_due pending]
      exact notDue
  | turn own whole same goesOn later ih =>
      exact ends_after_turn (same ▸ .turn own whole) (ih (still_not_due own same goesOn notDue))

def Undecided (branches : List (Branch R)) (log : List (Turn R)) : Prop :=
  ∀ front back, log = front ++ back → back ≠ [] → ∃ new, Tally 0 branches new front ∧ due? new = none

theorem undecided_nil (branches : List (Branch R)) : Undecided branches [] := by
  intro front back split more
  exact absurd (List.nil_eq_append_iff.mp split).2 more

theorem undecided_last (branches : List (Branch R)) (notDue : due? branches = none) (turn : Turn R) :
    Undecided branches [turn] := by
  intro front back split more
  have whole : front = [] := by
    cases front with
    | nil => rfl
    | cons first front =>
        obtain ⟨-, rest⟩ := List.cons.inj split
        exact absurd (List.nil_eq_append_iff.mp rest).2 more
  exact ⟨branches, whole ▸ .refl 0 branches, notDue⟩

theorem undecided_cons {branches between : List (Branch R)} {turn : Turn R} (notDue : due? branches = none)
    (first : Tally 0 branches between [turn]) (later : Undecided between log) : Undecided branches (turn :: log) := by
  intro front back split more
  cases front with
  | nil => exact ⟨branches, .refl 0 branches, notDue⟩
  | cons head front =>
      obtain ⟨rfl, rest⟩ := List.cons.inj split
      obtain ⟨new, tally, due⟩ := later front back rest more
      exact ⟨new, first.trans tally, due⟩

-- Every turn but the last has been followed by another one, and a round goes on only while no fault is due.
theorem undecided_in_waking_order (course : Poll.CourseInWakingOrder key polls round cell log ended)
    (notDue : due? round.branches = none) : Undecided round.branches log := by
  induction course with
  | rest => exact undecided_nil _
  | panic own panicked => exact undecided_last _ notDue _
  | due own whole due => exact undecided_last _ notDue _
  | yields own pending same => exact undecided_last _ notDue _
  | turn own whole same goesOn later ih =>
      exact undecided_cons notDue (same ▸ .turn own whole) (ih (still_not_due own same goesOn notDue))

end Branch

namespace Branch

def Turn.Follow (base : Nat) (polls : List (Poll R)) : List (Turn R) → (cell last : Cell R) → Prop
  | [], cell, last => last = cell
  | turn :: log, cell, last => turn.began = cell ∧
      (∃ place poll, turn.index = base + place ∧ polls[place]? = some poll ∧ poll cell = (turn.progress, turn.ended)) ∧
      Turn.Follow base polls log turn.ended last

theorem Turn.follow_behind (base : Nat) (first : Poll R) (polls : List (Poll R)) (log : List (Turn R))
    (cell last : Cell R) (follow : Turn.Follow (base + 1) polls log cell last) :
    Turn.Follow base (first :: polls) log cell last := by
  induction log generalizing cell with
  | nil => exact follow
  | cons turn log ih =>
      obtain ⟨began, ⟨place, poll, same, polled, result⟩, rest⟩ := follow
      exact ⟨began, ⟨place + 1, poll, by omega, polled, result⟩, ih turn.ended rest⟩

theorem cons_gives_up (branch : Branch R) (rest : Except Halt (List (Branch R)) × Cell R) :
    ∃ waits, (Poll.inOrder.cons branch rest).2 = rest.2.giveUp waits := by
  rcases rest with ⟨result, cell⟩
  cases result with
  | ok branches => exact ⟨[], rfl⟩
  | error halt => exact ⟨branch.waits, abandon_branch_gives_up branch cell⟩

theorem in_order_follows {base : Nat} {pairs : List (Branch R × Poll R)} {cell : Cell R} {log : List (Turn R)}
    {ended : Except Halt (List (Branch R)) × Cell R} (course : Poll.CourseInOrder base pairs cell log ended) :
    ∃ last waits, Turn.Follow base (pairs.map Prod.snd) log cell last ∧ ended.2 = last.giveUp waits := by
  induction course with
  | @nil index cell => exact ⟨cell, [], rfl, rfl⟩
  | @skip index branch poll rest cell log ended isOver later ih =>
      obtain ⟨last, waits, follow, left⟩ := ih
      obtain ⟨more, given⟩ := cons_gives_up branch ended
      refine ⟨last, waits ++ more, Turn.follow_behind index poll _ log cell last follow, ?_⟩
      rw [given, left, Cell.give_up_append]
  | @turn index branch poll rest cell progress after log ended isOpen result fine later ih =>
      obtain ⟨last, waits, follow, left⟩ := ih
      obtain ⟨more, given⟩ := cons_gives_up (turned progress) ended
      have behind := Turn.follow_behind index poll _ log after last follow
      refine ⟨last, waits ++ more, ⟨rfl, ⟨0, poll, rfl, rfl, result⟩, behind⟩, ?_⟩
      rw [given, left, Cell.give_up_append]
  | @fault index branch poll rest cell fault after isOpen result =>
      exact ⟨after, _, ⟨rfl, ⟨0, poll, rfl, rfl, result⟩, rfl⟩, abandon_all_gives_up _ after⟩
  | @panic index branch poll rest cell message after isOpen result =>
      exact ⟨after, _, ⟨rfl, ⟨0, poll, rfl, rfl, result⟩, rfl⟩, abandon_all_gives_up _ after⟩

def Turn.Left (key : Nat) (last after : Cell R) : Prop :=
  (∃ waits, after = last.giveUp waits) ∨ after = last.effect (.again key)

theorem Turn.Own.follow {polls : List (Poll R)} {branches : List (Branch R)} {cell last : Cell R} {turn : Turn R}
    {log : List (Turn R)} (own : turn.Own polls branches cell) (later : Turn.Follow 0 polls log turn.ended last) :
    Turn.Follow 0 polls (turn :: log) cell last := by
  obtain ⟨poll, polled, result⟩ := own.polled
  exact ⟨own.began, ⟨turn.index, poll, (Nat.zero_add turn.index).symm, polled, result⟩, later⟩

theorem in_waking_order_follows {key : Nat} {polls : List (Poll R)} {round : Poll.Round R} {cell : Cell R}
    {log : List (Turn R)} {ended : Except Halt (Poll.Round R) × Cell R}
    (course : Poll.CourseInWakingOrder key polls round cell log ended) :
    ∃ last, Turn.Follow 0 polls log cell last ∧ Turn.Left key last ended.2 := by
  induction course with
  | @rest round cell => exact ⟨cell, rfl, .inl ⟨[], rfl⟩⟩
  | panic own panicked => exact ⟨_, own.follow rfl, .inl ⟨_, abandon_all_gives_up _ _⟩⟩
  | due own whole due => exact ⟨_, own.follow rfl, .inl ⟨_, abandon_all_gives_up _ _⟩⟩
  | yields own pending same => exact ⟨_, own.follow rfl, .inr rfl⟩
  | turn own whole same goesOn later ih =>
      obtain ⟨last, follow, left⟩ := ih
      exact ⟨last, own.follow follow, left⟩

-- A turn of branches side by side does to the cell what the turns of its branches do, one after another.
theorem join_follows (key : Nat) (woken : List Nat) (branches : List (Branch R)) (polls : List (Poll R))
    (sameLength : polls.length = branches.length) (cell : Cell R) :
    ∃ last, Turn.Follow 0 polls (Poll.turns woken branches polls cell) cell last ∧
      Turn.Left key last (Poll.join key woken branches polls cell).2 := by
  unfold Poll.join Poll.turns
  by_cases isFew : branches.length ≤ few
  · simp only [if_pos isFew]
    obtain ⟨last, waits, follow, left⟩ := in_order_follows (Poll.in_order_course 0 (branches.zip polls) cell)
    rw [List.map_snd_zip (by omega)] at follow
    refine ⟨last, follow, .inl ⟨waits, ?_⟩⟩
    rcases result : Poll.inOrder (branches.zip polls) cell with ⟨round, after⟩
    rw [result] at left
    cases round with
    | ok new => exact left
    | error halt => exact left
  · simp only [if_neg isFew]
    obtain ⟨last, follow, left⟩ := in_waking_order_follows
      (Poll.in_waking_order_course key polls woken ⟨branches, [], 0, openCount branches⟩ cell)
    refine ⟨last, follow, ?_⟩
    rcases result : Poll.inWakingOrder key polls woken ⟨branches, [], 0, openCount branches⟩ cell with ⟨round, after⟩
    rw [result] at left
    cases round with
    | ok new => exact left
    | error halt => exact left

end Branch

end Workcell
