import Workcell.Proofs.Joining.Together

/-!
Branches of which none fails: how they are begun, and what a later turn of the run gives them. Each branch that has been
woken gets its turn, or it stays woken and the run has another turn at once.
-/

set_option autoImplicit false

namespace Workcell

variable {R : Type}

inductive Branch.Comes : Progress R → Branch R → Prop where
  | ended (value : Value R) : Comes (.done value) (.ended value)
  | waits (run : Run R) : Comes (.pending run) (.running run)

def Branch.Fine (branches : List (Branch R)) : Prop := ∀ fault, .failed fault ∉ branches

namespace Branch

theorem due_of_fine (branches : List (Branch R)) (fine : Fine branches) : due? branches = none := by
  induction branches with
  | nil => rfl
  | cons branch rest ih =>
      cases branch with
      | ended value => exact ih fun fault member => fine fault (List.mem_cons_of_mem _ member)
      | failed fault => exact absurd List.mem_cons_self (fine fault)
      | fresh step => rfl
      | running run => rfl

theorem fine_begun (earlier : List (Branch R)) (fine : Fine earlier) (branch : Branch R) {progress : Progress R}
    (comes : Comes progress branch) (steps : List (Step R)) : Fine (earlier ++ branch :: steps.map .fresh) := by
  intro fault member
  rcases List.mem_append.mp member with early | late
  · exact fine fault early
  · rcases List.mem_cons.mp late with rfl | fresh
    · cases comes
    · obtain ⟨step, -, same⟩ := List.mem_map.mp fresh
      cases same

theorem opened_of_fresh (earlier : List (Branch R)) (steps : List (Step R)) :
    steps.length ≤ openCount (earlier ++ steps.map .fresh) := by
  have all : (steps.map Branch.fresh).filter isOpen = steps.map Branch.fresh :=
    List.filter_eq_self.mpr fun branch member => by
      obtain ⟨step, -, rfl⟩ := List.mem_map.mp member
      rfl
  rw [openCount, List.filter_append, all, List.length_append, List.length_map]
  exact Nat.le_add_left _ _

end Branch

namespace Poll

inductive Begun : List (Poll R) → Cell R → List (Branch R) → Cell R → Prop where
  | nil {cell} : Begun [] cell [] cell
  | cons {poll rest cell progress between branch branches after} (turn : poll cell = (progress, between))
      (comes : Branch.Comes progress branch) (later : Begun rest between branches after) :
      Begun (poll :: rest) cell (branch :: branches) after

theorem in_order_begun {polls : List (Poll R)} {cell after : Cell R} {branches : List (Branch R)}
    (begun : Begun polls cell branches after) (steps : List (Step R)) (sameLength : polls.length = steps.length) :
    inOrder ((steps.map Branch.fresh).zip polls) cell = (.ok branches, after) := by
  induction begun generalizing steps with
  | nil => simp [inOrder]
  | cons turn comes later ih =>
      cases steps with
      | nil => cases sameLength
      | cons step steps =>
          have rest := ih steps (Nat.succ.inj sameLength)
          cases comes with
          | ended value => simp [inOrder, Branch.isOpen, turn, rest, inOrder.cons]
          | waits run => simp [inOrder, Branch.isOpen, turn, rest, inOrder.cons]

theorem set_begun (earlier : List (Branch R)) (step : Step R) (steps : List (Step R)) (branch : Branch R) :
    (earlier ++ (step :: steps).map Branch.fresh).set earlier.length branch =
      (earlier ++ [branch]) ++ steps.map Branch.fresh := by
  rw [List.set_append_right _ _ (Nat.le_refl _), Nat.sub_self]
  simp

theorem in_waking_order_begun (key : Nat) (polls : List (Poll R)) {rest : List (Poll R)} {cell after : Cell R}
    {branches : List (Branch R)} (begun : Begun rest cell branches after) (steps : List (Step R))
    (sameLength : rest.length = steps.length) (earlier : List (Branch R)) (fine : Branch.Fine earlier)
    (places : ∀ index, polls[earlier.length + index]? = rest[index]?) (given opened : Nat)
    (room : given + rest.length ≤ opened) :
    ∃ round last, inWakingOrder key polls (List.range' earlier.length rest.length)
        ⟨earlier ++ steps.map .fresh, [], given, opened⟩ cell = (.ok round, last) ∧ round.branches = earlier ++ branches ∧
      round.woken = [] ∧ (last = after ∨ last = after.effect (.again key)) := by
  induction begun generalizing steps earlier given opened with
  | nil =>
      cases steps with
      | nil => exact ⟨_, _, rfl, rfl, rfl, Or.inl rfl⟩
      | cons step steps => cases sameLength
  | @cons poll rest cell progress between branch branches after turn comes later ih =>
      cases steps with
      | nil => cases sameLength
      | cons step steps =>
          have polled : polls[earlier.length]? = some poll := places 0
          have present : (earlier ++ (step :: steps).map Branch.fresh)[earlier.length]? = some (.fresh step) := by simp
          have queue : List.range' earlier.length (poll :: rest).length =
              earlier.length :: List.range' (earlier ++ [branch]).length rest.length := by
            rw [List.length_append]
            exact List.range'_succ
          have fineStill : Branch.Fine (earlier ++ [branch]) := Branch.fine_begun earlier fine branch comes []
          have goesOn := ih steps (Nat.succ.inj sameLength) (earlier ++ [branch]) fineStill fun index => by
            simpa [Nat.add_assoc, Nat.add_comm] using places (index + 1)
          have split : earlier ++ branch :: branches = (earlier ++ [branch]) ++ branches := by simp
          simp only [queue, inWakingOrder, present, polled, Branch.isOpen, if_true, turn, split]
          rw [List.length_cons] at room
          cases comes with
          | ended value =>
              have notDue := Branch.due_of_fine _ (Branch.fine_begun earlier fine _ (.ended value) steps)
              have same : earlier ++ Branch.ended value :: steps.map Branch.fresh =
                  (earlier ++ [Branch.ended value]) ++ steps.map Branch.fresh := by simp
              rw [same] at notDue
              simp only [inWakingOrder.settle, set_begun, notDue]
              refine goesOn 0 _ ?_
              rw [Nat.zero_add, Nat.succ.inj sameLength]
              exact Branch.opened_of_fresh _ steps
          | waits run =>
              dsimp only
              rw [set_begun]
              by_cases last : given + 1 = opened
              · have ended : rest.length = 0 := by omega
                obtain rfl := List.length_eq_zero_iff.mp ended
                obtain rfl : steps = [] := List.length_eq_zero_iff.mp (Nat.succ.inj sameLength).symm
                cases later
                rw [if_pos last]
                exact ⟨_, _, rfl, by simp, rfl, Or.inr rfl⟩
              · rw [if_neg last]
                exact goesOn (given + 1) opened (by omega)

theorem fork_begun (steps : List (Step R)) (polls : List (Poll R)) (sameLength : polls.length = steps.length)
    {cell after : Cell R} {branches : List (Branch R)} (begun : Begun polls cell.issue.2 branches after) :
    ∃ last, fork steps polls cell = (gather cell.issued [] branches, last) ∧
      (last = after ∨ last = after.effect (.again cell.issued)) := by
  have forked : fork steps polls cell =
      join cell.issued (List.range steps.length) (steps.map Branch.fresh) polls cell.issue.2 := rfl
  rw [forked, join, List.length_map]
  by_cases few : steps.length ≤ Branch.few
  · rw [if_pos few, in_order_begun begun steps sameLength]
    exact ⟨after, rfl, Or.inl rfl⟩
  · have room : 0 + polls.length ≤ Branch.openCount (steps.map Branch.fresh) := by
      rw [Nat.zero_add, sameLength]
      exact Branch.opened_of_fresh [] steps
    obtain ⟨round, last, ended, branches, woken, same⟩ := in_waking_order_begun cell.issued polls begun steps sameLength []
      (fun _ => List.not_mem_nil) (fun index => by simp) 0 _ room
    have queue : List.range steps.length = List.range' 0 polls.length := by rw [sameLength, List.range_eq_range']
    rw [if_neg few, queue]
    rw [List.nil_append, List.length_nil] at ended
    rw [ended]
    refine ⟨last, ?_, same⟩
    show (gather cell.issued round.woken round.branches, last) = _
    rw [branches, woken, List.nil_append]

-- Turns of branches that keep something up and fail at nothing: a branch that has had its turn is settled, in what
-- sense ever, and stays settled.
structure Tame (polls : List (Poll R)) (good : List (Branch R) → Cell R → Prop) (settled : Nat → List (Branch R) → Prop) :
    Prop where
  polled : ∀ branches cell, good branches cell → branches.length = polls.length
  fine : ∀ branches cell, good branches cell → Branch.Fine branches
  turn : ∀ branches cell index branch poll, good branches cell → branches[index]? = some branch → branch.isOpen = true →
    polls[index]? = some poll → ∃ progress after later, poll cell = (progress, after) ∧ Branch.Comes progress later ∧
      good (branches.set index later) after ∧ settled index (branches.set index later) ∧
      ∀ other, settled other branches → settled other (branches.set index later)
  shut : ∀ branches cell index, good branches cell →
    (∀ branch, branches[index]? = some branch → branch.isOpen = false) → settled index branches

variable {polls : List (Poll R)} {good : List (Branch R) → Cell R → Prop} {settled : Nat → List (Branch R) → Prop}

theorem in_order_tame (tame : Tame polls good settled) (before rest : List (Branch R)) (cell : Cell R)
    (sound : good (before ++ rest) cell) (earlier : ∀ index < before.length, settled index (before ++ rest)) :
    ∃ later after, inOrder (rest.zip (polls.drop before.length)) cell = (.ok later, after) ∧ good (before ++ later) after ∧
      ∀ index < before.length + rest.length, settled index (before ++ later) := by
  induction rest generalizing before cell with
  | nil => exact ⟨[], cell, rfl, sound, earlier⟩
  | cons branch rest ih =>
      have whole := tame.polled _ _ sound
      rw [List.length_append, List.length_cons] at whole
      have inside : before.length < polls.length := by omega
      have polled : polls[before.length]? = some polls[before.length] := List.getElem?_eq_getElem inside
      have present : (before ++ branch :: rest)[before.length]? = some branch := by simp
      have split : polls.drop before.length = polls[before.length] :: polls.drop (before ++ [branch]).length := by
        rw [List.length_append, List.length_singleton]
        exact List.drop_eq_getElem_cons inside
      have shift : ∀ later : Branch R, polls.drop (before ++ [branch]).length = polls.drop (before ++ [later]).length := by
        simp
      have goesOn : ∀ (later : Branch R) (between : Cell R), good (before ++ later :: rest) between →
          (∀ index < before.length + 1, settled index (before ++ later :: rest)) →
          ∃ tail after, inOrder (rest.zip (polls.drop (before ++ [branch]).length)) between = (.ok tail, after) ∧
            good (before ++ later :: tail) after ∧
            ∀ index < before.length + (branch :: rest).length, settled index (before ++ later :: tail) := by
        intro later between sound known
        have same : ∀ tail : List (Branch R), (before ++ [later]) ++ tail = before ++ later :: tail := by simp
        obtain ⟨tail, after, round, still, all⟩ := ih (before ++ [later]) between (same rest ▸ sound) fun index short => by
          rw [List.length_append, List.length_singleton] at short
          exact same rest ▸ known index short
        rw [same] at still
        refine ⟨tail, after, shift later ▸ round, still, fun index short => same tail ▸ all index ?_⟩
        rw [List.length_append, List.length_singleton]
        rw [List.length_cons] at short
        omega
      rw [split]
      by_cases isOpen : branch.isOpen = true
      · obtain ⟨progress, between, later, turned, comes, still, met, kept⟩ :=
          tame.turn _ cell _ branch _ sound present isOpen polled
        have set : (before ++ branch :: rest).set before.length later = before ++ later :: rest := by
          rw [List.set_append_right _ _ (Nat.le_refl _), Nat.sub_self]
          rfl
        rw [set] at still met kept
        obtain ⟨tail, after, round, good, all⟩ := goesOn later between still fun index short => by
          rcases Nat.lt_succ_iff_lt_or_eq.mp short with early | own
          · exact kept index (earlier index early)
          · exact own ▸ met
        refine ⟨later :: tail, after, ?_, good, all⟩
        cases comes with
        | ended value => simp only [List.zip_cons_cons, inOrder, if_pos isOpen, turned, round, inOrder.cons]
        | waits run => simp only [List.zip_cons_cons, inOrder, if_pos isOpen, turned, round, inOrder.cons]
      · have settled := tame.shut _ cell before.length sound fun other isOther => by
          cases present.symm.trans isOther
          simpa using isOpen
        obtain ⟨tail, after, round, good, all⟩ := goesOn branch cell sound fun index short => by
          rcases Nat.lt_succ_iff_lt_or_eq.mp short with early | own
          · exact earlier index early
          · exact own ▸ settled
        refine ⟨branch :: tail, after, ?_, good, all⟩
        simp only [List.zip_cons_cons, inOrder, if_neg isOpen, round, inOrder.cons]

-- How a round among woken branches ends: all of them are settled; or the run has asked for another turn, with a
-- branch that has had its turn and waits, and fewer branches to go on with.
inductive Served (key : Nat) (good : List (Branch R) → Cell R → Prop) (settled : Nat → List (Branch R) → Prop)
    (woken left : List Nat) (branches : List (Branch R)) : Cell R → Prop where
  | all {after} (none : left = []) (sound : good branches after) (met : ∀ index ∈ woken, settled index branches) :
      Served key good settled woken left branches after
  | yields {between} (sound : good branches between) (fewer : left.length < woken.length)
      (met : ∀ index ∈ woken, settled index branches ∨ index ∈ left)
      (waits : ∃ index run, settled index branches ∧ branches[index]? = some (.running run)) :
      Served key good settled woken left branches (between.effect (.again key))

theorem Served.met {key : Nat} {good : List (Branch R) → Cell R → Prop} {woken left : List Nat} {branches : List (Branch R)}
    {after : Cell R} (served : Served key good settled woken left branches after) :
    ∃ between, good branches between ∧ ∀ index ∈ woken, settled index branches ∨ index ∈ left := by
  cases served with
  | all none sound met => exact ⟨after, sound, fun index member => Or.inl (met index member)⟩
  | yields sound fewer met waits => exact ⟨_, sound, met⟩

theorem in_waking_order_tame (tame : Tame polls good settled) (key : Nat) (queue : List Nat) (round : Round R)
    (cell : Cell R) (sound : good round.branches cell) (none : round.woken = []) :
    ∃ next after, inWakingOrder key polls queue round cell = (.ok next, after) ∧
      (∀ index, settled index round.branches → settled index next.branches) ∧
      Served key good settled queue next.woken next.branches after := by
  induction queue generalizing round cell with
  | nil => exact ⟨round, cell, rfl, fun _ met => met, .all none sound fun _ member => nomatch member⟩
  | cons index queue ih =>
      -- What the rest of the round comes to, once this place is settled.
      have goesOn : ∀ (next : Round R) (between : Cell R), good next.branches between → next.woken = [] →
          settled index next.branches → ∃ last after, inWakingOrder key polls queue next between = (.ok last, after) ∧
            (∀ other, settled other next.branches → settled other last.branches) ∧
            Served key good settled (index :: queue) last.woken last.branches after := by
        intro next between sound none met
        obtain ⟨last, after, ended, kept, served⟩ := ih next between sound none
        refine ⟨last, after, ended, kept, ?_⟩
        cases served with
        | all none sound all =>
            exact .all none sound fun other member =>
              (List.mem_cons.mp member).elim (fun own => own ▸ kept index met) (all other)
        | yields sound fewer all waits =>
            exact .yields sound (Nat.lt_succ_of_lt fewer)
              (fun other member => (List.mem_cons.mp member).elim (fun own => Or.inl (own ▸ kept index met))
                (all other)) waits
      rw [inWakingOrder]
      cases present : round.branches[index]? with
      | none =>
          have met := tame.shut _ cell index sound fun branch isThere => by rw [present] at isThere; cases isThere
          obtain ⟨last, after, ended, kept, served⟩ := goesOn round cell sound none met
          exact ⟨last, after, ended, kept, served⟩
      | some branch =>
          have inside : index < polls.length :=
            tame.polled _ _ sound ▸ (List.getElem?_eq_some_iff.mp present).1
          have polled : polls[index]? = some polls[index] := List.getElem?_eq_getElem inside
          simp only [polled]
          by_cases isOpen : branch.isOpen = true
          · rw [if_pos isOpen]
            obtain ⟨progress, between, later, turned, comes, still, met, keeps⟩ :=
              tame.turn _ cell index branch _ sound present isOpen polled
            have set : (round.branches.set index later)[index]? = some later :=
              List.getElem?_set_self (List.getElem?_eq_some_iff.mp present).1
            cases comes with
            | ended value =>
                have notDue := Branch.due_of_fine _ (tame.fine _ _ still)
                simp only [turned, inWakingOrder.settle, notDue]
                obtain ⟨last, after, ended, kept, served⟩ := goesOn ⟨_, round.woken, 0, _⟩ between still none met
                exact ⟨last, after, ended, fun other known => kept other (keeps other known), served⟩
            | waits run =>
                simp only [turned]
                by_cases full : round.given + 1 = round.opened
                · rw [if_pos full]
                  refine ⟨_, _, rfl, keeps,
                    .yields still (Nat.lt_succ_self _) (fun other member => ?_) ⟨index, run, met, set⟩⟩
                  rcases List.mem_cons.mp member with rfl | later
                  · exact Or.inl met
                  · exact Or.inr later
                · rw [if_neg full]
                  obtain ⟨last, after, ended, kept, served⟩ :=
                    goesOn ⟨_, round.woken, _, round.opened⟩ between still none met
                  exact ⟨last, after, ended, fun other known => kept other (keeps other known), served⟩
          · rw [if_neg isOpen]
            have met := tame.shut _ cell index sound fun other isThere => by
              cases present.symm.trans isThere
              simpa using isOpen
            obtain ⟨last, after, ended, kept, served⟩ := goesOn round cell sound none met
            exact ⟨last, after, ended, kept, served⟩

theorem join_tame (tame : Tame polls good settled) (key : Nat) (woken : List Nat) (branches : List (Branch R))
    (cell : Cell R) (sound : good branches cell) :
    ∃ left later after, join key woken branches polls cell = (gather key left later, after) ∧
      Served key good settled woken left later after := by
  rw [join]
  by_cases few : branches.length ≤ Branch.few
  · obtain ⟨later, after, ended, still, all⟩ := in_order_tame tame [] branches cell sound fun _ short =>
      absurd short (Nat.not_lt_zero _)
    rw [List.length_nil, List.drop_zero] at ended
    rw [if_pos few, ended]
    refine ⟨[], later, after, rfl, .all rfl still fun index _ => ?_⟩
    by_cases inside : index < later.length
    · refine all index ?_
      have whole : later.length = polls.length := tame.polled _ _ still
      rw [List.length_nil, Nat.zero_add, tame.polled _ _ sound]
      exact whole ▸ inside
    · refine tame.shut later after index still fun branch present => ?_
      exact absurd (List.getElem?_eq_some_iff.mp present).1 inside
  · obtain ⟨next, after, ended, -, served⟩ :=
      in_waking_order_tame tame key woken ⟨branches, [], 0, Branch.openCount branches⟩
      cell sound rfl
    rw [if_neg few, ended]
    exact ⟨next.woken, next.branches, after, rfl, served⟩

end Poll

end Workcell
