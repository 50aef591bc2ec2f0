import Workcell.Proofs.Sequencing.Laws

/-!
Chains and repetitions: what they mean is told by plays of their steps one after another. A chain of chains is a chain,
a repetition is a chain of one step, and a repetition for ever is ended by an iteration that ends badly, and by nothing
else.
-/

set_option autoImplicit false

namespace Workcell

variable {R : Type}

namespace Flow

def chainOf (label : Label) : List (Step R) → Step R
  | [] => noOp
  | [last] => last
  | first :: rest => .sequence label first (fun _ => .ok (chainOf label rest)) none

theorem chain_eq (steps : List (Step R)) : chain steps = chainOf (plainLabel "Sequence") steps := by
  induction steps with
  | nil => rfl
  | cons first rest ih =>
      cases rest with
      | nil => rfl
      | cons second rest =>
          rw [chain, chainOf, ih]
          · rfl
          · simp
          · simp

theorem marked_chain (steps : List (Step R)) (some : steps ≠ []) :
    (chain steps).marked = chainOf (markedLabel "Sequence" "Sequence") (steps.map Step.marked) := by
  rw [chain_eq]
  induction steps with
  | nil => exact absurd rfl some
  | cons first rest ih =>
      cases rest with
      | nil => rfl
      | cons second rest =>
          have built := ih (by simp)
          simp only [Step.marked, chainOf, Step.renamed, Step.renamedNext, List.map_cons] at built ⊢
          rw [built]
          rfl

theorem marked_repeated (step : Step R) (count : Int) :
    (repeated step count).marked = .loop (markedLabel "Loop" "Loop") step.marked count := by
  rw [Step.marked, repeated, Step.renamed]
  rfl

theorem marked_and_then (first second : Step R) :
    (andThen first second).marked =
      .sequence (markedLabel "Sequence" "Sequence") first.marked (fun _ => .ok second.marked) none := by
  rw [andThen, sequence_eq, marked_sequel]
  rfl

end Flow

def Trace.besideChain (trace : Trace) : Bool := trace.name != "Sequence"

variable [Scalar R]

-- Plays of steps one after another: each begins in the turn in which the one before it ends well.
def Step.playInTurn (handlers : HandlerTable R) : List (Step R) → List (Interlude R) → Cell R → Played R
  | [], interludes, cell => ⟨.done .unit, cell, interludes⟩
  | [last], interludes, cell => last.play handlers interludes cell
  | first :: rest, interludes, cell =>
      let played := first.play handlers interludes cell
      match played.progress with
      | .done _ => playInTurn handlers rest played.unused played.cell
      | _ => played

variable {handlers : HandlerTable R} {kept : Trace → Bool}

section

variable (blind : handlers.Blind) (label : Label) (plain : label.Plain kept)

include blind plain

theorem chain_in_turn (steps : List (Step R)) (some : steps ≠ []) (interludes : List (Interlude R)) (cell : Cell R) :
    Played.Near kept ((Flow.chainOf label steps).play handlers interludes cell)
      (Step.playInTurn handlers steps interludes cell) := by
  induction steps generalizing interludes cell with
  | nil => exact absurd rfl some
  | cons first rest ih =>
      cases rest with
      | nil => exact .refl _
      | cons second rest =>
          let next : Value R → Except (Option String) (Step R) := fun _ => .ok (Flow.chainOf label (second :: rest))
          have node := (sequence_same blind label plain first next none).play interludes cell cell (.refl cell)
          refine (node.trans (Poll.play_bind (.bound next none) _ _ _)).trans ?_
          simp only [Played.goOn, Step.playInTurn, Step.play]
          cases (Poll.play handlers interludes (first.start handlers) cell).progress with
          | done value => exact ih (by simp) _ _
          | fault fault => exact .refl _
          | panicked message => exact .refl _
          | pending run => exact .refl _

theorem sequence_congr (first other : Step R) (next after : Value R → Except (Option String) (Step R))
    (same : Poll.Same handlers kept (first.start handlers) (other.start handlers))
    (follows : ∀ value, Poll.Same handlers kept (Step.follow handlers (next value))
      (Step.follow handlers (after value))) :
    Poll.Same handlers kept ((Step.sequence label first next none).start handlers)
      ((Step.sequence label other after none).start handlers) := by
  refine ((sequence_same blind label plain first next none).trans ?_).trans
    (sequence_same blind label plain other after none).symm
  exact Poll.bind_congr (.bound next none) (.bound after none) _ _ same follows

theorem chain_of_chains (steps more : List (Step R)) (some : steps ≠ []) (others : more ≠ []) :
    Poll.Same handlers kept ((Flow.chainOf label (steps ++ more)).start handlers)
      ((Step.sequence label (Flow.chainOf label steps) (fun _ => .ok (Flow.chainOf label more)) none).start
        handlers) := by
  induction steps with
  | nil => exact absurd rfl some
  | cons first rest ih =>
      cases rest with
      | nil =>
          obtain ⟨second, later, rfl⟩ := List.exists_cons_of_ne_nil others
          exact .refl blind (start_steady blind kept _)
      | cons second rest =>
          have regroup := sequence_of_sequence blind label label label label plain plain plain plain first
            (fun _ => .ok (Flow.chainOf label (second :: rest))) fun _ => .ok (Flow.chainOf label more)
          refine .trans ?_ regroup.symm
          exact sequence_congr blind label plain first first _ _ (.refl blind (start_steady blind kept first))
            fun _ => ih (by simp)

end

omit [Scalar R] in
-- An iteration of a step that does nothing in a cancelled cell is the step, and what follows it.
theorem iterate_eq (body : Poll R) (guarded : body.Guarded) (inner : Step R) (left : Option Nat)
    (next : Value R → Poll R) :
    Poll.iterate body inner left next = body.bind (fun run => .repeated run inner left) next := by
  funext cell
  rw [Poll.iterate]
  by_cases cut : cell.cancelled = true
  · rw [if_pos cut, Poll.bind, guarded cell cut]
  · rw [if_neg cut]

omit [Scalar R] in
theorem iterate_guarded (body : Poll R) (inner : Step R) (left : Option Nat) (next : Value R → Poll R) :
    (Poll.iterate body inner left next).Guarded := by
  intro cell cut
  rw [Poll.iterate, if_pos cut]

section

variable (blind : handlers.Blind) (label loop : Label) (plain : label.Plain kept) (plainLoop : loop.Plain kept)
  (step : Step R)

include blind plain

theorem iterations_chain (left : Nat) (last : Value R) :
    Poll.Same handlers kept (Poll.iterations (step.start handlers) step (left + 1) last)
      ((Flow.chainOf label (List.replicate (left + 1) step)).start handlers) := by
  have body := start_steady blind kept step
  -- The loop looks whether it is cancelled before it begins an iteration; so does the step, and it says the same.
  induction left generalizing last with
  | zero =>
      rw [Poll.iterations, iterate_eq _ (Step.start_guarded step)]
      exact Poll.bind_done blind (.repeated step (some 0)) _ body
  | succ left ih =>
      let next : Value R → Except (Option String) (Step R) := fun _ =>
        .ok (Flow.chainOf label (List.replicate (left + 1) step))
      rw [Poll.iterations, iterate_eq _ (Step.start_guarded step)]
      refine .trans ?_ (sequence_same blind label plain step next none).symm
      exact Poll.bind_congr (.repeated step (some (left + 1))) (.bound next none) _ _ (.refl blind body) ih

include plainLoop

theorem repeated_chain (left : Nat) :
    Poll.Same handlers kept ((Step.loop loop step (left + 1 : Nat)).start handlers)
      ((Flow.chainOf label (List.replicate (left + 1) step)).start handlers) := by
  have node : (Step.loop loop step (left + 1 : Nat)).Plain kept := ⟨plainLoop.policy, plainLoop.dropped⟩
  have body : (Step.loop loop step (left + 1 : Nat)).dispatch handlers =
      Poll.iterations (step.start handlers) step (left + 1) .unit := by
    rw [Step.dispatch]
    exact if_neg (by omega)
  have guarded : ((Step.loop loop step (left + 1 : Nat)).dispatch handlers).Guarded := by
    rw [body]
    exact iterate_guarded _ step (some left) _
  refine .trans ?_ (iterations_chain blind label plain step left .unit)
  rw [← body]
  exact Step.attempted_plain _ node blind _ guarded (dispatch_steady blind kept _)

end

-- No iteration at all: the loop ends at once, with nothing done, and fails only where the run is cancelled already.
theorem repeated_zero (loop : Label) (plain : loop.Plain kept) (step : Step R) (interludes : List (Interlude R))
    (cell : Cell R) :
    Played.Near kept ((Step.loop loop step 0).play handlers interludes cell)
      ⟨if cell.cancelled then .fault .cancelled else .done .unit, cell, interludes⟩ := by
  have body : (Step.loop loop step 0).dispatch handlers = Poll.done .unit := by
    rw [Step.dispatch]
    rfl
  have traced : Cell.Near kept
      ((cell.trace (.loop loop step 0) .running 1).trace (.loop loop step 0) .completed 1) cell :=
    ((Cell.Near.trace (.loop loop step 0) .running 1 (plain.dropped _ 1) cell).trans
      (Cell.Near.trace (.loop loop step 0) .completed 1 (plain.dropped _ 1) _)).symm
  have default : (Step.loop loop step 0).policy = .default := plain.policy
  rw [Step.play, Step.start, Step.attempted_default _ default, body]
  by_cases cut : cell.cancelled = true
  · cases interludes with
    | nil =>
        simp only [Poll.play, Step.attempt, if_pos cut]
        exact .refl _
    | cons interlude later =>
        simp only [Poll.play, Step.attempt, if_pos cut]
        exact .refl _
  · have few : ¬ Step.maxRetries < 1 := by decide
    cases interludes with
    | nil =>
        simp only [Poll.play, Step.attempt, if_neg cut, if_neg few]
        exact ⟨rfl, traced, rfl⟩
    | cons interlude later =>
        simp only [Poll.play, Step.attempt, if_neg cut, if_neg few]
        exact ⟨rfl, traced, rfl⟩

def Cell.rested (cell : Cell R) : Cell R := cell.issue.2.effect (.rest cell.issued)

-- Plays of a step over and over, with a rest after each that ends well.
inductive Step.Repeats (handlers : HandlerTable R) (step : Step R) :
    List (Interlude R) → Cell R → Played R → Prop where
  | within {interludes cell} (unfinished : ∀ value, (step.play handlers interludes cell).progress ≠ .done value) :
      Repeats handlers step interludes cell (step.play handlers interludes cell)
  | rests {interludes cell after value} (ended : step.play handlers interludes cell = ⟨.done value, after, []⟩) :
      Repeats handlers step interludes cell ⟨.pending (.resting after.issued step), after.rested, []⟩
  | again {interludes cell after value interlude later played}
      (ended : step.play handlers interludes cell = ⟨.done value, after, interlude :: later⟩)
      (rest : Repeats handlers step later (interlude.after after.rested) played) :
      Repeats handlers step interludes cell played

theorem repeats_never_done (step : Step R) (interludes : List (Interlude R)) (cell : Cell R) (played : Played R)
    (repeats : step.Repeats handlers interludes cell played) (value : Value R) : played.progress ≠ .done value := by
  induction repeats with
  | within unfinished => exact unfinished value
  | rests ended => exact nofun
  | again ended rest ih => exact ih

theorem play_unused (handlers : HandlerTable R) (interludes : List (Interlude R)) (poll : Poll R) (cell : Cell R) :
    (poll.play handlers interludes cell).unused.length ≤ interludes.length := by
  induction interludes generalizing poll cell with
  | nil => exact Nat.le_refl _
  | cons interlude later ih =>
      simp only [Poll.play]
      split
      · exact Nat.le_succ_of_le (ih _ _)
      · exact Nat.le_refl _

omit [Scalar R] in
theorem wake_resting (keys : List Nat) (key : Nat) (inner : Step R) :
    (Run.resting key inner).wake keys = .resting key inner := by
  induction keys with
  | nil => rfl
  | cons key rest ih => exact ih

-- An endless loop plays its step over and over.
theorem endless_repeats (step : Step R) (interludes : List (Interlude R)) (cell : Cell R) :
    ∃ played, step.Repeats handlers interludes cell played ∧
      Played.Near kept ((Poll.endless (step.start handlers) step).play handlers interludes cell) played := by
  -- An iteration that ends well rests, and the rest takes one interlude at least: fewer are left for those after it.
  generalize size : interludes.length = turns
  induction turns using Nat.strong_induction_on generalizing interludes cell with
  | _ turns ih =>
      have holder : Holder handlers (fun run => .repeated run step none)
          (Poll.further (step.start handlers) step none) := .repeated step none
      have begun : Played.Near kept _ _ := Poll.play_bind holder interludes (step.start handlers) cell
      have body : Poll.endless (step.start handlers) step = (step.start handlers).bind
          (fun run => .repeated run step none) (Poll.further (step.start handlers) step none) :=
        iterate_eq _ (Step.start_guarded step) step none _
      rw [← body] at begun
      have fewer := play_unused handlers interludes (step.start handlers) cell
      rcases result : step.play handlers interludes cell with ⟨progress, after, unused⟩
      have turn : Poll.play handlers interludes (step.start handlers) cell = ⟨progress, after, unused⟩ := result
      rw [turn] at begun fewer
      by_cases finished : ∃ value, progress = .done value
      · obtain ⟨value, rfl⟩ := finished
        cases unused with
        | nil => exact ⟨_, .rests result, begun⟩
        | cons interlude later =>
            have shorter : later.length < turns := by
              simp only [List.length_cons] at fewer
              omega
            obtain ⟨played, repeats, near⟩ := ih later.length shorter later (interlude.after after.rested) rfl
            refine ⟨played, .again result repeats, begun.trans ?_⟩
            simp only [Played.goOn, Poll.play, Poll.further, Poll.rest]
            rw [wake_resting]
            exact near
      · have unfinished : ∀ value, (step.play handlers interludes cell).progress ≠ .done value := by
          intro value same
          rw [result] at same
          exact finished ⟨value, same⟩
        refine ⟨_, .within unfinished, ?_⟩
        rw [result]
        cases progress with
        | done value => exact absurd ⟨value, rfl⟩ finished
        | fault fault => exact begun
        | panicked message => exact begun
        | pending run => exact begun

omit [Scalar R] in
theorem plain_chain_label : (Flow.plainLabel "Sequence").Plain Trace.besideChain := ⟨rfl, fun _ _ => rfl⟩

theorem chain_equivalent (blind : handlers.Blind) (steps more : List (Step R)) (some : steps ≠ [])
    (others : more ≠ []) :
    Step.Equivalent handlers (Flow.chain (steps ++ more)) (Flow.andThen (Flow.chain steps) (Flow.chain more)) := by
  have sequences : (markedLabel "Sequence" "Sequence").Plain Trace.ofAction := plain_if_marked _ _ (by decide)
  refine Step.equivalent_of_same _ _ ?_ ?_
  · rw [Flow.chain_eq, Flow.chain_eq steps, Flow.chain_eq more]
    exact chain_of_chains blind _ (plain_if_none_kept _) steps more some others
  · rw [Flow.marked_and_then, Flow.marked_chain _ (by simp [some]), Flow.marked_chain _ some,
      Flow.marked_chain _ others, List.map_append]
    exact chain_of_chains blind _ sequences _ _ (by simpa using some) (by simpa using others)

theorem repeated_equivalent (blind : handlers.Blind) (step : Step R) (left : Nat) :
    Step.Equivalent handlers (Flow.repeated step (left + 1 : Nat)) (Flow.chain (List.replicate (left + 1) step)) := by
  have sequences : (markedLabel "Sequence" "Sequence").Plain Trace.ofAction := plain_if_marked _ _ (by decide)
  have loops : (markedLabel "Loop" "Loop").Plain Trace.ofAction := plain_if_marked _ _ (by decide)
  refine Step.equivalent_of_same _ _ ?_ ?_
  · rw [Flow.chain_eq]
    exact repeated_chain blind _ _ (plain_if_none_kept _) (plain_if_none_kept "Loop") step left
  · rw [Flow.marked_repeated, Flow.marked_chain _ (by simp), List.map_replicate]
    exact repeated_chain blind _ _ sequences loops step.marked left

theorem repeated_for_ever (blind : handlers.Blind) (step : Step R) (count : Int) (endless : count < 0)
    (interludes : List (Interlude R)) (cell : Cell R) :
    ∃ played, step.Repeats handlers interludes cell played ∧
      ((Flow.repeated step count).play handlers interludes cell).Matches played := by
  have body : (Flow.repeated step count).dispatch handlers = Poll.endless (step.start handlers) step := by
    rw [Flow.repeated, Step.dispatch]
    exact if_pos endless
  have guarded : ((Flow.repeated step count).dispatch handlers).Guarded := by
    rw [body]
    exact iterate_guarded _ step none _
  have node : (Flow.repeated step count).Plain fun _ => false := ⟨rfl, fun _ _ => rfl⟩
  have opened : Poll.Same handlers (fun _ => false) ((Flow.repeated step count).start handlers)
      (Poll.endless (step.start handlers) step) := by
    rw [← body]
    exact Step.attempted_plain _ node blind _ guarded (dispatch_steady blind _ (Flow.repeated step count))
  obtain ⟨played, repeats, near⟩ := @endless_repeats R _ handlers (fun _ => false) step interludes cell
  exact ⟨played, repeats, ((opened.play interludes cell cell (.refl cell)).trans near).matching⟩

/-- A chain plays its steps one after another: all end well and the last value counts, or the first to fail ends it and
those after it never begin. Chains put together are a chain; a repetition is a chain of one step; of no iterations it
does nothing; for ever, it ends only by an iteration that ends badly. -/
theorem chain_and_repeat_by_plays (handlers : HandlerTable R) (blind : handlers.Blind) :
    (∀ steps, steps ≠ [] → ∀ interludes cell,
      ((Flow.chain steps).play handlers interludes cell).Matches (Step.playInTurn handlers steps interludes cell) ∧
        ((Flow.chain (steps.map Step.marked)).play handlers interludes cell.untraced).cell.traces.sent.filter
            Trace.besideChain =
          (Step.playInTurn handlers (steps.map Step.marked) interludes cell.untraced).cell.traces.sent.filter
            Trace.besideChain) ∧
      (∀ steps more, steps ≠ [] → more ≠ [] →
        Step.Equivalent handlers (Flow.chain (steps ++ more)) (Flow.andThen (Flow.chain steps) (Flow.chain more))) ∧
      (∀ step (count : Int), 1 ≤ count →
        Step.Equivalent handlers (Flow.repeated step count) (Flow.chain (List.replicate count.toNat step))) ∧
      (∀ step interludes cell,
        ((Flow.repeated step 0).play handlers interludes cell).Matches
            ⟨if cell.cancelled then .fault .cancelled else .done .unit, cell, interludes⟩ ∧
          (Flow.repeated step 0).actionTraces handlers interludes cell = []) ∧
      ∀ step (count : Int), count < 0 → ∀ interludes cell,
        (∀ value, ((Flow.repeated step count).play handlers interludes cell).progress ≠ .done value) ∧
          ∃ played, step.Repeats handlers interludes cell played ∧
            ((Flow.repeated step count).play handlers interludes cell).Matches played := by
  refine ⟨?_, ?_, ?_, ?_, ?_⟩
  · intro steps some interludes cell
    refine ⟨?_, ?_⟩
    · rw [Flow.chain_eq]
      exact (chain_in_turn blind _ (plain_if_none_kept _) steps some interludes cell).matching
    · rw [Flow.chain_eq]
      exact (chain_in_turn blind _ plain_chain_label _ (by simpa using some) interludes cell.untraced).traces
  · exact chain_equivalent blind
  · intro step count positive
    obtain ⟨left, rfl⟩ : ∃ left : Nat, count = (left + 1 : Nat) := ⟨(count - 1).toNat, by omega⟩
    exact repeated_equivalent blind step left
  · intro step interludes cell
    have loops : (markedLabel "Loop" "Loop").Plain Trace.ofAction := plain_if_marked _ _ (by decide)
    refine ⟨(repeated_zero _ (plain_if_none_kept "Loop") step interludes cell).matching, ?_⟩
    rw [Step.actionTraces, Flow.marked_repeated]
    exact (repeated_zero _ loops step.marked interludes cell.untraced).traces
  · intro step count endless interludes cell
    obtain ⟨played, repeats, same⟩ := repeated_for_ever blind step count endless interludes cell
    refine ⟨fun value done => ?_, played, repeats, same⟩
    have face := same.face
    rw [done] at face
    exact repeats_never_done step interludes cell played repeats value (played.progress.done_of_face value face.symm)

-- In a run that is cancelled already not even a repetition of nothing ends well.
theorem repetition_of_nothing_may_fail :
    gripperCell.cancel.cancelled = true ∧
      ((Flow.repeated Flow.noOp 0).play .standard [] gripperCell.cancel).progress.face = .ok (.fault .cancelled) ∧
      ((Flow.repeated Flow.noOp 0).play .standard [] gripperCell.cancel).progress.face ≠ .ok (.value .unit) := by
  have cut : ((Flow.repeated Flow.noOp 0).play .standard [] gripperCell.cancel).progress.fault? = some .cancelled := by
    decide +kernel
  have face := Progress.face_of_fault _ _ cut
  refine ⟨by decide +kernel, face, ?_⟩
  rw [face]
  exact nofun

def grip : Step Rat := Flow.fireAndWait "gripper" true

theorem chain_and_repeat_by_plays_of_a_grip :
    (HandlerTable.standard (R := Rat)).Blind ∧ [Flow.noOp, grip] ≠ [] ∧
      ((Flow.chain [Flow.noOp, grip]).play .standard [⟨[], Cell.cancel⟩] gripperCell).progress.face =
        .ok (.fault .cancelled) ∧
      Step.Equivalent .standard (Flow.chain ([grip] ++ [Flow.noOp]))
        (Flow.andThen (Flow.chain [grip]) (Flow.chain [Flow.noOp])) ∧
      (1 : Int) ≤ 2 ∧ Step.Equivalent .standard (Flow.repeated grip 2) (Flow.chain [grip, grip]) ∧
      ((Flow.repeated grip 0).play .standard [] gripperCell).progress.face = .ok (.value .unit) ∧
      (-1 : Int) < 0 ∧ ∀ value, ((Flow.repeated Flow.noOp (-1)).play .standard [] gripperCell).progress ≠ .done value := by
  have blind := HandlerTable.standard_blind (R := Rat)
  obtain ⟨inTurn, appended, finite, nothing, endless⟩ := chain_and_repeat_by_plays .standard blind
  have cut : (Step.playInTurn .standard [Flow.noOp, grip] [⟨[], Cell.cancel⟩] gripperCell).progress.fault? =
      some .cancelled := by
    decide +kernel
  have chained := (inTurn [Flow.noOp, grip] (by simp) [⟨[], Cell.cancel⟩] gripperCell).1.face
  refine ⟨blind, by simp, ?_, appended [grip] [Flow.noOp] (by simp) (by simp), by decide, finite grip 2 (by decide),
    (nothing grip [] gripperCell).1.face, by decide, (endless Flow.noOp (-1) (by decide) [] gripperCell).1⟩
  rw [chained]
  exact Progress.face_of_fault _ _ cut

end Workcell
