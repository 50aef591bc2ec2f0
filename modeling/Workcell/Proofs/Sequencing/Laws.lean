import Workcell.Flow.Build
import Workcell.Proofs.Exact
import Workcell.Proofs.Sequencing.Play

/-!
The laws of sequences, maps and scopes: regrouping a flow changes nothing but the traces of the nodes that group it.
-/

set_option autoImplicit false

namespace Workcell

variable {R : Type}

namespace Flow

-- A sequence whose second step may break down before it is one; a plain `sequence` is one where it never does.
def sequel (first : Step R) (next : Value R → Except (Option String) (Step R)) : Step R :=
  .sequence (plainLabel "Sequence") first next none

theorem sequence_eq (first : Step R) (next : Value R → Step R) :
    sequence first next = sequel first fun value => .ok (next value) := rfl

def sequelWith (first : Step R) (next : Value R → Except (Option String) (Step R))
    (select : Value R → Value R → Value R) : Step R :=
  .sequence (plainLabel "Sequence") first next (some select)

end Flow

structure Label.Plain (kept : Trace → Bool) (label : Label) : Prop where
  policy : label.policy = .default
  dropped : ∀ status number, kept ⟨label.name, systemName, status, number⟩ = false

theorem plain_if_none_kept (name : String) : (Flow.plainLabel name).Plain fun _ => false := ⟨rfl, fun _ _ => rfl⟩

-- The label of a marked composite node.
theorem plain_if_marked (shape name : String) (composite : shape ≠ "Action") :
    (⟨Step.mark shape name, .default⟩ : Label).Plain Trace.ofAction := by
  refine ⟨rfl, fun status number => ?_⟩
  rw [Trace.marked_of_action]
  exact decide_eq_false composite

variable [Scalar R] {handlers : HandlerTable R} {kept : Trace → Bool}

theorem dispatch_steady (blind : handlers.Blind) (kept : Trace → Bool) (step : Step R) :
    (step.dispatch handlers).Steady kept := by
  have twin := dispatch_twin (near_twins blind kept) step
  rw [renamed_same] at twin
  exact twin

section

variable (blind : handlers.Blind) (label : Label) (plain : label.Plain kept)

include blind plain

theorem sequence_same (first : Step R) (next : Value R → Except (Option String) (Step R))
    (select : Option (Value R → Value R → Value R)) :
    Poll.Same handlers kept ((Step.sequence label first next select).start handlers)
      ((first.start handlers).bind (fun run => .bound run next select) fun value =>
        Poll.select (Step.follow handlers (next value)) value select) := by
  have node : (Step.sequence label first next select).Plain kept := ⟨plain.policy, plain.dropped⟩
  have guarded := Poll.bind_guarded (first.start handlers) (fun run => .bound run next select)
    (fun value => Poll.select (Step.follow handlers (next value)) value select) (Step.start_guarded first)
  exact Step.attempted_plain _ node blind _ guarded (dispatch_steady blind kept (.sequence label first next select))

theorem map_same (source : Step R) (transform : Value R → Value R) :
    Poll.Same handlers kept ((Step.map label source transform).start handlers)
      ((source.start handlers).map transform) := by
  have node : (Step.map label source transform).Plain kept := ⟨plain.policy, plain.dropped⟩
  have guarded : ((source.start handlers).map transform).Guarded :=
    Poll.bind_guarded _ _ _ (Step.start_guarded source)
  exact Step.attempted_plain _ node blind _ guarded (dispatch_steady blind kept (.map label source transform))

theorem scope_same (inner : Step R) :
    Poll.Same handlers kept ((Step.scope label inner).start handlers) (inner.start handlers) := by
  have node : (Step.scope label inner).Plain kept := ⟨plain.policy, plain.dropped⟩
  exact Step.attempted_plain _ node blind _ (Step.start_guarded inner) (start_steady blind kept inner)

end

theorem follow_same (blind : handlers.Blind) (next : Except (Option String) (Step R)) :
    Poll.Same handlers kept (Step.follow handlers next) (Step.follow handlers next) :=
  .refl blind (follow_steady blind kept next)

theorem done_same (blind : handlers.Blind) (value : Value R) :
    Poll.Same handlers kept (Poll.done value) (Poll.done value) :=
  .refl blind fun _ _ near => ⟨rfl, near⟩

-- A continuation that breaks down does so however the composite is grouped.
theorem panicked_same (blind : handlers.Blind) (message : Option String) :
    Poll.Same (R := R) handlers kept (fun cell => (.panicked message, cell)) fun cell => (.panicked message, cell) :=
  .refl blind fun _ _ near => ⟨rfl, near⟩

section

variable (blind : handlers.Blind) (one two three four : Label) (plainOne : one.Plain kept) (plainTwo : two.Plain kept)
  (plainThree : three.Plain kept) (plainFour : four.Plain kept)

include blind plainOne plainTwo plainThree plainFour

theorem sequence_of_sequence (step : Step R) (next later : Value R → Except (Option String) (Step R)) :
    Poll.Same handlers kept ((Step.sequence one (.sequence two step next none) later none).start handlers)
      ((Step.sequence three step (fun value => (next value).map fun second => .sequence four second later none)
        none).start handlers) := by
  refine Poll.regroup blind (.bound next none) (.bound later none) (.bound _ none) _ _ _ _
    (start_steady blind kept step) (sequence_same blind two plainTwo step next none)
    (sequence_same blind one plainOne (.sequence two step next none) later none)
    (sequence_same blind three plainThree step _ none) (fun value => follow_same blind (later value)) ?_
  intro value
  cases built : next value with
  | error message => exact panicked_same blind message
  | ok second => exact (sequence_same blind four plainFour second later none).symm

omit plainFour in
theorem map_of_map (step : Step R) (first second : Value R → Value R) :
    Poll.Same handlers kept ((Step.map one (.map two step first) second).start handlers)
      ((Step.map three step fun value => second (first value)).start handlers) :=
  Poll.regroup blind (.mapped first) (.mapped second) (.mapped _) _ _ _ _ (start_steady blind kept step)
    (map_same blind two plainTwo step first) (map_same blind one plainOne (.map two step first) second)
    (map_same blind three plainThree step _) (fun value => done_same blind (second value))
    fun value => done_same blind (second (first value))

theorem map_of_sequence (step : Step R) (next : Value R → Except (Option String) (Step R))
    (transform : Value R → Value R) :
    Poll.Same handlers kept ((Step.map one (.sequence two step next none) transform).start handlers)
      ((Step.sequence three step (fun value => (next value).map fun second => .map four second transform) none).start
        handlers) := by
  refine Poll.regroup blind (.bound next none) (.mapped transform) (.bound _ none) _ _ _ _
    (start_steady blind kept step) (sequence_same blind two plainTwo step next none)
    (map_same blind one plainOne (.sequence two step next none) transform)
    (sequence_same blind three plainThree step _ none) (fun value => done_same blind (transform value)) ?_
  intro value
  cases built : next value with
  | error message => exact panicked_same blind message
  | ok second => exact (map_same blind four plainFour second transform).symm

omit plainFour in
theorem map_of_sequence_with (step : Step R) (next : Value R → Except (Option String) (Step R))
    (transform : Value R → Value R) :
    Poll.Same handlers kept ((Step.map one (.sequence two step next none) transform).start handlers)
      ((Step.sequence three step next (some fun _ value => transform value)).start handlers) := by
  refine Poll.regroup blind (.bound next none) (.mapped transform) (.bound next _) _ _ _ _
    (start_steady blind kept step) (sequence_same blind two plainTwo step next none)
    (map_same blind one plainOne (.sequence two step next none) transform)
    (sequence_same blind three plainThree step next _) (fun value => done_same blind (transform value)) ?_
  intro value
  have steady : ((Step.follow handlers (next value)).map transform).Steady kept :=
    Poll.Twin.map _ _ transform (follow_steady blind kept (next value))
  exact .refl blind steady

end

omit [Scalar R] in
theorem renamed_next_map (rename : String → String → String) (next : Except (Option String) (Step R))
    (wrap wrapped : Step R → Step R) (wraps : ∀ step, (wrap step).renamed rename = wrapped (step.renamed rename)) :
    Step.renamedNext rename (next.map wrap) = (Step.renamedNext rename next).map wrapped := by
  cases next with
  | error message => simp [Except.map, Step.renamedNext]
  | ok step => simp [Except.map, Step.renamedNext, wraps]

def markedNext (next : Value R → Except (Option String) (Step R)) (value : Value R) :
    Except (Option String) (Step R) :=
  Step.renamedNext Step.mark (next value)

def markedLabel (shape name : String) : Label := ⟨Step.mark shape name, .default⟩

namespace Flow

omit [Scalar R]

theorem marked_sequel (step : Step R) (next : Value R → Except (Option String) (Step R)) :
    (sequel step next).marked =
      .sequence (markedLabel "Sequence" "Sequence") step.marked (markedNext next) none := by
  rw [Step.marked, sequel, Step.renamed]
  rfl

theorem marked_sequel_with (step : Step R) (next : Value R → Except (Option String) (Step R))
    (select : Value R → Value R → Value R) :
    (sequelWith step next select).marked =
      .sequence (markedLabel "Sequence" "Sequence") step.marked (markedNext next) (some select) := by
  rw [Step.marked, sequelWith, Step.renamed]
  rfl

theorem marked_map (step : Step R) (transform : Value R → Value R) :
    (Flow.map step transform).marked = .map (markedLabel "Map" "Map") step.marked transform := by
  rw [Step.marked, Flow.map, Step.renamed]
  rfl

theorem marked_scope (name : String) (step : Step R) :
    (scope name step).marked = .scope (markedLabel "Scope" name) step.marked := by
  rw [Step.marked, scope, Step.renamed]
  rfl

theorem marked_next_sequel (next later : Value R → Except (Option String) (Step R)) :
    markedNext (fun value => (next value).map fun built => sequel built later) = fun value =>
      (markedNext next value).map fun built =>
        .sequence (markedLabel "Sequence" "Sequence") built (markedNext later) none :=
  funext fun value => renamed_next_map Step.mark (next value) _ _ fun step => marked_sequel step later

theorem marked_next_map (next : Value R → Except (Option String) (Step R)) (transform : Value R → Value R) :
    markedNext (fun value => (next value).map fun built => Flow.map built transform) = fun value =>
      (markedNext next value).map fun built => .map (markedLabel "Map" "Map") built transform :=
  funext fun value => renamed_next_map Step.mark (next value) _ _ fun step => marked_map step transform

end Flow

/-- Sequences are associative, maps compose and pass into what follows a sequence, and a scope is what is in it: the
flows on both sides cannot be told apart but by the traces of the nodes that group them. -/
theorem sequencing_laws (handlers : HandlerTable R) (blind : handlers.Blind) (step : Step R)
    (next later : Value R → Except (Option String) (Step R)) (first second : Value R → Value R) (name : String) :
    Step.Equivalent handlers (Flow.sequel (Flow.sequel step next) later)
        (Flow.sequel step fun value => (next value).map fun built => Flow.sequel built later) ∧
      Step.Equivalent handlers (Flow.map (Flow.map step first) second)
        (Flow.map step fun value => second (first value)) ∧
      Step.Equivalent handlers (Flow.map (Flow.sequel step next) first)
        (Flow.sequel step fun value => (next value).map fun built => Flow.map built first) ∧
      Step.Equivalent handlers (Flow.map (Flow.sequel step next) first)
        (Flow.sequelWith step next fun _ value => first value) ∧
      Step.Equivalent handlers (Flow.scope name step) step := by
  have quiet := plain_if_none_kept
  have sequences : (markedLabel "Sequence" "Sequence").Plain Trace.ofAction := plain_if_marked _ _ (by decide)
  have maps : (markedLabel "Map" "Map").Plain Trace.ofAction := plain_if_marked _ _ (by decide)
  have scopes : (markedLabel "Scope" name).Plain Trace.ofAction := plain_if_marked _ _ (by decide)
  refine ⟨?_, ?_, ?_, ?_, ?_⟩
  · refine Step.equivalent_of_same _ _ ?_ ?_
    · exact sequence_of_sequence blind _ _ _ _ (quiet _) (quiet _) (quiet _) (quiet _) step next later
    · rw [Flow.marked_sequel, Flow.marked_sequel, Flow.marked_sequel, Flow.marked_next_sequel]
      exact sequence_of_sequence blind _ _ _ _ sequences sequences sequences sequences step.marked _ _
  · refine Step.equivalent_of_same _ _ ?_ ?_
    · exact map_of_map blind _ _ _ (quiet _) (quiet _) (quiet _) step first second
    · rw [Flow.marked_map, Flow.marked_map, Flow.marked_map]
      exact map_of_map blind _ _ _ maps maps maps step.marked first second
  · refine Step.equivalent_of_same _ _ ?_ ?_
    · exact map_of_sequence blind _ _ _ _ (quiet _) (quiet _) (quiet _) (quiet _) step next first
    · rw [Flow.marked_map, Flow.marked_sequel, Flow.marked_sequel, Flow.marked_next_map]
      exact map_of_sequence blind _ _ _ _ maps sequences sequences maps step.marked _ first
  · refine Step.equivalent_of_same _ _ ?_ ?_
    · exact map_of_sequence_with blind _ _ _ (quiet _) (quiet _) (quiet _) step next first
    · rw [Flow.marked_map, Flow.marked_sequel, Flow.marked_sequel_with]
      exact map_of_sequence_with blind _ _ _ maps sequences sequences step.marked _ first
  · refine Step.equivalent_of_same _ _ ?_ ?_
    · exact scope_same blind _ (quiet _) step
    · rw [Flow.marked_scope]
      exact scope_same blind _ scopes step.marked

def thenGrip (_ : Value Rat) : Except (Option String) (Step Rat) := .ok (Flow.fireAndWait "gripper" true)

theorem sequencing_laws_for_a_grip :
    (HandlerTable.standard (R := Rat)).Blind ∧
      Step.Equivalent .standard (Flow.sequel (Flow.sequel Flow.noOp thenGrip) thenGrip)
        (Flow.sequel Flow.noOp fun value =>
          (thenGrip value).map fun built => Flow.sequel built thenGrip) ∧
      ((Flow.sequel Flow.noOp fun value =>
        (thenGrip value).map fun built => Flow.sequel built thenGrip).play .standard [⟨[], Cell.cancel⟩]
          gripperCell).progress.face = .ok (.fault .cancelled) := by
  have blind := HandlerTable.standard_blind (R := Rat)
  obtain ⟨assoc, -⟩ := sequencing_laws .standard blind Flow.noOp thenGrip thenGrip
    (fun value => value) (fun value => value) ""
  have cut : ((Flow.sequel (Flow.sequel Flow.noOp thenGrip) thenGrip).play .standard [⟨[], Cell.cancel⟩]
      gripperCell).progress.fault? = some .cancelled := by
    decide +kernel
  refine ⟨blind, assoc, ?_⟩
  rw [← (assoc.matching [⟨[], Cell.cancel⟩] gripperCell).face]
  exact Progress.face_of_fault _ _ cut

end Workcell
