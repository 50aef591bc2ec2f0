import Workcell.Proofs.Action.Within

/-!
How the handlers that come with the cell fail: never as a run that was cancelled does, and never by reporting a
breakdown. What moves an axis may break down itself; nothing else does. Once a handler has its device, it never fails for
want of one.
-/

set_option autoImplicit false

namespace Workcell

variable {R : Type}

def Fault.isOrdinary : Fault → Bool
  | .cancelled => false
  | .panicked _ => false
  | _ => true

def Failure.isOrdinary : Failure → Bool
  | .fault reason => reason.isOrdinary
  | .panic _ => false

def Failure.Mild (failure : Failure) : Prop := failure.isOrdinary = true ∨ ∃ message, failure = .panic message

theorem Fault.not_cut_of_ordinary (fault : Fault) (ordinary : fault.isOrdinary = true) :
    fault.isCancellation = false := by
  cases fault with
  | cancelled => cases ordinary
  | _ => rfl

-- Failing for a reason of the work itself: not for want of a device, and not because the run was cancelled.
inductive Failure.Own : Failure → Prop
  | argument (operation : Operation) (reason : String) : Own (.fault (.invalidArgument operation reason))
  | thrown (message : String) : Own (.fault (.thrown message))
  | emptyStation (station : String) : Own (.fault (.emptyStation station))
  | rejected (id reason : String) : Own (.fault (.device (.rejected id reason)))
  | noRuntime (id : String) : Own (.fault (.device (.noRuntime id)))

theorem Failure.Own.ordinary {failure : Failure} (own : failure.Own) : failure.isOrdinary = true := by
  cases own with
  | argument | thrown | emptyStation | rejected | noRuntime => rfl

def Fault.Ordinary {A : Type} (result : Except Fault A) : Prop :=
  ∀ fault, result = .error fault → fault.isOrdinary = true

def Fault.Flawed {A : Type} (result : Except Fault A) : Prop :=
  ∀ fault, result = .error fault → ∃ operation reason, fault = .invalidArgument operation reason

abbrev Act.Ordinary {A : Type} (act : Act R A) : Prop := act.Fails fun failure => failure.isOrdinary = true

abbrev Act.Mild {A : Type} (act : Act R A) : Prop := act.Fails Failure.Mild

abbrev Act.Owns {A : Type} (act : Act R A) : Prop := act.Fails Failure.Own

abbrev Act.Answers {A : Type} (act : Act R A) : Prop :=
  act.Fails fun failure => failure.Own ∨ ∃ message, failure = .panic message

theorem Act.Ordinary.mild {A : Type} {act : Act R A} (ordinary : act.Ordinary) : act.Mild :=
  ordinary.mono fun _ isOrdinary => Or.inl isOrdinary

theorem Act.Owns.ordinary {A : Type} {act : Act R A} (owns : act.Owns) : act.Ordinary :=
  owns.mono fun _ own => own.ordinary

theorem Act.Owns.answers {A : Type} {act : Act R A} (owns : act.Owns) : act.Answers := owns.mono fun _ own => Or.inl own

theorem Act.Answers.mild {A : Type} {act : Act R A} (answers : act.Answers) : act.Mild :=
  answers.mono fun _ fails => fails.imp_left Failure.Own.ordinary

namespace Fault.Flawed

variable {A B : Type}

theorem ok (a : A) : Flawed (.ok a : Except Fault A) := fun _ failed => nomatch failed

theorem bind (result : Except Fault A) (next : A → Except Fault B) (first : Flawed result)
    (second : ∀ a, Flawed (next a)) : Flawed (result >>= next) := by
  intro fault failed
  cases result with
  | ok a => exact second a fault failed
  | error reason => exact first fault (by cases failed; rfl)

theorem map (result : Except Fault A) (f : A → B) (first : Flawed result) : Flawed (result.map f) := by
  intro fault failed
  cases result with
  | ok a => cases failed
  | error reason => exact first fault (by cases failed; rfl)

variable [Scalar R]

theorem refuse (call : Call R) (flaw : Flaw R) : Flawed (call.refuse flaw : Except Fault A) := by
  intro fault failed
  cases failed
  exact ⟨call.operation, flaw.message, rfl⟩

theorem need (call : Call R) (flaw : Flaw R) (given : Option A) : Flawed (call.need flaw given) := by
  cases given with
  | some a => exact ok a
  | none => exact refuse call flaw

theorem value (call : Call R) (index : Nat) (what : String) : Flawed (call.value index what) := by
  unfold Call.value
  split
  · exact ok _
  · exact refuse call _
  · exact refuse call _

theorem number (call : Call R) (index : Nat) (what : String) : Flawed (call.number index what) :=
  bind _ _ (value call index what) fun _ => need call _ _

theorem optional_number (call : Call R) (index : Nat) (what : String) : Flawed (call.number? index what) := by
  unfold Call.number?
  split
  · exact ok _
  · exact ok _
  · exact map _ _ (number call index what)

theorem flag (call : Call R) (index : Nat) (what : String) : Flawed (call.flag index what) :=
  bind _ _ (value call index what) fun _ => need call _ _

theorem text (call : Call R) (index : Nat) (what : String) : Flawed (call.text index what) :=
  bind _ _ (value call index what) fun _ => need call _ _

theorem target (call : Call R) (index : Nat) (position : R) : Flawed (call.target index position) := by
  unfold Call.target
  split
  · dsimp only
    split
    · exact ok _
    · exact refuse call _
  · exact number call index _
  · exact refuse call _

theorem span (call : Call R) : Flawed (Action.Control.span call) := by
  refine bind _ _ (number call 0 _) fun ms => ?_
  split
  · exact refuse call _
  · exact need call _ _

end Fault.Flawed

theorem resolve_ordinary (table : HandlerTable R) (cell : Cell R) (call : Call R) :
    Fault.Ordinary (table.resolve cell call) := by
  intro fault refused
  rcases HandlerTable.resolve_fault table cell call fault refused with rfl | rfl
  · rfl
  · rfl

namespace Act.Owns

theorem read {A : Type} (result : Except Fault A) (flawed : Fault.Flawed result) : Owns (ofExcept result : Act R A) := by
  refine fails_of_except result fun fault failed => ?_
  obtain ⟨operation, reason, rfl⟩ := flawed fault failed
  exact .argument operation reason

theorem take (station : String) : Owns (Action.Stock.take (R := R) station) := by
  refine fails_bind _ _ (fails_change _) fun material => ?_
  cases material with
  | some material => exact fails_pure _
  | none => exact fails_fail _ (.emptyStation station)

variable [Scalar R]

theorem command_axis (handle : Nat) (axis : Axis R) (target : R) (speed : Option R) (homing : Bool) :
    Owns (commandAxis handle axis target speed homing) := by
  refine fails_bind _ _ fails_get fun cell => ?_
  split
  · exact fails_bind _ _ (fun _ _ failed => nomatch failed) fun _ => fails_pure _
  · exact fails_fail _ (.noRuntime _)

theorem move_axis (handle : Nat) (axis : Axis R) (target : R) (speed : Option R) :
    Owns (moveAxis handle axis target speed) := by
  unfold moveAxis
  split
  · next error refused =>
      refine fails_fail _ ?_
      unfold Axis.accepts at refused
      split at refused
      · cases refused
      · cases refused
        exact .rejected _ _
  · exact command_axis handle axis target speed false

theorem fire_actuator (handle : Nat) (actuator : Actuator R) (on : Bool) :
    Owns (fireActuator handle actuator on) := by
  refine fails_bind _ _ fails_get fun cell => ?_
  dsimp only
  split
  · exact fails_bind _ _ (fun _ _ failed => nomatch failed) fun _ => fails_pure _
  · split
    · exact fails_bind _ _ (fun _ _ failed => nomatch failed) fun _ => fails_pure _
    · exact fails_fail _ (.noRuntime _)

theorem motion (operation : Operation) (handler : Handler R) (member : (operation, handler) ∈ HandlerTable.motions) :
    ∃ work : Call R → Nat × Axis R → Act R (Reply R), (∀ call, handler call = findAxis call.device >>= work call) ∧
      ∀ call found, (work call found).Answers := by
  have targets : ∀ (call : Call R) position, Answers (ofExcept (call.target 0 position) : Act R R) := fun call position =>
    (read _ (Fault.Flawed.target call 0 position)).answers
  have numbers : ∀ (call : Call R) index what, Answers (ofExcept (call.number index what) : Act R R) :=
    fun call index what => (read _ (Fault.Flawed.number call index what)).answers
  have speeds : ∀ (call : Call R) index what, Answers (ofExcept (call.number? index what) : Act R (Option R)) :=
    fun call index what => (read _ (Fault.Flawed.optional_number call index what)).answers
  -- A move is commanded when its arguments have been read; what follows is told by the handle and the target.
  have moves : ∀ follow : Call R → Nat × R → Act R (Reply R), (∀ call sent, (follow call sent).Answers) →
      ∃ work : Call R → Nat × Axis R → Act R (Reply R),
        (∀ call, Action.Motion.command call >>= follow call = findAxis call.device >>= work call) ∧
        ∀ call found, (work call found).Answers := by
    intro follow answers
    refine ⟨fun call found => do
      let target ← Act.ofExcept (call.target 0 found.2.state.position)
      let speed ← Act.ofExcept (call.number? 1 "speed")
      let sent ← moveAxis found.1 found.2 target speed
      follow call (found.1, sent.1), fun call => ?_, fun call found => ?_⟩
    · simp only [Action.Motion.command, bind_assoc, pure_bind]
    · refine fails_bind _ _ (targets call _) fun target => fails_bind _ _ (speeds call 1 _) fun speed => ?_
      exact fails_bind _ _ (move_axis found.1 found.2 target speed).answers fun _ => answers call _
  simp only [HandlerTable.motions, List.mem_cons, Prod.mk.injEq, List.not_mem_nil, or_false] at member
  rcases member with ⟨-, rfl⟩ | ⟨-, rfl⟩ | ⟨-, rfl⟩ | ⟨-, rfl⟩ | ⟨-, rfl⟩ | ⟨-, rfl⟩
  · exact moves (fun _ sent => yield (.number sent.2)) fun _ _ => fails_pure _
  · exact moves (fun call sent => Action.Motion.awaitIdle call sent.1) fun _ _ => fails_change _
  · refine ⟨_, fun _ => rfl, fun call found => fails_bind _ _ (targets call _) fun target => ?_⟩
    refine fails_bind _ _ (numbers call 1 _) fun threshold => fails_bind _ _ (speeds call 2 _) fun speed => ?_
    have collapses : ∀ message, Answers (Action.Motion.collapse (R := R) found.1 message) := fun message =>
      fails_bind _ _ (fails_tell _) fun _ => fails_panic message (Or.inr ⟨_, rfl⟩)
    split
    · exact (read _ (Fault.Flawed.refuse call _)).answers
    · refine fails_bind _ _ (move_axis found.1 found.2 target speed).answers fun _ => fails_bind _ _ fails_get fun cell => ?_
      dsimp only
      split
      · exact collapses _
      · split
        · exact collapses _
        · exact fails_change _
  · refine ⟨_, fun _ => rfl, fun call found => ?_⟩
    exact fails_bind _ _ (command_axis found.1 found.2 _ none true).answers fun _ => fails_change _
  · exact ⟨_, fun _ => rfl, fun call found => fails_bind _ _ (fails_tell _) fun _ => fails_pure _⟩
  · exact ⟨_, fun _ => rfl, fun call found => fails_pure _⟩

theorem switching (operation : Operation) (handler : Handler R)
    (member : (operation, handler) ∈ HandlerTable.switchings) :
    ∃ work : Call R → Nat × Actuator R → Act R (Reply R),
      (∀ call, handler call = findActuator call.device >>= work call) ∧ ∀ call found, (work call found).Owns := by
  have flagged : ∀ call : Call R, Owns (ofExcept (call.flag 0 "state") : Act R Bool) := fun call =>
    read _ (Fault.Flawed.flag call 0 "state")
  have fires : ∀ follow : Call R → Nat × Bool → Act R (Reply R), (∀ call sent, (follow call sent).Owns) →
      ∃ work : Call R → Nat × Actuator R → Act R (Reply R),
        (∀ call, Action.Switching.command call >>= follow call = findActuator call.device >>= work call) ∧
        ∀ call found, (work call found).Owns := by
    intro follow owns
    refine ⟨fun call found => do
      let on ← Act.ofExcept (call.flag 0 "state")
      let _ ← fireActuator found.1 found.2 on
      follow call (found.1, on), fun call => ?_, fun call found => ?_⟩
    · simp only [Action.Switching.command, bind_assoc, pure_bind]
    · refine fails_bind _ _ (flagged call) fun on => ?_
      exact fails_bind _ _ (fire_actuator found.1 found.2 on) fun _ => owns call _
  simp only [HandlerTable.switchings, List.mem_cons, Prod.mk.injEq, List.not_mem_nil, or_false] at member
  rcases member with ⟨-, rfl⟩ | ⟨-, rfl⟩ | ⟨-, rfl⟩ | ⟨-, rfl⟩ | ⟨-, rfl⟩
  · exact fires (fun _ sent => yield (.bool sent.2)) fun _ _ => fails_pure _
  · exact fires (fun call sent => Action.Switching.awaitSettled call sent.1 sent.2) fun _ _ => fails_change _
  · exact ⟨_, fun _ => rfl, fun call found => fails_bind _ _ (flagged call) fun _ => fails_change _⟩
  · exact ⟨_, fun _ => rfl, fun call found => fails_change _⟩
  · exact ⟨_, fun _ => rfl, fun call found => fails_pure _⟩

theorem service (operation : Operation) (handler : Handler R)
    (member : (operation, handler) ∈ HandlerTable.services) (call : Call R) : Owns (handler call) := by
  have texts : ∀ index what, Owns (ofExcept (call.text index what) : Act R String) := fun index what =>
    read _ (Fault.Flawed.text call index what)
  have values : ∀ index what, Owns (ofExcept (call.value index what) : Act R (Value R)) := fun index what =>
    read _ (Fault.Flawed.value call index what)
  simp only [HandlerTable.services, List.mem_cons, Prod.mk.injEq, List.not_mem_nil, or_false] at member
  rcases member with ⟨-, rfl⟩ | ⟨-, rfl⟩ | ⟨-, rfl⟩ | ⟨-, rfl⟩ | ⟨-, rfl⟩ | ⟨-, rfl⟩ | ⟨-, rfl⟩ | ⟨-, rfl⟩ |
    ⟨-, rfl⟩ | ⟨-, rfl⟩ | ⟨-, rfl⟩ | ⟨-, rfl⟩ | ⟨-, rfl⟩
  · exact fails_bind _ _ (read _ (Fault.Flawed.span call)) fun _ => fails_change _
  · refine fails_bind _ _ (read _ ?_) fun _ => fails_fail _ (.thrown _)
    split
    · exact Fault.Flawed.ok _
    · exact Fault.Flawed.text call 0 _
  · exact fails_pure _
  · refine fails_bind _ _ (texts 0 _) fun name => fails_bind _ _ fails_get fun cell => ?_
    split
    · exact fails_pure _
    · split
      · exact fails_bind _ _ (values 1 _) fun _ => fails_pure _
      · exact read _ (Fault.Flawed.refuse call _)
  · exact fails_bind _ _ (values 0 _) fun _ => fails_pure _
  · refine fails_bind _ _ (texts 0 _) fun name => fails_bind _ _ (values 1 _) fun value => ?_
    exact fails_bind _ _ (fails_tell _) fun _ => fails_pure _
  · refine fails_bind _ _ (texts 0 _) fun station => fails_bind _ _ (texts 1 _) fun className => ?_
    exact fails_bind _ _ (fails_change _) fun _ => fails_bind _ _ (fails_tell _) fun _ => fails_pure _
  · refine fails_bind _ _ (texts 0 _) fun station => fails_bind _ _ (texts 1 _) fun className => ?_
    refine fails_bind _ _ fails_get fun cell => ?_
    split
    · exact fails_fail _ (.emptyStation station)
    · exact fails_bind _ _ (fails_tell _) fun _ => fails_pure _
  · refine fails_bind _ _ (texts 0 _) fun station => fails_bind _ _ (take station) fun material => ?_
    exact fails_bind _ _ (fails_tell _) fun _ => fails_pure _
  · refine fails_bind _ _ (texts 0 _) fun station => fails_bind _ _ (texts 1 _) fun id => ?_
    exact fails_bind _ _ (texts 2 _) fun className => fails_bind _ _ (fails_tell _) fun _ => fails_pure _
  · refine fails_bind _ _ (texts 0 _) fun station => fails_bind _ _ (fails_change _) fun material => ?_
    split
    · exact fails_pure _
    · exact fails_pure _
  · refine fails_bind _ _ (texts 0 _) fun holder => fails_bind _ _ (texts 1 _) fun source => ?_
    exact fails_bind _ _ (take source) fun _ => fails_bind _ _ (fails_tell _) fun _ => fails_pure _
  · refine fails_bind _ _ (texts 0 _) fun holder => fails_bind _ _ (texts 1 _) fun target => ?_
    exact fails_bind _ _ (take holder) fun _ => fails_bind _ _ (fails_tell _) fun _ => fails_pure _

end Act.Owns

namespace Act.Ordinary

variable [Scalar R]

theorem make_axis (spec : AxisSpec R) : Mild (makeAxis spec) := by
  refine fails_bind _ _ fails_get fun cell => ?_
  split
  · exact fails_fail _ (Or.inl rfl)
  · exact fails_panic _ (Or.inr ⟨_, rfl⟩)
  · exact fails_bind _ _ (fun _ _ failed => nomatch failed) fun _ => fails_pure _

theorem make_actuator (spec : ActuatorSpec) : Ordinary (makeActuator (R := R) spec) := by
  refine fails_bind _ _ fails_get fun cell => ?_
  split
  · exact fails_fail _ rfl
  · exact fails_bind _ _ (fun _ _ failed => nomatch failed) fun _ => fails_pure _

omit [Scalar R] in
theorem missing (cell : Cell R) (id expected : String) : (cell.missing id expected).isOrdinary = true := by
  unfold Cell.missing
  split
  · rfl
  · rfl

theorem find_axis (id : String) : Mild (findAxis (R := R) id) := by
  refine fails_bind _ _ fails_get fun cell => ?_
  split
  · exact fails_pure _
  · split
    · exact make_axis _
    · exact fails_fail _ (Or.inl (missing cell id _))

theorem find_actuator (id : String) : Ordinary (findActuator (R := R) id) := by
  refine fails_bind _ _ fails_get fun cell => ?_
  split
  · exact fails_pure _
  · split
    · exact make_actuator _
    · exact fails_fail _ (missing cell id _)

theorem motion (operation : Operation) (handler : Handler R)
    (member : (operation, handler) ∈ HandlerTable.motions) (call : Call R) : Mild (handler call) := by
  obtain ⟨work, finds, answers⟩ := Act.Owns.motion operation handler member
  rw [finds call]
  exact fails_bind _ _ (find_axis call.device) fun found => (answers call found).mild

theorem switching (operation : Operation) (handler : Handler R)
    (member : (operation, handler) ∈ HandlerTable.switchings) (call : Call R) : Ordinary (handler call) := by
  obtain ⟨work, finds, owns⟩ := Act.Owns.switching operation handler member
  rw [finds call]
  exact fails_bind _ _ (find_actuator call.device) fun found => (owns call found).ordinary

theorem service (operation : Operation) (handler : Handler R)
    (member : (operation, handler) ∈ HandlerTable.services) (call : Call R) : Ordinary (handler call) :=
  (Act.Owns.service operation handler member call).ordinary

end Act.Ordinary

-- Every handler of the standard table fails in ordinary faults, or breaks down.
theorem Act.Mild.standard [Scalar R] (cell : Cell R) (call : Call R) (handler : Handler R)
    (resolved : HandlerTable.standard.resolve cell call = .ok handler) : Mild (handler call) := by
  rcases HandlerTable.standard_handler cell call handler resolved with moves | switches | serves
  · exact Act.Ordinary.motion call.operation handler moves call
  · exact (Act.Ordinary.switching call.operation handler switches call).mild
  · exact (Act.Ordinary.service call.operation handler serves call).mild

end Workcell
