import Workcell.Cell.Motor
import Workcell.Proofs.Action.Basis
import Workcell.Proofs.Action.Blame
import Workcell.Proofs.Bank
import Workcell.Proofs.Upkeep.Law

/-!
What every action leaves as it is: the cancellation of the run, the devices that are registered, and the events that
are queued. Runs only add events of materials, and what they register stays.

Motors keep whatever their steps keep and the setting of a timer keeps.
-/

set_option autoImplicit false

namespace Workcell

variable {R : Type}

-- A claim that is closed under all that the handlers do is kept up by runs with the standard handlers.
theorem Cell.Footing.upkeep [Scalar R] {rel : Cell R → Cell R → Prop} (footing : Footing rel)
    (books : ∀ (cell : Cell R) traces hook appeals issued outbox, rel cell
      { cell with traces := traces, hook := hook, appeals := appeals, issued := issued, outbox := outbox })
    (ok : Call R → Prop)
    (handled : ∀ cell call handler, ok call → HandlerTable.standard.resolve cell call = .ok handler →
      Act.Within rel (handler call))
    (claim : Cell R → Prop) (blame : Fault → Prop)
    (closed : ∀ before after, rel before after → claim before → claim after)
    (uncut : ∀ fault, fault.isCancellation = false → blame fault)
    (cut : ∀ cell, claim cell → cell.cancelled = true → blame .cancelled) :
    Upkeep HandlerTable.standard ok blame fun _ => claim where
  perm _ held := held
  trace {_ cell} held step status number :=
    closed _ _ (books cell (cell.trace step status number).traces cell.hook cell.appeals cell.issued cell.outbox) held
  appeal {_ cell} held step fault :=
    closed _ _ (books cell cell.traces cell.hook.answer.2 _ cell.issued cell.outbox) held
  issue {_ cell} held := closed _ _ (books cell cell.traces cell.hook cell.appeals (cell.issued + 1) cell.outbox) held
  again {_ cell} held key := closed _ _ (books cell cell.traces cell.hook cell.appeals cell.issued _) held
  rest {_ cell} held key := closed _ _ (books cell cell.traces cell.hook cell.appeals cell.issued _) held
  cancelled held isCut := cut _ held isCut
  refused _ _ refuses := uncut _ (Fault.not_cut_of_ordinary _ (resolve_ordinary _ _ _ _ refuses))
  act := by
    intro _ cell call handler held isOk resolved
    have after := closed _ _ (handled cell call handler isOk resolved cell) held
    have blamed := Act.Mild.standard cell call handler resolved cell
    rcases result : handler call cell with ⟨outcome, next⟩
    rw [result] at after blamed
    cases outcome with
    | ok reply => exact after
    | error failure =>
        cases failure with
        | fault fault =>
            rcases blamed (.fault fault) rfl with ordinary | ⟨message, same⟩
            · exact ⟨after, uncut fault (fault.not_cut_of_ordinary ordinary)⟩
            · cases same
        | panic message => exact after
  look held _ := closed _ _ (footing.look _ _) held
  abandon held := closed _ _ (footing.abandon _ _) held

structure Cell.Later (before after : Cell R) : Prop where
  cancelled : after.cancelled = before.cancelled
  events : ∃ news, after.events = before.events ++ news ∧ ∀ event ∈ news, event.kind.tellsMaterial = true
  axes : Bank.Grown before.axes after.axes
  actuators : Bank.Grown before.actuators after.actuators

namespace Cell.Later

theorem refl (cell : Cell R) : Later cell cell :=
  ⟨rfl, ⟨[], by simp⟩, fun _ has => has, fun _ has => has⟩

theorem trans (first second third : Cell R) (before : Later first second) (after : Later second third) :
    Later first third := by
  obtain ⟨news, added, material⟩ := before.events
  obtain ⟨more, addedMore, materialMore⟩ := after.events
  refine ⟨after.cancelled.trans before.cancelled, ⟨news ++ more, ?_, ?_⟩, ?_, ?_⟩
  · rw [addedMore, added, List.append_assoc]
  · intro event member
    rcases List.mem_append.mp member with early | late
    · exact material event early
    · exact materialMore event late
  · exact fun id has => after.axes id (before.axes id has)
  · exact fun id has => after.actuators id (before.actuators id has)

-- Work that touches none of the parts that the relation speaks of.
theorem of_same (before after : Cell R) (cancelled : after.cancelled = before.cancelled)
    (events : after.events = before.events) (axes : after.axes = before.axes)
    (actuators : after.actuators = before.actuators) : Later before after :=
  ⟨cancelled, ⟨[], by simp [events]⟩, axes ▸ fun _ has => has, actuators ▸ fun _ has => has⟩

theorem effect (cell : Cell R) (asked : Effect R) : Later cell (cell.effect asked) := of_same _ _ rfl rfl rfl rfl

theorem put_axis (handle : Nat) (before after : Axis R) (cell : Cell R) :
    Later cell (cell.putAxis handle before after) := by
  unfold Cell.putAxis
  split
  · exact ⟨rfl, ⟨[], by simp⟩, Bank.grown_set _ _ _, fun _ has => has⟩
  · exact ⟨rfl, ⟨[], by simp [signal, Cell.effect]⟩, Bank.grown_set _ _ _, fun _ has => has⟩

theorem put_actuator (handle : Nat) (before after : Actuator R) (cell : Cell R) :
    Later cell (cell.putActuator handle before after) := by
  unfold Cell.putActuator
  split
  · exact ⟨rfl, ⟨[], by simp⟩, fun _ has => has, Bank.grown_set _ _ _⟩
  · exact ⟨rfl, ⟨[], by simp [signal, Cell.effect]⟩, fun _ has => has, Bank.grown_set _ _ _⟩

theorem placing : Placing (R := R) Later where
  refl := refl
  trans := trans
  putAxis cell handle before after := put_axis handle before after cell
  putActuator cell handle before after := put_actuator handle before after cell
  effect := effect

variable [Scalar R]

theorem basis : Basis (R := R) Later where
  refl := refl
  trans := trans
  timer _ _ := of_same _ _ rfl rfl rfl rfl
  assign _ _ _ := of_same _ _ rfl rfl rfl rfl
  ids _ _ := of_same _ _ rfl rfl rfl rfl
  put _ _ _ := of_same _ _ rfl rfl rfl rfl
  take _ _ := of_same _ _ rfl rfl rfl rfl
  event _ event material := ⟨rfl, ⟨[event], rfl, by simpa using material⟩, fun _ has => has, fun _ has => has⟩
  addAxis _ spec axis _ _ _ := ⟨rfl, ⟨[], by simp⟩, Bank.grown_add _ spec.id axis, fun _ has => has⟩
  addActuator _ spec actuator _ _ _ := ⟨rfl, ⟨[], by simp⟩, fun _ has => has, Bank.grown_add _ spec.id actuator⟩
  stopAxis := placing.stop_axis
  stopActuator := placing.stop_actuator

theorem standard (cell : Cell R) (call : Call R) (handler : Handler R)
    (resolved : HandlerTable.standard.resolve cell call = .ok handler) : Act.Within Later (handler call) :=
  Action.standard_within placing.command_axis placing.fire_actuator basis cell call handler resolved

-- A claim that only grows truer by the work of a run is kept up by runs with the standard handlers.
theorem upkeep (claim : Cell R → Prop) (blame : Fault → Prop)
    (closed : ∀ before after, Later before after → claim before → claim after)
    (uncut : ∀ fault, fault.isCancellation = false → blame fault)
    (cut : ∀ cell, claim cell → cell.cancelled = true → blame .cancelled) :
    Upkeep HandlerTable.standard (fun _ => True) blame fun _ => claim :=
  basis.upkeep (fun _ _ _ _ _ _ => of_same _ _ rfl rfl rfl rfl) _
    (fun cell call handler _ resolved => standard cell call handler resolved) claim blame closed uncut cut

end Cell.Later

structure Cell.Silent (before after : Cell R) : Prop extends Cell.Later before after where
  silent : after.events = before.events

theorem Cell.Silent.registers [Scalar R] : Cell.Registers (R := R) Cell.Silent where
  refl cell := ⟨.refl cell, rfl⟩
  trans first second third before after :=
    ⟨.trans first second third before.toLater after.toLater, after.silent.trans before.silent⟩
  addAxis cell spec axis declared fresh made := ⟨Cell.Later.basis.addAxis cell spec axis declared fresh made, rfl⟩
  addActuator cell spec actuator declared fresh made :=
    ⟨Cell.Later.basis.addActuator cell spec actuator declared fresh made, rfl⟩

variable [Scalar R]

section

variable {rel : Cell R → Cell R → Prop} (refl : ∀ cell, rel cell cell)
  (trans : ∀ first second third, rel first second → rel second third → rel first third)
  (timer : ∀ cell due, rel cell (cell.timer due).2)
  (steps : ∀ drive cell done after, Motor.step cell drive = some (done, after) → rel cell after)

include refl trans timer steps

theorem motor_within (motor : Motor R) (cell : Cell R) : rel cell (motor.poll cell).2 := by
  have held : ∀ drive cell, rel cell (Motor.hold (R := R) drive cell).2 := fun drive cell =>
    timer cell (Duration.due cell.now (Motor.tick cell drive))
  obtain ⟨drive, next⟩ := motor
  cases next with
  | none =>
      simp only [Motor.poll]
      split
      · exact refl cell
      · exact held _ cell
  | some next =>
      simp only [Motor.poll]
      split
      · cases result : Motor.step cell drive with
        | none => exact refl cell
        | some outcome =>
            obtain ⟨done, after⟩ := outcome
            have stepped := steps drive cell done after result
            cases done with
            | true => exact stepped
            | false => exact trans _ _ _ stepped (held drive after)
      · exact refl cell

end

-- A step of a motor puts a device back into its slot, and signals it.
theorem motor_steps_silent (drive : Drive R) (cell : Cell R) (done : Bool) (after : Cell R)
    (stepped : Motor.step cell drive = some (done, after)) : Cell.Silent cell after := by
  cases drive with
  | axis handle motion =>
      obtain ⟨axis, -, later⟩ := Option.bind_eq_some_iff.mp stepped
      obtain ⟨⟨moved, last⟩, -, same⟩ := Option.bind_eq_some_iff.mp later
      cases same
      exact ⟨⟨rfl, ⟨[], by simp [Cell.signal, Cell.effect]⟩, Bank.grown_set _ _ _, fun _ has => has⟩, rfl⟩
  | actuator handle stroke began =>
      obtain ⟨actuator, -, later⟩ := Option.bind_eq_some_iff.mp stepped
      obtain ⟨⟨moved, last⟩, -, same⟩ := Option.bind_eq_some_iff.mp later
      cases same
      exact ⟨⟨rfl, ⟨[], by simp [Cell.signal, Cell.effect]⟩, fun _ has => has, Bank.grown_set _ _ _⟩, rfl⟩

theorem motor_silent (motor : Motor R) (cell : Cell R) : Cell.Silent cell (motor.poll cell).2 :=
  motor_within Cell.Silent.registers.refl Cell.Silent.registers.trans
    (fun cell due => ⟨Cell.Later.basis.timer cell due, rfl⟩) motor_steps_silent motor cell

theorem stop_all_later (cell : Cell R) : Cell.Later cell cell.stopAll := by
  have folds : ∀ {E : Type} (act : Cell R → E → Cell R), (∀ cell entry, Cell.Later cell (act cell entry)) →
      ∀ entries cell, Cell.Later cell (List.foldl act cell entries) := by
    intro E act each entries
    induction entries with
    | nil => exact Cell.Later.refl
    | cons entry rest ih => exact fun cell => .trans _ _ _ (each cell entry) (ih (act cell entry))
  refine .trans _ _ _ (folds _ (fun cell entry => ?_) _ _) (folds _ (fun cell entry => ?_) _ _)
  · exact Cell.Later.basis.stopAxis cell _
  · exact Cell.Later.basis.stopActuator cell _

end Workcell
