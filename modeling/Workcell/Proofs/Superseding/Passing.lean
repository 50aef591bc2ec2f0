import Workcell.Proofs.Superseding.Onwards

/-!
The turns of the jobs of a run take its devices onwards, and once all devices have been stopped, whatever was set going
before is past for good: its motors find nothing left to do.
-/

set_option autoImplicit false

namespace Workcell

variable {R : Type}

namespace Drive

theorem begun_of_begun (now : Nat) (drive : Drive R) (cell : Cell R) :
    (Motor.begun now drive).Begun cell ↔ drive.Begun cell := by
  cases drive <;> exact Iff.rfl

theorem past_of_begun (now : Nat) (drive : Drive R) (cell : Cell R) :
    (Motor.begun now drive).Past cell ↔ drive.Past cell := by
  cases drive <;> exact Iff.rfl

end Drive

structure Cell.Passes (before after : Cell R) : Prop where
  axes : ∀ handle axis, before.axes.get? handle = some axis →
    ∃ later, after.axes.get? handle = some later ∧ axis.generation < later.generation
  actuators : ∀ handle actuator, before.actuators.get? handle = some actuator →
    ∃ later, after.actuators.get? handle = some later ∧ actuator.generation < later.generation

theorem Drive.Begun.past {before after : Cell R} {drive : Drive R} (begun : drive.Begun before)
    (passes : Cell.Passes before after) : drive.Past after := by
  cases drive with
  | axis handle motion =>
      obtain ⟨axis, there, least⟩ := begun
      obtain ⟨later, found, less⟩ := passes.axes handle axis there
      exact ⟨later, found, Nat.lt_of_le_of_lt least less⟩
  | actuator handle stroke began =>
      obtain ⟨actuator, there, least⟩ := begun
      obtain ⟨later, found, less⟩ := passes.actuators handle actuator there
      exact ⟨later, found, Nat.lt_of_le_of_lt least less⟩

theorem Cell.stop_axis_passes (cell : Cell R) (handle : Nat) (axis : Axis R) (there : cell.axes.get? handle = some axis) :
    ∃ later, (cell.stopAxis handle).axes.get? handle = some later ∧ axis.generation < later.generation := by
  refine ⟨axis.stop, ?_, axis.stop_generation ▸ Nat.lt_succ_self _⟩
  simp only [Cell.stopAxis, there, Cell.putAxis]
  split <;> exact Bank.get_set there axis.stop

theorem Cell.stop_actuator_passes (cell : Cell R) (handle : Nat) (actuator : Actuator R)
    (there : cell.actuators.get? handle = some actuator) :
    ∃ later, (cell.stopActuator handle).actuators.get? handle = some later ∧ actuator.generation < later.generation := by
  refine ⟨actuator.stop, ?_, actuator.stop_generation ▸ Nat.lt_succ_self _⟩
  simp only [Cell.stopActuator, there, Cell.putActuator]
  split <;> exact Bank.get_set there actuator.stop

theorem walk_passes {E D : Type} (devices : Cell R → Bank D) (generation : D → Nat) (handle : E → Nat)
    (act : Cell R → E → Cell R) (onwards : ∀ cell entry, Cell.Onwards cell (act cell entry))
    (goesOn : ∀ {before after}, Cell.Onwards before after → Bank.Onwards generation (devices before) (devices after))
    (passes : ∀ cell entry device, (devices cell).get? (handle entry) = some device →
      ∃ later, (devices (act cell entry)).get? (handle entry) = some later ∧ generation device < generation later)
    (entries : List E) (cell : Cell R) :
    Cell.Onwards cell (entries.foldl act cell) ∧
    ∀ entry ∈ entries, ∀ device, (devices cell).get? (handle entry) = some device →
      ∃ later, (devices (entries.foldl act cell)).get? (handle entry) = some later ∧
      generation device < generation later := by
  induction entries generalizing cell with
  | nil => exact ⟨.refl cell, fun _ member => nomatch member⟩
  | cons first rest ih =>
      obtain ⟨further, each⟩ := ih (act cell first)
      refine ⟨.trans _ _ _ (onwards cell first) further, fun entry member device there => ?_⟩
      rcases List.mem_cons.mp member with rfl | later
      · obtain ⟨between, found, less⟩ := passes cell entry device there
        obtain ⟨last, foundToo, lessToo⟩ := (goesOn further).devices _ between found
        exact ⟨last, foundToo, Nat.lt_of_lt_of_le less lessToo⟩
      · obtain ⟨between, found, less⟩ := (goesOn (onwards cell first)).devices _ device there
        obtain ⟨last, foundToo, lessToo⟩ := each entry later between found
        exact ⟨last, foundToo, Nat.lt_of_le_of_lt less lessToo⟩

theorem Bank.Enrolled.registered {D : Type} {bank : Bank D} (enrolled : bank.Enrolled) (handle : Nat) (device : D)
    (there : bank.get? handle = some device) : ∃ id, (id, handle, device) ∈ bank.registered := by
  obtain ⟨id, found⟩ := enrolled handle device there
  exact ⟨id, (mem_registered bank id handle device).mpr ⟨HandlerTable.mem_of_lookup id handle bank.index found, there⟩⟩

theorem stop_all_passes (cell : Cell R) (axes : cell.axes.Enrolled) (actuators : cell.actuators.Enrolled) :
    Cell.Onwards cell cell.stopAll ∧ Cell.Passes cell cell.stopAll := by
  obtain ⟨first, eachAxis⟩ := walk_passes Cell.axes Axis.generation (fun entry : String × Nat × Axis R => entry.2.1)
    (fun cell entry => cell.stopAxis entry.2.1) (fun cell entry => .stop_axis cell _) Cell.Onwards.axes
    (fun cell entry => cell.stop_axis_passes _) cell.axes.registered cell
  obtain ⟨second, eachActuator⟩ := walk_passes Cell.actuators Actuator.generation
    (fun entry : String × Nat × Actuator R => entry.2.1) (fun cell entry => cell.stopActuator entry.2.1)
    (fun cell entry => .stop_actuator cell _) Cell.Onwards.actuators (fun cell entry => cell.stop_actuator_passes _)
    (cell.axes.registered.foldl (fun cell entry => cell.stopAxis entry.2.1) cell).actuators.registered
    (cell.axes.registered.foldl (fun cell entry => cell.stopAxis entry.2.1) cell)
  refine ⟨.trans _ _ _ first second, ⟨fun handle axis there => ?_, fun handle actuator there => ?_⟩⟩
  · obtain ⟨id, member⟩ := axes.registered handle axis there
    obtain ⟨between, found, less⟩ := eachAxis _ member axis there
    obtain ⟨last, foundToo, lessToo⟩ := second.axes.devices handle between found
    exact ⟨last, foundToo, Nat.lt_of_lt_of_le less lessToo⟩
  · obtain ⟨between, found, less⟩ := first.actuators.devices handle actuator there
    obtain ⟨id, member⟩ := (first.actuators.enrolled actuators).registered handle between found
    obtain ⟨last, foundToo, lessToo⟩ := eachActuator _ member between found
    exact ⟨last, foundToo, Nat.lt_of_le_of_lt less lessToo⟩

def Cell.OnlySignals (before after : Cell R) : Prop :=
  ∀ effect ∈ after.outbox, effect ∈ before.outbox ∨ ∃ sent, effect = .signal sent

namespace Cell.OnlySignals

theorem of_same {before after : Cell R} (outbox : after.outbox = before.outbox) : OnlySignals before after :=
  fun _ member => Or.inl (outbox ▸ member)

theorem refl (cell : Cell R) : OnlySignals cell cell := of_same rfl

theorem trans (first second third : Cell R) (before : OnlySignals first second) (after : OnlySignals second third) :
    OnlySignals first third := by
  intro effect member
  rcases after effect member with earlier | told
  · exact before effect earlier
  · exact Or.inr told

theorem signal (cell : Cell R) (sent : Signal) : OnlySignals cell (cell.signal sent) := by
  intro effect member
  exact (List.mem_append.mp member).imp_right fun last => ⟨sent, List.mem_singleton.mp last⟩

theorem stop_axis (cell : Cell R) (handle : Nat) : OnlySignals cell (cell.stopAxis handle) := by
  unfold Cell.stopAxis
  split
  · unfold Cell.putAxis
    dsimp only
    split
    · exact of_same rfl
    · exact signal _ _
  · exact refl cell

theorem stop_actuator (cell : Cell R) (handle : Nat) : OnlySignals cell (cell.stopActuator handle) := by
  unfold Cell.stopActuator
  split
  · unfold Cell.putActuator
    dsimp only
    split
    · exact of_same rfl
    · exact signal _ _
  · exact refl cell

theorem stop_all (cell : Cell R) : OnlySignals cell cell.stopAll := by
  have walks : ∀ {E : Type} (act : Cell R → E → Cell R), (∀ cell entry, OnlySignals cell (act cell entry)) →
      ∀ entries cell, OnlySignals cell (List.foldl act cell entries) := by
    intro E act each entries
    induction entries with
    | nil => exact refl
    | cons entry rest ih => exact fun cell => .trans _ _ _ (each cell entry) (ih (act cell entry))
  exact .trans _ _ _ (walks _ (fun cell entry => stop_axis cell _) _ _)
    (walks _ (fun cell entry => stop_actuator cell _) _ _)

theorem cancel (cell : Cell R) : OnlySignals cell cell.cancel := by
  unfold Cell.cancel
  split
  · exact refl cell
  · exact .trans _ { cell with cancelled := true } _ (of_same rfl) (signal _ _)

end Cell.OnlySignals

variable [Scalar R]

theorem task_onwards (handlers : HandlerTable R) (onwards : handlers.Onwards) (task : Task R)
    (makes : task.Makes fun _ => True) (cell : Cell R) : Cell.Onwards cell (task.poll handlers cell).2 := by
  have law : Upkeep handlers (fun _ => True) (fun _ => True) fun _ => Cell.Onwards cell := {
    perm := fun _ held => held
    trace := fun held _ _ _ => held.trans _ _ _ (.of_same rfl rfl rfl)
    appeal := fun held _ _ => held.trans _ _ _ (.of_same rfl rfl rfl)
    issue := fun held => held.trans _ _ _ (.of_same rfl rfl rfl)
    again := fun held key => held.trans _ _ _ (.effect _ (.again key) trivial)
    rest := fun held key => held.trans _ _ _ (.effect _ (.rest key) trivial)
    cancelled := fun _ _ => trivial
    refused := fun _ _ _ => trivial
    act := by
      intro waits before call handler held _ resolved
      have after := held.trans _ _ _ (onwards before call handler resolved before)
      rcases result : handler call before with ⟨outcome, next⟩
      rw [result] at after
      cases outcome with
      | ok reply => exact after
      | error failure =>
          cases failure with
          | fault fault => exact ⟨after, trivial⟩
          | panic message => exact after
    look := fun held _ => held.trans _ _ _ (Cell.Onwards.basis.look _ _)
    abandon := fun held => held.trans _ _ _ (Cell.Onwards.basis.abandon _ _) }
  have kept : Upkeep.After (fun _ => True) (fun _ => True) (fun _ => Cell.Onwards cell) [] (task.poll handlers cell) := by
    cases task with
    | fresh step => exact Upkeep.start_keeps law step makes [] cell (.refl cell)
    | running run => exact Upkeep.resume_keeps law run makes [] cell (.refl cell)
  rcases result : task.poll handlers cell with ⟨progress, after⟩
  rw [result] at kept
  cases progress with
  | done value => exact kept
  | fault fault => exact kept.1
  | pending run => exact kept.1
  | panicked message => exact kept

theorem step_onwards (drive : Drive R) (cell : Cell R) (done : Bool) (after : Cell R)
    (stepped : Motor.step cell drive = some (done, after)) : Cell.Onwards cell after := by
  cases drive with
  | axis handle motion =>
      obtain ⟨axis, there, later⟩ := Option.bind_eq_some_iff.mp stepped
      obtain ⟨⟨moved, last⟩, ticks, same⟩ := Option.bind_eq_some_iff.mp later
      cases same
      have still : axis.generation ≤ moved.generation := by
        unfold AxisMotion.tick? at ticks
        split at ticks
        · cases ticks
          exact Nat.le_refl _
        · cases ticks
      have put : Cell.Onwards cell { cell with axes := cell.axes.set handle moved } :=
        ⟨Bank.set_onwards there moved still, .refl _, fun _ member => Or.inl member⟩
      exact put.trans _ _ _ (.effect _ (.signal (.axis handle)) rfl)
  | actuator handle stroke began =>
      obtain ⟨actuator, there, later⟩ := Option.bind_eq_some_iff.mp stepped
      obtain ⟨⟨moved, last⟩, ticks, same⟩ := Option.bind_eq_some_iff.mp later
      cases same
      have still : actuator.generation ≤ moved.generation := by
        unfold Stroke.tick? at ticks
        split at ticks
        · cases ticks
          exact Nat.le_refl _
        · cases ticks
      have put : Cell.Onwards cell { cell with actuators := cell.actuators.set handle moved } :=
        ⟨.refl _, Bank.set_onwards there moved still, fun _ member => Or.inl member⟩
      exact put.trans _ _ _ (.effect _ (.signal (.actuator handle)) rfl)

theorem motor_onwards (motor : Motor R) (cell : Cell R) : Cell.Onwards cell (motor.poll cell).2 :=
  motor_within Cell.Onwards.refl Cell.Onwards.trans (fun _ _ => .of_same rfl rfl rfl) step_onwards motor cell

theorem motor_only_signals (motor : Motor R) (cell : Cell R) : Cell.OnlySignals cell (motor.poll cell).2 := by
  refine motor_within Cell.OnlySignals.refl Cell.OnlySignals.trans (fun _ _ => .of_same rfl)
    (fun drive cell done after stepped => ?_) motor cell
  cases drive with
  | axis handle motion =>
      obtain ⟨axis, -, later⟩ := Option.bind_eq_some_iff.mp stepped
      obtain ⟨⟨moved, last⟩, -, same⟩ := Option.bind_eq_some_iff.mp later
      cases same
      exact .signal { cell with axes := cell.axes.set handle moved } _
  | actuator handle stroke began =>
      obtain ⟨actuator, -, later⟩ := Option.bind_eq_some_iff.mp stepped
      obtain ⟨⟨moved, last⟩, -, same⟩ := Option.bind_eq_some_iff.mp later
      cases same
      exact .signal { cell with actuators := cell.actuators.set handle moved } _

theorem motor_left (motor left : Motor R) (cell : Cell R) (goesOn : (motor.poll cell).1 = some left) :
    left.timer.isSome = true ∧ (left.drive = motor.drive ∨ left.drive = Motor.begun cell.now motor.drive) := by
  obtain ⟨drive, next⟩ := motor
  cases next with
  | none =>
      simp only [Motor.poll] at goesOn
      split at goesOn
      · cases goesOn
      · cases goesOn
        exact ⟨rfl, Or.inr rfl⟩
  | some next =>
      simp only [Motor.poll] at goesOn
      split at goesOn
      · split at goesOn
        · cases goesOn
        · cases goesOn
        · cases goesOn
          exact ⟨rfl, Or.inl rfl⟩
      · cases goesOn
        exact ⟨rfl, Or.inl rfl⟩

end Workcell
