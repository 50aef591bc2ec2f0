import Workcell.CommandLine
import Workcell.Proofs.Completion.Fitness
import Workcell.Proofs.Sturdy.Session

/-!
Valid configurations: with a machine and settings that pass their checks nothing breaks down, as long as the bound of
waits ends before the last instant that has a name. The check of the bound lets one in that never does.
-/

set_option autoImplicit false

namespace Workcell

variable {R A : Type} [Scalar R]

namespace Settings

def forSession (settings : Settings R) : SessionSettings R :=
  ⟨settings.sampling, settings.execution.waitBound, Duration.ofMillis settings.tick, settings.execution.seed⟩

def grounds (settings : Settings R) (machine : Machine R) : Grounds R :=
  ⟨machine, Duration.ofMillis settings.tick, settings.execution.waitBound, Duration.ofMillis settings.tick⟩

theorem tick_of_valid (settings : Settings R) (valid : settings.validate = .ok ()) : settings.tick ≠ 0 := by
  intro zero
  simp only [validate, if_pos zero, bind, Except.bind] at valid
  split at valid
  · cases valid
  · split at valid
    · cases valid
    · split at valid
      · cases valid
      · cases valid

theorem grounds_sound (steady : Scalar.Steady R) (machine : Machine R) (machineValid : machine.validate = .ok ())
    (settings : Settings R) (valid : settings.validate = .ok ()) : (settings.grounds machine).Sound where
  ordered spec member := steady.le_of_lt _ _ ((machine.fit_of_valid machineValid).axes spec member).2
  tick := Nat.mul_ne_zero (settings.tick_of_valid valid) (by decide)
  sampleTick := Nat.mul_ne_zero (settings.tick_of_valid valid) (by decide)

end Settings

theorem Driver.simulation_of_created (name : String) (tick : Duration) (driver : Driver)
    (created : Driver.create Driver.builtin name tick = .ok driver) : driver = .simulation tick := by
  unfold Driver.create at created
  cases known : Driver.builtin.find? name with
  | none =>
      rw [known] at created
      cases created
  | some make =>
      rw [known] at created
      cases created
      have member := HandlerTable.mem_of_lookup _ _ _ known
      rcases List.mem_cons.mp member with same | none
      · cases same
        rfl
      · cases none

/-- On a machine and under settings that pass their checks, whatever an operator orders and in whatever order the jobs
of the session take their turns: no start breaks the operator's work down, no flow of a scenario that comes with the
cell or is sturdy ends in the code of a breakdown while the bound of waits ends at an instant that has a name, every
axis of every run can be sent anywhere, and every stroke of an actuator has a time. -/
theorem valid_sessions_break_only_past_the_horizon (steady : Scalar.Steady R) (machine : Machine R)
    (machineValid : machine.validate = .ok ()) (settings : Settings R) (settingsValid : settings.validate = .ok ())
    (driver : Driver)
    (driven : Driver.create Driver.builtin settings.execution.driver (Duration.ofMillis settings.tick) = .ok driver)
    (catalog : Catalog (Scenario R))
    (scenarios : ∀ name scenario, catalog.find? name = some scenario →
      (name, scenario) ∈ (Scenario.builtin (R := R)).entries ∨ scenario.SturdyOn machine)
    (hook : Hook R) (script : List (Order A)) (finishes : List (Finish R)) (session : Session R A)
    (jobs : List (SessionJob R A))
    (reached : Session.workload.Reach Session.finishes
      (Session.new machine driver catalog settings.forSession HandlerTable.standard hook)
      (.operator .ready (script.map Order.instruction)) [] finishes session jobs) :
    session.broken = false ∧
      (∀ finish ∈ finishes, Duration.beyond finish.now settings.execution.waitBound = false →
        finish.outcome.code? ≠ some "PANICKED") ∧
      ∀ run ∈ session.runs,
        (∀ axis ∈ run.cell.axes.slots, axis.tick ≠ 0 ∧ ∀ position, (axis.spec.clamp? position).isSome = true) ∧
        ∀ actuator ∈ run.cell.actuators.slots, actuator.tick ≠ 0 ∧
          (actuator.spec.actionTime < Nat.pow 2 64 → ∀ on, (actuator.strokeTime? on).isSome = true) := by
  have ground := settings.grounds_sound steady machine machineValid settingsValid
  have begins : Session.Stable (settings.grounds machine) []
      (Session.new machine driver catalog settings.forSession HandlerTable.standard hook)
      [SessionJob.operator .ready (script.map Order.instruction)] := by
    refine ⟨{
      machine := rfl
      driver := driver.simulation_of_created _ _ driven
      waitBound := rfl
      sampleTick := rfl
      handlers := rfl
      scenarios := fun name scenario known => ?_
      cells := fun _ member => nomatch member
      whole := rfl }, fun job member => ?_, fun _ member => nomatch member⟩
    · rcases scenarios name scenario known with builtin | sturdy
      · exact Scenario.builtin_sturdy machine ground.ordered name scenario builtin
      · exact sturdy
    · rw [List.mem_singleton.mp member]
      intro instruction given
      obtain ⟨order, -, rfl⟩ := List.mem_map.mp given
      cases order with
      | _ => rfl
  have stable := (Session.stable_law steady ground).reached _ _ [] begins finishes session jobs reached
  refine ⟨stable.firm.whole, fun finish member named coded => ?_, fun run member => ⟨?_, ?_⟩⟩
  · exact absurd ((stable.finishes finish member coded).symm.trans named) (by decide)
  · intro axis made
    have sound := (stable.firm.cells run member).axes axis made
    refine ⟨sound.tick ▸ ground.tick, fun position => ?_⟩
    rw [AxisSpec.clamp?, if_pos sound.ordered]
    rfl
  · intro actuator made
    have sound := (stable.firm.cells run member).actuators actuator made
    exact ⟨sound.tick ▸ ground.tick, fun sized on => steady.timed actuator on sound.onTravel sized⟩

def probeMachine : Machine Rat := ⟨"cell", [⟨"Z", 0, 0, 0, 100, 100, none, some ⟨0, 2⟩⟩], []⟩

def probing : Scenario Rat := fun _ => .ok (Flow.moveUntil "Z" 50 1)

def patience (seconds : Rat) : Settings Rat := ⟨.default, .default, defaultTick, ⟨simulationDriver, seconds, 0⟩⟩

def probingSession (seconds : Rat) : Session Rat Unit :=
  Session.new probeMachine (.simulation (.ofMillis defaultTick)) ⟨[("probe", probing)]⟩ (patience seconds).forSession
    HandlerTable.standard .propagating

def probingOrders : List (Order Unit) := [.start "probe" fun _ => ()]

def probed (seconds : Rat) (steps : Nat) : List (Finish Rat) × Schedule (Session Rat Unit) (SessionJob Rat Unit) :=
  Schedule.follow Session.workload Session.finishes steps
    ([], Schedule.start (probingSession seconds) (.operator .ready (probingOrders.map Order.instruction)))

theorem probing_is_sturdy : probing.SturdyOn probeMachine :=
  Step.Sturdy.action "Z" .moveUntil [Flow.number (50 : Rat), Flow.number 1]

theorem only_probing (name : String) (scenario : Scenario Rat)
    (known : (⟨[("probe", probing)]⟩ : Catalog (Scenario Rat)).find? name = some scenario) : scenario = probing := by
  rcases List.mem_cons.mp (HandlerTable.mem_of_lookup _ _ _ known) with same | none
  · exact congrArg Prod.snd same
  · cases none

theorem valid_sessions_break_only_past_the_horizon_of_a_probe :
    (probed 30 9).1.map (fun finish => (finish.run, finish.now, finish.outcome.code?)) = [(0, 20, none)] ∧
      (probed 30 9).2.world.broken = false ∧
      (∀ finish ∈ (probed 30 9).1, Duration.beyond finish.now (patience 30).execution.waitBound = false →
        finish.outcome.code? ≠ some "PANICKED") ∧
      ∀ run ∈ (probed 30 9).2.world.runs,
        (∀ axis ∈ run.cell.axes.slots, axis.tick ≠ 0 ∧ ∀ position, (axis.spec.clamp? position).isSome = true) ∧
        ∀ actuator ∈ run.cell.actuators.slots, actuator.tick ≠ 0 ∧
          (actuator.spec.actionTime < Nat.pow 2 64 → ∀ on, (actuator.strokeTime? on).isSome = true) := by
  have reached := Schedule.follow_reaches Session.workload Session.finishes (probingSession 30)
    (.operator .ready (probingOrders.map Order.instruction)) [] 9
  refine ⟨by decide +kernel, ?_⟩
  exact valid_sessions_break_only_past_the_horizon Exact.steady probeMachine rfl (patience 30)
    rfl _ rfl _ (fun name scenario known => Or.inr (only_probing name scenario known ▸ probing_is_sturdy))
    .propagating probingOrders _ _ _ reached

-- The settings let a wait of ten million million million seconds in. Its end has no name, and a move up to a
-- threshold breaks down over it.
theorem a_valid_session_breaks_down :
    probeMachine.validate = .ok () ∧ (patience 10000000000000000000).validate = .ok () ∧
      Driver.create Driver.builtin (patience 10000000000000000000).execution.driver
        (Duration.ofMillis (patience 10000000000000000000).tick) = .ok (.simulation (.ofMillis defaultTick)) ∧
      probing.SturdyOn probeMachine ∧
      Session.workload.Reach Session.finishes (probingSession 10000000000000000000)
        (.operator .ready (probingOrders.map Order.instruction)) [] (probed 10000000000000000000 2).1
        (probed 10000000000000000000 2).2.world ((probed 10000000000000000000 2).2.jobs.map Prod.snd) ∧
      (probed 10000000000000000000 2).1.map (fun finish => (finish.run, finish.now, finish.outcome.code?)) =
        [(0, 0, some "PANICKED")] :=
  ⟨rfl, rfl, rfl, probing_is_sturdy,
    Schedule.follow_reaches Session.workload Session.finishes _ _ [] 2, by decide +kernel⟩

end Workcell
