import Workcell.Flow.Build
import Workcell.Proofs.Action.Later
import Workcell.Proofs.Cancellation.Turn
import Workcell.Proofs.Exact
import Workcell.Proofs.Upkeep.Life

/-!
Cancellation is total and final.

A run that is cancelled while it is suspended comes down turn by turn: the handlers have no say in such a turn, the
host is not asked, nothing is begun or completed. It ends as cancelled once every place at which it was suspended has
been woken; whatever waits listens to the signal of the cancellation, and whatever rests is woken anyway.
-/

set_option autoImplicit false

namespace Workcell

variable {R : Type} [Scalar R]

-- The next turn only brings the run down, whatever the handlers are.
def Run.ComesDown (run : Run R) (cell : Cell R) : Prop :=
  ∃ progress after, (∀ handlers, run.resume handlers cell = (progress, after)) ∧ Cell.Unwinding cell after ∧
    Cell.Unwinding.Spared cell after

omit [Scalar R] in
theorem attempted_when_cancelled (step : Step R) (body : Poll R) (cell : Cell R) (cut : cell.cancelled = true) :
    step.attempted body cell = (.fault .cancelled, cell) := by
  have isOver : ∀ number again exhausted, step.attempt body number again exhausted cell = (.fault .cancelled, cell) :=
    fun _ _ _ => if_pos cut
  have tried : ∀ exhausted left number, step.tries body exhausted left number cell = (.fault .cancelled, cell) := by
    intro exhausted left number
    cases left with
    | zero => exact isOver number none _
    | succ left => exact isOver number _ _
  unfold Step.attempted
  cases cell.hook.script.length with
  | zero => exact tried _ _ 1
  | succ answers => exact tried _ _ 1

variable (others : Cell R → Cell R → Prop) (step : Step R) (cell : Cell R)

theorem fit_between_turns (before : Cell R) (woken : List Nat) (run : Run R)
    (life : Life HandlerTable.standard others (.fresh step) cell woken (.pending run) before) :
    run.Fit (fun _ => True) (fun _ => True) := by
  have law : Upkeep (R := R) HandlerTable.standard (fun _ => True) (fun _ => True) fun _ _ => True :=
    Cell.Later.upkeep (fun _ => True) (fun _ => True) (fun _ _ _ _ => trivial) (fun _ _ => trivial) fun _ _ _ => trivial
  have every := every_of_all (fun _ => True) (fun _ => trivial) step
  exact (law.life_keeps others (fun _ _ _ _ _ => trivial) step every cell trivial woken _ before life).2

omit [Scalar R] in
theorem after_of_claim (claim : Cell R → Prop) (ok : Call R → Prop) (blame : Fault → Prop) (waits : List (Wait R))
    (progress : Progress R) (after : Cell R) (turn : Upkeep.After ok blame (fun _ => claim) waits (progress, after)) :
    claim after := by
  cases progress with
  | done value => exact turn
  | fault fault => exact turn.1
  | panicked message => exact turn
  | pending run => exact turn.1

-- No turn of a run cancels it.
theorem turn_never_cancels (task : Task R) (fit : ∀ run, task = .running run → run.Fit (fun _ => True) (fun _ => True))
    (progress : Progress R) (after : Cell R) (turn : task.poll HandlerTable.standard cell = (progress, after)) :
    after.cancelled = cell.cancelled := by
  have law : Upkeep (R := R) HandlerTable.standard (fun _ => True) (fun _ => True)
      fun _ later => later.cancelled = cell.cancelled :=
    Cell.Later.upkeep (fun later => later.cancelled = cell.cancelled) (fun _ => True)
      (fun _ _ later same => later.cancelled.trans same) (fun _ _ => trivial) fun _ _ _ => trivial
  apply after_of_claim (fun later => later.cancelled = cell.cancelled) (fun _ => True) (fun _ => True) [] progress
  rw [← turn]
  cases task with
  | fresh step => exact law.start_keeps step (every_of_all (fun _ => True) (fun _ => trivial) step) [] cell rfl
  | running run => exact law.resume_keeps run (fit run rfl) [] cell rfl

-- A run ends as cancelled only in a cell that has been cancelled.
theorem cancelled_of_fault (lasting : ∀ before after, others before after → before.cancelled = true → after.cancelled = true)
    (woken : List Nat) (progress : Progress R) (after : Cell R)
    (life : Life HandlerTable.standard others (.fresh step) cell woken progress after) (uncut : after.cancelled = false) :
    Upkeep.After (fun _ => True) (fun fault => fault.isCancellation = false) (fun _ later => later.cancelled = false) []
      (progress, after) := by
  have law : Upkeep (R := R) HandlerTable.standard (fun _ => True) (fun fault => fault.isCancellation = false)
      fun _ later => later.cancelled = false :=
    Cell.Later.upkeep (fun later => later.cancelled = false) _ (fun _ _ later same => later.cancelled.trans same)
      (fun _ uncut => uncut) fun _ free cut => absurd (free.symm.trans cut) (by simp)
  induction life with
  | first keys turn =>
      have free := (turn_never_cancels cell _ (fun _ same => by cases same) _ _ turn).symm.trans uncut
      have kept := law.start_keeps step (every_of_all (fun _ => True) (fun _ => trivial) step) [] cell free
      exact (show step.start HandlerTable.standard cell = _ from turn) ▸ kept
  | next keys earlier changed turn ih =>
      rename_i woken run before between progress after
      have fit := wake_fit keys run (fit_between_turns others step cell before woken run earlier)
      have freeBetween : between.cancelled = false :=
        (turn_never_cancels between _ (fun _ same => by cases same; exact fit) _ _ turn).symm.trans uncut
      have freeBefore : before.cancelled = false := by
        cases state : before.cancelled with
        | false => rfl
        | true => exact absurd ((lasting before between changed state).symm.trans freeBetween) (by simp)
      have kept := law.resume_keeps (run.wake keys) (wake_fit keys run (ih freeBefore).2) [] between freeBetween
      exact (show (run.wake keys).resume HandlerTable.standard between = _ from turn) ▸ kept

omit [Scalar R] in
theorem Unwound.cancelled (asleep : List Nat) (progress : Progress R) (after : Cell R)
    (unwound : Unwound asleep cell (progress, after)) : after.cancelled = cell.cancelled := by
  cases unwound with
  | down unwinding => exact unwinding.cancelled
  | later rest unwinding left => exact unwinding.cancelled

theorem resume_comes_down (run : Run R) (fit : run.Fit (fun _ => True) (fun _ => True)) (cut : cell.cancelled = true) :
    run.ComesDown cell := by
  have unwinds := fun handlers => resume_unwinds HandlerTable.standard handlers run fit cell cut
  have unwound := (unwinds HandlerTable.standard).2
  rcases result : run.resume HandlerTable.standard cell with ⟨progress, after⟩
  rw [result] at unwound
  have unwinding : Cell.Unwinding cell after := by
    cases unwound with
    | down unwinding => exact unwinding
    | later rest unwinding left => exact unwinding
  exact ⟨progress, after, fun handlers => (unwinds handlers).1.symm.trans result, unwinding, unwinding.spares⟩

-- The outcome of a run that was cancelled at `run` and of which places have been woken since.
def Run.Falls (run : Run R) (woken : List Nat) (progress : Progress R) : Prop :=
  progress = .fault .cancelled ∨ ∃ rest, progress = .pending rest ∧ ∀ key ∈ rest.places, key ∈ run.places ∧ key ∉ woken

omit [Scalar R] in
theorem falls_after_turn (run : Run R) (woken keys : List Nat) (asleep : List Nat)
    (slept : ∀ key ∈ asleep, key ∈ run.places ∧ key ∉ woken ++ keys) (progress : Progress R) (after : Cell R)
    (unwound : Unwound asleep cell (progress, after)) : run.Falls (woken ++ keys) progress := by
  cases unwound with
  | down unwinding => exact Or.inl rfl
  | later rest unwinding left => exact Or.inr ⟨rest, rfl, fun key place => slept key (left place)⟩

theorem life_falls (lasting : ∀ before after, others before after → before.cancelled = true → after.cancelled = true)
    (before cut : Cell R) (run : Run R) (earlier : List Nat)
    (start : Life HandlerTable.standard others (.fresh step) cell earlier (.pending run) before)
    (changed : others before cut) (cancelled : cut.cancelled = true) (woken : List Nat) (progress : Progress R)
    (after : Cell R) (life : Life HandlerTable.standard others (.running run) cut woken progress after) :
    after.cancelled = true ∧ run.Falls woken progress := by
  induction life with
  | first keys turn =>
      have fit := wake_fit keys run (fit_between_turns others step cell before earlier run start)
      have unwound := (resume_unwinds HandlerTable.standard HandlerTable.standard (run.wake keys) fit cut cancelled).2
      rw [show (run.wake keys).resume HandlerTable.standard cut = _ from turn] at unwound
      refine ⟨(unwound.cancelled cut _ _ _).trans cancelled, ?_⟩
      refine falls_after_turn cut run [] keys _ ?_ _ _ unwound
      intro key sleeps
      obtain ⟨slept, absent⟩ := wake_asleep keys key run sleeps
      exact ⟨asleep_is_place run slept, by simpa using absent⟩
  | next keys earlierTurns changes turn ih =>
      rename_i woken rest later between progress after
      obtain ⟨laterCancelled, falls⟩ := ih
      have whole := start.trans others _ cell before cut later run _ earlier woken changed earlierTurns
      have fit := wake_fit keys rest (fit_between_turns others step cell later _ rest whole)
      have stillCancelled := lasting later between changes laterCancelled
      have unwound :=
        (resume_unwinds HandlerTable.standard HandlerTable.standard (rest.wake keys) fit between stillCancelled).2
      rw [show (rest.wake keys).resume HandlerTable.standard between = _ from turn] at unwound
      refine ⟨(unwound.cancelled between _ _ _).trans stillCancelled, ?_⟩
      refine falls_after_turn between run woken keys _ ?_ _ _ unwound
      intro key sleeps
      obtain ⟨slept, absent⟩ := wake_asleep keys key rest sleeps
      rcases falls with isOver | ⟨left, same, remains⟩
      · cases isOver
      · cases same
        obtain ⟨place, unwoken⟩ := remains key (asleep_is_place rest slept)
        exact ⟨place, by simp [unwoken, absent]⟩

/-- A run that was cancelled before its first turn ends at once. One that is cancelled while it is suspended only comes
down in every later turn, and ends as cancelled, at the latest when every place has been woken at which it was
suspended. And no run ends as cancelled in a cell that was not cancelled. -/
theorem cancellation_is_final
    (lasting : ∀ before after, others before after → before.cancelled = true → after.cancelled = true) :
    (cell.cancelled = true → ∀ handlers, (Task.fresh step).poll handlers cell = (.fault .cancelled, cell)) ∧
    (∀ earlier run before cut, Life HandlerTable.standard others (.fresh step) cell earlier (.pending run) before →
      others before cut → cut.cancelled = true →
      (∀ keys, (run.wake keys).ComesDown cut) ∧
      ∀ woken progress after, Life HandlerTable.standard others (.running run) cut woken progress after →
        (progress = .fault .cancelled ∨ ∃ rest, progress = .pending rest ∧ (∃ key ∈ run.places, key ∉ woken) ∧
          ∀ next keys, others after next → (rest.wake keys).ComesDown next)) ∧
    (∀ woken fault after, Life HandlerTable.standard others (.fresh step) cell woken (.fault fault) after →
      fault.isCancellation = true → after.cancelled = true) := by
  refine ⟨?_, ?_, ?_⟩
  · intro cut handlers
    exact attempted_when_cancelled step _ cell cut
  · intro earlier run before cut start changed cancelled
    have fit := fit_between_turns others step cell before earlier run start
    refine ⟨fun keys => resume_comes_down cut _ (wake_fit keys run fit) cancelled, ?_⟩
    intro woken progress after life
    obtain ⟨stillCancelled, falls⟩ :=
      life_falls others step cell lasting before cut run earlier start changed cancelled woken progress after life
    rcases falls with isOver | ⟨rest, rfl, remains⟩
    · exact Or.inl isOver
    · have whole := start.trans others _ cell before cut after run _ earlier woken changed life
      have fitRest := fit_between_turns others step cell after _ rest whole
      obtain ⟨key, place⟩ := fit_has_place rest fitRest
      refine Or.inr ⟨rest, rfl, ⟨key, remains key place⟩, ?_⟩
      intro next keys changes
      exact resume_comes_down next _ (wake_fit keys rest fitRest) (lasting after next changes stillCancelled)
  · intro woken fault after life blamed
    cases state : after.cancelled with
    | true => rfl
    | false =>
        have blameless := (cancelled_of_fault others step cell lasting woken _ after life state).2
        exact absurd (blameless.symm.trans blamed) (by simp)

theorem cancellation_is_final_for_a_grip :
    (∀ before after : Cell Rat, after = before.cancel → before.cancelled = true → after.cancelled = true) ∧
      (∃ run before, (Flow.fireAndWait "gripper" true).start .standard gripperCell = (.pending run, before) ∧
        (run.wake []).ComesDown before.cancel) ∧
      ((Flow.fireAndWait "gripper" true).twoTurns .standard Cell.cancel gripperCell).1.fault? = some .cancelled ∧
      ((Flow.fireAndWait "gripper" true).twoTurns .standard Cell.cancel gripperCell).2.cancelled = true := by
  have cuts : ∀ cell : Cell Rat, cell.cancel.cancelled = true := fun cell => by
    unfold Cell.cancel
    split
    · assumption
    · rfl
  have lasting : ∀ before after : Cell Rat, after = before.cancel → before.cancelled = true → after.cancelled = true :=
    fun before after same _ => same ▸ cuts before
  obtain ⟨-, comesDown, onlyThen⟩ := cancellation_is_final (fun before after => after = before.cancel)
    (Flow.fireAndWait "gripper" true) gripperCell lasting
  have begun : ((Flow.fireAndWait "gripper" true).start .standard gripperCell).1.isPending = true := by
    decide +kernel
  have cancelled : ((Flow.fireAndWait "gripper" true).twoTurns .standard Cell.cancel gripperCell).1.fault? =
      some .cancelled := by
    decide +kernel
  refine ⟨lasting, ?_, cancelled, ?_⟩
  · rcases result : (Flow.fireAndWait "gripper" true).start .standard gripperCell with ⟨progress, before⟩
    rw [result] at begun
    cases progress with
    | pending run =>
        have life : Life .standard (fun before after => after = before.cancel)
            (.fresh (Flow.fireAndWait "gripper" true)) gripperCell [] (.pending run) before := .first [] result
        exact ⟨run, before, rfl, (comesDown [] run before before.cancel life rfl (cuts before)).1 []⟩
    | done value => cases begun
    | fault fault => cases begun
    | panicked message => cases begun
  · have life := life_of_two_turns .standard (fun before after => after = before.cancel) Cell.cancel
      (fun _ => rfl) (Flow.fireAndWait "gripper" true) gripperCell
    rcases result : (Flow.fireAndWait "gripper" true).twoTurns .standard Cell.cancel gripperCell with ⟨progress, after⟩
    rw [result] at life cancelled
    cases progress with
    | fault fault =>
        cases cancelled
        exact onlyThen [] .cancelled after life rfl
    | done value => cases cancelled
    | panicked message => cases cancelled
    | pending run => cases cancelled

end Workcell
