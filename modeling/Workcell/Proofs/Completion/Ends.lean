import Workcell.Proofs.Sequencing.Binding

/-!
Runs that end well.

Between two turns others move the devices and the clock, and leave the scene of a run alone. A run ends well if, whatever
they do, no turn of it fails or breaks down, and it ends in the scene that it is to end in. How often it may still come
to wait for something else than before is its budget; a turn that spends nothing of it asks for nothing either. What is
said of a run is said for so many turns ahead.
-/

set_option autoImplicit false

namespace Workcell

variable {R : Type}

def Cell.Paced (cell : Cell R) : Prop :=
  ∀ tick ∈ cell.axes.slots.map Axis.tick ++ cell.actuators.slots.map Actuator.tick, cell.driver = .simulation tick

structure Scene (R : Type) where
  machine : Machine R
  driver : Driver
  paced : Prop
  live : Bool
  cancelled : Bool
  materials : MaterialTable
  ids : Ids.Source
  events : List (Event R)

def Cell.scene (cell : Cell R) : Scene R :=
  ⟨cell.machine, cell.driver, cell.Paced, cell.live, cell.cancelled, cell.materials, cell.ids, cell.events⟩

structure Scene.Ready (tick : Duration) (scene : Scene R) : Prop where
  simulated : scene.driver = .simulation tick
  paced : scene.paced
  live : scene.live = true
  going : scene.cancelled = false

def Run.Timed (now : Nat) (run : Run R) : Prop :=
  run.leaves ≠ [] ∧ ∀ leaf ∈ run.leaves, ∃ timer, leaf.timer = some timer ∧ now < timer.due

-- What is left of a budget: less, or all of it if the run waits where it did, having asked for nothing.
def Spends (budget left : Nat) (last : Option (List Leaf)) (leaves : List Leaf) (asked : Prop) : Prop :=
  left < budget ∨ left = budget ∧ last = some leaves ∧ asked

-- What a turn that began in a cell is to come to: the end in a scene `post`, or a run in a scene `calm` of which
-- `later` is to hold with what is left of the budget.
def Settles (calm post : Scene R → Prop) (later : Nat → Run R → Scene R → Prop) (budget : Nat)
    (last : Option (List Leaf)) (before : Cell R) : Progress R × Cell R → Prop
  | (.done _, after) => after.now = before.now ∧ post after.scene
  | (.pending run, after) => after.now = before.now ∧ calm after.scene ∧ run.Timed after.now ∧
      ∃ left, Spends budget left last run.leaves (after.outbox = before.outbox) ∧ later left run after.scene
  | (.fault _, _) => False
  | (.panicked _, _) => False

section

variable [Scalar R]

def Poll.Ends (handlers : HandlerTable R) (calm post : Scene R → Prop) :
    (turns budget : Nat) → Option (List Leaf) → Poll R → Cell R → Prop
  | 0, budget, last, poll, cell => Settles calm post (fun _ _ _ => True) budget last cell (poll cell)
  | turns + 1, budget, last, poll, cell =>
      Settles calm post
        (fun left run scene => ∀ keys between, between.scene = scene →
          Poll.Ends handlers calm post turns left (some run.leaves) ((run.wake keys).resume handlers) between)
        budget last cell (poll cell)

def Run.Goes (handlers : HandlerTable R) (calm post : Scene R → Prop) :
    (turns left : Nat) → Run R → Scene R → Prop
  | 0, _, _, _ => True
  | turns + 1, left, run, scene => ∀ keys between, between.scene = scene →
      Poll.Ends handlers calm post turns left (some run.leaves) ((run.wake keys).resume handlers) between

end

namespace Settles

variable {calm post : Scene R → Prop} {later : Nat → Run R → Scene R → Prop} {budget : Nat} {last : Option (List Leaf)}
  {before : Cell R}

-- What follows a turn that ended may be told as one turn with it.
theorem bind {mid : Scene R → Prop} {after : Nat → Run R → Scene R → Prop} {hold : Run R → Run R}
    {next : Value R → Poll R} (more : Nat) (leaves : ∀ run, (hold run).leaves = run.leaves) (poll : Poll R)
    (cell : Cell R) (first : Settles calm mid later budget last cell (poll cell))
    (holds : ∀ left run scene, later left run scene → after (left + more) (hold run) scene)
    (second : ∀ value between, mid between.scene → Settles calm post after more none between (next value between)) :
    Settles calm post after (budget + more) last cell (poll.bind hold next cell) := by
  unfold Poll.bind
  rcases result : poll cell with ⟨progress, between⟩
  rw [result] at first
  cases progress with
  | fault fault => exact first
  | panicked message => exact first
  | pending run =>
      obtain ⟨instant, scene, timed, left, spends, goes⟩ := first
      refine ⟨instant, scene, ?_, left + more, ?_, holds left run _ goes⟩
      · rw [Run.Timed, leaves]
        exact timed
      · rw [leaves]
        exact spends.imp (by omega) fun ⟨same, still⟩ => ⟨by omega, still⟩
  | done value =>
      obtain ⟨instant, scene⟩ := first
      have goes := second value between scene
      show Settles calm post after (budget + more) last cell (next value between)
      rcases ended : next value between with ⟨progress, final⟩
      rw [ended] at goes
      cases progress with
      | fault fault => exact goes
      | panicked message => exact goes
      | done value => exact ⟨goes.1.trans instant, goes.2⟩
      | pending run =>
          obtain ⟨same, calmed, timed, left, spends, goesOn⟩ := goes
          refine ⟨same.trans instant, calmed, timed, left, Or.inl ?_, goesOn⟩
          rcases spends with less | ⟨-, nobody, -⟩
          · omega
          · cases nobody

theorem weaken {calmer wider : Scene R → Prop} {after : Nat → Run R → Scene R → Prop} {turn : Progress R × Cell R}
    (settles : Settles calm post later budget last before turn) (calms : ∀ scene, calm scene → calmer scene)
    (posts : ∀ scene, post scene → wider scene) (goes : ∀ left run scene, later left run scene → after left run scene) :
    Settles calmer wider after budget last before turn := by
  obtain ⟨progress, cell⟩ := turn
  cases progress with
  | fault fault => exact settles
  | panicked message => exact settles
  | done value => exact ⟨settles.1, posts _ settles.2⟩
  | pending run =>
      obtain ⟨instant, scene, timed, left, spends, still⟩ := settles
      exact ⟨instant, calms _ scene, timed, left, spends, goes left run _ still⟩

-- An attempt settles as its inside does, since that never fails.
theorem attempt (step : Step R) (number : Nat) (again : Option (Poll R)) (exhausted : Fault → Poll R)
    {after : Nat → Run R → Scene R → Prop} {turn : Progress R × Cell R}
    (settles : Settles calm post later budget last before turn)
    (goes : ∀ left run scene, later left run scene → after left (.attempt step number run) scene) :
    Settles calm post after budget last before (step.settle number again exhausted turn.1 turn.2) := by
  obtain ⟨progress, cell⟩ := turn
  cases progress with
  | fault fault => exact settles.elim
  | panicked message => exact settles.elim
  | done value => exact settles
  | pending run =>
      obtain ⟨instant, scene, timed, left, spends, still⟩ := settles
      exact ⟨instant, scene, timed, left, spends, goes left run _ still⟩

end Settles

theorem Run.wake_attempt (step : Step R) (number : Nat) (keys : List Nat) (run : Run R) :
    (Run.attempt step number run).wake keys = .attempt step number (run.wake keys) :=
  Holder.wake (Run.attempt step number) (fun _ _ => rfl) keys run

namespace Poll.Ends

variable [Scalar R] {handlers : HandlerTable R} {calm post : Scene R → Prop} {turns budget : Nat}
  {last : Option (List Leaf)} {poll : Poll R} {cell : Cell R}

theorem settles_iff (turns budget : Nat) (last : Option (List Leaf)) (poll : Poll R) (cell : Cell R) :
    poll.Ends handlers calm post turns budget last cell ↔
      Settles calm post (Run.Goes handlers calm post turns) budget last cell (poll cell) := by
  cases turns with
  | zero => exact Iff.rfl
  | succ turns => exact Iff.rfl

theorem bind {mid : Scene R → Prop} {hold : Run R → Run R} {next : Value R → Poll R}
    (holder : Holder handlers hold next) (more : Nat) (first : poll.Ends handlers calm mid turns budget last cell)
    (second : ∀ turns value between, mid between.scene →
      (next value).Ends handlers calm post turns more none between) :
    (poll.bind hold next).Ends handlers calm post turns (budget + more) last cell := by
  induction turns generalizing budget last poll cell with
  | zero =>
      exact Settles.bind more holder.leaves poll cell first (fun _ _ _ _ => trivial) fun value between scene =>
        second 0 value between scene
  -- What is left of the first part is held, and resumed as a bind again.
  | succ turns ih =>
      refine Settles.bind more holder.leaves poll cell first ?_ fun value between scene =>
        second (turns + 1) value between scene
      intro left run scene goes keys between same
      rw [holder.leaves, Holder.wake hold holder.touch, holder.resume]
      exact ih (goes keys between same)

theorem weaken {calmer wider : Scene R → Prop} (ends : poll.Ends handlers calm post turns budget last cell)
    (calms : ∀ scene, calm scene → calmer scene) (posts : ∀ scene, post scene → wider scene) :
    poll.Ends handlers calmer wider turns budget last cell := by
  induction turns generalizing budget last poll cell with
  | zero => exact Settles.weaken ends calms posts fun _ _ _ _ => trivial
  | succ turns ih =>
      exact Settles.weaken ends calms posts fun left run scene goes keys between same => ih (goes keys between same)

theorem reattempted (step : Step R) (number : Nat) {run : Run R}
    (ends : (run.resume handlers).Ends handlers calm post turns budget last cell) :
    ((Run.attempt step number run).resume handlers).Ends handlers calm post turns budget last cell := by
  induction turns generalizing budget last run cell with
  | zero => exact Settles.attempt step number _ _ ends fun _ _ _ _ => trivial
  | succ turns ih =>
      refine Settles.attempt step number _ _ ends fun left inside scene goes keys between same => ?_
      rw [Run.wake_attempt]
      exact ih (goes keys between same)

theorem attempted (step : Step R) (body : Poll R) (going : cell.cancelled = false)
    (ends : body.Ends handlers calm post turns budget none (cell.trace step .running 1)) :
    (step.attempted body).Ends handlers calm post turns budget none cell := by
  rw [settles_iff] at ends ⊢
  have first : ∀ again exhausted,
      Settles calm post (Run.Goes handlers calm post turns) budget none cell (step.attempt body 1 again exhausted cell) := by
    intro again exhausted
    rw [Step.attempt, if_neg (by simp [going]), if_neg (by decide)]
    show Settles calm post _ budget none (cell.trace step .running 1) _
    refine Settles.attempt step 1 again exhausted ends ?_
    intro left run scene goes
    cases turns with
    | zero => trivial
    | succ turns =>
        intro keys between same
        rw [Run.wake_attempt]
        exact reattempted step 1 (goes keys between same)
  have tries : ∀ exhausted left, Settles calm post (Run.Goes handlers calm post turns) budget none cell
      (step.tries body exhausted left 1 cell) := by
    intro exhausted left
    cases left with
    | zero => exact first _ _
    | succ left => exact first _ _
  rw [Step.attempted]
  cases cell.hook.script.length with
  | zero => exact tries _ _
  | succ answers => exact tries _ _

end Poll.Ends

section

variable [Scalar R] {handlers : HandlerTable R} {calm post : Scene R → Prop}

omit [Scalar R] in
theorem Settles.mono {later after : Nat → Run R → Scene R → Prop} {budget more : Nat} {last : Option (List Leaf)}
    {before : Cell R} {turn : Progress R × Cell R} (settles : Settles calm post later budget last before turn)
    (enough : budget ≤ more)
    (goes : ∀ left rest run scene, left ≤ rest → later left run scene → after rest run scene) :
    Settles calm post after more last before turn := by
  obtain ⟨progress, cell⟩ := turn
  cases progress with
  | fault fault => exact settles
  | panicked message => exact settles
  | done value => exact settles
  | pending run =>
      obtain ⟨instant, scene, timed, left, spends, still⟩ := settles
      rcases spends with less | ⟨rfl, stalled⟩
      · exact ⟨instant, scene, timed, left, Or.inl (by omega), goes left left run _ (Nat.le_refl _) still⟩
      · exact ⟨instant, scene, timed, more, Or.inr ⟨rfl, stalled⟩, goes left more run _ enough still⟩

theorem Poll.Ends.mono {turns budget more : Nat} {last : Option (List Leaf)} {poll : Poll R} {cell : Cell R}
    (ends : poll.Ends handlers calm post turns budget last cell) (enough : budget ≤ more) :
    poll.Ends handlers calm post turns more last cell := by
  induction turns generalizing budget more last poll cell with
  | zero => exact Settles.mono ends enough fun _ _ _ _ _ _ => trivial
  | succ turns ih =>
      exact Settles.mono ends enough fun left rest run scene fits goes keys between same => ih (goes keys between same) fits

-- The run ends well, however many turns are looked at.
def Run.GoesOn (handlers : HandlerTable R) (calm post : Scene R → Prop) (left : Nat) (run : Run R) (scene : Scene R) :
    Prop :=
  ∀ turns keys between, between.scene = scene →
    ((run.wake keys).resume handlers).Ends handlers calm post turns left (some run.leaves) between

-- What ends well for any number of turns ahead settles into a run that does so with one budget for them all.
theorem Poll.settles_of_ends {budget : Nat} {last : Option (List Leaf)} {poll : Poll R} {cell : Cell R}
    (ends : ∀ turns, poll.Ends handlers calm post turns budget last cell) :
    Settles calm post (Run.GoesOn handlers calm post) budget last cell (poll cell) := by
  have settled : ∀ turns, Settles calm post (Run.Goes handlers calm post turns) budget last cell (poll cell) :=
    fun turns => (Poll.Ends.settles_iff turns budget last poll cell).mp (ends turns)
  rcases result : poll cell with ⟨progress, after⟩
  simp only [result] at settled
  cases progress with
  | fault fault => exact settled 0
  | panicked message => exact settled 0
  | done value => exact settled 0
  | pending run =>
      obtain ⟨instant, scene, timed, first⟩ := settled 0
      refine ⟨instant, scene, timed, ?_⟩
      -- A turn that stalls keeps the budget, any other leaves less of it, whatever is looked ahead.
      by_cases stalled : last = some run.leaves ∧ after.outbox = cell.outbox
      · refine ⟨budget, Or.inr ⟨rfl, stalled⟩, fun turns keys between same => ?_⟩
        obtain ⟨-, -, -, left, spends, goes⟩ := settled (turns + 1)
        refine (goes keys between same).mono ?_
        rcases spends with less | ⟨rfl, -⟩
        · exact Nat.le_of_lt less
        · exact Nat.le_refl _
      · have some_left : ∀ turns, ∃ left, left < budget ∧ Run.Goes handlers calm post turns left run after.scene := by
          intro turns
          obtain ⟨-, -, -, left, spends, goes⟩ := settled turns
          rcases spends with less | ⟨-, still⟩
          · exact ⟨left, less, goes⟩
          · exact absurd still stalled
        obtain ⟨spent, less, -⟩ := some_left 0
        refine ⟨budget - 1, Or.inl (by omega), fun turns keys between same => ?_⟩
        obtain ⟨left, fewer, goes⟩ := some_left (turns + 1)
        exact (goes keys between same).mono (by omega)

end

end Workcell
