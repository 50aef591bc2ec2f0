import Workcell.Proofs.Action.Later
import Workcell.Proofs.Session.Chapters
import Workcell.Proofs.Session.Sampling
import Workcell.Proofs.Upkeep.Life

/-!
The stages of the last run of a session: what has been told of it, what is queued, and who is still to tell it.
-/

set_option autoImplicit false

namespace Workcell

variable {R A : Type}

def Task.Ready (cancelled : Bool) : Task R → Prop
  | .fresh _ => True
  | .running run => run.Fit (fun _ => True) (fun _ => True) ∧
      (cancelled = false → run.Fit (fun _ => True) fun fault => fault.isCancellation = false)

theorem touch_ready (key : Nat) (cancelled : Bool) (task : Task R) (ready : task.Ready cancelled) :
    (task.touch key).Ready cancelled := by
  cases task with
  | fresh step => trivial
  | running run => exact ⟨touch_fit key run ready.1, fun uncut => touch_fit key run (ready.2 uncut)⟩

theorem ready_once_cancelled (cancelled : Bool) (task : Task R) (ready : task.Ready cancelled) : task.Ready true := by
  cases task with
  | fresh step => trivial
  | running run => exact ⟨ready.1, nofun⟩

section

variable [Scalar R]

theorem poll_keeps (blame : Fault → Prop) (task : Task R) (cell : Cell R)
    (law : Upkeep HandlerTable.standard (fun _ => True) blame fun _ => Cell.Later cell)
    (fit : ∀ run, task = .running run → run.Fit (fun _ => True) blame) :
    Upkeep.After (fun _ => True) blame (fun _ => Cell.Later cell) [] (task.poll HandlerTable.standard cell) := by
  cases task with
  | fresh step => exact Upkeep.start_keeps law step (every_of_all _ (fun _ => trivial) step) [] cell (.refl cell)
  | running run => exact Upkeep.resume_keeps law run (fit run rfl) [] cell (.refl cell)

-- What a turn of a flow comes to: it ends as cancelled only in a cell that is.
theorem task_turn (task : Task R) (cell : Cell R) (ready : task.Ready cell.cancelled) :
    Cell.Later cell (task.poll HandlerTable.standard cell).2 ∧
      match (task.poll HandlerTable.standard cell).1.outcome with
      | .ok outcome => outcome.isCut = true → cell.cancelled = true
      | .error left => (∃ run, left = .running run) ∧ left.Ready cell.cancelled := by
  have closed : ∀ before after, Cell.Later before after → Cell.Later cell before → Cell.Later cell after :=
    fun before after later earlier => .trans cell before after earlier later
  have kept := poll_keeps (fun _ => True) task cell
    (Cell.Later.upkeep _ _ closed (fun _ _ => trivial) fun _ _ _ => trivial) (by
      rintro run rfl
      exact ready.1)
  have uncut : cell.cancelled = false → Upkeep.After (fun _ => True) (fun fault => fault.isCancellation = false)
      (fun _ => Cell.Later cell) [] (task.poll HandlerTable.standard cell) := by
    intro free
    refine poll_keeps _ task cell (Cell.Later.upkeep _ _ closed (fun _ fine => fine) ?_) ?_
    · intro after later isCut
      rw [later.cancelled, free] at isCut
      cases isCut
    · rintro run rfl
      exact ready.2 free
  rcases result : task.poll HandlerTable.standard cell with ⟨progress, after⟩
  rw [result] at kept uncut
  cases progress with
  | done value => exact ⟨kept, nofun⟩
  | panicked message => exact ⟨kept, nofun⟩
  | fault fault =>
      refine ⟨kept.1, fun isCut => ?_⟩
      cases free : cell.cancelled with
      | true => rfl
      | false => exact absurd ((uncut free).2.symm.trans isCut) Bool.false_ne_true
  | pending run => exact ⟨kept.1, ⟨run, rfl⟩, kept.2, fun free => (uncut free).2⟩

end

structure Present (runs : List (SessionRun R)) (number : Nat) (state : SessionRun R) : Prop where
  found : runs[number]? = some state
  last : number + 1 = runs.length
  past : ∀ earlier run, earlier < number → runs[earlier]? = some run → run.finished = true
  unfinished : state.finished = false

theorem Present.changed {runs : List (SessionRun R)} {number : Nat} {state : SessionRun R}
    (present : Present runs number state) (other : Nat) (change : SessionRun R → SessionRun R)
    (flag : ∀ run, (change run).finished = run.finished) :
    Present (runs.modify other change) number (if other = number then change state else state) := by
  have found : (runs.modify other change)[number]? = some (if other = number then change state else state) := by
    rw [List.getElem?_modify, present.found]
    rfl
  refine ⟨found, present.last.trans (List.length_modify ..).symm, ?_, ?_⟩
  · intro earlier run before changed
    rw [List.getElem?_modify] at changed
    obtain ⟨old, there, rfl⟩ := Option.map_eq_some_iff.mp changed
    have ended := present.past earlier old before there
    split
    · exact (flag old).trans ended
    · exact ended
  · split
    · exact (flag state).trans present.unfinished
    · exact present.unfinished

-- What is told of a run that is not told to its end.
structure Telling (machine : Machine R) (number : Nat) (state : SessionRun R) (chapter : Chapter R) : Prop where
  unsampled : state.sampled = false
  stocked : state.cell.Stocked machine
  counted : chapter.run = some number
  partly : chapter.Begun machine

structure Going (machine : Machine R) (taken : List (Order A)) (returned : List (Nat × Outcome R)) (number : Nat)
    (state : SessionRun R) (chapter : Chapter R) : Prop extends Telling machine number state chapter where
  unclosed : state.closing = false
  opens : Opens chapter.scenario (Frame.told chapter.frames ++ state.cell.events)
  unreturned : number ∉ returned.map Prod.fst
  cut : state.cell.cancelled = true → Order.Later taken chapter.place

structure Ended (machine : Machine R) (taken : List (Order A)) (returned : List (Nat × Outcome R)) (number : Nat)
    (state : SessionRun R) (chapter : Chapter R) : Prop extends Telling machine number state chapter where
  closing : state.closing = true
  ends : ∃ opening ending outcome, Frame.told chapter.frames ++ state.cell.events = opening ++ ending ∧
    Opens chapter.scenario opening ∧ Ending outcome ending ∧ (number, outcome) ∈ returned ∧
    (outcome.isCut = true → Order.Later taken chapter.place)

-- Who drives the last run and who samples it, and the chapter that is not complete.
inductive Stage (machine : Machine R) (taken : List (Order A)) (returned : List (Nat × Outcome R))
    (runs : List (SessionRun R)) :
    Option (Nat × Option (Task R)) → Option (Nat × Sampler R) → Option (Chapter R) → Prop where
  | idle (past : ∀ run ∈ runs, run.finished = true) : Stage machine taken returned runs none none none
  | fresh (number : Nat) (state : SessionRun R) (step : Step R) (chapter : Chapter R)
      (present : Present runs number state) (going : Going machine taken returned number state chapter)
      (unseen : chapter.frames = []) :
      Stage machine taken returned runs (some (number, some (.fresh step))) none (some chapter)
  | running (number : Nat) (state : SessionRun R) (run : Run R) (sampler : Sampler R) (chapter : Chapter R)
      (present : Present runs number state) (going : Going machine taken returned number state chapter)
      (ready : (Task.running run).Ready state.cell.cancelled) (forced : chapter.frames = [] → sampler.forced = true) :
      Stage machine taken returned runs (some (number, some (.running run))) (some (number, sampler)) (some chapter)
  | ended (number : Nat) (state : SessionRun R) (sampler : Sampler R) (chapter : Chapter R)
      (present : Present runs number state) (ended : Ended machine taken returned number state chapter)
      (forced : chapter.frames = [] → sampler.forced = true) :
      Stage machine taken returned runs (some (number, none)) (some (number, sampler)) (some chapter)
  | sampled (number : Nat) (state : SessionRun R) (present : Present runs number state) (isOver : state.sampled = true) :
      Stage machine taken returned runs (some (number, none)) none none

structure Cell.Beside (before after : Cell R) : Prop where
  silent : after.events = before.events
  axes : Bank.Grown before.axes after.axes
  actuators : Bank.Grown before.actuators after.actuators

theorem Cell.Beside.refl (cell : Cell R) : Cell.Beside cell cell := ⟨rfl, fun _ has => has, fun _ has => has⟩

theorem Cell.Stocked.beside {machine : Machine R} {before after : Cell R} (stocked : before.Stocked machine)
    (beside : Cell.Beside before after) : after.Stocked machine :=
  ⟨fun spec member => beside.axes _ (stocked.axes spec member),
    fun spec member => beside.actuators _ (stocked.actuators spec member)⟩

structure SessionRun.Alike (before after : SessionRun R) : Prop where
  closing : after.closing = before.closing
  sampled : after.sampled = before.sampled
  finished : after.finished = before.finished

theorem Telling.beside {machine : Machine R} {number : Nat} {state next : SessionRun R} {chapter : Chapter R}
    (telling : Telling machine number state chapter) (alike : state.Alike next)
    (beside : Cell.Beside state.cell next.cell) : Telling machine number next chapter :=
  ⟨alike.sampled.trans telling.unsampled, telling.stocked.beside beside, telling.counted, telling.partly⟩

variable {machine : Machine R} {taken : List (Order A)} {returned : List (Nat × Outcome R)}

theorem Going.beside {number : Nat} {state next : SessionRun R} {chapter : Chapter R}
    (going : Going machine taken returned number state chapter) (alike : state.Alike next)
    (beside : Cell.Beside state.cell next.cell)
    (cut : next.cell.cancelled = state.cell.cancelled ∨ Order.Later taken chapter.place) :
    Going machine taken returned number next chapter := by
  refine ⟨going.toTelling.beside alike beside, alike.closing.trans going.unclosed, ?_, going.unreturned, ?_⟩
  · rw [beside.silent]
    exact going.opens
  · intro cancelled
    rcases cut with same | later
    · exact going.cut (same ▸ cancelled)
    · exact later

theorem Ended.beside {number : Nat} {state next : SessionRun R} {chapter : Chapter R}
    (ended : Ended machine taken returned number state chapter) (alike : state.Alike next)
    (beside : Cell.Beside state.cell next.cell) : Ended machine taken returned number next chapter := by
  refine ⟨ended.toTelling.beside alike beside, alike.closing.trans ended.closing, ?_⟩
  rw [beside.silent]
  exact ended.ends

-- What others do to the cells of runs leaves the stage as it is; the cell of the last run is only cancelled when a
-- later command has been taken up.
theorem Stage.changed {runs : List (SessionRun R)} {driver : Option (Nat × Option (Task R))}
    {sampler : Option (Nat × Sampler R)} {current : Option (Chapter R)}
    (stage : Stage machine taken returned runs driver sampler current) (other : Nat)
    (change : SessionRun R → SessionRun R) (alike : ∀ run, SessionRun.Alike run (change run))
    (beside : ∀ run, runs[other]? = some run → Cell.Beside run.cell (change run).cell)
    (cut : ∀ run, runs[other]? = some run → (change run).cell.cancelled = run.cell.cancelled ∨
      (change run).cell.cancelled = true ∧ ∀ chapter ∈ current, Order.Later taken chapter.place) :
    Stage machine taken returned (runs.modify other change) driver sampler current := by
  have stays : ∀ {number state}, Present runs number state →
      ∃ next, Present (runs.modify other change) number next ∧ state.Alike next ∧
        Cell.Beside state.cell next.cell ∧ (next.cell.cancelled = state.cell.cancelled ∨
          next.cell.cancelled = true ∧ ∀ chapter ∈ current, Order.Later taken chapter.place) := by
    intro number state present
    refine ⟨_, present.changed other change fun run => (alike run).finished, ?_⟩
    split
    · next same =>
      subst other
      exact ⟨alike state, beside state present.found, cut state present.found⟩
    · exact ⟨⟨rfl, rfl, rfl⟩, .refl _, Or.inl rfl⟩
  cases stage with
  | idle past =>
      refine .idle fun run member => ?_
      obtain ⟨place, found⟩ := List.getElem?_of_mem member
      rw [List.getElem?_modify] at found
      obtain ⟨old, there, rfl⟩ := Option.map_eq_some_iff.mp found
      have ended := past old (List.mem_of_getElem? there)
      split
      · exact (alike old).finished.trans ended
      · exact ended
  | fresh number state step chapter present going unseen =>
      obtain ⟨next, there, same, kept, cancels⟩ := stays present
      exact .fresh number next step chapter there
        (going.beside same kept (cancels.imp_right fun later => later.2 chapter rfl)) unseen
  | running number state run sampler chapter present going ready forced =>
      obtain ⟨next, there, same, kept, cancels⟩ := stays present
      refine .running number next run sampler chapter there
        (going.beside same kept (cancels.imp_right fun later => later.2 chapter rfl)) ?_ forced
      rcases cancels with unchanged | ⟨cancelled, -⟩
      · rw [unchanged]
        exact ready
      · rw [cancelled]
        exact ready_once_cancelled _ _ ready
  | ended number state sampler chapter present ended forced =>
      obtain ⟨next, there, same, kept, -⟩ := stays present
      exact .ended number next sampler chapter there (ended.beside same kept) forced
  | sampled number state present isOver =>
      obtain ⟨next, there, same, -⟩ := stays present
      exact .sampled number next there (same.sampled.trans isOver)

theorem Stage.later {runs : List (SessionRun R)} {driver : Option (Nat × Option (Task R))}
    {sampler : Option (Nat × Sampler R)} {current : Option (Chapter R)}
    (stage : Stage machine taken returned runs driver sampler current) (orders : List (Order A)) :
    Stage machine (taken ++ orders) returned runs driver sampler current := by
  cases stage with
  | idle past => exact .idle past
  | fresh number state step chapter present going unseen =>
      exact .fresh number state step chapter present
        { going with cut := fun cancelled => (going.cut cancelled).append orders } unseen
  | running number state run sampler chapter present going ready forced =>
      exact .running number state run sampler chapter present
        { going with cut := fun cancelled => (going.cut cancelled).append orders } ready forced
  | ended number state sampler chapter present ended forced =>
      obtain ⟨opening, ending, outcome, tells, opens, ends, known, cut⟩ := ended.ends
      refine .ended number state sampler chapter present { ended with ends := ?_ } forced
      exact ⟨opening, ending, outcome, tells, opens, ends, known, fun isCut => (cut isCut).append orders⟩
  | sampled number state present isOver => exact .sampled number state present isOver

end Workcell
