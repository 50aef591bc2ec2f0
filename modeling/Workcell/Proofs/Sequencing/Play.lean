import Workcell.Proofs.Sequencing.Binding
import Workcell.Proofs.Upkeep.Life

/-!
Runs played through: turn after turn, with interludes in which places of the run are woken and others work on the cell.
Time passes in interludes, devices move, and the run may be cancelled in any of them.

Two steps are equivalent when nobody can tell plays of them apart: at every suspension they wait for the same, they
come to the same outcome in the same turn, and leave the same cell behind, but for traces that are not of actions.
Which traces are of actions is told by marking the nodes of a step before it is played: a trace then bears the mark of
its node.
-/

set_option autoImplicit false

namespace Workcell

variable {R : Type}

-- What goes on between two turns of a run.
structure Interlude (R : Type) where
  woken : List Nat
  change : Cell R → Cell R

def Interlude.after (interlude : Interlude R) (cell : Cell R) : Cell R :=
  (interlude.change (cell.veil (.empty cell.traces.capacity) [])).veil cell.traces cell.appeals

-- What a run has come to in its last turn, and the interludes that were not needed.
structure Played (R : Type) where
  progress : Progress R
  cell : Cell R
  unused : List (Interlude R)

-- What everybody can see of a turn's outcome: the outcome, or who waits in what is left.
def Progress.face : Progress R → Except (List Leaf) (Outcome R)
  | .done value => .ok (.value value)
  | .fault reason => .ok (.fault reason)
  | .panicked message => .ok (.panicked message)
  | .pending run => .error run.leaves

theorem Progress.done_of_face (progress : Progress R) (value : Value R) (same : progress.face = .ok (.value value)) :
    progress = .done value := by
  cases progress with
  | done other =>
      cases same
      rfl
  | fault fault => cases same
  | panicked message => cases same
  | pending run => cases same

theorem Progress.face_of_fault (progress : Progress R) (fault : Fault) (failed : progress.fault? = some fault) :
    progress.face = .ok (.fault fault) := by
  cases progress with
  | fault other =>
      cases failed
      rfl
  | done value => cases failed
  | panicked message => cases failed
  | pending run => cases failed

def Cell.untraced (cell : Cell R) : Cell R := cell.veil (.empty cell.traces.capacity) cell.appeals

structure Played.Matches (played other : Played R) : Prop where
  face : played.progress.face = other.progress.face
  cell : played.cell.untraced = other.cell.untraced
  unused : played.unused = other.unused

structure Played.Near (kept : Trace → Bool) (played other : Played R) : Prop where
  face : played.progress.face = other.progress.face
  cell : Cell.Near kept played.cell other.cell
  unused : played.unused = other.unused

namespace Played.Near

variable {kept : Trace → Bool} {played other last : Played R}

theorem refl (played : Played R) : Near kept played played := ⟨rfl, .refl _, rfl⟩

theorem trans (first : Near kept played other) (second : Near kept other last) : Near kept played last :=
  ⟨first.face.trans second.face, first.cell.trans second.cell, first.unused.trans second.unused⟩

theorem matching (near : Near kept played other) : played.Matches other := by
  obtain ⟨face, ⟨traces, appeals, copied, capacity, -, asked⟩, unused⟩ := near
  refine ⟨face, ?_, unused⟩
  rw [copied, Cell.untraced, Cell.untraced, ← capacity, ← asked]
  rfl

theorem traces (near : Near kept played other) :
    played.cell.traces.sent.filter kept = other.cell.traces.sent.filter kept := by
  obtain ⟨-, ⟨traces, appeals, copied, -, same, -⟩, -⟩ := near
  rw [copied]
  exact same.symm

end Played.Near

theorem Cell.Twinned.interlude (compare : Records)
    (capacity : ∀ traces appeals others asked, compare traces appeals others asked → others.capacity = traces.capacity)
    (interlude : Interlude R) (cell copy : Cell R) (twin : Cell.Twinned compare cell copy) :
    Cell.Twinned compare (interlude.after cell) (interlude.after copy) := by
  obtain ⟨traces, appeals, rfl, alike⟩ := twin
  refine ⟨traces, appeals, ?_, alike⟩
  have same : (cell.veil traces appeals).traces.capacity = cell.traces.capacity := capacity _ _ _ _ alike
  rw [Interlude.after, Interlude.after, same]
  rfl

variable [Scalar R]

def Poll.play (handlers : HandlerTable R) : List (Interlude R) → Poll R → Cell R → Played R
  | [], poll, cell => ⟨(poll cell).1, (poll cell).2, []⟩
  | interlude :: later, poll, cell =>
      match poll cell with
      | (.pending run, after) =>
          Poll.play handlers later ((run.wake interlude.woken).resume handlers) (interlude.after after)
      | (ended, after) => ⟨ended, after, interlude :: later⟩

def Step.play (handlers : HandlerTable R) (interludes : List (Interlude R)) (step : Step R) (cell : Cell R) :
    Played R :=
  Poll.play handlers interludes (step.start handlers) cell

def Step.mark (shape name : String) : String := (if shape = "Action" then "Action " else "Composite ") ++ name

def Step.marked (step : Step R) : Step R := step.renamed Step.mark

namespace Trace

def isMarked (trace : Trace) (mark : Char) : Bool := trace.name.toList.head? == some mark

def ofAction (trace : Trace) : Bool := trace.isMarked 'A'

theorem marked_of_action (shape name device : String) (status : TraceStatus) (attempt : Nat) :
    ofAction ⟨Step.mark shape name, device, status, attempt⟩ = decide (shape = "Action") := by
  by_cases action : shape = "Action" <;> simp [ofAction, isMarked, Step.mark, action, String.toList_append]

end Trace

def Step.actionTraces (handlers : HandlerTable R) (interludes : List (Interlude R)) (step : Step R) (cell : Cell R) :
    List Trace :=
  (step.marked.play handlers interludes cell.untraced).cell.traces.sent.filter Trace.ofAction

-- Nobody can tell plays of the two steps apart, from any cell and through any interludes.
structure Step.Equivalent (handlers : HandlerTable R) (step other : Step R) : Prop where
  matching : ∀ interludes cell, (step.play handlers interludes cell).Matches (other.play handlers interludes cell)
  actions : ∀ interludes cell, step.actionTraces handlers interludes cell = other.actionTraces handlers interludes cell

variable {handlers : HandlerTable R} {kept : Trace → Bool}

omit [Scalar R] in
theorem Progress.Likewise.face {related : Run R → Run R → Prop}
    (leaves : ∀ run other, related run other → run.leaves = other.leaves) (progress other : Progress R)
    (likewise : Progress.Likewise related progress other) : progress.face = other.face := by
  cases likewise with
  | pending run other alike => exact congrArg Except.error (leaves run other alike)
  | done value => rfl
  | fault fault => rfl
  | panicked message => rfl

-- Polls that nobody can tell apart are played alike; as many turns count as there are interludes.
theorem Poll.likewise_play (interludes : List (Interlude R)) (poll other : Poll R)
    (likewise : Poll.Likewise kept (Run.Alike handlers kept interludes.length) poll other) (cell copy : Cell R)
    (near : Cell.Near kept cell copy) :
    Played.Near kept (poll.play handlers interludes cell) (other.play handlers interludes copy) := by
  induction interludes generalizing poll other cell copy with
  | nil =>
      obtain ⟨alike, after⟩ := likewise cell copy near
      exact ⟨Progress.Likewise.face (fun _ _ => Run.Alike.leaves) _ _ alike, after, rfl⟩
  | cons interlude later ih =>
      obtain ⟨alike, after⟩ := likewise cell copy near
      simp only [Poll.play]
      rcases result : poll cell with ⟨progress, left⟩
      rcases resultCopy : other copy with ⟨progressCopy, leftCopy⟩
      rw [result, resultCopy] at alike after
      cases alike with
      | done value => exact ⟨rfl, after, rfl⟩
      | fault fault => exact ⟨rfl, after, rfl⟩
      | panicked message => exact ⟨rfl, after, rfl⟩
      | pending run rest still =>
          have between := Cell.Twinned.interlude _ (fun _ _ _ _ near => near.1) interlude left leftCopy after
          exact ih _ _ (still.2 interlude.woken) _ _ between

theorem Poll.Same.play {poll other : Poll R} (same : Poll.Same handlers kept poll other)
    (interludes : List (Interlude R)) (cell copy : Cell R) (near : Cell.Near kept cell copy) :
    Played.Near kept (poll.play handlers interludes cell) (other.play handlers interludes copy) :=
  Poll.likewise_play interludes poll other (same interludes.length) cell copy near

def Played.goOn (handlers : HandlerTable R) (next : Value R → Poll R) (played : Played R) : Played R :=
  match played.progress with
  | .done value => Poll.play handlers played.unused (next value) played.cell
  | _ => played

-- To play something and what follows it is to play it, and then what follows.
theorem Poll.play_bind {hold : Run R → Run R} {next : Value R → Poll R} (holder : Holder handlers hold next)
    (interludes : List (Interlude R)) (poll : Poll R) (cell : Cell R) :
    Played.Near kept ((poll.bind hold next).play handlers interludes cell)
      ((poll.play handlers interludes cell).goOn handlers next) := by
  induction interludes generalizing poll cell with
  | nil =>
      simp only [Poll.play, Poll.bind, Played.goOn]
      rcases poll cell with ⟨progress, after⟩
      cases progress with
      | pending run => exact ⟨congrArg Except.error (holder.leaves run), .refl _, rfl⟩
      | done value => exact .refl _
      | fault fault => exact .refl _
      | panicked message => exact .refl _
  | cons interlude later ih =>
      rcases result : poll cell with ⟨progress, after⟩
      cases progress with
      -- What is held is resumed as the bind of what is left of the first, so the rest of the play is one again.
      | pending run =>
          have turns := ih ((run.wake interlude.woken).resume handlers) (interlude.after after)
          rw [← holder.resume, ← Holder.wake hold holder.touch] at turns
          simpa only [Poll.play, Poll.bind, result] using turns
      | done value =>
          simp only [Poll.play, Poll.bind, Played.goOn, result]
          exact .refl _
      | fault fault =>
          simp only [Poll.play, Poll.bind, Played.goOn, result]
          exact .refl _
      | panicked message =>
          simp only [Poll.play, Poll.bind, Played.goOn, result]
          exact .refl _

-- Steps are equivalent if nobody can tell their beginnings apart, nor those of the marked steps by the traces of
-- actions.
theorem Step.equivalent_of_same (step other : Step R)
    (same : Poll.Same handlers (fun _ => false) (step.start handlers) (other.start handlers))
    (marked : Poll.Same handlers Trace.ofAction (step.marked.start handlers) (other.marked.start handlers)) :
    Step.Equivalent handlers step other where
  matching interludes cell := (same.play interludes cell cell (.refl cell)).matching
  actions interludes cell := (marked.play interludes cell.untraced cell.untraced (.refl _)).traces

def Trace.Marks (trace marked : Trace) : Prop := ∃ shape, marked = { trace with name := Step.mark shape trace.name }

def Cell.Marks : Cell R → Cell R → Prop :=
  Cell.Twinned fun traces _ others _ =>
    others.capacity = traces.capacity ∧ List.Forall₂ Trace.Marks traces.sent others.sent

theorem marks_twins (blind : handlers.Blind) : Twins handlers Step.mark (Cell.Marks (R := R)) := by
  refine twinned_twins handlers blind _ _ ?_ ?_
  · rintro traces appeals others asked ⟨capacity, marks⟩ step status number
    refine ⟨capacity, ?_⟩
    rw [Stream.sent_push, Stream.sent_push]
    exact List.rel_append marks (.cons ⟨step.shape, rfl⟩ .nil)
  · rintro traces appeals others asked marks step fault
    exact marks

theorem play_twin (blind : handlers.Blind) (interludes : List (Interlude R)) (poll other : Poll R)
    (twin : Poll.Twin Step.mark Cell.Marks poll other) (cell copy : Cell R) (alike : Cell.Marks cell copy) :
    let played := poll.play handlers interludes cell
    let copied := other.play handlers interludes copy
    copied.progress.face = played.progress.face ∧ copied.unused = played.unused ∧
      Cell.Marks played.cell copied.cell := by
  have law := marks_twins (R := R) blind
  have face : ∀ progress : Progress R, (progress.renamed Step.mark).face = progress.face := by
    intro progress
    cases progress with
    | pending run => exact congrArg Except.error (renamed_leaves Step.mark run)
    | done value => rfl
    | fault fault => rfl
    | panicked message => rfl
  induction interludes generalizing poll other cell copy with
  | nil =>
      obtain ⟨same, after⟩ := twin cell copy alike
      exact ⟨by simp only [Poll.play, same, face], rfl, after⟩
  | cons interlude later ih =>
      obtain ⟨same, after⟩ := twin cell copy alike
      simp only [Poll.play]
      rcases result : poll cell with ⟨progress, left⟩
      rcases resultCopy : other copy with ⟨progressCopy, leftCopy⟩
      rw [result, resultCopy] at same after
      cases same
      cases progress with
      | done value => exact ⟨rfl, rfl, after⟩
      | fault fault => exact ⟨rfl, rfl, after⟩
      | panicked message => exact ⟨rfl, rfl, after⟩
      | pending run =>
          have between := Cell.Twinned.interlude _ (fun _ _ _ _ marks => marks.1) interlude left leftCopy after
          have turn := resume_twin law (run.wake interlude.woken)
          rw [← wake_renamed] at turn
          exact ih _ _ turn _ _ between

-- A play of the marked step is a play of the step, with the marks in the names of its traces.
theorem Step.marked_play (blind : handlers.Blind) (step : Step R) (interludes : List (Interlude R)) (cell : Cell R) :
    let played := step.play handlers interludes cell.untraced
    let marked := step.marked.play handlers interludes cell.untraced
    marked.progress.face = played.progress.face ∧ marked.unused = played.unused ∧
      marked.cell = played.cell.veil marked.cell.traces marked.cell.appeals ∧
      List.Forall₂ Trace.Marks played.cell.traces.sent marked.cell.traces.sent := by
  have begun : Cell.Marks cell.untraced cell.untraced := ⟨_, _, rfl, rfl, .nil⟩
  intro played marked
  obtain ⟨face, unused, traces, appeals, copied, -, marks⟩ :=
    play_twin blind interludes _ _ (start_twin (marks_twins blind) step) _ _ begun
  have same : marked.cell = played.cell.veil traces appeals := copied
  refine ⟨face, unused, ?_, ?_⟩
  · rw [same]
    rfl
  · rw [same]
    exact marks

end Workcell
