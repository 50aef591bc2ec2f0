import Workcell.Proofs.Action.Basis
import Workcell.Session

/-!
The grammar of what a session publishes, in chapters: one for every start that an operator gives.

The chapter of a start that is refused is one frame with one error. The chapter of a run begins with the start of the
flow, goes on with events of materials only, and is complete when it has told how the flow ended.
-/

set_option autoImplicit false

namespace Workcell

variable {R A : Type}

inductive Order (A : Type) where
  | start (scenario : String) (answer : Except Fault Unit → A)
  | stop (answer : Bool → A)
  | sleep (ms : Nat) (answer : A)
  | waitIdle (answer : A)

namespace Order

def instruction : Order A → SessionInstruction R A
  | .start scenario answer => .start scenario answer
  | .stop answer => .stop answer
  | .sleep ms answer => .sleep ms answer
  | .waitIdle answer => .waitIdle answer

def scenario? : Order A → Option String
  | .start scenario _ => some scenario
  | _ => none

def isCommand : Order A → Bool
  | .start _ _ => true
  | .stop _ => true
  | _ => false

def starts (orders : List (Order A)) : List (Nat × String) :=
  orders.zipIdx.filterMap fun entry => entry.1.scenario?.map fun scenario => (entry.2, scenario)

theorem starts_append (orders : List (Order A)) (order : Order A) :
    starts (orders ++ [order]) =
      starts orders ++ (order.scenario?.map fun scenario => (orders.length, scenario)).toList := by
  unfold starts
  rw [List.zipIdx_append, List.filterMap_append]
  congr 1
  cases order with
  | start scenario answer => simp [scenario?]
  | stop answer => simp [scenario?]
  | sleep ms answer => simp [scenario?]
  | waitIdle answer => simp [scenario?]

theorem starts_below (orders : List (Order A)) (entry : Nat × String) (member : entry ∈ starts orders) :
    entry.1 < orders.length := by
  obtain ⟨⟨order, place⟩, inside, found⟩ := List.mem_filterMap.mp member
  obtain ⟨scenario, -, rfl⟩ := Option.map_eq_some_iff.mp found
  simpa using (List.mem_zipIdx inside).2.1

def Later (orders : List (Order A)) (place : Nat) : Prop :=
  ∃ later order, place < later ∧ orders[later]? = some order ∧ order.isCommand = true

theorem Later.append {orders : List (Order A)} {place : Nat} (later : Later orders place) (more : List (Order A)) :
    Later (orders ++ more) place := by
  obtain ⟨other, order, after, found, command⟩ := later
  exact ⟨other, order, after, (List.getElem?_append_left (List.getElem?_eq_some_iff.mp found).1).trans found, command⟩

end Order

def Outcome.isCut : Outcome R → Bool
  | .fault reason => reason.isCancellation
  | _ => false

inductive Ending : Outcome R → List (Event R) → Prop where
  | complete (value : Value R) : Ending (.value value) [.flowStopped .complete]
  | userStop (fault : Fault) (cut : fault.isCancellation = true) : Ending (.fault fault) [.flowStopped .userStop]
  | error (fault : Fault) (uncut : fault.isCancellation = false) :
      Ending (.fault fault) [.ofFault fault, .flowStopped .error]
  | panicked (message : Option String) :
      Ending (.panicked message) [.ofFault (.ofPanic message), .flowStopped .error]

theorem ending_of_outcome (outcome : Outcome R) : Ending outcome (Session.ending outcome) := by
  cases outcome with
  | value value => exact .complete value
  | fault fault =>
      by_cases cut : fault.isCancellation = true
      · simp only [Session.ending, if_pos cut]
        exact .userStop fault cut
      · simp only [Session.ending, if_neg cut]
        exact .error fault (Bool.eq_false_iff.mpr cut)
  | panicked message => exact .panicked message

-- The events of a run that has not ended: the start of the flow, and then events of materials.
def Opens (scenario : String) (events : List (Event R)) : Prop :=
  ∃ tick news, events = .flowStarted scenario tick schemaVersion :: news ∧
    ∀ event ∈ news, event.kind.tellsMaterial = true

theorem Opens.append {scenario : String} {events : List (Event R)} (opens : Opens scenario events)
    (more : List (Event R)) (material : ∀ event ∈ more, event.kind.tellsMaterial = true) :
    Opens scenario (events ++ more) := by
  obtain ⟨tick, news, rfl, before⟩ := opens
  refine ⟨tick, news ++ more, rfl, ?_⟩
  intro event member
  rcases List.mem_append.mp member with early | late
  · exact before event early
  · exact material event late

namespace Frame

def value? (frame : Frame R) (id : String) : Option R := frame.values.bind fun values => values.lookup id

structure ShowsAll (machine : Machine R) (frame : Frame R) : Prop where
  axes : ∀ spec ∈ machine.axes, (frame.value? spec.id).isSome = true
  actuators : ∀ spec ∈ machine.actuators, (frame.value? spec.id).isSome = true
  materials : frame.materials.isSome = true

def told (frames : List (Frame R)) : List (Event R) := frames.flatMap fun frame => frame.events.getD []

theorem told_append (frames more : List (Frame R)) : told (frames ++ more) = told frames ++ told more :=
  List.flatMap_append

end Frame

-- What is published on account of one start.
structure Chapter (R : Type) where
  place : Nat
  scenario : String
  run : Option Nat
  frames : List (Frame R)

namespace Chapter

-- A chapter to which nothing will be added.
inductive Complete (machine : Machine R) (taken : List (Order A)) (returned : List (Nat × Outcome R)) :
    Chapter R → Prop where
  | refused (place : Nat) (scenario : String) (frame : Frame R) (fault : Fault) (noValues : frame.values = none)
      (noMaterials : frame.materials = none) (alone : frame.events = some [.ofFault fault]) :
      Complete machine taken returned ⟨place, scenario, none, [frame]⟩
  | run (place : Nat) (scenario : String) (number : Nat) (first : Frame R) (others : List (Frame R))
      (opening ending : List (Event R)) (outcome : Outcome R) (shown : first.ShowsAll machine)
      (tells : Frame.told (first :: others) = opening ++ ending) (opens : Opens scenario opening)
      (ends : Ending outcome ending) (ended : (number, outcome) ∈ returned)
      (cut : outcome.isCut = true → Order.Later taken place) :
      Complete machine taken returned ⟨place, scenario, some number, first :: others⟩

inductive Begun (machine : Machine R) : Chapter R → Prop where
  | unseen (place : Nat) (scenario : String) (number : Nat) : Begun machine ⟨place, scenario, some number, []⟩
  | seen (place : Nat) (scenario : String) (number : Nat) (first : Frame R) (others : List (Frame R))
      (shown : first.ShowsAll machine) (opens : Opens scenario (Frame.told (first :: others))) :
      Begun machine ⟨place, scenario, some number, first :: others⟩

theorem Complete.later {machine : Machine R} {taken : List (Order A)} {returned : List (Nat × Outcome R)}
    {chapter : Chapter R} (complete : chapter.Complete machine taken returned) (orders : List (Order A))
    (outcomes : List (Nat × Outcome R)) : chapter.Complete machine (taken ++ orders) (returned ++ outcomes) := by
  cases complete with
  | refused place scenario frame fault noValues noMaterials alone =>
      exact .refused place scenario frame fault noValues noMaterials alone
  | run place scenario number first others opening ending outcome shown tells opens ends ended cut =>
      exact .run place scenario number first others opening ending outcome shown tells opens ends
        (List.mem_append_left outcomes ended) fun isCut => (cut isCut).append orders

end Chapter

-- What a session has published while it took up the orders `taken`, in chapters; `returned` tells how flows ended, by
-- the numbers of their runs.
structure Chronicle (machine : Machine R) (script taken : List (Order A)) (returned : List (Nat × Outcome R))
    (session : Session R A) (chapters : List (Chapter R)) : Prop where
  script : taken <+: script
  frames : session.frames.sent = chapters.flatMap Chapter.frames
  starts : ∃ waiting : Option (Nat × String),
    Order.starts taken = (chapters.map fun chapter => (chapter.place, chapter.scenario)) ++ waiting.toList
  runs : chapters.filterMap Chapter.run = List.range session.runs.length
  once : (returned.map Prod.fst).Nodup
  earlier : ∀ chapter ∈ chapters.dropLast, chapter.Complete machine taken returned
  last : ∀ chapter ∈ chapters.getLast?, chapter.Complete machine taken returned ∨ chapter.Begun machine
  refused : ∀ chapter ∈ chapters.getLast?, chapter.run = none → session.active = none
  finished : ∀ chapter ∈ chapters, ∀ number, chapter.run = some number → session.isFinished number = true →
    chapter.Complete machine taken returned

def Session.returns [Scalar R] (job : SessionJob R A) (session : Session R A) (returned : List (Nat × Outcome R)) :
    List (Nat × Outcome R) :=
  match job with
  | .drive run task =>
      match (session.within run (.fault .cancelled) fun cell => task.poll session.handlers cell).1.outcome with
      | .ok outcome => returned ++ [(run, outcome)]
      | .error _ => returned
  | _ => returned

end Workcell
