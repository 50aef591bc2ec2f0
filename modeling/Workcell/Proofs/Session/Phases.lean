import Workcell.Proofs.Session.Roster
import Workcell.Proofs.Session.Running
import Workcell.Proofs.Superseding.Passing

/-!
What a run leaves behind, whatever its handlers do as long as they take its devices onwards: when nothing of it is left to
drive or to sample, all its devices have been stopped, and its motors are past.
-/

set_option autoImplicit false

namespace Workcell

variable {R A : Type}

def SessionRun.marks (run : SessionRun R) : Bool × Bool × Bool := (run.closing, run.sampled, run.finished)

namespace Session

def marks (session : Session R A) : List (Bool × Bool × Bool) := session.runs.map SessionRun.marks

-- Who drives the last run and who samples it; all runs before are over.
inductive Phase : List (Bool × Bool × Bool) → Option (Nat × Option (Task R)) → Option (Nat × Sampler R) → Prop where
  | idle (count : Nat) : Phase (.replicate count (true, true, true)) none none
  | fresh (count : Nat) (step : Step R) :
      Phase (.replicate count (true, true, true) ++ [(false, false, false)]) (some (count, some (.fresh step))) none
  | running (count : Nat) (run : Run R) (sampler : Sampler R) :
      Phase (.replicate count (true, true, true) ++ [(false, false, false)]) (some (count, some (.running run)))
        (some (count, sampler))
  | closing (count : Nat) (sampler : Sampler R) :
      Phase (.replicate count (true, true, true) ++ [(true, false, false)]) (some (count, none)) (some (count, sampler))
  | sampled (count : Nat) :
      Phase (.replicate count (true, true, true) ++ [(true, true, false)]) (some (count, none)) none

end Session

structure SessionRun.Onwards (before after : SessionRun R) : Prop where
  cell : Cell.Onwards before.cell after.cell
  closing : after.closing = true → before.closing = true ∨ Cell.Passes before.cell after.cell

theorem Cell.Passes.later {first second third : Cell R} (passes : Cell.Passes first second)
    (onwards : Cell.Onwards second third) : Cell.Passes first third := by
  refine ⟨fun handle axis there => ?_, fun handle actuator there => ?_⟩
  · obtain ⟨between, found, less⟩ := passes.axes handle axis there
    obtain ⟨later, last, least⟩ := onwards.axes.devices handle between found
    exact ⟨later, last, Nat.lt_of_lt_of_le less least⟩
  · obtain ⟨between, found, less⟩ := passes.actuators handle actuator there
    obtain ⟨later, last, least⟩ := onwards.actuators.devices handle between found
    exact ⟨later, last, Nat.lt_of_lt_of_le less least⟩

theorem Cell.Passes.earlier {first second third : Cell R} (onwards : Cell.Onwards first second)
    (passes : Cell.Passes second third) : Cell.Passes first third := by
  refine ⟨fun handle axis there => ?_, fun handle actuator there => ?_⟩
  · obtain ⟨between, found, least⟩ := onwards.axes.devices handle axis there
    obtain ⟨later, last, less⟩ := passes.axes handle between found
    exact ⟨later, last, Nat.lt_of_le_of_lt least less⟩
  · obtain ⟨between, found, least⟩ := onwards.actuators.devices handle actuator there
    obtain ⟨later, last, less⟩ := passes.actuators handle between found
    exact ⟨later, last, Nat.lt_of_le_of_lt least less⟩

namespace SessionRun.Onwards

theorem refl (run : SessionRun R) : run.Onwards run := ⟨.refl _, Or.inl⟩

theorem trans {first second third : SessionRun R} (before : first.Onwards second) (after : second.Onwards third) :
    first.Onwards third := by
  refine ⟨before.cell.trans _ _ _ after.cell, fun closing => ?_⟩
  rcases after.closing closing with already | passes
  · exact (before.closing already).imp_right fun passes => passes.later after.cell
  · exact Or.inr (passes.earlier before.cell)

end SessionRun.Onwards

namespace Session

def Onwards (before after : Session R A) : Prop :=
  ∀ (number : Nat) (state : SessionRun R), before.runs[number]? = some state →
    ∃ next, after.runs[number]? = some next ∧ state.Onwards next

theorem Onwards.refl (session : Session R A) : session.Onwards session := fun _ state there => ⟨state, there, .refl state⟩

theorem Onwards.trans {first second third : Session R A} (before : first.Onwards second) (after : second.Onwards third) :
    first.Onwards third := by
  intro number state there
  obtain ⟨between, found, early⟩ := before number state there
  obtain ⟨next, last, late⟩ := after number between found
  exact ⟨next, last, early.trans late⟩

theorem Onwards.of_runs {before after : Session R A} (runs : after.runs = before.runs) : before.Onwards after :=
  fun _ state there => ⟨state, runs ▸ there, .refl state⟩

theorem modify_onwards {before after : Session R A} (number : Nat) (change : SessionRun R → SessionRun R)
    (runs : after.runs = before.runs.modify number change)
    (changes : ∀ state, before.runs[number]? = some state → state.Onwards (change state)) : before.Onwards after := by
  intro other state there
  by_cases own : number = other
  · subst own
    exact ⟨change state, by simp [runs, there], changes state there⟩
  · exact ⟨state, by simp [runs, there, own], .refl state⟩

-- What drives a motor has begun in the cell of its run, and is past once the flow of the run has ended.
def Bears (session : Session R A) (number : Nat) (drive : Drive R) : Prop :=
  ∃ state, session.runs[number]? = some state ∧ drive.Begun state.cell ∧ (state.closing = true → drive.Past state.cell)

theorem Bears.onwards {before after : Session R A} {number : Nat} {drive : Drive R} (bears : before.Bears number drive)
    (onwards : before.Onwards after) : after.Bears number drive := by
  obtain ⟨state, there, begun, past⟩ := bears
  obtain ⟨next, found, goesOn⟩ := onwards number state there
  refine ⟨next, found, begun.onwards goesOn.cell, fun closing => ?_⟩
  rcases goesOn.closing closing with already | passes
  · exact (past already).onwards goesOn.cell
  · exact begun.past passes

end Session

def SessionJob.Steady (session : Session R A) : SessionJob R A → Prop
  | .motor run turning => session.Bears run turning.drive
  | .drive _ task => task.Makes fun _ => True
  | _ => True

theorem SessionJob.Steady.onwards {before after : Session R A} {job : SessionJob R A} (steady : job.Steady before)
    (onwards : before.Onwards after) : job.Steady after := by
  cases job with
  | motor run motor => exact Session.Bears.onwards steady onwards
  | operator pause script => trivial
  | drive run task => exact steady
  | closing run => trivial
  | sampling run sampler timer => trivial

namespace Session

structure Made (origin session : Session R A) : Prop where
  machine : session.machine = origin.machine
  driver : session.driver = origin.driver
  catalog : session.catalog = origin.catalog
  settings : session.settings = origin.settings
  handlers : session.handlers = origin.handlers

structure Course (session origin : Session R A) (driver : Option (Nat × Option (Task R)))
    (sampler : Option (Nat × Sampler R)) :
    Prop where
  made : Made origin session
  phase : Phase session.marks driver sampler
  active : ∀ number, session.active = some number → number + 1 = session.runs.length
  cells : ∀ run ∈ session.runs, run.cell.axes.Enrolled ∧ run.cell.actuators.Enrolled ∧ run.cell.outbox = []

structure Beside (before after : Session R A) : Prop where
  onwards : before.Onwards after
  log : after.log = before.log
  active : after.active = before.active
  count : after.runs.length = before.runs.length

theorem Beside.refl (session : Session R A) : session.Beside session := ⟨.refl _, rfl, rfl, rfl⟩

theorem Beside.trans {first second third : Session R A} (before : first.Beside second) (after : second.Beside third) :
    first.Beside third :=
  ⟨before.onwards.trans after.onwards, after.log.trans before.log, after.active.trans before.active,
    after.count.trans before.count⟩

theorem marks_length (session : Session R A) : session.marks.length = session.runs.length := List.length_map _

theorem taken_by (session : Session R A) (number : Nat) (cell : Cell R) :
    (session.take number cell).runs = session.runs.modify number fun run =>
    { run with cell := { cell with outbox := [] } } := rfl

theorem marks_modify {before after : Session R A} (number : Nat) (change : SessionRun R → SessionRun R)
    (marked : Bool × Bool × Bool → Bool × Bool × Bool) (runs : after.runs = before.runs.modify number change)
    (marks : ∀ run, (change run).marks = marked run.marks) : after.marks = before.marks.modify number marked := by
  unfold Session.marks
  rw [runs]
  refine List.ext_getElem? fun place => ?_
  simp only [List.getElem?_map, List.getElem?_modify]
  cases before.runs[place]? with
  | none => rfl
  | some run =>
      by_cases own : number = place
      · simp [own, marks]
      · simp [own]

theorem modify_last (past : List (Bool × Bool × Bool)) (last : Bool × Bool × Bool)
    (marked : Bool × Bool × Bool → Bool × Bool × Bool) :
    (past ++ [last]).modify past.length marked = past ++ [marked last] := by
  induction past with
  | nil => rfl
  | cons run rest ih => exact congrArg (run :: ·) ih

theorem modify_id {B : Type} (items : List B) (number : Nat) : items.modify number id = items := by
  refine List.ext_getElem? fun place => ?_
  rw [List.getElem?_modify]
  split
  · exact Option.map_id'
  · exact Option.map_id'

theorem last_there {session : Session R A} {count : Nat} {mark : Bool × Bool × Bool}
    (marks : session.marks = .replicate count (true, true, true) ++ [mark]) :
    session.runs.length = count + 1 ∧ ∃ state, session.runs[count]? = some state ∧ state.marks = mark := by
  have length : session.runs.length = count + 1 := by
    rw [← session.marks_length, marks]
    simp
  have found : session.marks[count]? = some mark := by
    rw [marks]
    simp
  rw [Session.marks, List.getElem?_map] at found
  exact ⟨length, Option.map_eq_some_iff.mp found⟩

theorem finished_of_marks {session : Session R A} {count : Nat} {mark : Bool × Bool × Bool}
    (marks : session.marks = .replicate count (true, true, true) ++ [mark]) (number : Nat)
    (last : number + 1 = session.runs.length) : session.isFinished number = mark.2.2 := by
  obtain ⟨length, state, found, rfl⟩ := last_there marks
  obtain rfl : number = count := by omega
  simp only [isFinished, found]
  rfl

namespace Course

variable {origin session next : Session R A} {driver driving : Option (Nat × Option (Task R))}
  {sampler : Option (Nat × Sampler R)}

theorem unfinished (course : session.Course origin driver sampler) (busy : driver.isSome = true) (number : Nat)
    (last : number + 1 = session.runs.length) : session.isFinished number = false := by
  have phase := course.phase
  generalize is : session.marks = marks at phase
  cases phase with
  | idle count => cases busy
  | fresh count step => exact finished_of_marks is number last
  | running count run sampler => exact finished_of_marks is number last
  | closing count sampler => exact finished_of_marks is number last
  | sampled count => exact finished_of_marks is number last

theorem modified (course : session.Course origin driver sampler) {driving : Option (Nat × Option (Task R))}
    {sampling : Option (Nat × Sampler R)} (made : session.Made next) (active : next.active = session.active) (number : Nat)
    (change : SessionRun R → SessionRun R) (runs : next.runs = session.runs.modify number change)
    (phase : Phase next.marks driving sampling)
    (cells : ∀ run, session.runs[number]? = some run → (change run).cell.axes.Enrolled ∧
      (change run).cell.actuators.Enrolled ∧ (change run).cell.outbox = []) : next.Course origin driving sampling where
  made := ⟨made.machine.trans course.made.machine, made.driver.trans course.made.driver,
    made.catalog.trans course.made.catalog, made.settings.trans course.made.settings,
    made.handlers.trans course.made.handlers⟩
  phase := phase
  active other is := by
    rw [runs, List.length_modify]
    exact course.active other (active ▸ is)
  cells run member := by
    obtain ⟨place, found⟩ := List.getElem?_of_mem member
    rw [runs, List.getElem?_modify] at found
    obtain ⟨old, there, rfl⟩ := Option.map_eq_some_iff.mp found
    by_cases own : number = place
    · subst own
      rw [if_pos rfl]
      exact cells old there
    · rw [if_neg own]
      exact course.cells old (List.mem_of_getElem? there)

theorem within [Scalar R] {B : Type} (course : session.Course origin driver sampler) (number : Nat) (absent : B)
    (work : Cell R → B × Cell R)
    (onwards : ∀ state, session.runs[number]? = some state → Cell.Onwards (session.lend state)
      (work (session.lend state)).2) :
    (session.within number absent work).2.1.Course origin driver sampler ∧
      session.Beside (session.within number absent work).2.1 ∧
      ∀ request ∈ (session.within number absent work).2.2, ∃ state effect, session.runs[number]? = some state ∧
        effect ∈ (work (session.lend state)).2.outbox ∧ effect.Backed (work (session.lend state)).2 ∧
        request = effect.request (.motor number) := by
  cases found : session.runs[number]? with
  | none =>
      simp only [Session.within, found]
      exact ⟨course, .refl session, by simp⟩
  | some state =>
      rw [within_found session number absent work state found]
      have goesOn := onwards state found
      obtain ⟨axes, actuators, silent⟩ := course.cells state (List.mem_of_getElem? found)
      have same : ∀ other, session.runs[number]? = some other → other = state := fun other there =>
        Option.some.inj (there.symm.trans found)
      refine ⟨?_, ⟨?_, rfl, rfl, List.length_modify ..⟩, ?_⟩
      · refine course.modified ⟨rfl, rfl, rfl, rfl, rfl⟩ rfl number _ rfl ?_ fun other there => ?_
        · rw [marks_modify number _ id (taken_by session number _) fun _ => rfl, modify_id]
          exact course.phase
        · exact ⟨goesOn.axes.enrolled axes, goesOn.actuators.enrolled actuators, rfl⟩
      · refine modify_onwards number _ rfl fun other there => ?_
        obtain rfl := same other there
        exact ⟨⟨goesOn.axes, goesOn.actuators, by simp⟩, Or.inl⟩
      · intro request member
        obtain ⟨effect, inside, rfl⟩ := List.mem_map.mp member
        refine ⟨state, effect, rfl, inside, ?_, rfl⟩
        rcases goesOn.asked effect inside with before | backed
        · have nothing : (session.lend state).outbox = [] := silent
          rw [nothing] at before
          cases before
        · exact backed

end Course

def Tells (requests : List (Request (SessionJob R A))) : Prop :=
  ∀ request ∈ requests, ∃ sent : Signal, request = .signal sent ∧ sent.isInner = true

theorem Tells.begun {requests : List (Request (SessionJob R A))} (tells : Tells requests) : Request.begun requests = [] := by
  induction requests with
  | nil => rfl
  | cons request rest ih =>
      obtain ⟨sent, rfl, -⟩ := tells request List.mem_cons_self
      exact ih fun other member => tells other (List.mem_cons_of_mem _ member)

theorem Course.within_tells [Scalar R] {B : Type} {origin session : Session R A} {driver : Option (Nat × Option (Task R))}
    {sampler : Option (Nat × Sampler R)} (course : session.Course origin driver sampler) (number : Nat) (absent : B)
    (work : Cell R → B × Cell R) (onwards : ∀ cell, Cell.Onwards cell (work cell).2)
    (tells : ∀ cell, Cell.OnlySignals cell (work cell).2) :
    (session.within number absent work).2.1.Course origin driver sampler ∧
      session.Beside (session.within number absent work).2.1 ∧ Tells (session.within number absent work).2.2 := by
  obtain ⟨kept, beside, asked⟩ := course.within number absent work fun state _ => onwards (session.lend state)
  refine ⟨kept, beside, fun request member => ?_⟩
  obtain ⟨state, effect, found, inside, backed, rfl⟩ := asked request member
  rcases tells (session.lend state) effect inside with before | ⟨sent, rfl⟩
  · have nothing : (session.lend state).outbox = [] := (course.cells state (List.mem_of_getElem? found)).2.2
    rw [nothing] at before
    cases before
  · exact ⟨sent, rfl, backed⟩

end Session

end Workcell
