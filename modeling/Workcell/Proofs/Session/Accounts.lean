import Workcell.Proofs.Session.Roster
import Workcell.Proofs.Session.Stages

/-!
Accounts: how far the operator of a session has come with a script, and which chapters have been published by then.
-/

set_option autoImplicit false

namespace Workcell

variable {R A : Type}

structure Ledger (R A : Type) where
  taken : List (Order A)
  left : List (Order A)
  closed : List (Chapter R)
  current : Option (Chapter R)
  waiting : Option (Nat × String)

def Ledger.chapters (ledger : Ledger R A) : List (Chapter R) := ledger.closed ++ ledger.current.toList

def Stopping.scenario? : Stopping A → Option String
  | .start scenario _ => some scenario
  | .stop _ => none

inductive Desk (active : Option Nat) (count : Nat) (busy : Bool) (ledger : Ledger R A) :
    Option (SessionPause A × List (SessionInstruction R A)) → Prop where
  | gone : Desk active count busy ledger none
  | free (pause : SessionPause A) (waitsForNoStop : ∀ run next, pause ≠ .stopping run next)
      (idle : active = none → busy = false) (noneWaiting : ledger.waiting = none) :
      Desk active count busy ledger (some (pause, ledger.left.map Order.instruction))
  | stopping (run : Nat) (next : Stopping A) (inactive : active = none) (last : run + 1 = count)
      (waits : ledger.waiting.map Prod.snd = next.scenario?) :
      Desk active count busy ledger (some (.stopping run next, ledger.left.map Order.instruction))

theorem Desk.stays {active : Option Nat} {count : Nat} {busy still : Bool} {ledger later : Ledger R A}
    {operator : Option (SessionPause A × List (SessionInstruction R A))} (desk : Desk active count busy ledger operator)
    (less : still = true → busy = true) (left : later.left = ledger.left) (waiting : later.waiting = ledger.waiting) :
    Desk active count still later operator := by
  cases desk with
  | gone => exact .gone
  | free pause waitsForNoStop idle noneWaiting =>
      rw [← left]
      refine .free pause waitsForNoStop (fun inactive => ?_) (waiting.trans noneWaiting)
      exact Bool.eq_false_iff.mpr fun isBusy => Bool.false_ne_true ((idle inactive).symm.trans (less isBusy))
  | stopping run next inactive last waits =>
      rw [← left]
      exact .stopping run next inactive last (waiting ▸ waits)

structure Session.Kept (news : List (Frame R)) (before after : Session R A) : Prop where
  machine : after.machine = before.machine
  handlers : after.handlers = before.handlers
  frames : after.frames.sent = before.frames.sent ++ news
  active : after.active = before.active
  runs : after.runs.length = before.runs.length

theorem Session.Kept.trans {before between after : Session R A} {news more : List (Frame R)}
    (first : before.Kept news between) (second : between.Kept more after) : before.Kept (news ++ more) after where
  machine := second.machine.trans first.machine
  handlers := second.handlers.trans first.handlers
  frames := by rw [second.frames, first.frames, List.append_assoc]
  active := second.active.trans first.active
  runs := second.runs.trans first.runs

theorem note_kept (number : Nat) (change : SessionRun R → SessionRun R) (session : Session R A) :
    session.Kept [] (session.note number change) :=
  ⟨rfl, rfl, (List.append_nil _).symm, rfl, List.length_modify ..⟩

theorem take_kept (number : Nat) (cell : Cell R) (session : Session R A) :
    session.Kept [] (session.take number cell) :=
  ⟨rfl, rfl, (List.append_nil _).symm, rfl, List.length_modify ..⟩

variable [Scalar R]

theorem within_kept {B : Type} (number : Nat) (absent : B) (work : Cell R → B × Cell R) (session : Session R A) :
    session.Kept [] (session.within number absent work).2.1 := by
  unfold Session.within
  cases session.runs[number]? with
  | none => exact ⟨rfl, rfl, (List.append_nil _).symm, rfl, rfl⟩
  | some run => exact take_kept number _ session

structure Account (machine : Machine R) (script : List (Order A)) (returned : List (Nat × Outcome R))
    (session : Session R A) (operator : Option (SessionPause A × List (SessionInstruction R A)))
    (driver : Option (Nat × Option (Task R))) (sampler : Option (Nat × Sampler R)) (ledger : Ledger R A) : Prop where
  script : ledger.taken ++ ledger.left = script
  onMachine : session.machine = machine
  handlers : session.handlers = HandlerTable.standard
  frames : session.frames.sent = ledger.chapters.flatMap Chapter.frames
  starts : Order.starts ledger.taken =
    (ledger.chapters.map fun chapter => (chapter.place, chapter.scenario)) ++ ledger.waiting.toList
  runs : ledger.chapters.filterMap Chapter.run = List.range session.runs.length
  once : (returned.map Prod.fst).Nodup
  known : ∀ entry ∈ returned, entry.1 < session.runs.length
  active : ∀ number, session.active = some number → number + 1 = session.runs.length
  refused : ∀ chapter ∈ ledger.chapters.getLast?, chapter.run = none → session.active = none
  complete : ∀ chapter ∈ ledger.closed, chapter.Complete machine ledger.taken returned
  stage : Stage machine ledger.taken returned session.runs driver sampler ledger.current
  desk : Desk session.active session.runs.length driver.isSome ledger operator

namespace Account

variable {machine : Machine R} {script : List (Order A)} {returned : List (Nat × Outcome R)} {session : Session R A}
  {operator : Option (SessionPause A × List (SessionInstruction R A))} {driver : Option (Nat × Option (Task R))}
  {sampler : Option (Nat × Sampler R)} {ledger : Ledger R A}

theorem goes_on (account : Account machine script returned session operator driver sampler ledger) {next : Session R A}
    (same : session.Kept [] next) (more : List (Nat × Outcome R)) (once : ((returned ++ more).map Prod.fst).Nodup)
    (known : ∀ entry ∈ more, entry.1 < session.runs.length) {driving : Option (Nat × Option (Task R))}
    {sampling : Option (Nat × Sampler R)}
    (stage : Stage machine ledger.taken (returned ++ more) next.runs driving sampling ledger.current)
    (less : driving.isSome = true → driver.isSome = true) :
    Account machine script (returned ++ more) next operator driving sampling ledger where
  script := account.script
  onMachine := same.machine.trans account.onMachine
  handlers := same.handlers.trans account.handlers
  frames := (same.frames.trans (List.append_nil _)).trans account.frames
  starts := account.starts
  runs := same.runs.symm ▸ account.runs
  once := once
  known := by
    intro entry member
    rw [same.runs]
    rcases List.mem_append.mp member with before | now
    · exact account.known entry before
    · exact known entry now
  active := same.active.symm ▸ same.runs.symm ▸ account.active
  refused := same.active.symm ▸ account.refused
  complete := by
    intro chapter member
    have complete := (account.complete chapter member).later [] more
    rwa [List.append_nil] at complete
  stage := stage
  desk := same.active.symm ▸ same.runs.symm ▸ account.desk.stays less rfl rfl

theorem kept (account : Account machine script returned session operator driver sampler ledger) {next : Session R A}
    (same : session.Kept [] next) {driving : Option (Nat × Option (Task R))} {sampling : Option (Nat × Sampler R)}
    (stage : Stage machine ledger.taken returned next.runs driving sampling ledger.current)
    (less : driving.isSome = true → driver.isSome = true) :
    Account machine script returned next operator driving sampling ledger := by
  have after := account.goes_on same [] (by rw [List.append_nil]; exact account.once) (fun _ member => nomatch member)
    (by rw [List.append_nil]; exact stage) less
  rwa [List.append_nil] at after

-- A flow has returned.
theorem returns (account : Account machine script returned session operator driver sampler ledger) (number : Nat)
    (outcome : Outcome R) (unreturned : number ∉ returned.map Prod.fst) (inside : number < session.runs.length)
    {next : Session R A} (same : session.Kept [] next) {driving : Option (Nat × Option (Task R))}
    {sampling : Option (Nat × Sampler R)}
    (stage : Stage machine ledger.taken (returned ++ [(number, outcome)]) next.runs driving sampling ledger.current)
    (less : driving.isSome = true → driver.isSome = true) :
    Account machine script (returned ++ [(number, outcome)]) next operator driving sampling ledger := by
  refine account.goes_on same _ ?_ ?_ stage less
  · rw [List.map_append]
    refine List.nodup_append.mpr ⟨account.once, List.pairwise_singleton _ _, ?_⟩
    rintro entry member other last rfl
    rw [List.mem_singleton.mp last] at member
    exact unreturned member
  · intro entry member
    rw [List.mem_singleton.mp member]
    exact inside

-- Frames of the last run are published; its chapter may be complete then.
theorem tells (account : Account machine script returned session operator driver sampler ledger) {next : Session R A}
    {news : List (Frame R)} (same : session.Kept news next) (chapter : Chapter R) (number : Nat)
    (current : ledger.current = some chapter) (counted : chapter.run = some number) (closed : List (Chapter R))
    (further : Option (Chapter R))
    (chapters : closed ++ further.toList = ledger.closed ++ [{ chapter with frames := chapter.frames ++ news }])
    (complete : ∀ chapter ∈ closed, chapter.Complete machine ledger.taken returned)
    {driving : Option (Nat × Option (Task R))} {sampling : Option (Nat × Sampler R)}
    (stage : Stage machine ledger.taken returned next.runs driving sampling further)
    (less : driving.isSome = true → driver.isSome = true) :
    Account machine script returned next operator driving sampling { ledger with closed := closed, current := further } := by
  have before : ledger.chapters = ledger.closed ++ [chapter] := by
    rw [Ledger.chapters, current]
    rfl
  refine {
    script := account.script
    onMachine := same.machine.trans account.onMachine
    handlers := same.handlers.trans account.handlers
    frames := ?_
    starts := ?_
    runs := ?_
    once := account.once
    known := same.runs.symm ▸ account.known
    active := same.active.symm ▸ same.runs.symm ▸ account.active
    refused := ?_
    complete := complete
    stage := stage
    desk := same.active.symm ▸ same.runs.symm ▸ account.desk.stays less rfl rfl }
  · rw [same.frames, account.frames, before, Ledger.chapters, chapters]
    simp only [List.flatMap_append, List.flatMap_cons, List.flatMap_nil, List.append_nil, List.append_assoc]
  · have starts := account.starts
    rw [before] at starts
    rw [Ledger.chapters, chapters]
    simpa only [List.map_append, List.map_cons, List.map_nil] using starts
  · have runs := account.runs
    rw [before] at runs
    rw [Ledger.chapters, chapters, same.runs, ← runs]
    simp only [List.filterMap_append]
    rfl
  · intro last isLast
    rw [Ledger.chapters, chapters, List.getLast?_concat] at isLast
    cases isLast
    intro refused
    cases counted.symm.trans refused

-- Work in the cell of a run that tells nothing, and that cancels the cell only on a later command.
theorem within {B : Type} (account : Account machine script returned session operator driver sampler ledger) (number : Nat)
    (absent : B) (work : Cell R → B × Cell R) (beside : ∀ cell, Cell.Beside cell (work cell).2)
    (cut : ∀ cell, (work cell).2.cancelled = cell.cancelled ∨ (work cell).2.cancelled = true ∧
      ∀ chapter ∈ ledger.current, Order.Later ledger.taken chapter.place) :
    Account machine script returned (session.within number absent work).2.1 operator driver sampler ledger ∧
      ∀ job ∈ Request.begun (session.within number absent work).2.2, job.isMotor = true := by
  unfold Session.within
  cases found : session.runs[number]? with
  | none => exact ⟨account, fun _ member => nomatch member⟩
  | some run =>
      have same : ∀ other, session.runs[number]? = some other → other = run := fun other there =>
        Option.some.inj (there.symm.trans found)
      have kept := beside (session.lend run)
      refine ⟨account.kept (take_kept number _ session) ?_ fun busy => busy, begun_by_effects number _⟩
      refine account.stage.changed number _ (fun _ => ⟨rfl, rfl, rfl⟩) ?_ ?_
      · intro other there
        rw [same other there]
        exact ⟨kept.silent, kept.axes, kept.actuators⟩
      · intro other there
        rw [same other there]
        exact cut (session.lend run)

end Account

end Workcell
