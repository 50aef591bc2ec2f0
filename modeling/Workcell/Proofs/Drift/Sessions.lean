import Mathlib.Data.List.Forall2
import Workcell.Proofs.Drift.Turns
import Workcell.Proofs.Schedule.Transfer
import Workcell.Proofs.Session.Chapters
import Workcell.Proofs.Session.Running

/-!
Sessions adrift: a session with the same runs, after others that have come to their end, on a clock that is ahead. What
its jobs do is what they do in the session itself.
-/

set_option autoImplicit false

namespace Workcell

variable {R A : Type} {drift : Drift}

def Cell.unlent (cell : Cell R) : Cell R := { cell with now := 0, issued := 0, hook := .propagating, appeals := [] }

structure SessionRun.Adrift (drift : Drift) (here there : SessionRun R) : Prop where
  scenario : there.scenario = here.scenario
  cell : there.cell.unlent = (drift.cell here.cell).unlent
  closing : there.closing = here.closing
  sampled : there.sampled = here.sampled
  finished : there.finished = here.finished
  steady : drift.Steady here.cell

namespace Session

section

variable [Scalar R]

-- What both sessions are made of, and what goes on in both; `past` are the runs that there have been there before.
-- The clocks are not compared, and neither is what has been answered.
structure Akin (drift : Drift) (ok : Call R → Prop) (past : List (SessionRun R)) (here there : Session R A) : Prop where
  machine : there.machine = here.machine
  driver : there.driver = here.driver
  catalog : there.catalog = here.catalog
  settings : there.settings = here.settings
  handlers : there.handlers = here.handlers
  hook : there.hook = here.hook
  issued : there.issued = drift.key here.issued
  base : drift.base ≤ here.issued
  active : there.active = here.active.map (· + past.length)
  runs : ∃ later, there.runs = past ++ later ∧ List.Forall₂ (SessionRun.Adrift drift) here.runs later

structure Settled (drift : Drift) (ok : Call R → Prop) (session : Session R A) : Prop where
  waitBound : drift.Plain session.settings.waitBound
  sampleTick : drift.Plain session.settings.sampleTick
  period : drift.Plain session.settings.sampling.period
  ticks : ∀ tick, session.driver = .simulation tick → drift.Plain tick
  flows : ∀ scenario flow, Scenario.build session.catalog scenario session.machine = .ok flow → flow.Every ok
  carried : session.handlers.Carried drift ok

structure Adrift (drift : Drift) (ok : Call R → Prop) (past : List (SessionRun R)) (here there : Session R A) : Prop
    extends Akin drift ok past here there, Settled drift ok here where
  appeals : there.appeals = here.appeals

end

end Session

def SessionPause.adrift (drift : Drift) (ago : Nat) : SessionPause A → SessionPause A
  | .ready => .ready
  | .stopping run next => .stopping (run + ago) next
  | .sleeping timer answer => .sleeping (drift.timer timer) answer
  | .idle run answer => .idle (run + ago) answer

def SessionInstruction.Plain (drift : Drift) : SessionInstruction R A → Prop
  | .act _ => False
  | .sleep ms _ => drift.Plain (.ofMillis ms)
  | _ => True

def Signal.adrift (ago : Nat) : Signal → Signal
  | .ended run => .ended (run + ago)
  | .sampled run => .sampled (run + ago)
  | other => other

theorem Signal.adrift_apart (ago : Nat) (one other : Signal) (same : one.adrift ago = other.adrift ago) : one = other := by
  cases one <;> cases other <;> simp_all [Signal.adrift]

theorem Signal.inner_adrift (ago : Nat) (sent : Signal) (inner : sent.isInner = true) : sent.adrift ago = sent := by
  cases sent <;> first | rfl | cases inner

namespace SessionJob

def adrift (drift : Drift) (ago : Nat) : SessionJob R A → SessionJob R A
  | .motor run turning => .motor (run + ago) (drift.motor turning)
  | .operator pause script => .operator (pause.adrift drift ago) script
  | .drive run task => .drive (run + ago) (task.recast drift.cast)
  | .closing run => .closing (run + ago)
  | .sampling run sampler timer => .sampling (run + ago) sampler (timer.map drift.timer)

def Fit (drift : Drift) (ok : Call R → Prop) : SessionJob R A → Prop
  | .operator _ script => ∀ instruction ∈ script, instruction.Plain drift
  | .drive _ task => task.Makes ok
  | _ => True

def leafKey (drift : Drift) : SessionJob R A → Nat → Nat
  | .drive _ _, key => drift.key key
  | _, key => key

end SessionJob

-- What becomes of the jobs of a session when it is adrift, and there are jobs of the runs before.
def Session.transfer (drift : Drift) (ago start : Nat) (begins : 0 < start) : Transfer (SessionJob R A) where
  start := start
  ahead := drift.ahead
  cast := SessionJob.adrift drift ago
  key := drift.key
  leafKey := SessionJob.leafKey drift
  said := Signal.adrift ago
  begins := begins
  rises := drift.key_lt_iff
  apart := Signal.adrift_apart ago

namespace Session

variable [Scalar R] {ok : Call R → Prop} {past : List (SessionRun R)} {here there : Session R A} (start : Nat)
  (begins : 0 < start)

theorem effect_request (ago run : Nat) (asked : Effect R) (inner : ∀ sent, asked = .signal sent → sent.isInner = true) :
    (drift.effect asked).request (SessionJob.motor (A := A) (run + ago)) =
      (transfer drift ago start begins).request (asked.request (.motor run)) := by
  cases asked with
  | motion handle way => rfl
  | stroke handle way => rfl
  | signal sent => exact congrArg Request.signal (sent.inner_adrift ago (inner sent rfl)).symm
  | again key => rfl
  | rest key => rfl

structure Together {B C : Type} (drift : Drift) (ok : Call R → Prop) (moved : Transfer (SessionJob R A))
    (related : Session R A → Session R A → Prop) (fine : B → C → Prop) (here there : Session R A)
    (done : B × Session R A × List (Request (SessionJob R A)))
    (doneThere : C × Session R A × List (Request (SessionJob R A))) :
    Prop where
  result : fine done.1 doneThere.1
  related : related done.2.1 doneThere.2.1
  asked : doneThere.2.2 = done.2.2.map moved.request
  now : done.2.1.now = here.now
  nowThere : doneThere.2.1.now = there.now
  begun : ∀ job, .begin job ∈ done.2.2 → job.Fit drift ok

omit [Scalar R] in
theorem lend_adrift (akin : Akin drift ok past here there) (appeals : there.appeals = here.appeals)
    (clock : there.now = here.now + drift.ahead) (run other : SessionRun R)
    (adrift : run.Adrift drift other) : there.lend other = drift.cell (here.lend run) := by
  have own : there.lend other =
      { other.cell.unlent with
        now := there.now, issued := there.issued, hook := there.hook, appeals := there.appeals } := rfl
  rw [own, adrift.cell, clock, akin.issued, akin.hook, appeals]
  rfl

omit [Scalar R] in
theorem lend_fits (akin : Akin drift ok past here there) (early : here.now ≤ drift.limit) (run : SessionRun R)
    (steady : drift.Steady run.cell) : drift.Fits (here.lend run) where
  waitBound := steady.waitBound
  sampleTick := steady.sampleTick
  driver := steady.driver
  axes := steady.axes
  actuators := steady.actuators
  signals := steady.signals
  issued := akin.base
  now := early

omit [Scalar R] in
-- What is taken back of both cells is adrift, as nothing is left in the outbox.
theorem taken_adrift (run other : SessionRun R) (adrift : run.Adrift drift other) (cell : Cell R) (fits : drift.Fits cell) :
    SessionRun.Adrift drift { run with cell := { cell with outbox := [] } }
      { other with cell := { drift.cell cell with outbox := [] } } where
  scenario := adrift.scenario
  cell := rfl
  closing := adrift.closing
  sampled := adrift.sampled
  finished := adrift.finished
  steady := { fits.toSteady with signals := fun _ member => nomatch member }

omit [Scalar R] in
theorem found_adrift (past runs later : List (SessionRun R)) (paired : List.Forall₂ (SessionRun.Adrift drift) runs later)
    (number : Nat) :
    (∃ run other, runs[number]? = some run ∧ (past ++ later)[number + past.length]? = some other ∧ run.Adrift drift other) ∨
      runs[number]? = none ∧ (past ++ later)[number + past.length]? = none := by
  have shift : (past ++ later)[number + past.length]? = later[number]? := by
    rw [List.getElem?_append_right (Nat.le_add_left _ _), Nat.add_sub_cancel]
  rw [shift]
  clear shift
  induction paired generalizing number with
  | nil => exact Or.inr ⟨rfl, rfl⟩
  | cons own rest ih =>
      cases number with
      | zero => exact Or.inl ⟨_, _, rfl, rfl, own⟩
      | succ number => exact ih number

omit [Scalar R] in
theorem modify_later (past later : List (SessionRun R)) (number : Nat) (change : SessionRun R → SessionRun R) :
    (past ++ later).modify (number + past.length) change = past ++ later.modify number change := by
  induction past with
  | nil => rfl
  | cons run rest ih => exact congrArg (run :: ·) ih

omit [Scalar R] in
theorem modify_adrift (runs later : List (SessionRun R)) (paired : List.Forall₂ (SessionRun.Adrift drift) runs later)
    (number : Nat) (change other : SessionRun R → SessionRun R)
    (keeps : ∀ one two, one.Adrift drift two → (change one).Adrift drift (other two)) :
    List.Forall₂ (SessionRun.Adrift drift) (runs.modify number change) (later.modify number other) := by
  induction paired generalizing number with
  | nil => cases number <;> exact .nil
  | cons own rest ih =>
      cases number with
      | zero => exact .cons (keeps _ _ own) rest
      | succ number => exact .cons own (ih number)

theorem within_together {B C : Type} (fine : B → C → Prop) (adrift : Adrift drift ok past here there)
    (clock : there.now = here.now + drift.ahead) (early : here.now ≤ drift.limit) (number : Nat) (absent : B)
    (absentThere : C) (work : Cell R → B × Cell R) (workThere : Cell R → C × Cell R) (missing : fine absent absentThere)
    (carries : ∀ cell, drift.Fits cell → fine (work cell).1 (workThere (drift.cell cell)).1 ∧
      (workThere (drift.cell cell)).2 = drift.cell (work cell).2 ∧ drift.Fits (work cell).2) :
    Together drift ok (transfer drift past.length start begins) (Adrift drift ok past) fine here there
    (here.within number absent work)
      (there.within (number + past.length) absentThere workThere) := by
  obtain ⟨later, runs, paired⟩ := adrift.runs
  rcases found_adrift past here.runs later paired number with ⟨run, other, found, foundThere, own⟩ | ⟨nobody, nobodyThere⟩
  · rw [← runs] at foundThere
    obtain ⟨fineResult, same, fits⟩ := carries (here.lend run) (lend_fits adrift.toAkin early run own.steady)
    have lent := lend_adrift adrift.toAkin adrift.appeals clock run other own
    rw [← lent] at same fineResult
    rw [within_found here number absent work run found, within_found there (number + past.length) absentThere workThere other
      foundThere]
    refine ⟨fineResult, ?_, ?_, rfl, rfl, ?_⟩
    · have taken := modify_adrift here.runs later paired number
        (fun own => { own with cell := { (work (here.lend run)).2 with outbox := [] } })
        (fun own => { own with cell := { drift.cell (work (here.lend run)).2 with outbox := [] } })
        fun one two pair => taken_adrift one two pair _ fits
      refine { adrift with hook := ?_, issued := ?_, base := fits.issued, runs := ?_, appeals := ?_ }
      · show (workThere (there.lend other)).2.hook = _
        rw [same]
        rfl
      · show (workThere (there.lend other)).2.issued = _
        rw [same]
        rfl
      · refine ⟨_, ?_, taken⟩
        rw [same]
        show there.runs.modify _ _ = _
        rw [runs]
        exact modify_later past later number _
      · show (workThere (there.lend other)).2.appeals = _
        rw [same]
        rfl
    · rw [same]
      show ((work (here.lend run)).2.outbox.map drift.effect).map _ = ((work (here.lend run)).2.outbox.map _).map _
      rw [List.map_map, List.map_map]
      refine List.map_congr_left fun asked member => ?_
      exact effect_request start begins past.length number asked fun sent is => fits.signals sent (is ▸ member)
    · intro job member
      obtain ⟨asked, -, is⟩ := List.mem_map.mp member
      cases asked <;> cases is
      · trivial
      · trivial
  · rw [← runs] at nobodyThere
    simp only [within, nobody, nobodyThere]
    exact ⟨missing, adrift, rfl, rfl, rfl, by simp⟩

end Session

end Workcell
