import Workcell.Proofs.Session.Operating
import Workcell.Proofs.Session.Running

/-!
The live runs of a session: those that have neither finished nor been cancelled.

Only a start brings a live run up, and it makes it the active one. Whatever else happens, runs only cease to be live.
-/

set_option autoImplicit false

namespace Workcell

variable {R A : Type}

-- The run has not finished, and it has not been cancelled.
def SessionRun.isLive (run : SessionRun R) : Bool := !run.finished && !run.cell.cancelled

namespace Session

def isLive (number : Nat) (session : Session R A) : Bool := (session.runs[number]?).any SessionRun.isLive

structure Calm (before after : Session R A) : Prop where
  active : after.active = before.active
  length : after.runs.length = before.runs.length
  live : ∀ number, after.isLive number = true → before.isLive number = true

theorem Calm.refl (session : Session R A) : Calm session session := ⟨rfl, rfl, fun _ live => live⟩

theorem Calm.trans {before between after : Session R A} (first : Calm before between) (second : Calm between after) :
    Calm before after where
  active := second.active.trans first.active
  length := second.length.trans first.length
  live number live := first.live number (second.live number live)

-- Sessions that differ in anything but their runs and the active one.
theorem Calm.of_same {before after : Session R A} (active : after.active = before.active)
    (runs : after.runs = before.runs) : Calm before after where
  active := active
  length := congrArg List.length runs
  live number live := by
    unfold isLive at live ⊢
    rwa [runs] at live

theorem note_calm (number : Nat) (change : SessionRun R → SessionRun R) (session : Session R A)
    (tame : ∀ run, session.runs[number]? = some run → (change run).isLive = true → run.isLive = true) :
    Calm session (session.note number change) where
  active := rfl
  length := List.length_modify ..
  live place live := by
    unfold isLive at live ⊢
    simp only [note, List.getElem?_modify] at live
    cases found : session.runs[place]? with
    | none =>
        rw [found] at live
        cases live
    | some run =>
        rw [found] at live
        by_cases same : number = place
        · subst place
          simp only [if_pos] at live
          exact tame run found live
        · simp only [if_neg same] at live
          exact live

theorem take_calm (number : Nat) (cell : Cell R) (session : Session R A)
    (lasting : ∀ run, session.runs[number]? = some run → run.cell.cancelled = true → cell.cancelled = true) :
    Calm session (session.take number cell) := by
  have asked : Calm session { session with issued := cell.issued, hook := cell.hook, appeals := cell.appeals } :=
    .of_same rfl rfl
  refine asked.trans (note_calm number _ _ fun run found live => ?_)
  obtain ⟨unfinished, uncut⟩ := Bool.and_eq_true_iff.mp live
  cases cut : run.cell.cancelled with
  | false => simpa [SessionRun.isLive, cut] using unfinished
  | true =>
      have lasts := lasting run found cut
      simp [lasts] at uncut

-- Every live run is the active one, or it has been displaced.
structure Tended (displaced : List Nat) (session : Session R A) : Prop where
  active : ∀ number, session.active = some number → number < session.runs.length
  live : ∀ number, session.isLive number = true → session.active = some number ∨ number ∈ displaced

variable {displaced : List Nat} {session : Session R A}

theorem Tended.calm (tended : session.Tended displaced) {next : Session R A} (calm : Calm session next) :
    next.Tended displaced where
  active number active := by
    rw [calm.length]
    exact tended.active number (calm.active ▸ active)
  live number live := by
    rw [calm.active]
    exact tended.live number (calm.live number live)

theorem Tended.more (tended : session.Tended displaced) (others : List Nat) : session.Tended (displaced ++ others) where
  active := tended.active
  live number live := (tended.live number live).imp_right fun member => List.mem_append_left others member

variable [Scalar R]

theorem within_calm {B : Type} (number : Nat) (absent : B) (work : Cell R → B × Cell R) (session : Session R A)
    (lasting : ∀ cell, cell.cancelled = true → (work cell).2.cancelled = true) :
    Calm session (session.within number absent work).2.1 := by
  unfold within
  cases found : session.runs[number]? with
  | none => exact .refl session
  | some run =>
      refine take_calm number _ session fun other there cut => lasting (session.lend run) ?_
      cases found.symm.trans there
      exact cut

-- A start begins a run and makes it the active one, or it is refused and no run is touched.
theorem begin_cases (scenario : String) (session : Session R A) :
    (∃ run flow, session.begin scenario = (.ok (),
      { session with runs := session.runs ++ [run], active := some session.runs.length },
      [.begin (.drive session.runs.length (.fresh flow))])) ∨
    ∃ failure next, session.begin scenario = (.error failure, next, []) ∧ Calm session next := by
  unfold begin
  cases Scenario.build session.catalog scenario session.machine with
  | error failure =>
      right
      cases failure with
      | fault fault => exact ⟨_, _, rfl, .of_same rfl rfl⟩
      | panic message => exact ⟨_, _, rfl, .refl session⟩
  | ok flow =>
      rcases materializeAll session.newCell with ⟨outcome, cell⟩
      cases outcome with
      | ok done => exact Or.inl ⟨_, flow, rfl⟩
      | error failure =>
          right
          cases failure with
          | fault fault => exact ⟨_, _, rfl, .of_same rfl rfl⟩
          | panic message => exact ⟨_, _, rfl, .refl session⟩

-- The run that a start puts another one in place of without having stopped it.
def displacedBy (scenario : String) (session : Session R A) : List Nat :=
  match (session.begin scenario).1 with
  | .ok () => session.active.toList
  | .error _ => []

theorem displaced_by_none (scenario : String) (session : Session R A) (inactive : session.active = none) :
    session.displacedBy scenario = [] := by
  unfold displacedBy
  split
  · rw [inactive]
    rfl
  · rfl

theorem Tended.begin (tended : session.Tended displaced) (scenario : String) :
    (session.begin scenario).2.1.Tended (displaced ++ session.displacedBy scenario) := by
  unfold displacedBy
  rcases session.begin_cases scenario with ⟨run, flow, began⟩ | ⟨failure, next, refused, calm⟩
  · rw [began]
    refine ⟨fun number active => ?_, fun number live => ?_⟩
    · cases active
      simp
    · -- Runs are numbered in order, so the new one has the number that was free.
      by_cases early : number < session.runs.length
      · have before : session.isLive number = true := by
          simpa only [isLive, List.getElem?_append_left early] using live
        right
        rcases tended.live number before with active | member
        · simp [active]
        · exact List.mem_append_left _ member
      · left
        have inside : number < (session.runs ++ [run]).length := by
          apply Classical.byContradiction
          intro outside
          rw [isLive, List.getElem?_eq_none (Nat.le_of_not_lt outside)] at live
          cases live
        rw [List.length_append, List.length_singleton] at inside
        have last : number = session.runs.length := by omega
        rw [last]
  · rw [refused]
    exact (tended.calm calm).more []

theorem not_live_once_cancelled (number : Nat) (session : Session R A) :
    (session.within number () fun cell => ((), cell.cancel)).2.1.isLive number = false := by
  unfold within
  cases found : session.runs[number]? with
  | none => simp [isLive, found]
  | some run =>
      have cut : (session.lend run).cancel.cancelled = true := (cancel_beside _).2
      simp [isLive, take, note, found, SessionRun.isLive, cut]

-- A stop leaves no run active, and the run that was is live no more.
theorem Tended.halted (tended : session.Tended displaced) :
    session.beginStop.2.1.Tended displaced ∧ session.beginStop.2.1.active = none ∧
      ∀ number, session.beginStop.2.1.isLive number = true → number ∈ displaced := by
  unfold beginStop
  cases active : session.active with
  | none =>
      refine ⟨tended, active, fun number live => ?_⟩
      rcases tended.live number live with isActive | member
      · cases active.symm.trans isActive
      · exact member
  | some run =>
      have calm := within_calm run () (fun cell => ((), cell.cancel)) { session with active := none }
        fun cell _ => (cancel_beside cell).2
      have displacedOnly : ∀ number,
          (({ session with active := none } : Session R A).within run () fun cell => ((), cell.cancel)).2.1.isLive number =
            true → number ∈ displaced := by
        intro number live
        have before : session.isLive number = true := calm.live number live
        rcases tended.live number before with isActive | member
        · cases active.symm.trans isActive
          rw [not_live_once_cancelled] at live
          cases live
        · exact member
      refine ⟨⟨fun number isActive => ?_, fun number live => Or.inr (displacedOnly number live)⟩, calm.active, displacedOnly⟩
      rw [calm.active] at isActive
      cases isActive

end Session

end Workcell
