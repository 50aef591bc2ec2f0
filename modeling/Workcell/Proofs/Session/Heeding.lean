import Workcell.Proofs.Cancellation.Finality
import Workcell.Proofs.Session.Standing

/-!
What a turn of each job of a session does to the live runs, with any number of operators at work and any handlers.

A start that has waited for the end of a run finds a slot that others may have filled in the meantime: this is the one
turn in which a live run is displaced.
-/

set_option autoImplicit false

namespace Workcell

variable {R A : Type}

def Stopping.givesStart : Stopping A → Bool
  | .start _ _ => true
  | .stop _ => false

def SessionPause.givesStart : SessionPause A → Bool
  | .stopping _ next => next.givesStart
  | _ => false

namespace SessionInstruction

def givesStart : SessionInstruction R A → Bool
  | .start _ _ => true
  | _ => false

def isOrder : SessionInstruction R A → Bool
  | .act _ => false
  | _ => true

end SessionInstruction

def Task.Fit : Task R → Prop
  | .fresh _ => True
  | .running run => run.Fit (fun _ => True) (fun _ => True)

namespace SessionJob

def givesStart : SessionJob R A → Bool
  | .operator pause script => pause.givesStart || script.any SessionInstruction.givesStart
  | _ => false

def waitsToStart : SessionJob R A → Bool
  | .operator pause _ => pause.givesStart
  | _ => false

def Sound : SessionJob R A → Prop
  | .operator _ script => ∀ instruction ∈ script, instruction.isOrder = true
  | .drive _ task => task.Fit
  | _ => True

structure Tame (job : SessionJob R A) : Prop where
  sound : job.Sound
  noStart : job.givesStart = false

theorem tame_of_none : ∀ job ∈ (none : Option (SessionJob R A)), job.Tame := fun _ member =>
  absurd member (Option.not_mem_none _)

theorem tame_of_nothing : ∀ job ∈ Request.begun ([] : List (Request (SessionJob R A))), job.Tame :=
  List.forall_mem_nil _

theorem tame_of_append (asked more : List (Request (SessionJob R A))) (first : ∀ job ∈ Request.begun asked, job.Tame)
    (later : ∀ job ∈ Request.begun more, job.Tame) : ∀ job ∈ Request.begun (asked ++ more), job.Tame := by
  intro job member
  rw [Request.begun_append] at member
  rcases List.mem_append.mp member with early | late
  · exact first job early
  · exact later job late

theorem tame_of_motor (job : SessionJob R A) (motor : job.isMotor = true) : job.Tame := by
  cases job with
  | motor run motor => exact ⟨trivial, rfl⟩
  | operator pause script => cases motor
  | drive run task => cases motor
  | closing run => cases motor
  | sampling run sampler timer => cases motor

end SessionJob

section

variable [Scalar R]

theorem task_stays_fit (handlers : HandlerTable R) (task left : Task R) (fit : task.Fit) (cell : Cell R)
    (goesOn : (task.poll handlers cell).1.outcome = .error left) : left.Fit := by
  have makes : task.Makes fun _ => True := by
    cases task with
    | fresh step => exact every_of_all _ (fun _ => trivial) step
    | running run => exact fit
  have stays := makes.left handlers cell goesOn
  cases left with
  | fresh step => trivial
  | running run => exact stays

-- A run that is cancelled between two turns stays cancelled, whatever the handlers are: none of them is called.
theorem task_stays_cancelled (handlers : HandlerTable R) (task : Task R) (fit : task.Fit) (cell : Cell R)
    (cut : cell.cancelled = true) : (task.poll handlers cell).2.cancelled = true := by
  cases task with
  | fresh step =>
      have isOver : (Task.fresh step).poll handlers cell = (.fault .cancelled, cell) :=
        attempted_when_cancelled step _ cell cut
      rw [isOver]
      exact cut
  | running run =>
      have unwound := (resume_unwinds handlers handlers run fit cell cut).2
      exact (Unwound.cancelled cell _ _ _ unwound).trans cut

end

namespace Session

variable [Scalar R] {displaced : List Nat} {session : Session R A}

def displacedAfter (next : Stopping A) (session : Session R A) : List Nat :=
  match next with
  | .start scenario _ => session.displacedBy scenario
  | .stop _ => []

-- Notes the runs that are displaced in a turn.
def displaces (job : SessionJob R A) (session : Session R A) (displaced : List Nat) : List Nat :=
  match job with
  | .operator (.stopping run next) _ =>
      if session.isFinished run then displaced ++ session.displacedAfter next else displaced
  | _ => displaced

structure Heeded (displaced : List Nat) (starting : Bool) (before : Session R A)
    (result : Turn A × Session R A × List (Request (SessionJob R A))) : Prop where
  tended : result.2.1.Tended displaced
  begun : ∀ job ∈ Request.begun result.2.2, job.Tame
  still : starting = false → result.2.1.active = before.active ∨ result.2.1.active = none
  waits : ∀ pause, result.1 = .waits pause → pause.givesStart = true → starting = true ∧ result.2.1.active = none

theorem Tended.after_stop (tended : session.Tended displaced) (next : Stopping A) :
    Heeded (displaced ++ session.displacedAfter next) next.givesStart session (session.afterStop next) := by
  cases next with
  | stop answer =>
      refine ⟨tended.more [], SessionJob.tame_of_nothing, fun _ => Or.inl rfl, fun pause waits => ?_⟩
      cases waits
  | start scenario answer =>
      have began := tended.begin scenario
      rcases session.begin_cases scenario with ⟨run, flow, result⟩ | ⟨failure, next, result, calm⟩
      · rw [result] at began
        simp only [afterStop, result]
        refine ⟨began, fun job member => ?_, fun free => ?_, fun pause waits => ?_⟩
        · cases List.mem_singleton.mp member
          exact ⟨trivial, rfl⟩
        · cases free
        · cases waits
      · rw [result] at began
        simp only [afterStop, result]
        cases failure with
        | fault fault =>
            refine ⟨began, SessionJob.tame_of_nothing, fun free => ?_, fun pause waits => ?_⟩
            · cases free
            · cases waits
        | panic message =>
            refine ⟨began, SessionJob.tame_of_nothing, fun free => ?_, fun pause waits => ?_⟩
            · cases free
            · cases waits

theorem within_begins {B : Type} (number : Nat) (absent : B) (work : Cell R → B × Cell R) (session : Session R A) :
    ∀ job ∈ Request.begun (session.within number absent work).2.2, job.Tame := by
  unfold within
  cases session.runs[number]? with
  | none => exact SessionJob.tame_of_nothing
  | some run => exact fun job member => job.tame_of_motor (begun_by_effects number _ job member)

theorem begin_stop_begins (session : Session R A) : ∀ job ∈ Request.begun session.beginStop.2.2, job.Tame := by
  unfold beginStop
  cases session.active with
  | none => exact SessionJob.tame_of_nothing
  | some run => exact within_begins run () _ _

theorem Tended.stop_then (tended : session.Tended displaced) (next : Bool → Stopping A) (starting : Bool)
    (same : ∀ inProgress, (next inProgress).givesStart = starting) :
    Heeded displaced starting session (session.stopThen next) := by
  obtain ⟨halted, inactive, -⟩ := tended.halted
  have begins := session.begin_stop_begins
  unfold stopThen
  rcases result : session.beginStop with ⟨stopped, after, asked⟩
  rw [result] at halted inactive begins
  cases stopped with
  | some run =>
      -- A run was in progress: the start comes only once it is over, when the slot may be filled again.
      refine ⟨halted, begins, fun _ => Or.inr inactive, fun pause waits gives => ⟨?_, inactive⟩⟩
      cases waits
      exact (same true).symm.trans gives
  | none =>
      -- Nothing was in progress: the start comes at once, and displaces nothing.
      have heeded := halted.after_stop (next false)
      have nothing : after.displacedAfter (next false) = [] := by
        unfold displacedAfter
        split
        · exact displaced_by_none _ _ inactive
        · rfl
      rw [nothing, List.append_nil, same false] at heeded
      refine ⟨heeded.tended, SessionJob.tame_of_append _ _ begins heeded.begun, fun free => Or.inr ?_, heeded.waits⟩
      rcases heeded.still free with unchanged | none
      · exact unchanged.trans inactive
      · exact none

omit [Scalar R] in
-- An order that touches neither the runs nor the active one.
theorem Tended.heeds_calm (tended : session.Tended displaced) {next : Session R A} (calm : Calm session next)
    (starting : Bool) (turn : Turn A) (noStart : ∀ pause, turn = .waits pause → pause.givesStart = false) :
    Heeded displaced starting session (turn, next, []) := by
  refine ⟨tended.calm calm, SessionJob.tame_of_nothing, fun _ => Or.inl calm.active, fun pause waits gives => ?_⟩
  exact absurd ((noStart pause waits).symm.trans gives) Bool.false_ne_true

omit [Scalar R] in
theorem Tended.answers (tended : session.Tended displaced) (answer : A) (starting : Bool) :
    Heeded displaced starting session (.answered answer, session, []) := by
  refine tended.heeds_calm (.refl session) starting _ fun pause waits => ?_
  cases waits

theorem Tended.instruct (tended : session.Tended displaced) (instruction : SessionInstruction R A)
    (order : instruction.isOrder = true) :
    Heeded displaced instruction.givesStart session (session.instruct instruction) := by
  cases instruction with
  | act work => cases order
  | start scenario answer => exact tended.stop_then (fun _ => .start scenario answer) true fun _ => rfl
  | stop answer => exact tended.stop_then (fun inProgress => .stop (answer inProgress)) false fun _ => rfl
  | sleep ms answer =>
      simp only [Session.instruct, hold]
      split
      · exact tended.answers answer _
      · have calm : Calm session { session with issued := session.issued + 1 } := .of_same rfl rfl
        refine tended.heeds_calm calm _ _ fun pause waits => ?_
        cases waits
        rfl
  | waitIdle answer =>
      simp only [Session.instruct]
      cases session.active with
      | none => exact tended.answers answer _
      | some run =>
          dsimp only
          split
          · exact tended.answers answer _
          · refine tended.heeds_calm (.refl session) _ _ fun pause waits => ?_
            cases waits
            rfl

theorem poll_proceeds (pause : SessionPause A) (script : List (SessionInstruction R A)) (turn : Turn A)
    (session after : Session R A) (asked : List (Request (SessionJob R A)))
    (resumed : session.resume pause = (some turn, after, asked)) :
    poll (.operator pause script) session = proceed script (turn, after, asked) := by
  simp only [poll, resumed]
  cases turn with
  | answered answer => rfl
  | waits pause => rfl
  | broken => rfl

structure Minded (displaced : List Nat) (starting waited : Bool) (before : Session R A)
    (result : Option (SessionJob R A) × Session R A × List (Request (SessionJob R A))) : Prop where
  tended : result.2.1.Tended displaced
  left : ∀ job ∈ result.1, job.Sound ∧ (job.givesStart = true → starting = true)
  begun : ∀ job ∈ Request.begun result.2.2, job.Tame
  still : starting = false → result.2.1.active = before.active ∨ result.2.1.active = none
  waits : ∀ job ∈ result.1, job.waitsToStart = true →
    result.2.1.active = none ∨ waited = true ∧ result.2.1.active = before.active

-- An instruction is answered and the script followed from there, or the operator waits or has broken down.
theorem Heeded.proceeds {starting : Bool} {result : Turn A × Session R A × List (Request (SessionJob R A))}
    (heeded : Heeded displaced starting session result) (script : List (SessionInstruction R A))
    (orders : ∀ instruction ∈ script, instruction.isOrder = true) (waited : Bool)
    (follows : ∀ next : Session R A, next.Tended displaced →
      Minded displaced (script.any SessionInstruction.givesStart) false next (follow script next)) :
    Minded displaced (starting || script.any SessionInstruction.givesStart) waited session (proceed script result) := by
  obtain ⟨turn, after, asked⟩ := result
  cases turn with
  | answered answer =>
      have minded := follows (after.answer answer) (heeded.tended.calm (.of_same rfl rfl))
      refine ⟨minded.tended, fun job member => ?_, SessionJob.tame_of_append _ _ heeded.begun minded.begun, fun free => ?_,
        fun job member waits => ?_⟩
      · obtain ⟨sound, gives⟩ := minded.left job member
        exact ⟨sound, fun may => by rw [gives may, Bool.or_true]⟩
      · obtain ⟨noStart, noneLater⟩ := Bool.or_eq_false_iff.mp free
        rcases minded.still noneLater with unchanged | none
        · exact (heeded.still noStart).imp unchanged.trans unchanged.trans
        · exact Or.inr none
      · rcases minded.waits job member waits with none | ⟨never, -⟩
        · exact Or.inl none
        · cases never
  | waits pause =>
      refine ⟨heeded.tended, fun job member => ?_, heeded.begun, fun free => ?_, fun job member waits => ?_⟩
      · cases member
        refine ⟨orders, fun gives => ?_⟩
        rcases Bool.or_eq_true_iff.mp gives with now | later
        · rw [(heeded.waits pause rfl now).1, Bool.true_or]
        · rw [later, Bool.or_true]
      · exact heeded.still (Bool.or_eq_false_iff.mp free).1
      · cases member
        exact Or.inl (heeded.waits pause rfl waits).2
  | broken =>
      refine ⟨heeded.tended.calm (.of_same rfl rfl), fun job member => ?_, heeded.begun, fun free => ?_,
        fun job member => ?_⟩
      · cases member
      · exact heeded.still (Bool.or_eq_false_iff.mp free).1
      · cases member

theorem Tended.follow (script : List (SessionInstruction R A))
    (orders : ∀ instruction ∈ script, instruction.isOrder = true) (session : Session R A)
    (tended : session.Tended displaced) :
    Minded displaced (script.any SessionInstruction.givesStart) false session (Session.follow script session) := by
  induction script generalizing session with
  | nil =>
      refine ⟨tended.calm (.of_same rfl rfl), fun job member => ?_, SessionJob.tame_of_nothing, fun _ => Or.inl rfl,
        fun job member => ?_⟩
      · cases member
      · cases member
  | cons instruction rest ih =>
      have heeded := tended.instruct instruction (orders instruction List.mem_cons_self)
      have later := fun other member => orders other (List.mem_cons_of_mem instruction member)
      rw [List.any_cons, follow_proceeds]
      exact heeded.proceeds rest later false fun next tended => ih later next tended

-- A turn of an operator: one that has waited for the end of a run displaces what others have started since.
theorem Tended.operate (tended : session.Tended displaced) (pause : SessionPause A)
    (script : List (SessionInstruction R A)) (orders : ∀ instruction ∈ script, instruction.isOrder = true) :
    Minded (displaces (.operator pause script) session displaced)
      (pause.givesStart || script.any SessionInstruction.givesStart) pause.givesStart session
      (poll (.operator pause script) session) := by
  have follows : ∀ displaced next, next.Tended displaced →
      Minded displaced (script.any SessionInstruction.givesStart) false next (Session.follow script next) :=
    fun displaced next tended => tended.follow script orders next
  have answers : ∀ turn : Turn A, (∀ other, turn = .waits other → other.givesStart = false) →
      Minded displaced (false || script.any SessionInstruction.givesStart) false session
        (proceed script (turn, session, [])) := fun turn noStart =>
    (tended.heeds_calm (.refl session) false turn noStart).proceeds script orders false (follows displaced)
  cases pause with
  | ready => exact follows displaced session tended
  | sleeping timer answer =>
      rw [poll_proceeds _ script _ _ _ _ rfl]
      refine answers _ fun other waits => ?_
      split at waits
      · cases waits
      · cases waits
        rfl
  | idle run answer =>
      rw [poll_proceeds _ script _ _ _ _ rfl]
      refine answers _ fun other waits => ?_
      split at waits
      · cases waits
      · cases waits
        rfl
  | stopping run next =>
      by_cases isOver : session.isFinished run = true
      · have resumed : session.resume (.stopping run next) =
            (some (session.afterStop next).1, (session.afterStop next).2) := by simp only [Session.resume, if_pos isOver]
        rw [poll_proceeds _ script _ _ _ _ resumed]
        simp only [displaces, if_pos isOver]
        exact (tended.after_stop next).proceeds script orders next.givesStart (follows _)
      · have resumed : session.resume (.stopping run next) = (some (.waits (.stopping run next)), session, []) := by
          simp only [Session.resume, if_neg isOver]
        rw [poll_proceeds _ script _ _ _ _ resumed]
        simp only [displaces, if_neg isOver]
        refine ⟨tended, fun job member => ?_, SessionJob.tame_of_nothing, fun _ => Or.inl rfl, fun job member waits => ?_⟩
        · cases member
          exact ⟨orders, fun gives => gives⟩
        · cases member
          exact Or.inr ⟨waits, rfl⟩

end Session

end Workcell
