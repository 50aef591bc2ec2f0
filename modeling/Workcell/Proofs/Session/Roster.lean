import Mathlib.Data.List.Perm.Basic
import Workcell.Proofs.Schedule.Law
import Workcell.Session

/-!
Who is at work in a session: at most one operator, one job that drives a run to its end, and one that samples it;
besides them only motors.
-/

set_option autoImplicit false

namespace Workcell

variable {R A : Type}

namespace SessionJob

def operator? : SessionJob R A → Option (SessionPause A × List (SessionInstruction R A))
  | .operator pause script => some (pause, script)
  | _ => none

def driver? : SessionJob R A → Option (Nat × Option (Task R))
  | .drive run task => some (run, some task)
  | .closing run => some (run, none)
  | _ => none

def sampler? : SessionJob R A → Option (Nat × Sampler R)
  | .sampling run sampler _ => some (run, sampler)
  | _ => none

def isMotor : SessionJob R A → Bool
  | .motor _ _ => true
  | _ => false

end SessionJob

structure Roster (jobs : List (SessionJob R A)) (operator : Option (SessionPause A × List (SessionInstruction R A)))
    (driver : Option (Nat × Option (Task R))) (sampler : Option (Nat × Sampler R)) : Prop where
  operator : jobs.filterMap SessionJob.operator? = operator.toList
  driver : jobs.filterMap SessionJob.driver? = driver.toList
  sampler : jobs.filterMap SessionJob.sampler? = sampler.toList

theorem single_perm {J B : Type} {jobs others : List J} (post : J → Option B) (holder : Option B)
    (perm : jobs.Perm others) (held : jobs.filterMap post = holder.toList) : others.filterMap post = holder.toList := by
  have moved := perm.filterMap post
  rw [held] at moved
  cases holder with
  | none => exact moved.nil_eq.symm
  | some holder => exact List.singleton_perm.mp moved |>.symm

theorem begun_by_effects (number : Nat) (effects : List (Effect R)) [Scalar R] :
    ∀ job ∈ Request.begun (effects.map (Effect.request (SessionJob.motor (R := R) (A := A) number))),
      job.isMotor = true := by
  induction effects with
  | nil => exact fun _ member => nomatch member
  | cons effect rest ih =>
      cases effect with
      | motion handle way =>
          intro job member
          rcases List.mem_cons.mp member with rfl | later
          · rfl
          · exact ih job later
      | stroke handle way =>
          intro job member
          rcases List.mem_cons.mp member with rfl | later
          · rfl
          · exact ih job later
      | signal sent => exact ih
      | again key => exact ih
      | rest key => exact ih

namespace Roster

variable {jobs others : List (SessionJob R A)} {operator : Option (SessionPause A × List (SessionInstruction R A))}
  {driver : Option (Nat × Option (Task R))} {sampler : Option (Nat × Sampler R)}

theorem perm (roster : Roster jobs operator driver sampler) (perm : jobs.Perm others) :
    Roster others operator driver sampler :=
  ⟨single_perm _ _ perm roster.operator, single_perm _ _ perm roster.driver, single_perm _ _ perm roster.sampler⟩

theorem motor_iff (job : SessionJob R A) (motor : job.isMotor = true) :
    Roster (job :: jobs) operator driver sampler ↔ Roster jobs operator driver sampler := by
  cases job with
  | motor run motor => exact ⟨fun roster => ⟨roster.1, roster.2, roster.3⟩, fun roster => ⟨roster.1, roster.2, roster.3⟩⟩
  | operator pause script => cases motor
  | drive run task => cases motor
  | closing run => cases motor
  | sampling run sampler timer => cases motor

theorem operator_iff (pause : SessionPause A) (script : List (SessionInstruction R A)) :
    Roster (.operator pause script :: jobs) operator driver sampler ↔
      operator = some (pause, script) ∧ Roster jobs none driver sampler := by
  constructor
  · intro roster
    have held := roster.operator
    cases operator with
    | none => cases held
    | some holder =>
        obtain ⟨same, none⟩ := List.cons.inj held
        exact ⟨congrArg some same.symm, none, roster.driver, roster.sampler⟩
  · rintro ⟨rfl, roster⟩
    exact ⟨congrArg ((pause, script) :: ·) roster.operator, roster.driver, roster.sampler⟩

theorem driver_iff (job : SessionJob R A) (work : Nat × Option (Task R)) (drives : job.driver? = some work) :
    Roster (job :: jobs) operator driver sampler ↔ driver = some work ∧ Roster jobs operator none sampler := by
  have first : (job :: jobs).filterMap SessionJob.driver? = work :: jobs.filterMap SessionJob.driver? :=
    List.filterMap_cons_some drives
  have only : job.operator? = none ∧ job.sampler? = none := by
    cases job with
    | motor run motor => cases drives
    | operator pause script => cases drives
    | drive run task => exact ⟨rfl, rfl⟩
    | closing run => exact ⟨rfl, rfl⟩
    | sampling run sampler timer => cases drives
  have noOperator := List.filterMap_cons_none (l := jobs) only.1
  have noSampler := List.filterMap_cons_none (l := jobs) only.2
  constructor
  · intro roster
    have held := first.symm.trans roster.driver
    cases driver with
    | none => cases held
    | some holder =>
        obtain ⟨same, none⟩ := List.cons.inj held
        exact ⟨congrArg some same.symm, noOperator.symm.trans roster.operator, none, noSampler.symm.trans roster.sampler⟩
  · rintro ⟨rfl, roster⟩
    exact ⟨noOperator.trans roster.operator, first.trans (congrArg (work :: ·) roster.driver),
      noSampler.trans roster.sampler⟩

theorem sampler_iff (run : Nat) (taking : Sampler R) (timer : Option Timer) :
    Roster (.sampling run taking timer :: jobs) operator driver sampler ↔
      sampler = some (run, taking) ∧ Roster jobs operator driver none := by
  constructor
  · intro roster
    have held := roster.sampler
    cases sampler with
    | none => cases held
    | some holder =>
        obtain ⟨same, none⟩ := List.cons.inj held
        exact ⟨congrArg some same.symm, roster.operator, roster.driver, none⟩
  · rintro ⟨rfl, roster⟩
    exact ⟨roster.operator, roster.driver, congrArg ((run, taking) :: ·) roster.sampler⟩

theorem motors_iff (motors : List (SessionJob R A)) (all : ∀ job ∈ motors, job.isMotor = true) :
    Roster (jobs ++ motors) operator driver sampler ↔ Roster jobs operator driver sampler := by
  have moved : (motors ++ jobs).Perm (jobs ++ motors) := List.perm_append_comm
  have inFront : Roster (motors ++ jobs) operator driver sampler ↔ Roster jobs operator driver sampler := by
    induction motors with
    | nil => exact Iff.rfl
    | cons motor rest ih =>
        have rest := ih (fun job member => all job (List.mem_cons_of_mem _ member)) List.perm_append_comm
        exact (motor_iff motor (all motor List.mem_cons_self)).trans rest
  exact ⟨fun roster => inFront.mp (roster.perm moved.symm), fun roster => (inFront.mpr roster).perm moved⟩

end Roster

end Workcell
