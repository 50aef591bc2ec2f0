import Workcell.Proofs.Twin.Blind

/-!
Runs that look alike and stay so, whatever happens between their turns: they wait in the same places, do the same to
the cell and come to the same outcomes. Only of the traces that are not kept they may leave different ones.

What a run will look like is told for so many turns ahead. Sequences are binds, so what holds of them follows from
what holds of bind: it is a congruence, it is associative, and to go on with nothing adds nothing.
-/

set_option autoImplicit false

namespace Workcell

variable {R : Type}

def Cell.Near (kept : Trace → Bool) : Cell R → Cell R → Prop :=
  Cell.Twinned fun traces appeals traces' appeals' =>
    traces'.capacity = traces.capacity ∧ traces'.sent.filter kept = traces.sent.filter kept ∧ appeals' = appeals

namespace Cell.Near

variable {kept : Trace → Bool} {cell copy other : Cell R}

theorem refl (cell : Cell R) : Near kept cell cell := ⟨cell.traces, cell.appeals, rfl, rfl, rfl, rfl⟩

theorem symm (near : Near kept cell copy) : Near kept copy cell := by
  obtain ⟨traces, appeals, rfl, capacity, same, asked⟩ := near
  exact ⟨cell.traces, cell.appeals, rfl, capacity.symm, same.symm, asked.symm⟩

theorem trans (near : Near kept cell copy) (next : Near kept copy other) : Near kept cell other := by
  obtain ⟨traces, appeals, rfl, capacity, same, asked⟩ := near
  obtain ⟨more, others, rfl, capacityNext, sameNext, askedNext⟩ := next
  exact ⟨more, others, rfl, capacityNext.trans capacity, sameNext.trans same, askedNext.trans asked⟩

theorem cancelled (near : Near kept cell copy) : copy.cancelled = cell.cancelled := by
  obtain ⟨traces, appeals, rfl, -⟩ := near
  rfl

-- A trace that is not kept makes no difference.
theorem trace (step : Step R) (status : TraceStatus) (number : Nat)
    (dropped : kept ⟨step.name, step.device, status, number⟩ = false) (cell : Cell R) :
    Near kept cell (cell.trace step status number) := by
  refine ⟨_, _, rfl, rfl, ?_, rfl⟩
  simp [dropped]

end Cell.Near

inductive Progress.Likewise (related : Run R → Run R → Prop) : Progress R → Progress R → Prop where
  | done (value : Value R) : Likewise related (.done value) (.done value)
  | fault (fault : Fault) : Likewise related (.fault fault) (.fault fault)
  | panicked (message : Option String) : Likewise related (.panicked message) (.panicked message)
  | pending (run other : Run R) (alike : related run other) : Likewise related (.pending run) (.pending other)

namespace Progress.Likewise

variable {related next both : Run R → Run R → Prop} {progress other last : Progress R}

theorem symm (flips : ∀ run other, related run other → next other run) (alike : Likewise related progress other) :
    Likewise next other progress := by
  cases alike with
  | done value => exact .done value
  | fault fault => exact .fault fault
  | panicked message => exact .panicked message
  | pending run other alike => exact .pending other run (flips run other alike)

theorem trans (joins : ∀ run other last, related run other → next other last → both run last)
    (first : Likewise related progress other) (second : Likewise next other last) : Likewise both progress last := by
  cases first with
  | done value =>
      cases second
      exact .done value
  | fault fault =>
      cases second
      exact .fault fault
  | panicked message =>
      cases second
      exact .panicked message
  | pending run other alike =>
      cases second with
      | pending _ last still => exact .pending run last (joins run other last alike still)

end Progress.Likewise

def Poll.Likewise (kept : Trace → Bool) (related : Run R → Run R → Prop) (poll other : Poll R) : Prop :=
  ∀ cell copy, Cell.Near kept cell copy →
    Progress.Likewise related (poll cell).1 (other copy).1 ∧ Cell.Near kept (poll cell).2 (other copy).2

def Poll.Steady (kept : Trace → Bool) (poll : Poll R) : Prop :=
  Poll.Twin (fun _ name => name) (Cell.Near kept) poll poll

theorem Poll.likewise_of_steady {kept : Trace → Bool} (related : Run R → Run R → Prop) (poll : Poll R)
    (refl : ∀ run, related run run) (steady : poll.Steady kept) : poll.Likewise kept related poll := by
  intro cell copy near
  obtain ⟨same, after⟩ := steady cell copy near
  rw [renamed_progress_same] at same
  rw [same]
  refine ⟨?_, after⟩
  cases (poll cell).1 with
  | done value => exact .done value
  | fault fault => exact .fault fault
  | panicked message => exact .panicked message
  | pending run => exact .pending run run (refl run)

variable [Scalar R]

theorem near_twins {handlers : HandlerTable R} (blind : handlers.Blind) (kept : Trace → Bool) :
    Twins handlers (fun _ name => name) (Cell.Near kept) := by
  refine twinned_twins handlers blind _ _ ?_ ?_
  · rintro traces appeals others asked ⟨capacity, same, rfl⟩ step status number
    exact ⟨capacity, by simp [List.filter_append, same], rfl⟩
  · rintro traces appeals others asked ⟨capacity, same, rfl⟩ step fault
    exact ⟨capacity, same, rfl⟩

theorem start_steady {handlers : HandlerTable R} (blind : handlers.Blind) (kept : Trace → Bool) (step : Step R) :
    (step.start handlers).Steady kept := by
  have twin := start_twin (near_twins blind kept) step
  rw [renamed_same] at twin
  exact twin

theorem follow_steady {handlers : HandlerTable R} (blind : handlers.Blind) (kept : Trace → Bool)
    (next : Except (Option String) (Step R)) : (Step.follow handlers next).Steady kept := by
  have twin := follow_twin (near_twins blind kept) next
  rw [renamed_next_same] at twin
  exact twin

theorem resume_steady {handlers : HandlerTable R} (blind : handlers.Blind) (kept : Trace → Bool) (run : Run R) :
    (run.resume handlers).Steady kept := by
  have twin := resume_twin (near_twins blind kept) run
  rw [renamed_run_same] at twin
  exact twin

def Run.Alike (handlers : HandlerTable R) (kept : Trace → Bool) : Nat → Run R → Run R → Prop
  | 0, run, other => run.leaves = other.leaves
  | turns + 1, run, other =>
      run.leaves = other.leaves ∧
        ∀ keys, Poll.Likewise kept (Run.Alike handlers kept turns) ((run.wake keys).resume handlers)
          ((other.wake keys).resume handlers)

-- Polls that nobody can tell apart, however many turns follow.
def Poll.Same (handlers : HandlerTable R) (kept : Trace → Bool) (poll other : Poll R) : Prop :=
  ∀ turns, Poll.Likewise kept (Run.Alike handlers kept turns) poll other

variable {handlers : HandlerTable R} {kept : Trace → Bool}

namespace Run.Alike

theorem leaves {turns : Nat} {run other : Run R} (alike : Run.Alike handlers kept turns run other) :
    run.leaves = other.leaves := by
  cases turns with
  | zero => exact alike
  | succ turns => exact alike.1

theorem symm {turns : Nat} {run other : Run R} (alike : Run.Alike handlers kept turns run other) :
    Run.Alike handlers kept turns other run := by
  induction turns generalizing run other with
  | zero => exact Eq.symm alike
  | succ turns ih =>
      refine ⟨alike.leaves.symm, fun keys cell copy near => ?_⟩
      obtain ⟨likewise, after⟩ := alike.2 keys copy cell near.symm
      exact ⟨likewise.symm fun _ _ => ih, after.symm⟩

theorem trans {turns : Nat} {run other last : Run R} (first : Run.Alike handlers kept turns run other)
    (second : Run.Alike handlers kept turns other last) : Run.Alike handlers kept turns run last := by
  induction turns generalizing run other last with
  | zero => exact Eq.trans first second
  | succ turns ih =>
      have joins : ∀ run other last : Run R, Run.Alike handlers kept turns run other →
          Run.Alike handlers kept turns other last → Run.Alike handlers kept turns run last :=
        fun _ _ _ early late => ih early late
      refine ⟨first.leaves.trans second.leaves, fun keys cell copy near => ?_⟩
      -- The run in the middle is taken in the copy, beside the last one in that copy too.
      obtain ⟨likewise, after⟩ := first.2 keys cell copy near
      obtain ⟨still, later⟩ := second.2 keys copy copy (.refl copy)
      exact ⟨likewise.trans joins still, after.trans later⟩

-- What is left of a run looks like itself in a cell that is near.
theorem refl (blind : handlers.Blind) (turns : Nat) (run : Run R) : Run.Alike handlers kept turns run run := by
  induction turns generalizing run with
  | zero => rfl
  | succ turns ih => exact ⟨rfl, fun keys => Poll.likewise_of_steady _ _ ih (resume_steady blind kept _)⟩

end Run.Alike

namespace Poll.Same

variable {poll other last : Poll R}

theorem symm (same : Poll.Same handlers kept poll other) : Poll.Same handlers kept other poll := by
  intro turns cell copy near
  obtain ⟨likewise, after⟩ := same turns copy cell near.symm
  exact ⟨likewise.symm fun _ _ => Run.Alike.symm, after.symm⟩

theorem trans (first : Poll.Same handlers kept poll other) (second : Poll.Same handlers kept other last) :
    Poll.Same handlers kept poll last := by
  intro turns cell copy near
  obtain ⟨likewise, after⟩ := first turns cell copy near
  obtain ⟨still, later⟩ := second turns copy copy (.refl copy)
  exact ⟨likewise.trans (fun _ _ _ early late => early.trans late) still, after.trans later⟩

theorem refl (blind : handlers.Blind) (steady : Poll.Steady kept poll) : Poll.Same handlers kept poll poll :=
  fun turns => Poll.likewise_of_steady _ _ (Run.Alike.refl blind turns) steady

end Poll.Same

end Workcell
