import Workcell.Proofs.Sequencing.Alike

/-!
The laws of bind, up to what nobody can tell apart: to go on after something, to go on after that, and to go on with
nothing. A composite node with the default policy adds traces of its own and nothing else.
-/

set_option autoImplicit false

namespace Workcell

variable {R : Type} [Scalar R] {handlers : HandlerTable R} {kept : Trace → Bool}

structure Holder (handlers : HandlerTable R) (hold : Run R → Run R) (next : Value R → Poll R) : Prop where
  leaves : ∀ run, (hold run).leaves = run.leaves
  touch : ∀ key run, (hold run).touch key = hold (run.touch key)
  resume : ∀ run, (hold run).resume handlers = (run.resume handlers).bind hold next

namespace Holder

omit [Scalar R] in
theorem wake (hold : Run R → Run R) (touch : ∀ key run, (hold run).touch key = hold (run.touch key)) (keys : List Nat)
    (run : Run R) : (hold run).wake keys = hold (run.wake keys) := by
  induction keys generalizing run with
  | nil => rfl
  | cons key rest ih =>
      simp only [Run.wake, List.foldl_cons, touch] at ih ⊢
      exact ih (run.touch key)

theorem bound (next : Value R → Except (Option String) (Step R)) (select : Option (Value R → Value R → Value R)) :
    Holder handlers (fun run => .bound run next select) fun value =>
      Poll.select (Step.follow handlers (next value)) value select where
  leaves _ := rfl
  touch _ _ := rfl
  resume _ := rfl

theorem mapped (transform : Value R → Value R) :
    Holder handlers (fun run => .mapped run transform) fun value => Poll.done (transform value) where
  leaves _ := rfl
  touch _ _ := rfl
  resume _ := rfl

theorem repeated (inner : Step R) (left : Option Nat) :
    Holder handlers (fun run => .repeated run inner left) (Poll.further (inner.start handlers) inner left) where
  leaves _ := rfl
  touch _ _ := rfl
  resume _ := rfl

end Holder

namespace Poll

-- Runs held alike, if they are resumed alike: the leaves and the keys that have been woken are those of the run.
theorem held_alike (hold other : Run R → Run R) (leaves : ∀ run, (hold run).leaves = run.leaves)
    (otherLeaves : ∀ run, (other run).leaves = run.leaves)
    (touch : ∀ key run, (hold run).touch key = hold (run.touch key))
    (otherTouch : ∀ key run, (other run).touch key = other (run.touch key)) (turns : Nat) (run left : Run R)
    (alike : Run.Alike handlers kept (turns + 1) run left)
    (resumed : ∀ keys, Poll.Likewise kept (Run.Alike handlers kept turns) ((hold (run.wake keys)).resume handlers)
      ((other (left.wake keys)).resume handlers)) :
    Run.Alike handlers kept (turns + 1) (hold run) (other left) := by
  refine ⟨by rw [leaves, otherLeaves, alike.leaves], fun keys => ?_⟩
  rw [Holder.wake hold touch, Holder.wake other otherTouch]
  exact resumed keys

section

variable {hold other : Run R → Run R} {next after : Value R → Poll R}

omit [Scalar R] in
theorem bind_likewise (related : Run R → Run R → Prop) (poll copy : Poll R)
    (first : poll.Likewise kept related copy) (holds : ∀ run left, related run left → related (hold run) (other left))
    (second : ∀ value, (next value).Likewise kept related (after value)) :
    (poll.bind hold next).Likewise kept related (copy.bind other after) := by
  intro cell twin near
  obtain ⟨same, later⟩ := first cell twin near
  unfold Poll.bind
  rcases result : poll cell with ⟨progress, left⟩
  rcases resultCopy : copy twin with ⟨progressCopy, leftCopy⟩
  rw [result, resultCopy] at same later
  cases same with
  | done value => exact second value left leftCopy later
  | fault fault => exact ⟨.fault fault, later⟩
  | panicked message => exact ⟨.panicked message, later⟩
  | pending run rest alike => exact ⟨.pending _ _ (holds run rest alike), later⟩

theorem held_congr (holder : Holder handlers hold next) (otherHolder : Holder handlers other after)
    (same : ∀ value, Poll.Same handlers kept (next value) (after value)) (turns : Nat) (run left : Run R)
    (alike : Run.Alike handlers kept turns run left) : Run.Alike handlers kept turns (hold run) (other left) := by
  induction turns generalizing run left with
  | zero => exact (holder.leaves run).trans ((Run.Alike.leaves alike).trans (otherHolder.leaves left).symm)
  -- A held run is resumed as a bind once more, so one turn more is the law of bind for the turns before.
  | succ turns ih =>
      refine held_alike hold other holder.leaves otherHolder.leaves holder.touch otherHolder.touch turns run left alike
        fun keys => ?_
      rw [holder.resume, otherHolder.resume]
      exact bind_likewise _ _ _ (alike.2 keys) ih fun value => same value turns

-- Whoever goes on alike after the same does the same.
theorem bind_congr (holder : Holder handlers hold next) (otherHolder : Holder handlers other after) (poll copy : Poll R)
    (first : Poll.Same handlers kept poll copy) (second : ∀ value, Poll.Same handlers kept (next value) (after value)) :
    Poll.Same handlers kept (poll.bind hold next) (copy.bind other after) :=
  fun turns => bind_likewise _ _ _ (first turns) (held_congr holder otherHolder second turns)
    fun value => second value turns

end

section

variable {inner outer whole : Run R → Run R} {second third both : Value R → Poll R}

omit [Scalar R] in
theorem assoc_likewise (related : Run R → Run R → Prop) (poll : Poll R) (steady : poll.Steady kept)
    (holds : ∀ run, related (outer (inner run)) (whole run))
    (next : ∀ value, ((second value).bind outer third).Likewise kept related (both value)) :
    ((poll.bind inner second).bind outer third).Likewise kept related (poll.bind whole both) := by
  intro cell copy near
  obtain ⟨same, later⟩ := steady cell copy near
  rw [renamed_progress_same] at same
  rcases result : poll cell with ⟨progress, left⟩
  rcases resultCopy : poll copy with ⟨progressCopy, leftCopy⟩
  rw [result, resultCopy] at same later
  cases same
  cases progress with
  | done value =>
      have goes := next value left leftCopy later
      simpa only [Poll.bind, result, resultCopy] using goes
  | fault fault => simpa only [Poll.bind, result, resultCopy] using ⟨.fault fault, later⟩
  | panicked message => simpa only [Poll.bind, result, resultCopy] using ⟨.panicked message, later⟩
  | pending run => simpa only [Poll.bind, result, resultCopy] using ⟨.pending _ _ (holds run), later⟩

theorem held_assoc (blind : handlers.Blind) (innerHolder : Holder handlers inner second)
    (outerHolder : Holder handlers outer third) (wholeHolder : Holder handlers whole both)
    (same : ∀ value, Poll.Same handlers kept ((second value).bind outer third) (both value)) (turns : Nat)
    (run : Run R) : Run.Alike handlers kept turns (outer (inner run)) (whole run) := by
  induction turns generalizing run with
  | zero => exact ((outerHolder.leaves _).trans (innerHolder.leaves run)).trans (wholeHolder.leaves run).symm
  | succ turns ih =>
      have leaves : ∀ run, (outer (inner run)).leaves = run.leaves := fun run =>
        (outerHolder.leaves _).trans (innerHolder.leaves run)
      have touch : ∀ key run, (outer (inner run)).touch key = outer (inner (run.touch key)) := fun key run => by
        rw [outerHolder.touch, innerHolder.touch]
      refine held_alike (fun run => outer (inner run)) whole leaves wholeHolder.leaves touch wholeHolder.touch turns run
        run (Run.Alike.refl blind _ run) fun keys => ?_
      rw [outerHolder.resume, innerHolder.resume, wholeHolder.resume]
      exact assoc_likewise _ _ (resume_steady blind kept _) ih fun value => same value turns

-- To go on twice is to go on once, with all that follows.
theorem bind_assoc (blind : handlers.Blind) (innerHolder : Holder handlers inner second)
    (outerHolder : Holder handlers outer third) (wholeHolder : Holder handlers whole both) (poll : Poll R)
    (steady : poll.Steady kept)
    (same : ∀ value, Poll.Same handlers kept ((second value).bind outer third) (both value)) :
    Poll.Same handlers kept ((poll.bind inner second).bind outer third) (poll.bind whole both) :=
  fun turns => assoc_likewise _ poll steady (held_assoc blind innerHolder outerHolder wholeHolder same turns)
    fun value => same value turns

-- What goes on after something that itself goes on after a poll can be told as what goes on once after the poll.
theorem regroup (blind : handlers.Blind) (innerHolder : Holder handlers inner second)
    (outerHolder : Holder handlers outer third) (wholeHolder : Holder handlers whole both)
    (poll within nested flat : Poll R) (steady : poll.Steady kept)
    (opened : Poll.Same handlers kept within (poll.bind inner second))
    (nestedOpened : Poll.Same handlers kept nested (within.bind outer third))
    (flatOpened : Poll.Same handlers kept flat (poll.bind whole both))
    (later : ∀ value, Poll.Same handlers kept (third value) (third value))
    (same : ∀ value, Poll.Same handlers kept ((second value).bind outer third) (both value)) :
    Poll.Same handlers kept nested flat := by
  have unnested := nestedOpened.trans (bind_congr outerHolder outerHolder _ _ opened later)
  have joined := bind_assoc blind innerHolder outerHolder wholeHolder poll steady same
  exact (unnested.trans joined).trans flatOpened.symm

end

section

variable {hold : Run R → Run R}

omit [Scalar R] in
theorem done_likewise (related : Run R → Run R → Prop) (poll : Poll R) (steady : poll.Steady kept)
    (holds : ∀ run, related (hold run) run) : (poll.bind hold Poll.done).Likewise kept related poll := by
  intro cell copy near
  obtain ⟨same, later⟩ := steady cell copy near
  rw [renamed_progress_same] at same
  rcases result : poll cell with ⟨progress, left⟩
  rcases resultCopy : poll copy with ⟨progressCopy, leftCopy⟩
  rw [result, resultCopy] at same later
  cases same
  cases progress with
  | done value => simpa only [Poll.bind, result, resultCopy] using ⟨.done value, later⟩
  | fault fault => simpa only [Poll.bind, result, resultCopy] using ⟨.fault fault, later⟩
  | panicked message => simpa only [Poll.bind, result, resultCopy] using ⟨.panicked message, later⟩
  | pending run => simpa only [Poll.bind, result, resultCopy] using ⟨.pending _ _ (holds run), later⟩

-- To go on with the value alone adds nothing.
theorem bind_done (blind : handlers.Blind) (holder : Holder handlers hold Poll.done) (poll : Poll R)
    (steady : poll.Steady kept) : Poll.Same handlers kept (poll.bind hold Poll.done) poll := by
  have held : ∀ turns run, Run.Alike handlers kept turns (hold run) run := by
    intro turns
    induction turns with
    | zero => exact holder.leaves
    | succ turns ih =>
        intro run
        refine held_alike hold (fun run => run) holder.leaves (fun _ => rfl) holder.touch (fun _ _ => rfl) turns run run
          (Run.Alike.refl blind _ run) ?_
        intro keys
        rw [holder.resume]
        exact done_likewise _ _ (resume_steady blind kept _) ih
  exact fun turns => done_likewise _ poll steady (held turns)

end

def Guarded (poll : Poll R) : Prop := ∀ cell, cell.cancelled = true → poll cell = (.fault .cancelled, cell)

omit [Scalar R] in
theorem bind_guarded (poll : Poll R) (hold : Run R → Run R) (next : Value R → Poll R) (guarded : poll.Guarded) :
    (poll.bind hold next).Guarded := by
  intro cell cut
  rw [Poll.bind, guarded cell cut]

end Poll

namespace Step

omit [Scalar R] in
theorem attempt_guarded (step : Step R) (body : Poll R) (number : Nat) (again : Option (Poll R))
    (exhausted : Fault → Poll R) : (step.attempt body number again exhausted).Guarded := by
  intro cell cut
  rw [attempt, if_pos cut]

omit [Scalar R] in
theorem start_guarded (step : Step R) : (step.start handlers).Guarded := by
  intro cell cut
  have tries : ∀ exhausted left number, (step.tries (step.dispatch handlers) exhausted left number).Guarded := by
    intro exhausted left number
    cases left with
    | zero => exact attempt_guarded step _ number none _
    | succ left => exact attempt_guarded step _ number (some _) _
  rw [start, attempted]
  cases cell.hook.script.length with
  | zero => exact tries _ _ _ cell cut
  | succ answers => exact tries _ _ _ cell cut

structure Plain (kept : Trace → Bool) (step : Step R) : Prop where
  policy : step.policy = .default
  dropped : ∀ status number, kept ⟨step.name, step.device, status, number⟩ = false

variable (step : Step R)

section

variable (default : step.policy = .default)

include default

omit [Scalar R] in
theorem escalate_default (again : Option (Poll R)) (number : Nat) (fault : Fault) (cell : Cell R) :
    step.escalate again number fault cell = (.fault fault, cell) := by
  have stops : step.policy.onError.escalates = false := by rw [default]; rfl
  rw [escalate, if_neg (by simp [stops])]

omit [Scalar R] in
-- With the default policy there is one attempt.
theorem attempted_default (body : Poll R) :
    step.attempted body = step.attempt body 1 none fun fault cell => (.fault fault, cell) := by
  have none : step.policy.retries = 0 := by rw [default]; rfl
  have gives : ∀ again number, step.escalate again number = fun fault cell => (.fault fault, cell) :=
    fun again number => funext fun fault => funext fun cell => escalate_default step default again number fault cell
  funext cell
  rw [attempted]
  cases cell.hook.script.length with
  | zero => rw [rounds, none, tries_zero, gives]
  | succ answers => rw [rounds, none, tries_zero, gives]

end

variable (plain : step.Plain kept)

include plain

omit [Scalar R] in
theorem settle_plain (related : Run R → Run R → Prop) (exhausted : Fault → Poll R)
    (gives : ∀ fault cell, exhausted fault cell = (.fault fault, cell)) (progress other : Progress R)
    (alike : progress.Likewise related other)
    (holds : ∀ run left, related run left → related (.attempt step 1 run) left) (cell copy : Cell R)
    (near : Cell.Near kept cell copy) :
    Progress.Likewise related (step.settle 1 none exhausted (progress, cell).1 cell).1 other ∧
      Cell.Near kept (step.settle 1 none exhausted progress cell).2 copy := by
  cases alike with
  | done value => exact ⟨.done value, (Cell.Near.trace step _ 1 (plain.dropped _ 1) cell).symm.trans near⟩
  | panicked message => exact ⟨.panicked message, near⟩
  | pending run left still => exact ⟨.pending _ _ (holds run left still), near⟩
  | fault fault =>
      have traced := (Cell.Near.trace step (.error fault.message) 1 (plain.dropped _ 1) cell).symm.trans near
      by_cases cut : fault.isCancellation = true
      · simp only [settle, if_pos cut]
        exact ⟨.fault fault, traced⟩
      · simp only [settle, if_neg cut, gives]
        exact ⟨.fault fault, traced⟩

theorem attempt_alike (blind : handlers.Blind) (turns : Nat) (run : Run R) :
    Run.Alike handlers kept turns (.attempt step 1 run) run := by
  induction turns generalizing run with
  | zero => rfl
  | succ turns ih =>
      refine Poll.held_alike (fun run => .attempt step 1 run) (fun run => run) (fun _ => rfl) (fun _ => rfl)
        (fun _ _ => rfl) (fun _ _ => rfl) turns run run (Run.Alike.refl blind _ run) ?_
      intro keys cell copy near
      obtain ⟨alike, later⟩ := Poll.likewise_of_steady _ _ (Run.Alike.refl blind turns)
        (resume_steady blind kept (run.wake keys)) cell copy near
      -- The turn's outcome is settled as the first attempt's was: no retries are left, and nobody is asked.
      have spent : ¬ 1 ≤ step.policy.retries := by rw [plain.policy]; decide
      have gives : ∀ fault cell, step.exhausted (step.dispatch handlers) 1 fault cell = (.fault fault, cell) :=
        fun fault cell => escalate_default step plain.policy _ 1 fault cell
      have holds : ∀ run left, Run.Alike handlers kept turns run left →
          Run.Alike handlers kept turns (.attempt step 1 run) left := fun run left alike => (ih run).trans alike
      have settled := settle_plain step plain _ _ gives _ _ alike holds _ _ later
      simpa only [Run.resume, reattempted, if_neg spent] using settled

-- A plain node does what its body does, where the body does nothing in a cancelled cell.
theorem attempted_plain (blind : handlers.Blind) (body : Poll R) (guarded : body.Guarded) (steady : body.Steady kept) :
    Poll.Same handlers kept (step.attempted body) body := by
  intro turns cell copy near
  rw [attempted_default step plain.policy body, attempt]
  by_cases cut : cell.cancelled = true
  · rw [if_pos cut, guarded copy (near.cancelled.trans cut)]
    exact ⟨.fault .cancelled, near⟩
  · rw [if_neg cut, if_neg (by decide)]
    have begun := (Cell.Near.trace step .running 1 (plain.dropped _ 1) cell).symm.trans near
    obtain ⟨alike, later⟩ := Poll.likewise_of_steady _ _ (Run.Alike.refl blind turns) steady _ _ begun
    have holds : ∀ run left, Run.Alike handlers kept turns run left →
        Run.Alike handlers kept turns (.attempt step 1 run) left :=
      fun run left alike => (attempt_alike step plain blind turns run).trans alike
    exact settle_plain step plain _ _ (fun _ _ => rfl) _ _ alike holds _ _ later

end Step

end Workcell
