import Workcell.Proofs.Drift.Sessions

/-!
The jobs of a session adrift take the turns that the jobs of the session itself take, and its samplers publish there what
they publish here.
-/

set_option autoImplicit false

namespace Workcell

variable {R A : Type} [Scalar R] {drift : Drift} {ok : Call R → Prop} {past : List (SessionRun R)} {here there : Session R A}
  (start : Nat) (begins : 0 < start)

namespace Session

omit [Scalar R] in
theorem finished_adrift (akin : Akin drift ok past here there) (run : Nat) :
    there.isFinished (run + past.length) = here.isFinished run := by
  obtain ⟨later, runs, paired⟩ := akin.runs
  unfold isFinished
  rw [runs]
  rcases found_adrift past here.runs later paired run with ⟨own, other, found, foundThere, pair⟩ | ⟨nobody, nobodyThere⟩
  · rw [found, foundThere]
    exact pair.finished
  · rw [nobody, nobodyThere]

omit [Scalar R] in
theorem note_adrift (adrift : Adrift drift ok past here there) (number : Nat) (change : SessionRun R → SessionRun R)
    (keeps : ∀ one two, one.Adrift drift two → (change one).Adrift drift (change two)) :
    Adrift drift ok past (here.note number change) (there.note (number + past.length) change) := by
  obtain ⟨later, runs, paired⟩ := adrift.runs
  refine { adrift with
    runs := ⟨later.modify number change, ?_, modify_adrift here.runs later paired number change change keeps⟩ }
  show there.runs.modify _ _ = _
  rw [runs]
  exact modify_later past later number change

theorem motor_together (adrift : Adrift drift ok past here there) (clock : there.now = here.now + drift.ahead)
    (early : here.now ≤ drift.limit) (run : Nat) (motor : Motor R) :
    Together drift ok (transfer drift past.length start begins) (Adrift drift ok past)
      (fun left leftThere => leftThere = left.map drift.motor) here there (here.within run none fun cell => motor.poll cell)
      (there.within (run + past.length) none fun cell => (drift.motor motor).poll cell) := by
  refine within_together start begins _ adrift clock early run none none _ _ rfl fun cell fits => ?_
  obtain ⟨same, after⟩ := Drift.motor_carried motor cell fits
  rw [same]
  exact ⟨rfl, rfl, after⟩

omit [Scalar R] in
theorem ending_later (outcome : Outcome R) (event : Event R) (member : event ∈ ending outcome) :
    event.later drift.ahead = event := by
  refine Event.later_of_other _ _ fun starts => ?_
  cases outcome with
  | value value =>
      rw [ending, List.mem_singleton] at member
      rw [member] at starts
      cases starts
  | fault fault =>
      rw [ending] at member
      split at member
      · rw [List.mem_singleton.mp member] at starts
        cases starts
      · simp only [List.mem_cons, List.not_mem_nil, or_false] at member
        rcases member with rfl | rfl
        · cases starts
        · cases starts
  | panicked message =>
      simp only [ending, List.mem_cons, List.not_mem_nil, or_false] at member
      rcases member with rfl | rfl
      · cases starts
      · cases starts

omit [Scalar R] in
theorem ending_carried (outcome : Outcome R) (cell : Cell R) (fits : drift.Fits cell) :
    (ending outcome).foldl Cell.pushEvent (drift.cell cell).stopAll =
        drift.cell ((ending outcome).foldl Cell.pushEvent cell.stopAll) ∧
      drift.Fits ((ending outcome).foldl Cell.pushEvent cell.stopAll) := by
  obtain ⟨same, after⟩ := Drift.stop_all_keeps cell fits
  rw [same]
  have pushed : ∀ (events : List (Event R)) (cell : Cell R), (∀ event ∈ events, event.later drift.ahead = event) →
      drift.Fits cell → events.foldl Cell.pushEvent (drift.cell cell) = drift.cell (events.foldl Cell.pushEvent cell) ∧
        drift.Fits (events.foldl Cell.pushEvent cell) := by
    intro events
    induction events with
    | nil => exact fun _ _ fits => ⟨rfl, fits⟩
    | cons event rest ih =>
        intro cell undated fits
        have step : (drift.cell cell).pushEvent event = drift.cell (cell.pushEvent event) := by
          simp [Cell.pushEvent, Drift.cell, undated event List.mem_cons_self]
        rw [List.foldl_cons, List.foldl_cons, step]
        exact ih _ (fun event member => undated event (List.mem_cons_of_mem _ member)) { fits with }
  exact pushed _ _ (fun event member => ending_later outcome event member) after

theorem close_together (adrift : Adrift drift ok past here there) (clock : there.now = here.now + drift.ahead)
    (early : here.now ≤ drift.limit) (run : Nat) (outcome : Outcome R) :
    Together drift ok (transfer drift past.length start begins) (Adrift drift ok past) (fun _ _ => True) here there
      ((), here.close run outcome) ((), there.close (run + past.length) outcome) := by
  have stopped := within_together start begins (fun _ _ => True) adrift clock early run () ()
    (fun cell => ((), (ending outcome).foldl Cell.pushEvent cell.stopAll))
    (fun cell => ((), (ending outcome).foldl Cell.pushEvent cell.stopAll)) trivial
    fun cell fits => ⟨trivial, ending_carried outcome cell fits⟩
  refine ⟨trivial, ?_, ?_, stopped.now, stopped.nowThere, ?_⟩
  · exact note_adrift stopped.related run _ fun one two pair => { pair with closing := rfl }
  · simp only [close, List.map_append, stopped.asked]
    rfl
  · intro job member
    rcases List.mem_append.mp member with before | last
    · exact stopped.begun job before
    · cases List.mem_singleton.mp last

def TurnTogether (drift : Drift) (ok : Call R → Prop) (moved : Transfer (SessionJob R A)) (past : List (SessionRun R))
    (job : SessionJob R A) (here there : Session R A) : Prop :=
  Together drift ok moved (Adrift drift ok past)
    (fun left leftThere => leftThere = left.map (SessionJob.adrift drift past.length) ∧ ∀ job, left = some job →
      job.Fit drift ok)
    here there (poll job here) (poll (job.adrift drift past.length) there)

theorem motor_turn_together (adrift : Adrift drift ok past here there) (clock : there.now = here.now + drift.ahead)
    (early : here.now ≤ drift.limit) (run : Nat) (motor : Motor R) :
    TurnTogether drift ok (transfer drift past.length start begins) past (.motor run motor) here there := by
  have turn := motor_together start begins adrift clock early run motor
  refine ⟨⟨?_, ?_⟩, turn.related, turn.asked, turn.now, turn.nowThere, turn.begun⟩
  · simp only [poll, SessionJob.adrift, turn.result, Option.map_map]
    rfl
  · intro job left
    obtain ⟨motor, -, rfl⟩ := Option.map_eq_some_iff.mp left
    trivial

theorem closing_turn_together (adrift : Adrift drift ok past here there) (run : Nat) :
    TurnTogether drift ok (transfer drift past.length start begins) past (.closing run) here there := by
  obtain ⟨later, runs, paired⟩ := adrift.runs
  unfold TurnTogether
  simp only [poll, SessionJob.adrift]
  rw [runs]
  rcases found_adrift past here.runs later paired run with ⟨own, other, found, foundThere, pair⟩ | ⟨nobody, nobodyThere⟩
  · rw [found, foundThere]
    simp only [pair.sampled]
    by_cases sampled : own.sampled = true
    · simp only [if_pos sampled]
      refine ⟨⟨rfl, by simp⟩, ?_, rfl, rfl, rfl, ?_⟩
      · exact note_adrift adrift run _ fun one two pair => { pair with finished := rfl }
      · intro job member
        cases List.mem_singleton.mp member
    · simp only [if_neg sampled]
      refine ⟨⟨rfl, fun job left => ?_⟩, adrift, rfl, rfl, rfl, by simp⟩
      cases left
      trivial
  · rw [nobody, nobodyThere]
    exact ⟨⟨rfl, by simp⟩, adrift, rfl, rfl, rfl, by simp⟩

def samplerFor (run : Nat) (epsilon : R) : Task R → List (Request (SessionJob R A))
  | .fresh _ => [.begin (.sampling run (Sampler.new epsilon 0).force none)]
  | .running _ => []

omit [Scalar R] in
theorem sampler_for_adrift (run ago : Nat) (epsilon : R) (task : Task R) :
    samplerFor (A := A) (run + ago) epsilon (task.recast drift.cast) =
      (samplerFor run epsilon task).map (transfer drift ago start begins).request := by
  cases task <;> rfl

omit [Scalar R] in
theorem sampler_for_fit (run : Nat) (epsilon : R) (task : Task R) (job : SessionJob R A)
    (begun : .begin job ∈ samplerFor run epsilon task) : job.Fit drift ok := by
  cases task with
  | fresh step =>
      cases List.mem_singleton.mp begun
      trivial
  | running run => cases begun

theorem poll_drive (session : Session R A) (run : Nat) (task : Task R) (progress : Progress R) (after : Session R A)
    (asked : List (Request (SessionJob R A)))
    (polled : (session.within run (.fault .cancelled) fun cell => task.poll session.handlers cell) =
      (progress, after, asked)) :
    poll (.drive run task) session =
      match progress.outcome with
      | .error left => (some (.drive run left), after, samplerFor run session.settings.sampling.epsilon task ++ asked)
      | .ok outcome =>
          (some (.closing run), (after.close run outcome).1,
            samplerFor run session.settings.sampling.epsilon task ++ asked ++ (after.close run outcome).2) := by
  cases ends : progress.outcome with
  | error left => cases task <;> simp only [poll, polled, samplerFor, ends]
  | ok outcome => cases task <;> simp only [poll, polled, samplerFor, ends]

theorem drive_turn_together (adrift : Adrift drift ok past here there) (clock : there.now = here.now + drift.ahead)
    (early : here.now ≤ drift.limit) (run : Nat) (task : Task R) (makes : task.Makes ok) :
    TurnTogether drift ok (transfer drift past.length start begins) past (.drive run task) here there := by
  have polled := within_together start begins
    (fun (progress : Progress R) progressThere => progressThere = progress.recast drift.cast ∧
      ∀ left, progress.outcome = .error left → left.Makes ok) adrift clock early run (.fault .cancelled) (.fault .cancelled)
    (fun cell => task.poll here.handlers cell) (fun cell => (task.recast drift.cast).poll there.handlers cell)
    ⟨rfl, nofun⟩ fun cell fits => by
      obtain ⟨same, after⟩ := Drift.task_carried here.handlers ok adrift.carried task makes cell fits
      rw [adrift.handlers, same]
      exact ⟨⟨rfl, fun left goesOn => makes.left here.handlers cell goesOn⟩, rfl, after⟩
  unfold TurnTogether
  rw [SessionJob.adrift]
  rcases own : here.within run (.fault .cancelled) (fun cell => task.poll here.handlers cell) with ⟨progress, after, asked⟩
  rcases ownThere : there.within (run + past.length) (.fault .cancelled)
    (fun cell => (task.recast drift.cast).poll there.handlers cell) with ⟨progressThere, afterThere, askedThere⟩
  rw [own, ownThere] at polled
  obtain ⟨⟨same, goesOn⟩, related, asks, now, nowThere, begun⟩ := polled
  dsimp only at same goesOn related asks now nowThere begun
  rw [poll_drive here run task progress after asked own,
    poll_drive there (run + past.length) _ progressThere afterThere askedThere ownThere, same, Drift.outcome_recast,
    adrift.settings, sampler_for_adrift start begins run past.length, asks]
  cases ends : progress.outcome with
  | error left =>
      refine ⟨⟨rfl, ?_⟩, related, ?_, now, nowThere, ?_⟩
      · rintro job ⟨⟩
        exact goesOn left ends
      · simp only [Except.mapError, List.map_append]
      · intro job member
        rcases List.mem_append.mp member with sampler | motor
        · exact sampler_for_fit run _ task job sampler
        · exact begun job motor
  | ok outcome =>
      have clockAfter : afterThere.now = after.now + drift.ahead := by rw [now, nowThere, clock]
      have closed := close_together start begins related clockAfter (now ▸ early) run outcome
      have more := closed.asked
      refine ⟨⟨rfl, ?_⟩, closed.related, ?_, closed.now.trans now, closed.nowThere.trans nowThere, ?_⟩
      · rintro job ⟨⟩
        trivial
      · simp only [Except.mapError, List.map_append]
        exact congrArg _ more
      · intro job member
        rcases List.mem_append.mp member with early | last
        · rcases List.mem_append.mp early with sampler | motor
          · exact sampler_for_fit run _ task job sampler
          · exact begun job motor
        · exact closed.begun job last

end Session

namespace Session

omit [Scalar R] in
def news (before after : Session R A) : List (Frame R) := after.frames.sent.drop before.frames.sent.length

omit [Scalar R] in
@[simp]
theorem news_of_same (before after : Session R A) (same : after.frames = before.frames) : before.news after = [] := by
  rw [news, same, List.drop_length]

def taken (number : Nat) (sampler : Sampler R) (session : Session R A) :
    (Option (Frame R) × Sampler R × Nat) × Session R A × List (Request (SessionJob R A)) :=
  session.within number (none, sampler, session.lastTick) fun cell =>
    (((sampler.sample session.lastTick cell).1, (sampler.sample session.lastTick cell).2.1,
      (sampler.sample session.lastTick cell).2.2.1), (sampler.sample session.lastTick cell).2.2.2)

def shown (frame : Option (Frame R)) (lastTick : Nat) (session : Session R A) : Session R A :=
  match frame with
  | some frame => { session with lastTick := lastTick }.publish frame
  | none => { session with lastTick := lastTick }

theorem sample_eq_taken (number : Nat) (sampler : Sampler R) (session : Session R A) :
    session.sample number sampler = ((session.taken number sampler).1.2.1,
      (session.taken number sampler).2.1.shown (session.taken number sampler).1.1 (session.taken number sampler).1.2.2,
      (session.taken number sampler).2.2) := rfl

theorem news_of_sample (number : Nat) (sampler : Sampler R) (session : Session R A) :
    session.news (session.sample number sampler).2.1 = (session.taken number sampler).1.1.toList := by
  have frames : (session.taken number sampler).2.1.frames = session.frames := by
    unfold taken within
    split <;> rfl
  rw [sample_eq_taken, news]
  cases (session.taken number sampler).1.1 with
  | none =>
      show (session.taken number sampler).2.1.frames.sent.drop _ = _
      rw [frames, List.drop_length]
      rfl
  | some frame =>
      show ((session.taken number sampler).2.1.frames.push frame).sent.drop _ = _
      rw [Stream.sent_push, frames, List.drop_left]
      rfl

omit [Scalar R] in
theorem shown_adrift (adrift : Adrift drift ok past here there) (frame other : Option (Frame R)) (tick tickThere : Nat) :
    Adrift drift ok past (here.shown frame tick) (there.shown other tickThere) := by
  cases frame <;> cases other <;> exact { adrift with }

theorem sample_together (adrift : Adrift drift ok past here there) (clock : there.now = here.now + drift.ahead)
    (early : here.now ≤ drift.limit) (number : Nat) (sampler : Sampler R) :
    Together drift ok (transfer drift past.length start begins) (Adrift drift ok past)
    (fun left leftThere => leftThere = left)
        here there (here.sample number sampler) (there.sample (number + past.length) sampler) ∧
      (there.news (there.sample (number + past.length) sampler).2.1).map Frame.undated =
        (here.news (here.sample number sampler).2.1).map Frame.undated := by
  have taken : Together drift ok (transfer drift past.length start begins) (Adrift drift ok past)
      (fun one two => two.1.map Frame.undated = one.1.map Frame.undated ∧ two.2.1 = one.2.1)
      here there (here.taken number sampler) (there.taken (number + past.length) sampler) := by
    refine within_together start begins _ adrift clock early number _ _ _ _ ⟨rfl, rfl⟩ fun cell fits => ?_
    obtain ⟨frames, samplers, cells, after⟩ := Drift.sample_carried sampler here.lastTick there.lastTick cell fits
    exact ⟨⟨frames, samplers⟩, cells, after⟩
  have nows : ∀ (session : Session R A) (frame : Option (Frame R)) (tick : Nat), (session.shown frame tick).now =
      session.now := by
    intro session frame tick
    cases frame <;> rfl
  constructor
  · rw [sample_eq_taken, sample_eq_taken]
    exact ⟨taken.result.2, shown_adrift taken.related _ _ _ _, taken.asked, (nows _ _ _).trans taken.now,
      (nows _ _ _).trans taken.nowThere, taken.begun⟩
  · have same := taken.result.1
    rw [news_of_sample, news_of_sample]
    revert same
    cases (there.taken (number + past.length) sampler).1.1 <;> cases (here.taken number sampler).1.1 <;> simp

def isDue (now : Nat) : Option Timer → Bool
  | some timer => decide (timer.due ≤ now)
  | none => true

def isClosing (run : Nat) (session : Session R A) : Bool := ((session.runs[run]?).map SessionRun.closing).getD true

theorem poll_sampling (run : Nat) (sampler : Sampler R) (timer : Option Timer) (session : Session R A) :
    poll (.sampling run sampler timer) session =
      if session.isClosing run then
        (none, (session.sample run sampler).2.1.note run fun run => { run with sampled := true },
          (session.sample run sampler).2.2 ++ [.signal (.sampled run)])
      else if isDue session.now timer then
        (some (.sampling run (session.sample run sampler).1
            (some ⟨Duration.due (session.sample run sampler).2.1.now
              (session.sample run sampler).2.1.settings.sampling.period, (session.sample run sampler).2.1.issued⟩)),
          { (session.sample run sampler).2.1 with issued := (session.sample run sampler).2.1.issued + 1 },
          (session.sample run sampler).2.2)
      else (some (.sampling run sampler timer), session, []) := by
  cases timer <;> rfl

theorem sampling_turn_together (adrift : Adrift drift ok past here there) (clock : there.now = here.now + drift.ahead)
    (early : here.now ≤ drift.limit) (run : Nat) (sampler : Sampler R) (timer : Option Timer) :
    TurnTogether drift ok (transfer drift past.length start begins) past (.sampling run sampler timer) here there ∧
      (there.news (poll (.sampling (run + past.length) sampler (timer.map drift.timer)) there).2.1).map Frame.undated =
        (here.news (poll (.sampling run sampler timer) here).2.1).map Frame.undated := by
  obtain ⟨sampled, news⟩ := sample_together start begins adrift clock early run sampler
  have closing : there.isClosing (run + past.length) = here.isClosing run := by
    obtain ⟨later, runs, paired⟩ := adrift.runs
    unfold isClosing
    rw [runs]
    rcases found_adrift past here.runs later paired run with ⟨own, other, found, foundThere, pair⟩ | ⟨nobody, nobodyThere⟩
    · rw [found, foundThere]
      exact pair.closing
    · rw [nobody, nobodyThere]
  have due : isDue there.now (timer.map drift.timer) = isDue here.now timer := by
    cases timer with
    | none => rfl
    | some timer => simp only [isDue, Option.map_some, Drift.timer, clock, Nat.add_le_add_iff_right]
  unfold TurnTogether
  rw [SessionJob.adrift, poll_sampling, poll_sampling, closing, due]
  by_cases closes : here.isClosing run = true
  · simp only [if_pos closes]
    refine ⟨⟨⟨rfl, by simp⟩, ?_, ?_, sampled.now, sampled.nowThere, ?_⟩, news⟩
    · exact note_adrift sampled.related run _ fun one two pair => { pair with sampled := rfl }
    · rw [List.map_append, sampled.asked]
      rfl
    · intro job member
      rcases List.mem_append.mp member with before | last
      · exact sampled.begun job before
      · cases List.mem_singleton.mp last
  · simp only [if_neg closes]
    cases isDue here.now timer with
    | false =>
        refine ⟨⟨⟨rfl, fun job left => ?_⟩, adrift, rfl, rfl, rfl, by simp⟩, ?_⟩
        · cases left
          trivial
        · simp
    | true =>
        have later := sampled.related
        have moved : drift.timer ⟨Duration.due (here.sample run sampler).2.1.now
          (here.sample run sampler).2.1.settings.sampling.period,
              (here.sample run sampler).2.1.issued⟩ =
            ⟨Duration.due (there.sample (run + past.length) sampler).2.1.now
              (there.sample (run + past.length) sampler).2.1.settings.sampling.period,
              (there.sample (run + past.length) sampler).2.1.issued⟩ := by
          rw [later.settings, later.issued, sampled.now, sampled.nowThere, clock, Drift.timer,
            Drift.due_of_plain drift _ later.period here.now early]
        refine ⟨⟨⟨?_, fun job left => ?_⟩, ?_, sampled.asked, sampled.now, sampled.nowThere, sampled.begun⟩, news⟩
        · simp only [if_true, Option.map_some, SessionJob.adrift, moved, sampled.result]
        · cases left
          trivial
        · refine { later with issued := ?_, base := Nat.le_succ_of_le later.base }
          show (there.sample _ sampler).2.1.issued + 1 = drift.key ((here.sample run sampler).2.1.issued + 1)
          rw [later.issued, drift.even _ later.base]

end Session

end Workcell
