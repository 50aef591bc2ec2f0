import Workcell.Proofs.Drift.Jobs

/-!
The operator of a session adrift gets the answers that the operator of the session itself gets, and waits for the same.
-/

set_option autoImplicit false

namespace Workcell

variable {R A : Type} [Scalar R] {drift : Drift} {ok : Call R → Prop} {past : List (SessionRun R)} {here there : Session R A}
  (start : Nat) (begins : 0 < start)

namespace Session

omit [Scalar R] in
def Turn.adrift (drift : Drift) (ago : Nat) : Turn A → Turn A
  | .waits pause => .waits (pause.adrift drift ago)
  | other => other

structure Poised (drift : Drift) (ok : Call R → Prop) (past : List (SessionRun R)) (asked askedThere : List Appeal)
    (here there : Session R A) : Prop extends Akin drift ok past here there, Settled drift ok here where
  appeals : here.appeals = asked
  appealsThere : there.appeals = askedThere

omit [Scalar R] in
theorem new_cell_fits (settled : Settled drift ok here) (base : drift.base ≤ here.issued) (early : here.now ≤ drift.limit) :
    drift.Fits here.newCell where
  waitBound := settled.waitBound
  sampleTick := settled.sampleTick
  driver := settled.ticks
  axes := nofun
  actuators := nofun
  signals := nofun
  issued := base
  now := early

omit [Scalar R] in
theorem new_cell_adrift (akin : Akin drift ok past here there) (clock : there.now = here.now + drift.ahead) :
    there.newCell = (drift.cell here.newCell).veil (drift.cell here.newCell).traces there.appeals := by
  unfold newCell
  rw [akin.machine, akin.driver, akin.settings, akin.hook, akin.issued, clock]
  rfl

omit [Scalar R] in
theorem count_adrift (akin : Akin drift ok past here there) : there.runs.length = here.runs.length + past.length := by
  obtain ⟨later, runs, paired⟩ := akin.runs
  rw [runs, List.length_append, Nat.add_comm, paired.length_eq]

omit [Scalar R] in
theorem one_more (runs others : List (SessionRun R))
    (paired : ∃ later, others = past ++ later ∧ List.Forall₂ (SessionRun.Adrift drift) runs later) (run other : SessionRun R)
    (adrift : run.Adrift drift other) :
    ∃ later, others ++ [other] = past ++ later ∧ List.Forall₂ (SessionRun.Adrift drift) (runs ++ [run]) later := by
  obtain ⟨later, rfl, paired⟩ := paired
  exact ⟨later ++ [other], List.append_assoc _ _ _, List.rel_append paired (.cons adrift .nil)⟩

theorem begin_together {asked askedThere : List Appeal} (poised : Poised drift ok past asked askedThere here there)
    (clock : there.now = here.now + drift.ahead) (early : here.now ≤ drift.limit) (scenario : String) :
    Together drift ok (transfer drift past.length start begins) (Poised drift ok past asked askedThere)
      (fun outcome outcomeThere => outcomeThere = outcome) here there (here.begin scenario) (there.begin scenario) := by
  unfold begin
  rw [poised.catalog, poised.machine]
  cases built : Scenario.build here.catalog scenario here.machine with
  | error failure =>
      cases failure with
      | fault fault => exact ⟨rfl, { poised with }, rfl, rfl, rfl, by simp⟩
      | panic message => exact ⟨rfl, poised, rfl, rfl, rfl, by simp⟩
  | ok flow =>
      obtain ⟨same, fits⟩ := materialize_all_carried here.newCell (new_cell_fits poised.toSettled poised.base early)
      have made : materializeAll there.newCell = ((materializeAll here.newCell).1,
          (drift.cell (materializeAll here.newCell).2).veil (drift.cell here.newCell).traces there.appeals) := by
        rw [new_cell_adrift poised.toAkin clock, materialize_all_blind, same]
        cases (materializeAll here.newCell).1 <;> rfl
      have traces : (materializeAll here.newCell).2.traces = here.newCell.traces := by
        have quiet := materialize_all_blind here.newCell.traces here.newCell.appeals here.newCell
        exact congrArg (fun work => work.2.traces) quiet
      simp only [made]
      clear same made
      generalize materializeAll here.newCell = work at fits traces ⊢
      obtain ⟨outcome, cell⟩ := work
      cases outcome with
      | error failure =>
          cases failure with
          | fault fault => exact ⟨rfl, { poised with }, rfl, rfl, rfl, by simp⟩
          | panic message => exact ⟨rfl, poised, rfl, rfl, rfl, by simp⟩
      | ok done =>
          cases done
          dsimp only at fits traces ⊢
          have count := count_adrift poised.toAkin
          refine ⟨rfl, { poised with machine := rfl, catalog := rfl, active := ?_, runs := ?_ }, ?_, rfl, rfl, ?_⟩
          · exact congrArg some count
          · refine one_more _ _ poised.runs _ _ {
              scenario := rfl
              cell := ?_
              closing := rfl
              sampled := rfl
              finished := rfl
              steady := { fits.toSteady with } }
            simp only [Cell.pushEvent, Cell.unlent, Cell.veil, Drift.cell, List.map_append, List.map_singleton,
              Event.flow_started_later, clock, traces]
          · rw [count]
            simp only [List.map_singleton, Transfer.request, transfer, SessionJob.adrift, Task.recast]
            rw [show flow.renamed drift.cast.name = flow from renamed_same flow]
          · intro job member
            cases List.mem_singleton.mp member
            exact poised.flows scenario flow built

theorem after_stop_together {asked askedThere : List Appeal} (poised : Poised drift ok past asked askedThere here there)
    (clock : there.now = here.now + drift.ahead) (early : here.now ≤ drift.limit) (next : Stopping A) :
    Together drift ok (transfer drift past.length start begins) (Poised drift ok past asked askedThere)
      (fun turn turnThere => turnThere = turn ∧ ∀ pause, turn ≠ .waits pause) here there (here.afterStop next)
      (there.afterStop next) := by
  cases next with
  | stop answer => exact ⟨⟨rfl, by rintro pause ⟨⟩⟩, poised, rfl, rfl, rfl, by rintro job ⟨⟩⟩
  | start scenario answer =>
      have began := begin_together start begins poised clock early scenario
      simp only [afterStop]
      rcases own : here.begin scenario with ⟨outcome, session, requests⟩
      rcases ownThere : there.begin scenario with ⟨outcomeThere, sessionThere, requestsThere⟩
      rw [own, ownThere] at began
      obtain ⟨same, related, asked, now, nowThere, begun⟩ := began
      dsimp only at same related asked now nowThere begun
      subst same
      cases outcomeThere with
      | ok done => exact ⟨⟨rfl, by simp⟩, related, asked, now, nowThere, begun⟩
      | error failure =>
          cases failure with
          | fault fault => exact ⟨⟨rfl, by simp⟩, related, asked, now, nowThere, begun⟩
          | panic message => exact ⟨⟨rfl, by simp⟩, related, asked, now, nowThere, begun⟩

omit [Scalar R] in
theorem Adrift.poised (adrift : Adrift drift ok past here there) :
    Poised drift ok past here.appeals here.appeals here there :=
  { adrift with appeals := rfl, appealsThere := adrift.appeals }

omit [Scalar R] in
theorem Poised.adrift {asked : List Appeal} (poised : Poised drift ok past asked asked here there) :
    Adrift drift ok past here there :=
  { poised with appeals := poised.appealsThere.trans poised.appeals.symm }

-- With the answer the questions have been collected.
omit [Scalar R] in
theorem answer_adrift {asked askedThere : List Appeal} (poised : Poised drift ok past asked askedThere here there)
    (answer : A) :
    Adrift drift ok past (here.answer answer) (there.answer answer) :=
  { poised with appeals := rfl }

theorem begin_stop_together (adrift : Adrift drift ok past here there) (clock : there.now = here.now + drift.ahead)
    (early : here.now ≤ drift.limit) :
    Together drift ok (transfer drift past.length start begins) (Adrift drift ok past)
      (fun run runThere => runThere = run.map (· + past.length)) here there here.beginStop there.beginStop := by
  unfold beginStop
  rw [adrift.active]
  cases active : here.active with
  | none => exact ⟨rfl, adrift, rfl, rfl, rfl, nofun⟩
  | some run =>
      have halted : Adrift drift ok past ({ here with active := none } : Session R A) { there with active := none } :=
        { adrift with active := rfl }
      have cut := within_together start begins (fun (_ _ : Unit) => True) halted clock early run () ()
        (fun cell => ((), cell.cancel)) (fun cell => ((), cell.cancel)) trivial fun cell fits =>
          ⟨trivial, Drift.cancel_keeps cell fits⟩
      have finished := finished_adrift halted.toAkin run
      refine ⟨?_, cut.related, cut.asked, cut.now, cut.nowThere, cut.begun⟩
      simp only [Option.map_some, finished]
      cases ({ here with active := none } : Session R A).isFinished run <;> rfl

theorem stop_then_together (adrift : Adrift drift ok past here there) (clock : there.now = here.now + drift.ahead)
    (early : here.now ≤ drift.limit) (next : Bool → Stopping A) :
    Together drift ok (transfer drift past.length start begins) (Adrift drift ok past)
      (fun turn turnThere => turnThere = turn.adrift drift past.length) here there (here.stopThen next)
      (there.stopThen next) := by
  have stopped := begin_stop_together start begins adrift clock early
  unfold stopThen
  rcases own : here.beginStop with ⟨run, session, requests⟩
  rcases ownThere : there.beginStop with ⟨runThere, sessionThere, requestsThere⟩
  rw [own, ownThere] at stopped
  obtain ⟨same, related, asked, now, nowThere, begun⟩ := stopped
  dsimp only at same related asked now nowThere begun
  subst same
  cases run with
  | some run => exact ⟨rfl, related, asked, now, nowThere, begun⟩
  | none =>
      have further := after_stop_together start begins related.poised
        (by rw [now, nowThere, clock]) (now ▸ early) (next false)
      simp only [Option.map_none]
      refine ⟨?_, further.related.adrift, ?_, further.now.trans now, further.nowThere.trans nowThere, ?_⟩
      · obtain ⟨equal, answers⟩ := further.result
        simp only [equal]
        cases turn : (session.afterStop (next false)).1 with
        | answered answer => rfl
        | waits pause => exact absurd turn (answers pause)
        | broken => rfl
      · simp only [asked, List.map_append, further.asked]
      · intro job member
        rcases List.mem_append.mp member with before | last
        · exact begun job before
        · exact further.begun job last

theorem instruct_together (adrift : Adrift drift ok past here there) (clock : there.now = here.now + drift.ahead)
    (early : here.now ≤ drift.limit) (instruction : SessionInstruction R A) (plain : instruction.Plain drift) :
    Together drift ok (transfer drift past.length start begins) (Adrift drift ok past)
      (fun turn turnThere => turnThere = turn.adrift drift past.length) here there (here.instruct instruction)
      (there.instruct instruction) := by
  cases instruction with
  | act work => exact plain.elim
  | start scenario answer => exact stop_then_together start begins adrift clock early fun _ => .start scenario answer
  | stop answer => exact stop_then_together start begins adrift clock early fun inProgress => .stop (answer inProgress)
  | sleep ms answer =>
      simp only [instruct, hold]
      by_cases nothing : ms = 0
      · simp only [if_pos nothing]
        exact ⟨rfl, adrift, rfl, rfl, rfl, by simp⟩
      · simp only [if_neg nothing]
        have due : Duration.due there.now (.ofMillis ms) = Duration.due here.now (.ofMillis ms) + drift.ahead := by
          rw [clock, Drift.due_of_plain drift _ plain here.now early]
        refine ⟨?_, { adrift with issued := ?_, base := Nat.le_succ_of_le adrift.base }, rfl, rfl, rfl, by simp⟩
        · simp only [Turn.adrift, SessionPause.adrift, Drift.timer, due, adrift.issued]
        · show there.issued + 1 = drift.key (here.issued + 1)
          rw [adrift.issued, drift.even _ adrift.base]
  | waitIdle answer =>
      simp only [instruct]
      rw [adrift.active]
      cases here.active with
      | none => exact ⟨rfl, adrift, rfl, rfl, rfl, by simp⟩
      | some run =>
          simp only [Option.map_some, finished_adrift adrift.toAkin run]
          by_cases finished : here.isFinished run = true
          · simp only [if_pos finished]
            exact ⟨rfl, adrift, rfl, rfl, rfl, by simp⟩
          · simp only [if_neg finished]
            exact ⟨rfl, adrift, rfl, rfl, rfl, by simp⟩

theorem follow_together (script : List (SessionInstruction R A)) (plain : ∀ instruction ∈ script, instruction.Plain drift)
    (adrift : Adrift drift ok past here there) (clock : there.now = here.now + drift.ahead)
    (early : here.now ≤ drift.limit) :
    Together drift ok (transfer drift past.length start begins) (Adrift drift ok past)
      (fun left leftThere => leftThere = left.map (SessionJob.adrift drift past.length) ∧
        ∀ job, left = some job → job.Fit drift ok)
      here there (follow script here) (follow script there) := by
  induction script generalizing here there with
  | nil => exact ⟨⟨rfl, by rintro job ⟨⟩⟩, { adrift with }, rfl, rfl, rfl, by rintro job ⟨⟩⟩
  | cons instruction rest ih =>
      have turn := instruct_together start begins adrift clock early instruction
        (plain instruction List.mem_cons_self)
      have later : ∀ instruction ∈ rest, instruction.Plain drift :=
        fun other member => plain other (List.mem_cons_of_mem _ member)
      rw [follow, follow]
      rcases own : here.instruct instruction with ⟨outcome, session, requests⟩
      rcases ownThere : there.instruct instruction with ⟨outcomeThere, sessionThere, requestsThere⟩
      rw [own, ownThere] at turn
      obtain ⟨same, related, asked, now, nowThere, begun⟩ := turn
      dsimp only at same related asked now nowThere begun
      subst same
      cases outcome with
      | answered answer =>
          have further := ih later (answer_adrift related.poised answer) (by
            show sessionThere.now = session.now + drift.ahead
            rw [now, nowThere, clock]) (show session.now ≤ drift.limit from now ▸ early)
          refine ⟨further.result, further.related, ?_, further.now.trans now, further.nowThere.trans nowThere, ?_⟩
          · simp only [Turn.adrift, asked, List.map_append, further.asked]
          · intro job member
            rcases List.mem_append.mp member with before | last
            · exact begun job before
            · exact further.begun job last
      | waits pause =>
          refine ⟨⟨rfl, fun job left => ?_⟩, related, asked, now, nowThere, begun⟩
          cases left
          exact later
      | broken => exact ⟨⟨rfl, by simp⟩, { related with }, asked, now, nowThere, begun⟩

theorem resume_together (adrift : Adrift drift ok past here there) (clock : there.now = here.now + drift.ahead)
    (early : here.now ≤ drift.limit) (pause : SessionPause A) :
    Together drift ok (transfer drift past.length start begins) (Adrift drift ok past)
      (fun turn turnThere => turnThere = turn.map (Turn.adrift drift past.length)) here there (here.resume pause)
      (there.resume (pause.adrift drift past.length)) := by
  cases pause with
  | ready => exact ⟨rfl, adrift, rfl, rfl, rfl, by rintro job ⟨⟩⟩
  | stopping run next =>
      simp only [resume, SessionPause.adrift, finished_adrift adrift.toAkin run]
      by_cases finished : here.isFinished run = true
      · simp only [if_pos finished]
        have further := after_stop_together start begins adrift.poised clock early next
        refine ⟨?_, further.related.adrift, further.asked, further.now, further.nowThere, further.begun⟩
        obtain ⟨equal, answers⟩ := further.result
        simp only [equal, Option.map_some]
        cases turn : (here.afterStop next).1 with
        | answered answer => rfl
        | waits pause => exact absurd turn (answers pause)
        | broken => rfl
      · simp only [if_neg finished]
        exact ⟨rfl, adrift, rfl, rfl, rfl, by simp⟩
  | sleeping timer answer =>
      have due : timer.due + drift.ahead ≤ there.now ↔ timer.due ≤ here.now := by rw [clock, Nat.add_le_add_iff_right]
      simp only [resume, SessionPause.adrift, Drift.timer, due]
      by_cases reached : timer.due ≤ here.now
      · simp only [if_pos reached]
        exact ⟨rfl, adrift, rfl, rfl, rfl, by simp⟩
      · simp only [if_neg reached]
        exact ⟨rfl, adrift, rfl, rfl, rfl, by simp⟩
  | idle run answer =>
      simp only [resume, SessionPause.adrift, finished_adrift adrift.toAkin run]
      by_cases finished : here.isFinished run = true
      · simp only [if_pos finished]
        exact ⟨rfl, adrift, rfl, rfl, rfl, by simp⟩
      · simp only [if_neg finished]
        exact ⟨rfl, adrift, rfl, rfl, rfl, by simp⟩

theorem operator_turn_together (adrift : Adrift drift ok past here there) (clock : there.now = here.now + drift.ahead)
    (early : here.now ≤ drift.limit) (pause : SessionPause A) (script : List (SessionInstruction R A))
    (plain : ∀ instruction ∈ script, instruction.Plain drift) :
    TurnTogether drift ok (transfer drift past.length start begins) past (.operator pause script) here there := by
  have turn := resume_together start begins adrift clock early pause
  unfold TurnTogether
  rw [SessionJob.adrift, poll, poll]
  rcases own : here.resume pause with ⟨outcome, session, requests⟩
  rcases ownThere : there.resume (pause.adrift drift past.length) with ⟨outcomeThere, sessionThere, requestsThere⟩
  rw [own, ownThere] at turn
  obtain ⟨same, related, asked, now, nowThere, begun⟩ := turn
  dsimp only at same related asked now nowThere begun
  subst same
  have clockAfter : sessionThere.now = session.now + drift.ahead := by rw [now, nowThere, clock]
  have earlyAfter : session.now ≤ drift.limit := now ▸ early
  -- What is asked of the scheduler by the answer comes before what the rest of the script asks.
  have both : ∀ {before last : List (Request (SessionJob R A))},
      (∀ job, .begin job ∈ before → job.Fit drift ok) → (∀ job, .begin job ∈ last → job.Fit drift ok) →
      ∀ job, .begin job ∈ before ++ last → job.Fit drift ok := by
    intro before last first second job member
    rcases List.mem_append.mp member with inside | inside
    · exact first job inside
    · exact second job inside
  cases outcome with
  | none =>
      have further := follow_together start begins script plain related clockAfter earlyAfter
      refine ⟨further.result, further.related, ?_, further.now.trans now, further.nowThere.trans nowThere,
        both begun further.begun⟩
      simp only [Option.map_none, asked, List.map_append, further.asked]
  | some outcome =>
      cases outcome with
      | answered answer =>
          have further := follow_together start begins script plain (answer_adrift related.poised answer)
            clockAfter earlyAfter
          refine ⟨further.result, further.related, ?_, further.now.trans now, further.nowThere.trans nowThere,
            both begun further.begun⟩
          simp only [Option.map_some, Turn.adrift, asked, List.map_append, further.asked]
      | waits pause =>
          refine ⟨⟨rfl, fun job left => ?_⟩, related, asked, now, nowThere, begun⟩
          cases left
          exact plain
      | broken => exact ⟨⟨rfl, by simp⟩, { related with }, asked, now, nowThere, begun⟩

theorem turn_together (adrift : Adrift drift ok past here there) (clock : there.now = here.now + drift.ahead)
    (early : here.now ≤ drift.limit) (job : SessionJob R A) (fit : job.Fit drift ok) :
    TurnTogether drift ok (transfer drift past.length start begins) past job here there := by
  cases job with
  | motor run motor => exact motor_turn_together start begins adrift clock early run motor
  | operator pause script => exact operator_turn_together start begins adrift clock early pause script fit
  | drive run task => exact drive_turn_together start begins adrift clock early run task fit
  | closing run => exact closing_turn_together start begins adrift run
  | sampling run sampler timer => exact (sampling_turn_together start begins adrift clock early run sampler timer).1

end Session

end Workcell
