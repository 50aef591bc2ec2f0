import Workcell.Proofs.Schedule.Pursuit

/-!
Two schedules abreast: each of them comes to whatever the other one comes to. Old jobs can hold the one there up, but each
step in which nothing happens here brings it nearer to one in which something does.
-/

set_option autoImplicit false

namespace Workcell.Schedule

variable {W J G : Type} {load : Workload W J} {note : J → W → G → G} {moved : Transfer J} {limit : Nat}
  {related : W → W → Prop} {fit : J → Prop} {idle : W → J → Prop} {same : G → G → Prop} {here there : Schedule W J}

-- The one there stands for the one here, and its clock is ahead as long as somebody is to have a turn.
structure Abreast (load : Workload W J) (moved : Transfer J) (related : W → W → Prop) (fit : J → Prop) (idle : W → J → Prop)
    (here there : Schedule W J) : Prop extends here.Copies moved related fit idle there where
  numberedThere : there.Numbered
  clock : here.ready ≠ [] ∨ here.resting ≠ [] → load.now there.world = load.now here.world + moved.ahead

def Pressing (load : Workload W J) (moved : Transfer J) (there : Schedule W J) : Prop :=
  ∃ entry ∈ there.timers load, moved.isOld entry.2.job = true ∧ entry.2.job ∈ there.ready ∧
  entry.1.due ≤ load.now there.world

def oldJobs (moved : Transfer J) (there : Schedule W J) : Nat := (there.jobs.filter fun entry => moved.isOld entry.1).length

open Classical in
noncomputable def weight (load : Workload W J) (moved : Transfer J) (there : Schedule W J) : Nat :=
  2 * there.oldJobs moved + if there.Pressing load moved then 0 else 1

-- How many turns of old jobs are to come.
def backlog (moved : Transfer J) (there : Schedule W J) : Nat :=
  (there.ready.filter moved.isOld).length + 2 * (there.resting.filter fun entry => moved.isOld entry.1).length

-- The one is nearer than the other to a step in which something happens.
def Nearer (load : Workload W J) (moved : Transfer J) (next there : Schedule W J) : Prop :=
  next.weight load moved < there.weight load moved ∨
    next.weight load moved ≤ there.weight load moved ∧ next.backlog moved < there.backlog moved

theorem weight_le (next : Schedule W J) (jobs : next.oldJobs moved = there.oldJobs moved)
    (pressing : there.Pressing load moved → next.Pressing load moved) :
    next.weight load moved ≤ there.weight load moved := by
  unfold weight
  rw [jobs]
  by_cases before : there.Pressing load moved
  · simp only [if_pos before, if_pos (pressing before), Nat.le_refl]
  · rw [if_neg before]
    split <;> omega

theorem fewer_weigh_less (next : Schedule W J) (jobs : next.oldJobs moved < there.oldJobs moved) :
    next.weight load moved < there.weight load moved := by
  unfold weight
  split <;> split <;> omega

theorem mem_timers (entry : Timer × Place) (member : entry ∈ there.timers load) :
    ∃ job, (entry.2.job, job) ∈ there.jobs ∧ entry.2.leaf ∈ load.leaves job ∧ entry.2.leaf.timer = some entry.1 := by
  obtain ⟨place, sits, timed⟩ := List.mem_filterMap.mp member
  obtain ⟨timer, is, rfl⟩ := Option.map_eq_some_iff.mp timed
  obtain ⟨known, inside, found⟩ := List.mem_flatMap.mp sits
  obtain ⟨leaf, has, rfl⟩ := List.mem_map.mp found
  exact ⟨known.2, inside, has, is⟩

theorem wakes_line_up (load : Workload W J) (there : Schedule W J) (calls : List (Nat × Nat))
    (asleep : ∀ call ∈ calls, ∀ entry ∈ there.jobs, entry.1 = call.1 → ∀ key, load.touch key entry.2 = entry.2) :
    let next := calls.foldl (fun schedule call => schedule.wake load call.1 call.2) there
    next.jobs = there.jobs ∧ next.resting = there.resting ∧ next.ready.length ≤ there.ready.length + calls.length ∧
      there.ready ⊆ next.ready ∧ ∀ call ∈ calls, (there.jobs.any fun entry => entry.1 == call.1) = true →
      call.1 ∈ next.ready := by
  induction calls generalizing there with
  | nil => exact ⟨rfl, rfl, Nat.le_refl _, fun _ member => member, nofun⟩
  | cons call rest ih =>
      dsimp only [List.foldl_cons]
      have step : (there.wake load call.1 call.2).jobs = there.jobs ∧
        (there.wake load call.1 call.2).resting = there.resting ∧
          (there.wake load call.1 call.2).ready.length ≤ there.ready.length + 1 ∧
          there.ready ⊆ (there.wake load call.1 call.2).ready ∧
          ((there.jobs.any fun entry => entry.1 == call.1) = true → call.1 ∈ (there.wake load call.1 call.2).ready) := by
        unfold wake
        split
        · refine ⟨?_, rfl, ?_, fun _ member => (mem_enqueue _ _ _).mpr (Or.inl member), fun _ => ?_⟩
          · refine (List.map_congr_left fun entry member => ?_).trans (List.map_id _)
            by_cases own : entry.1 = call.1
            · rw [if_pos own, asleep call List.mem_cons_self entry member own]
              rfl
            · rw [if_neg own]
              rfl
          · show (enqueue there.ready [call.1]).length ≤ _
            rw [enqueue_one]
            split
            · exact Nat.le_succ _
            · exact Nat.le_of_eq (by rw [List.length_append, List.length_singleton])
          · exact (mem_enqueue _ _ _).mpr (Or.inr (List.mem_singleton.mpr rfl))
        · exact ⟨rfl, rfl, Nat.le_succ _, fun _ member => member, fun known => absurd known ‹_›⟩
      obtain ⟨jobs, resting, length, ready, woken⟩ := step
      obtain ⟨laterJobs, laterResting, laterLength, laterReady, laterWoken⟩ := ih (there.wake load call.1 call.2)
        fun other member entry inside => asleep other (List.mem_cons_of_mem _ member) entry (jobs ▸ inside)
      refine ⟨laterJobs.trans jobs, laterResting.trans resting, ?_, fun _ member => laterReady (ready member), ?_⟩
      · rw [List.length_cons]
        omega
      · intro other member known
        rcases List.mem_cons.mp member with rfl | later
        · exact laterReady (woken known)
        · exact laterWoken other later (jobs.symm ▸ known)

theorem turn_numbered (load : Workload W J) (number : Nat) (rest : List Nat) (numbered : there.Numbered) :
    (({ there with ready := rest } : Schedule W J).turn load number).Numbered := by
  have popped : ({ there with ready := rest } : Schedule W J).Numbered := ⟨numbered.nodup, numbered.below⟩
  exact (turn_stands (anything_lawful load) () _ number popped.stands).numbered

namespace Abreast

variable (moves : load.Moves note moved limit related fit idle same)

include moves

theorem asleep (abreast : here.Abreast load moved related fit idle there) (calls : List (Nat × Nat))
    (old : ∀ call ∈ calls, moved.isOld call.1 = true) :
    ∀ call ∈ calls, ∀ entry ∈ there.jobs, entry.1 = call.1 → ∀ key, load.touch key entry.2 = entry.2 := by
  intro call member entry inside own
  obtain ⟨timer, key, world, -, firm, -⟩ := moves.rests (abreast.idle entry inside (own ▸ old call member))
  exact firm

theorem turn (abreast : here.Abreast load moved related fit idle there) (early : load.now here.world ≤ limit) (number : Nat)
    (rest waiting : List Nat) (ready : here.ready = number :: rest)
    (readyThere : there.ready = moved.number number :: waiting) :
    (({ here with ready := rest } : Schedule W J).turn load number).Abreast load moved related fit idle
        (({ there with ready := waiting } : Schedule W J).turn load (moved.number number)) ∧
      load.now (({ here with ready := rest } : Schedule W J).turn load number).world = load.now here.world ∧
      ∀ notes other, same notes other →
        same (here.turnNotes note number notes) (there.turnNotes note (moved.number number) other) := by
  have clock := abreast.clock (Or.inl (by simp [ready]))
  have popped : ({ here with ready := rest } : Schedule W J).Copies moved related fit idle
      { there with ready := waiting } := by
    refine ⟨abreast.world, ⟨abreast.numbered.nodup, abreast.numbered.below⟩, abreast.jobs, abreast.fit, abreast.idle, ?_,
      abreast.resting, abreast.next, abreast.begun⟩
    have both := abreast.ready
    rw [ready, readyThere, List.filter_cons_of_pos (by simp), List.map_cons] at both
    exact (List.cons.inj both).2
  have numbered := turn_numbered load (moved.number number) waiting abreast.numberedThere
  have found := abreast.found number
  unfold turnNotes
  rw [found]
  cases holds : here.jobs.lookup number with
  | none =>
      rw [holds] at found
      rw [turn_of_nobody rest holds, turn_of_nobody waiting found]
      exact ⟨⟨popped, ⟨abreast.numberedThere.nodup, abreast.numberedThere.below⟩, fun _ => clock⟩, rfl, fun _ _ are => are⟩
  | some job =>
      rw [holds, Option.map_some] at found
      have good : fit job := abreast.fit (number, job) (mem_of_lookup number job here.jobs holds)
      obtain ⟨world, polled, stays, ⟨still, stillThere⟩, left, begun, idles, notes⟩ :=
        moves.poll abreast.world good clock early
      rw [turn_of_found load there waiting _ (moved.cast job) found, polled] at numbered ⊢
      rw [turn_of_found load here rest number job holds]
      have turned := (popped.leave (load.poll job here.world).2.1 world stays idles number _ left).grants moves number
        (load.poll job here.world).2.2 begun
      refine ⟨⟨turned, numbered, fun _ => ?_⟩, ?_, notes⟩
      · rw [grants_world, grants_world, leave_world, leave_world]
        show load.now world = load.now (load.poll job here.world).2.1 + moved.ahead
        rw [still, stillThere, clock]
      · rw [grants_world, leave_world]
        exact still

theorem turn_old (abreast : here.Abreast load moved related fit idle there) (number : Nat) (waiting : List Nat)
    (readyThere : there.ready = number :: waiting) (old : moved.isOld number = true) :
    here.Abreast load moved related fit idle (({ there with ready := waiting } : Schedule W J).turn load number) ∧
      (({ there with ready := waiting } : Schedule W J).turn load number).Nearer load moved there ∧
      ∀ notes, there.turnNotes note number notes = notes := by
  have popped : here.Copies moved related fit idle { there with ready := waiting } := by
    refine ⟨abreast.world, abreast.numbered, abreast.jobs, abreast.fit, abreast.idle, ?_, abreast.resting, abreast.next,
      abreast.begun⟩
    have both := abreast.ready
    rwa [readyThere, List.filter_cons_of_neg (by simp [old])] at both
  have numbered := turn_numbered load number waiting abreast.numberedThere
  have shorter : (waiting.filter moved.isOld).length < (there.ready.filter moved.isOld).length := by
    rw [readyThere, List.filter_cons_of_pos old]
    exact Nat.lt_succ_self _
  -- A pressing job other than this one is pressing still.
  have pressing : ∀ next : Schedule W J, next.jobs = there.jobs → next.ready = waiting →
      load.now next.world = load.now there.world →
      (∀ job, (number, job) ∈ there.jobs → ∀ leaf ∈ load.leaves job, ∀ timer, leaf.timer = some timer →
        ¬ timer.due ≤ load.now there.world) →
      there.Pressing load moved → next.Pressing load moved := by
    rintro next jobs ready now patient ⟨entry, waits, isOld, has, due⟩
    have sameTimers : next.timers load = there.timers load := by rw [timers, timers, places, places, jobs]
    refine ⟨entry, sameTimers ▸ waits, isOld, ?_, now ▸ due⟩
    rw [readyThere] at has
    rcases List.mem_cons.mp has with own | later
    · obtain ⟨job, known, inside, timed⟩ := mem_timers entry waits
      exact absurd due (patient job (own ▸ known) _ inside _ timed)
    · exact ready ▸ later
  unfold turnNotes
  cases holds : there.jobs.lookup number with
  | none =>
      rw [turn_of_nobody waiting holds] at numbered ⊢
      refine ⟨⟨popped, numbered, abreast.clock⟩, Or.inr ⟨weight_le _ rfl ?_, Nat.add_lt_add_right shorter _⟩, fun _ => rfl⟩
      refine pressing _ rfl rfl rfl fun job known => ?_
      have nobody := (List.lookup_eq_none_iff.mp holds) (number, job) known
      simp at nobody
  | some job =>
      have known := mem_of_lookup number job there.jobs holds
      have idles : idle there.world job := abreast.idle (number, job) known old
      obtain ⟨timer, key, world, leaves, -, polled, now, stays, still, notes⟩ := moves.rests idles
      rw [turn_of_found load there waiting number job holds, polled] at numbered ⊢
      by_cases due : timer.due ≤ load.now there.world
      · rw [if_pos due] at numbered ⊢
        refine ⟨⟨popped.leave_old world (stays abreast.world) still number old none (by simp), numbered, fun goes => ?_⟩,
          Or.inl ?_, notes⟩
        · show load.now world = _
          rw [now, abreast.clock goes]
        · refine fewer_weigh_less _ ?_
          show ((there.jobs.filter fun entry => !(entry.1 == number)).filter fun entry => moved.isOld entry.1).length <
            (there.jobs.filter fun entry => moved.isOld entry.1).length
          rw [List.filter_comm]
          refine List.length_filter_lt_length_iff_exists.mpr ⟨(number, job), List.mem_filter.mpr ⟨known, old⟩, by simp⟩
      · rw [if_neg due] at numbered ⊢
        have only : ∀ entry ∈ there.jobs, entry.1 = number → entry.2 = job := by
          intro entry member own
          have same : entry = (number, job) := List.inj_on_of_nodup_map abreast.numberedThere.nodup member known own
          rw [same]
        have jobs : (there.jobs.map fun entry => if entry.1 = number then (number, job) else entry) = there.jobs := by
          refine (List.map_congr_left fun entry member => ?_).trans (List.map_id _)
          by_cases own : entry.1 = number
          · rw [if_pos own, ← only entry member own, ← own]
            rfl
          · rw [if_neg own]
            rfl
        refine ⟨⟨popped.leave_old world (stays abreast.world) still number old (some job) ?_, numbered, fun goes => ?_⟩,
          Or.inr ⟨weight_le _ ?_ ?_, Nat.add_lt_add_right shorter _⟩, notes⟩
        · rintro _ ⟨⟩
          exact idles
        · show load.now world = _
          rw [now, abreast.clock goes]
        · exact congrArg (fun jobs => (jobs.filter fun entry => moved.isOld entry.1).length) jobs
        · refine pressing _ jobs rfl now fun other member leaf inside own timed => ?_
          obtain rfl : other = job := only (number, other) member rfl
          rw [leaves, List.mem_singleton] at inside
          subst inside
          cases timed
          exact due

theorem stir (abreast : here.Abreast load moved related fit idle there) (ready : there.ready = [])
    (resting : there.resting ≠ []) : (here.ready = [] ∧ here.resting ≠ [] ∧
      (here.stir load).Abreast load moved related fit idle (there.stir load)) ∨
    here.Abreast load moved related fit idle (there.stir load) ∧ (there.stir load).Nearer load moved there := by
  have readyHere : here.ready = [] := by
    have both := abreast.ready
    rw [ready] at both
    exact List.map_eq_nil_iff.mp both.symm
  have numbered := (stir_stands (anything_lawful load) () there abreast.numberedThere.stands).numbered
  have stirred : ({ here with resting := [] } : Schedule W J).Copies moved related fit idle { there with resting := [] } :=
    ⟨abreast.world, ⟨abreast.numbered.nodup, abreast.numbered.below⟩, abreast.jobs, abreast.fit, abreast.idle,
      abreast.ready, rfl, abreast.next, abreast.begun⟩
  have tied : List.Forall₂ (Copies.Tied moved ({ here with resting := [] } : Schedule W J)) here.resting
      (there.resting.filter fun entry => !moved.isOld entry.1) := by
    rw [abreast.resting]
    exact List.forall₂_map_right_iff.mpr (List.forall₂_same.mpr fun entry _ => ⟨rfl, fun _ _ _ => Or.inl rfl⟩)
  have woken := stirred.wakes moves here.resting there.resting tied
  cases rests : here.resting with
  | cons entry others =>
      left
      refine ⟨readyHere, List.cons_ne_nil _ _, woken, numbered, fun _ => ?_⟩
      have clock := abreast.clock (Or.inr (by simp [rests]))
      rw [Schedule.stir, Schedule.stir, wakes_world, wakes_world]
      exact clock
  | nil =>
      right
      have all : ∀ entry ∈ there.resting, moved.isOld entry.1 = true := by
        have none := abreast.resting
        rw [rests, List.map_nil, List.filter_eq_nil_iff] at none
        exact fun entry member => by simpa using none entry member
      have lined := wakes_line_up load { there with resting := [] } there.resting
        (abreast.asleep moves there.resting all)
      obtain ⟨jobs, none, length, -, -⟩ := lined
      have alone : ({ here with resting := [] } : Schedule W J) = here := by
        rw [← rests]
      have quiet : here.Copies moved related fit idle (there.stir load) := by
        rw [alone, rests] at woken
        exact woken
      refine ⟨⟨quiet, numbered, fun goes => ?_⟩, Or.inr ⟨weight_le _ ?_ ?_, ?_⟩⟩
      · rcases goes with goes | goes
        · exact absurd readyHere goes
        · exact absurd rests goes
      · exact congrArg (fun jobs => (jobs.filter fun entry => moved.isOld entry.1).length) jobs
      · rintro ⟨entry, -, -, has, -⟩
        rw [ready] at has
        cases has
      · have some : 0 < there.resting.length := List.length_pos_iff.mpr resting
        have kept : there.resting.filter (fun entry => moved.isOld entry.1) = there.resting := List.filter_eq_self.mpr all
        have fewer := List.length_filter_le moved.isOld (there.stir load).ready
        have restless : (there.stir load).resting = [] := none
        have bound : (there.stir load).ready.length ≤ there.ready.length + there.resting.length := length
        rw [ready, List.length_nil] at bound
        simp only [backlog, restless, kept, ready, List.filter_nil, List.length_nil]
        omega

theorem jump (abreast : here.Abreast load moved related fit idle there) (ready : there.ready = [])
    (resting : there.resting = []) (next : Schedule W J) (jumped : there.jump load = some next) :
    (∃ last, here.jump load = some last ∧ last.Abreast load moved related fit idle next ∧
      load.now last.world + moved.ahead = load.now next.world) ∨
    here.Abreast load moved related fit idle next ∧ next.Nearer load moved there := by
  have readyHere : here.ready = [] := by
    have both := abreast.ready
    rw [ready] at both
    exact List.map_eq_nil_iff.mp both.symm
  have restingHere : here.resting = [] := by
    have both := abreast.resting
    rw [resting] at both
    exact List.map_eq_nil_iff.mp both.symm
  have numbered := (jump_stands (anything_lawful load) () there next jumped abreast.numberedThere.stands).numbered
  obtain ⟨due, earliest, rises⟩ := Option.map_eq_some_iff.mp jumped
  by_cases new : ∃ entry ∈ there.timers load, moved.isOld entry.2.job = false ∧ entry.1.due ≤ due
  · left
    obtain ⟨entry, member, isNew, reached⟩ := new
    obtain ⟨before, last, jumpedHere, copies, moment, world, worldThere⟩ :=
      abreast.jump_together moves next jumped due earliest entry member isNew reached
    have clock : load.now next.world = load.now last.world + moved.ahead := by
      rw [world, worldThere, moves.now_elapse, moves.now_elapse, moment]
    exact ⟨last, jumpedHere, ⟨copies, numbered, fun _ => clock⟩, clock.symm⟩
  · right
    have all : ∀ entry ∈ there.timers load, entry.1.due ≤ due → moved.isOld entry.2.job = true := by
      intro entry member reached
      cases isOld : moved.isOld entry.2.job with
      | true => rfl
      | false => exact absurd ⟨entry, member, isOld, reached⟩ new
    let calls := (sortBy (fun entry : Timer × Place => entry.1.order)
      ((there.timers load).filter fun entry => decide (entry.1.due ≤ due))).map fun entry => (entry.2.job, entry.2.leaf.key)
    have old : ∀ call ∈ calls, moved.isOld call.1 = true := by
      intro call member
      obtain ⟨entry, inside, rfl⟩ := List.mem_map.mp member
      obtain ⟨waits, reached⟩ := List.mem_filter.mp ((mem_sortBy _ entry _).mp inside)
      exact all entry waits (by simpa using reached)
    have stepped : next = calls.foldl (fun schedule call => schedule.wake load call.1 call.2)
        { there with world := load.elapse due there.world } := by
      rw [← rises]
      exact jump_calls load there due _
    have elapsed : here.Copies moved related fit idle { there with world := load.elapse due there.world } := by
      refine ⟨?_, abreast.numbered, abreast.jobs, abreast.fit, fun entry member isOld => ?_, abreast.ready, abreast.resting,
        abreast.next, abreast.begun⟩
      · exact moves.elapse_there abreast.world due
      · exact moves.elapse_idle (abreast.idle entry member isOld) due
    have tied : List.Forall₂ (Copies.Tied moved here) [] (calls.filter fun call => !moved.isOld call.1) := by
      rw [List.filter_eq_nil_iff.mpr fun call member => by simp [old call member]]
      exact .nil
    have woken := elapsed.wakes moves [] calls tied
    obtain ⟨jobs, restless, -, -, called⟩ := wakes_line_up load
      { there with world := load.elapse due there.world } calls (abreast.asleep moves calls old)
    rw [← stepped] at woken jobs called
    refine ⟨⟨woken, numbered, fun goes => ?_⟩, Or.inl ?_⟩
    · rcases goes with goes | goes
      · exact absurd readyHere goes
      · exact absurd restingHere goes
    · have idleBefore : ¬ there.Pressing load moved := by
        rintro ⟨entry, -, -, has, -⟩
        rw [ready] at has
        cases has
      have pressing : next.Pressing load moved := by
        obtain ⟨isOne, -⟩ := List.min?_eq_some_iff.mp earliest
        obtain ⟨entry, waits, is⟩ := List.mem_map.mp isOne
        have reached : entry.1.due ≤ due := Nat.le_of_eq is
        obtain ⟨job, known, -, -⟩ := mem_timers entry waits
        have timers : next.timers load = there.timers load := by
          rw [Schedule.timers, Schedule.timers, places, places, jobs]
        have now : load.now next.world = due := by
          rw [stepped, wakes_world]
          exact moves.now_elapse due there.world
        refine ⟨entry, timers ▸ waits, all entry waits reached, called (entry.2.job, entry.2.leaf.key) ?_ ?_, now ▸ reached⟩
        · refine List.mem_map.mpr ⟨entry, (mem_sortBy _ entry _).mpr ?_, rfl⟩
          exact List.mem_filter.mpr ⟨waits, decide_eq_true reached⟩
        · exact List.any_eq_true.mpr ⟨(entry.2.job, job), known, by simp⟩
      have same : next.oldJobs moved = there.oldJobs moved :=
        congrArg (fun jobs => (jobs.filter fun entry => moved.isOld entry.1).length) jobs
      unfold weight
      rw [if_pos pressing, if_neg idleBefore, same]
      omega

theorem step (abreast : here.Abreast load moved related fit idle there) (early : load.now here.world ≤ limit) :
    (∃ next last, here.step load = some next ∧ there.step load = some last ∧ next.Abreast load moved related fit idle last ∧
      (load.now next.world = load.now here.world ∨ load.now next.world + moved.ahead = load.now last.world) ∧
      ∀ notes other, same notes other → same (here.stepNotes note notes) (there.stepNotes note other)) ∨
    (∃ last, there.step load = some last ∧ here.Abreast load moved related fit idle last ∧ last.Nearer load moved there ∧
      ∀ notes, there.stepNotes note notes = notes) ∨
    here.step load = none ∧ there.step load = none := by
  cases readyThere : there.ready with
  | cons number waiting =>
      cases old : moved.isOld number with
      | true =>
          obtain ⟨stays, nearer, notes⟩ := abreast.turn_old moves number waiting readyThere old
          right; left
          refine ⟨({ there with ready := waiting } : Schedule W J).turn load number, ?_, stays, nearer, ?_⟩
          · simp only [Schedule.step, readyThere]
          · simpa only [stepNotes, readyThere] using notes
      | false =>
          obtain ⟨number, rfl⟩ := moved.new_number number old
          have both := abreast.ready
          rw [readyThere, List.filter_cons_of_pos (by simp)] at both
          cases ready : here.ready with
          | nil =>
              rw [ready] at both
              cases both
          | cons first rest =>
              rw [ready, List.map_cons] at both
              obtain rfl : number = first := (moved.number_same _ _).mp (List.cons.inj both).1
              obtain ⟨together, now, notes⟩ := abreast.turn moves early number rest waiting ready readyThere
              left
              refine ⟨_, _, ?_, ?_, together, Or.inl now, ?_⟩
              · simp only [Schedule.step, ready]
              · simp only [Schedule.step, readyThere]
              · simpa only [stepNotes, ready, readyThere] using notes
  | nil =>
      have ready : here.ready = [] := by
        have both := abreast.ready
        rw [readyThere] at both
        exact List.map_eq_nil_iff.mp both.symm
      have notes : ∀ notes : G, there.stepNotes note notes = notes := by
        intro notes
        simp only [stepNotes, readyThere]
      have notesHere : ∀ notes : G, here.stepNotes note notes = notes := by
        intro notes
        simp only [stepNotes, ready]
      cases restsThere : there.resting with
      | cons entry others =>
          have stirs : there.step load = some (there.stir load) := by simp only [Schedule.step, readyThere, restsThere]
          rcases abreast.stir moves readyThere (by simp [restsThere]) with ⟨-, rests, together⟩ | ⟨stays, nearer⟩
          · left
            refine ⟨here.stir load, there.stir load, ?_, stirs, together,
              Or.inl (congrArg load.now (wakes_world load _ _ _ _)), ?_⟩
            · cases resting : here.resting with
              | nil => exact absurd resting rests
              | cons entry others => simp only [Schedule.step, ready, resting]
            · intro one other are
              rw [notes, notesHere]
              exact are
          · exact Or.inr (Or.inl ⟨there.stir load, stirs, stays, nearer, notes⟩)
      | nil =>
          have resting : here.resting = [] := by
            have both := abreast.resting
            rw [restsThere] at both
            exact List.map_eq_nil_iff.mp both.symm
          have jumps : here.step load = here.jump load := by simp only [Schedule.step, ready, resting]
          have jumpsThere : there.step load = there.jump load := by simp only [Schedule.step, readyThere, restsThere]
          cases jumped : there.jump load with
          | some last =>
              rcases abreast.jump moves readyThere restsThere last jumped with ⟨next, goes, together, now⟩ | ⟨stays, nearer⟩
              · left
                refine ⟨next, last, jumps.trans goes, jumpsThere.trans jumped, together, Or.inr now, ?_⟩
                intro one other are
                rw [notes, notesHere]
                exact are
              · exact Or.inr (Or.inl ⟨last, jumpsThere.trans jumped, stays, nearer, notes⟩)
          | none =>
              right; right
              have none : there.timers load = [] := by
                simpa [Schedule.jump, earliest?, List.min?_eq_none_iff] using jumped
              have alarms := abreast.alarms_there moves
              rw [none, List.filter_nil] at alarms
              have noneHere : here.timers load = [] := by
                rw [Copies.timers_eq_alarms, List.map_eq_nil_iff.mp alarms.symm]
                rfl
              refine ⟨?_, jumpsThere.trans jumped⟩
              simp [jumps, Schedule.jump, earliest?, noneHere]

-- Every step in which nothing happens here brings the one there nearer, so it does not go on for ever.
theorem catches_up (abreast : here.Abreast load moved related fit idle there) (early : load.now here.world ≤ limit)
    (next : Schedule W J) (stepped : here.step load = some next) (notes other : G) (are : same notes other) :
    ∃ steps, next.Abreast load moved related fit idle (follow load note steps (other, there)).2 ∧
      same (here.stepNotes note notes) (follow load note steps (other, there)).1 := by
  have within : ∀ weight backlog (there : Schedule W J), there.weight load moved ≤ weight → there.backlog moved ≤ backlog →
      here.Abreast load moved related fit idle there →
      ∃ steps, next.Abreast load moved related fit idle (follow load note steps (other, there)).2 ∧
        same (here.stepNotes note notes) (follow load note steps (other, there)).1 := by
    intro weight
    induction weight using Nat.strongRecOn with
    | ind weight lighter =>
    intro backlog
    induction backlog using Nat.strongRecOn with
    | ind backlog shorter =>
    intro there heavy long abreast
    rcases abreast.step moves early with ⟨after, last, goes, goesThere, together, -, told⟩ |
      ⟨last, goesThere, stays, nearer, told⟩ |
      ⟨stands, -⟩
    · obtain rfl : after = next := Option.some.inj (goes.symm.trans stepped)
      refine ⟨1, ?_⟩
      simp only [follow, goesThere]
      exact ⟨together, told notes other are⟩
    · have later : ∃ steps, next.Abreast load moved related fit idle (follow load note steps (other, last)).2 ∧
          same (here.stepNotes note notes) (follow load note steps (other, last)).1 := by
        rcases nearer with less | ⟨no, less⟩
        · exact lighter _ (Nat.lt_of_lt_of_le less heavy) _ last (Nat.le_refl _) (Nat.le_refl _) stays
        · exact shorter _ (Nat.lt_of_lt_of_le less long) last (Nat.le_trans no heavy) (Nat.le_refl _) stays
      obtain ⟨steps, together, noted⟩ := later
      refine ⟨steps + 1, ?_⟩
      simp only [follow, goesThere, told]
      exact ⟨together, noted⟩
    · rw [stands] at stepped
      cases stepped
  exact within _ _ there (Nat.le_refl _) (Nat.le_refl _) abreast

omit moves in
theorem follow_add (load : Workload W J) (note : J → W → G → G) (first more : Nat) (state : G × Schedule W J) :
    follow load note (first + more) state = follow load note more (follow load note first state) := by
  induction first generalizing state with
  | zero => rw [Nat.zero_add]; rfl
  | succ first ih =>
      obtain ⟨notes, schedule⟩ := state
      rw [Nat.add_right_comm, follow, follow]
      cases stepped : schedule.step load with
      | some next => exact ih _
      | none =>
          cases more with
          | zero => rfl
          | succ more => simp only [follow, stepped]

theorem comes_there (steps : Nat) (notes other : G) (abreast : here.Abreast load moved related fit idle there)
    (are : same notes other)
    (early : ∀ before, before < steps → load.now (follow load note before (notes, here)).2.world ≤ limit) :
    ∃ more, (follow load note steps (notes, here)).2.Abreast load moved related fit idle
        (follow load note more (other, there)).2 ∧
      same (follow load note steps (notes, here)).1 (follow load note more (other, there)).1 := by
  induction steps generalizing notes other here there with
  | zero => exact ⟨0, abreast, are⟩
  | succ steps ih =>
      cases stepped : here.step load with
      | none =>
          refine ⟨0, ?_⟩
          simp only [follow, stepped]
          exact ⟨abreast, are⟩
      | some next =>
          obtain ⟨first, together, noted⟩ := abreast.catches_up moves (early 0 (Nat.succ_pos _)) next stepped notes other are
          obtain ⟨more, after, told⟩ := ih (here.stepNotes note notes) (follow load note first (other, there)).1
            together noted
            fun before less => by
              have bound := early (before + 1) (Nat.succ_lt_succ less)
              simpa only [follow, stepped] using bound
          refine ⟨first + more, ?_⟩
          rw [follow_add load note first more]
          simp only [follow, stepped]
          exact ⟨after, told⟩

theorem comes_here (steps : Nat) (notes other : G) (abreast : here.Abreast load moved related fit idle there)
    (are : same notes other) (begins : load.now here.world ≤ limit)
    (early : ∀ before, before ≤ steps → load.now (follow load note before (other, there)).2.world ≤ limit + moved.ahead) :
    ∃ fewer, (follow load note fewer (notes, here)).2.Abreast load moved related fit idle
        (follow load note steps (other, there)).2 ∧
      same (follow load note fewer (notes, here)).1 (follow load note steps (other, there)).1 := by
  induction steps generalizing notes other here there with
  | zero => exact ⟨0, abreast, are⟩
  | succ steps ih =>
      rcases abreast.step moves begins with ⟨next, last, goes, goesThere, together, now, told⟩ |
        ⟨last, goesThere, stays, -, told⟩ | ⟨-, stands⟩
      · have later : ∀ before, before ≤ steps →
            load.now (follow load note before (there.stepNotes note other, last)).2.world ≤ limit + moved.ahead := by
          intro before less
          have bound := early (before + 1) (Nat.succ_le_succ less)
          simpa only [follow, goesThere] using bound
        have soon : load.now next.world ≤ limit := by
          rcases now with same | ahead
          · exact same ▸ begins
          · have bound := later 0 (Nat.zero_le _)
            simp only [follow] at bound
            omega
        obtain ⟨fewer, after, noted⟩ := ih (here.stepNotes note notes) (there.stepNotes note other) together
          (told notes other are) soon later
        refine ⟨fewer + 1, ?_⟩
        simp only [follow, goes, goesThere]
        exact ⟨after, noted⟩
      · obtain ⟨fewer, after, noted⟩ := ih notes other stays are begins fun before less => by
          have bound := early (before + 1) (Nat.succ_le_succ less)
          simpa only [follow, goesThere, told] using bound
        refine ⟨fewer, ?_⟩
        rw [follow, goesThere]
        simp only [told]
        exact ⟨after, noted⟩
      · refine ⟨0, ?_⟩
        simp only [follow, stands]
        exact ⟨abreast, are⟩

end Abreast

end Workcell.Schedule
