import Mathlib.Data.List.Perm.Basic
import Workcell.Scheduler

/-!
Claims about a world and the jobs on it that are kept up in whatever order the jobs get their turns, and the order that
the scheduler gives them is one of these.

A claim may also speak of notes that are taken at every turn, of what happened in it.

A whole crew may begin in a world at once, and the scheduler is at work for it.
-/

set_option autoImplicit false

namespace Workcell

variable {W J G : Type}

def Request.begun : List (Request J) → List J
  | [] => []
  | .begin job :: more => job :: begun more
  | _ :: more => begun more

theorem Request.begun_append (first second : List (Request J)) :
    Request.begun (first ++ second) = Request.begun first ++ Request.begun second := by
  induction first with
  | nil => rfl
  | cons request more ih =>
      cases request with
      | begin job => exact congrArg (job :: ·) ih
      | signal sent => exact ih
      | again key => exact ih
      | rest key => exact ih

structure Workload.Law (load : Workload W J) (note : J → W → G → G) (claim : G → W → List J → Prop) : Prop where
  perm : ∀ {notes world jobs others}, jobs.Perm others → claim notes world jobs → claim notes world others
  touch : ∀ {notes world job rest}, claim notes world (job :: rest) → ∀ key,
    claim notes world (load.touch key job :: rest)
  elapse : ∀ {notes world jobs}, claim notes world jobs → ∀ now, claim notes (load.elapse now world) jobs
  turn : ∀ {notes world job rest}, claim notes world (job :: rest) →
    claim (note job world notes) (load.poll job world).2.1
      ((load.poll job world).1.toList ++ rest ++ Request.begun (load.poll job world).2.2)

-- What can have been noted, and what the world and its jobs can have become, when a job has begun alone in a world:
-- jobs take turns in any order, and are woken at any time, and the clock is set to any time.
inductive Workload.Reach (load : Workload W J) (note : J → W → G → G) (world : W) (job : J) (notes : G) :
    G → W → List J → Prop where
  | start : Reach load note world job notes notes world [job]
  | perm {noted reached jobs others} (before : Reach load note world job notes noted reached jobs)
      (same : jobs.Perm others) : Reach load note world job notes noted reached others
  | touch {noted reached next rest} (before : Reach load note world job notes noted reached (next :: rest))
      (key : Nat) : Reach load note world job notes noted reached (load.touch key next :: rest)
  | elapse {noted reached jobs} (before : Reach load note world job notes noted reached jobs) (now : Nat) :
      Reach load note world job notes noted (load.elapse now reached) jobs
  | turn {noted reached next rest} (before : Reach load note world job notes noted reached (next :: rest)) :
      Reach load note world job notes (note next reached noted) (load.poll next reached).2.1
        ((load.poll next reached).1.toList ++ rest ++ Request.begun (load.poll next reached).2.2)

theorem reach_law (load : Workload W J) (note : J → W → G → G) (world : W) (job : J) (notes : G) :
    load.Law note (load.Reach note world job notes) where
  perm same before := .perm before same
  touch before key := .touch before key
  elapse before now := .elapse before now
  turn before := .turn before

theorem Workload.Law.reached {load : Workload W J} {note : J → W → G → G} {claim : G → W → List J → Prop}
    (law : load.Law note claim) (world : W) (job : J) (notes : G) (begins : claim notes world [job]) (noted : G)
    (reached : W) (jobs : List J) (reach : load.Reach note world job notes noted reached jobs) :
    claim noted reached jobs := by
  induction reach with
  | start => exact begins
  | perm before same ih => exact law.perm same ih
  | touch before key ih => exact law.touch ih key
  | elapse before now ih => exact law.elapse ih now
  | turn before ih => exact law.turn ih

namespace Schedule

-- The numbers of the jobs tell them apart, and the next one is new.
structure Numbered (schedule : Schedule W J) : Prop where
  nodup : (schedule.jobs.map Prod.fst).Nodup
  below : ∀ number ∈ schedule.jobs.map Prod.fst, number < schedule.next

variable {load : Workload W J} {note : J → W → G → G} {claim : G → W → List J → Prop}

theorem wake_world (load : Workload W J) (schedule : Schedule W J) (job key : Nat) :
    (schedule.wake load job key).world = schedule.world := by
  unfold wake
  split <;> rfl

theorem wakes_world {E : Type} (load : Workload W J) (job key : E → Nat) (items : List E) (schedule : Schedule W J) :
    (items.foldl (fun schedule item => schedule.wake load (job item) (key item)) schedule).world = schedule.world := by
  induction items generalizing schedule with
  | nil => rfl
  | cons item rest ih => rw [List.foldl_cons, ih, wake_world]

theorem turn_of_found (load : Workload W J) (schedule : Schedule W J) (rest : List Nat) (number : Nat) (job : J)
    (found : schedule.jobs.lookup number = some job) :
    ({ schedule with ready := rest } : Schedule W J).turn load number =
      (load.poll job schedule.world).2.2.foldl (fun schedule request => schedule.grant load number request)
        (({ schedule with ready := rest, world := (load.poll job schedule.world).2.1 } : Schedule W J).leave number
          (load.poll job schedule.world).1) := by
  unfold turn
  simp only [found]

theorem turn_of_polled (load : Workload W J) (schedule : Schedule W J) (rest : List Nat) (number : Nat) (job : J)
    (found : schedule.jobs.lookup number = some job) (left : Option J) (world : W) (requests : List (Request J))
    (polled : load.poll job schedule.world = (left, world, requests)) :
    ({ schedule with ready := rest } : Schedule W J).turn load number =
      requests.foldl (fun schedule request => schedule.grant load number request)
        (({ schedule with ready := rest, world := world } : Schedule W J).leave number left) := by
  rw [turn_of_found load schedule rest number job found, polled]

theorem turn_of_nobody {schedule : Schedule W J} {number : Nat} (rest : List Nat)
    (nobody : schedule.jobs.lookup number = none) :
    ({ schedule with ready := rest } : Schedule W J).turn load number = { schedule with ready := rest } := by
  unfold turn
  simp only [nobody]

theorem grants_world (load : Workload W J) (number : Nat) (requests : List (Request J)) (schedule : Schedule W J) :
    (requests.foldl (fun schedule request => schedule.grant load number request) schedule).world = schedule.world := by
  induction requests generalizing schedule with
  | nil => rfl
  | cons request rest ih =>
      rw [List.foldl_cons, ih]
      cases request with
      | begin job => rfl
      | signal signal => exact wakes_world load _ _ _ _
      | again key => exact wake_world load _ _ _
      | rest key => rfl

theorem leave_world (number : Nat) (left : Option J) (schedule : Schedule W J) :
    (schedule.leave number left).world = schedule.world := by
  cases left <;> rfl

theorem turn_world (load : Workload W J) (schedule : Schedule W J) (rest : List Nat) (number : Nat) (job : J)
    (found : schedule.jobs.lookup number = some job) :
    (({ schedule with ready := rest } : Schedule W J).turn load number).world = (load.poll job schedule.world).2.1 := by
  rw [turn_of_found load schedule rest number job found, grants_world, leave_world]

structure Stands (claim : G → W → List J → Prop) (notes : G) (coming : List J) (schedule : Schedule W J) : Prop where
  numbered : schedule.Numbered
  holds : claim notes schedule.world (schedule.jobs.map Prod.snd ++ coming)

theorem touched_stands (law : load.Law note claim) (notes : G) (world : W) (key number : Nat) (coming : List J)
    (jobs : List (Nat × J)) (holds : claim notes world (jobs.map Prod.snd ++ coming)) :
    claim notes world
      ((jobs.map fun entry => if entry.1 = number then (entry.1, load.touch key entry.2) else entry).map Prod.snd ++
        coming) := by
  induction jobs generalizing coming with
  | nil => exact holds
  | cons entry rest ih =>
      have moved : ∀ (others : List J) (job : J), (job :: others ++ coming).Perm (others ++ job :: coming) :=
        fun others job => List.perm_middle.symm
      have later := ih (entry.2 :: coming) (law.perm (moved _ _) holds)
      have first := law.perm (moved _ _).symm later
      rw [List.map_cons, List.map_cons]
      by_cases same : entry.1 = number
      · rw [if_pos same]
        exact law.touch first key
      · rw [if_neg same]
        exact first

theorem wake_stands (law : load.Law note claim) (notes : G) (coming : List J) (schedule : Schedule W J) (job key : Nat)
    (stands : schedule.Stands claim notes coming) : (schedule.wake load job key).Stands claim notes coming := by
  unfold wake
  split
  · have sameNumbers : (schedule.jobs.map fun entry =>
        if entry.1 = job then (entry.1, load.touch key entry.2) else entry).map Prod.fst = schedule.jobs.map Prod.fst := by
      rw [List.map_map]
      apply List.map_congr_left
      intro entry _
      simp only [Function.comp]
      split
      · rfl
      · rfl
    refine ⟨⟨?_, ?_⟩, touched_stands law notes schedule.world key job coming schedule.jobs stands.holds⟩
    · exact sameNumbers.symm ▸ stands.numbered.nodup
    · exact sameNumbers.symm ▸ stands.numbered.below
  · exact stands

theorem foldl_stands {A : Type} (notes : G) (coming : List J) (act : Schedule W J → A → Schedule W J)
    (keeps : ∀ schedule item, schedule.Stands claim notes coming → (act schedule item).Stands claim notes coming)
    (items : List A) (schedule : Schedule W J) (stands : schedule.Stands claim notes coming) :
    (items.foldl act schedule).Stands claim notes coming := by
  induction items generalizing schedule with
  | nil => exact stands
  | cons item rest ih => exact ih (act schedule item) (keeps schedule item stands)

theorem deliver_stands (law : load.Law note claim) (notes : G) (coming : List J) (schedule : Schedule W J)
    (signal : Signal) (stands : schedule.Stands claim notes coming) :
    (schedule.deliver load signal).Stands claim notes coming :=
  foldl_stands notes coming _ (fun schedule _ => wake_stands law notes coming schedule _ _) _ schedule stands

theorem begin_stands (notes : G) (coming : List J) (schedule : Schedule W J) (number : Nat) (newJob : J)
    (stands : schedule.Stands claim notes (newJob :: coming)) :
    (schedule.grant load number (.begin newJob)).Stands claim notes coming := by
  refine ⟨⟨?_, ?_⟩, ?_⟩
  · simp only [grant, List.map_append, List.map_singleton]
    refine List.nodup_append.mpr ⟨stands.numbered.nodup, by simp, ?_⟩
    intro old member other last
    have before := stands.numbered.below old member
    rw [List.mem_singleton.mp last]
    exact Nat.ne_of_lt before
  · intro other member
    simp only [grant, List.map_append, List.map_singleton, List.mem_append, List.mem_singleton] at member ⊢
    rcases member with old | rfl
    · exact Nat.lt_succ_of_lt (stands.numbered.below other old)
    · exact Nat.lt_succ_self _
  · simp only [grant, List.map_append, List.map_singleton, List.append_assoc]
    exact stands.holds

theorem grants_stand (law : load.Law note claim) (notes : G) (number : Nat) (requests : List (Request J))
    (schedule : Schedule W J) (stands : schedule.Stands claim notes (Request.begun requests)) :
    (requests.foldl (fun schedule request => schedule.grant load number request) schedule).Stands claim notes [] := by
  induction requests generalizing schedule with
  | nil => exact stands
  | cons request rest ih =>
      apply ih
      cases request with
      | begin job => exact begin_stands notes _ schedule number job stands
      | signal sent => exact deliver_stands law notes _ schedule sent stands
      | again key => exact wake_stands law notes _ schedule number key stands
      | rest key => exact ⟨⟨stands.numbered.nodup, stands.numbered.below⟩, stands.holds⟩

theorem split_at_job (jobs : List (Nat × J)) (nodup : (jobs.map Prod.fst).Nodup) (number : Nat) (job : J)
    (found : jobs.lookup number = some job) :
    ∃ before after, jobs = before ++ (number, job) :: after ∧ ∀ entry ∈ before ++ after, entry.1 ≠ number := by
  induction jobs with
  | nil => cases found
  | cons entry rest ih =>
      obtain ⟨other, held⟩ := entry
      obtain ⟨fresh, distinct⟩ := List.nodup_cons.mp nodup
      rw [List.lookup_cons] at found
      by_cases same : number = other
      · subst other
        simp only [beq_self_eq_true] at found
        cases found
        refine ⟨[], rest, rfl, ?_⟩
        rintro entry member rfl
        exact fresh (List.mem_map.mpr ⟨entry, member, rfl⟩)
      · have differs : (number == other) = false := by simpa using same
        rw [differs] at found
        obtain ⟨before, after, rfl, others⟩ := ih distinct found
        refine ⟨(other, held) :: before, after, rfl, ?_⟩
        intro entry member
        rcases List.mem_cons.mp member with rfl | later
        · exact Ne.symm same
        · exact others entry later

theorem leave_stands (notes : G) (coming : List J) (schedule : Schedule W J) (number : Nat) (left : Option J)
    (before after : List (Nat × J)) (job : J) (numbered : schedule.Numbered)
    (split : schedule.jobs = before ++ (number, job) :: after)
    (others : ∀ entry ∈ before ++ after, entry.1 ≠ number) (perm : ∀ {notes world jobs others},
      jobs.Perm others → claim notes world jobs → claim notes world others)
    (holds : claim notes schedule.world (left.toList ++ (before ++ after).map Prod.snd ++ coming)) :
    (schedule.leave number left).Stands claim notes coming := by
  have elsewhere : ∀ {part : List (Nat × J)}, (∀ entry ∈ part, entry ∈ before ++ after) →
      ∀ entry ∈ part, entry.1 ≠ number := fun inside entry member => others entry (inside entry member)
  have early := elsewhere fun entry member => List.mem_append_left after member
  have late := elsewhere fun entry member => List.mem_append_right before member
  cases left with
  | some left =>
      have unmoved : ∀ {part : List (Nat × J)}, (∀ entry ∈ part, entry.1 ≠ number) →
          part.map (fun entry => if entry.1 = number then (number, left) else entry) = part := by
        intro part differ
        refine (List.map_congr_left fun entry member => ?_).trans (List.map_id part)
        exact if_neg (differ entry member)
      have jobs : (schedule.leave number (some left)).jobs = before ++ (number, left) :: after := by
        show schedule.jobs.map _ = _
        rw [split, List.map_append, List.map_cons, unmoved early, unmoved late, if_pos rfl]
      have sameNumbers : (schedule.leave number (some left)).jobs.map Prod.fst = schedule.jobs.map Prod.fst := by
        rw [jobs, split]
        simp only [List.map_append, List.map_cons]
      refine ⟨⟨?_, ?_⟩, ?_⟩
      · exact sameNumbers.symm ▸ numbered.nodup
      · exact sameNumbers.symm ▸ numbered.below
      · rw [jobs]
        refine perm ?_ holds
        simp only [List.map_append, List.map_cons, Option.toList_some, List.cons_append, List.nil_append,
          List.append_assoc]
        exact List.perm_middle.symm
  | none =>
      have kept : ∀ {part : List (Nat × J)}, (∀ entry ∈ part, entry.1 ≠ number) →
          part.filter (fun entry => !(entry.1 == number)) = part := by
        intro part differ
        refine List.filter_eq_self.mpr fun entry member => ?_
        simpa using differ entry member
      have jobs : (schedule.leave number none).jobs = before ++ after := by
        show schedule.jobs.filter _ = _
        rw [split, List.filter_append, List.filter_cons_of_neg (by simp), kept early, kept late]
      have fewer : ((schedule.leave number none).jobs.map Prod.fst).Sublist (schedule.jobs.map Prod.fst) :=
        List.filter_sublist.map Prod.fst
      refine ⟨⟨fewer.nodup numbered.nodup, fun other member => numbered.below other (fewer.subset member)⟩, ?_⟩
      rw [jobs]
      exact holds

def turnNotes (note : J → W → G → G) (number : Nat) (schedule : Schedule W J) (notes : G) : G :=
  match schedule.jobs.lookup number with
  | none => notes
  | some job => note job schedule.world notes

theorem turn_stands (law : load.Law note claim) (notes : G) (schedule : Schedule W J) (number : Nat)
    (stands : schedule.Stands claim notes []) :
    (schedule.turn load number).Stands claim (schedule.turnNotes note number notes) [] := by
  unfold turn turnNotes
  cases found : schedule.jobs.lookup number with
  | none => exact stands
  | some job =>
      obtain ⟨before, after, split, others⟩ := split_at_job schedule.jobs stands.numbered.nodup number job found
      have first : claim notes schedule.world (job :: (before ++ after).map Prod.snd) := by
        refine law.perm ?_ stands.holds
        rw [split, List.append_nil]
        simp only [List.map_append, List.map_cons]
        exact List.perm_middle
      have numbered : ({ schedule with world := (load.poll job schedule.world).2.1 } : Schedule W J).Numbered :=
        ⟨stands.numbered.nodup, stands.numbered.below⟩
      exact grants_stand law _ number _ _
        (leave_stands _ _ _ number _ before after job numbered split others law.perm (law.turn first))

theorem jump_stands (law : load.Law note claim) (notes : G) (schedule next : Schedule W J)
    (jumped : schedule.jump load = some next) (stands : schedule.Stands claim notes []) :
    next.Stands claim notes [] := by
  obtain ⟨due, -, rfl⟩ := Option.map_eq_some_iff.mp jumped
  refine foldl_stands notes [] _ (fun schedule _ => wake_stands law notes [] schedule _ _) _ _ ?_
  exact ⟨⟨stands.numbered.nodup, stands.numbered.below⟩, law.elapse stands.holds due⟩

theorem stir_stands (law : load.Law note claim) (notes : G) (schedule : Schedule W J)
    (stands : schedule.Stands claim notes []) : (schedule.stir load).Stands claim notes [] := by
  refine foldl_stands notes [] _ (fun schedule _ => wake_stands law notes [] schedule _ _) _ _ ?_
  exact ⟨⟨stands.numbered.nodup, stands.numbered.below⟩, stands.holds⟩

def stepNotes (note : J → W → G → G) (schedule : Schedule W J) (notes : G) : G :=
  match schedule.ready with
  | number :: _ => schedule.turnNotes note number notes
  | [] => notes

theorem step_stands (law : load.Law note claim) (notes : G) (schedule next : Schedule W J)
    (stepped : schedule.step load = some next) (stands : schedule.Stands claim notes []) :
    next.Stands claim (schedule.stepNotes note notes) [] := by
  unfold step at stepped
  unfold stepNotes
  cases ready : schedule.ready with
  | cons number rest =>
      simp only [ready, Option.some.injEq] at stepped
      subst stepped
      have popped : ({ schedule with ready := rest } : Schedule W J).Stands claim notes [] :=
        ⟨⟨stands.numbered.nodup, stands.numbered.below⟩, stands.holds⟩
      exact turn_stands law notes _ number popped
  | nil =>
      simp only [ready] at stepped
      split at stepped
      · cases stepped
        exact stir_stands law notes schedule stands
      · exact jump_stands law notes schedule next stepped stands

def follow (load : Workload W J) (note : J → W → G → G) : (steps : Nat) → G × Schedule W J → G × Schedule W J
  | 0, state => state
  | steps + 1, (notes, schedule) =>
      match schedule.step load with
      | some next => follow load note steps (schedule.stepNotes note notes, next)
      | none => (notes, schedule)

theorem follow_stands (law : load.Law note claim) (steps : Nat) (notes : G) (schedule : Schedule W J)
    (stands : schedule.Stands claim notes []) :
    (follow load note steps (notes, schedule)).2.Stands claim (follow load note steps (notes, schedule)).1 [] := by
  induction steps generalizing notes schedule with
  | zero => exact stands
  | succ steps ih =>
      rw [follow]
      split
      · next next stepped => exact ih _ next (step_stands law notes schedule next stepped stands)
      · exact stands

-- A run of the scheduler is some number of its steps.
theorem run_follows (note : J → W → G → G) (stop : W → Bool) (fuel : Nat) (notes : G) (schedule : Schedule W J) :
    ∃ steps, schedule.run load stop fuel = (follow load note steps (notes, schedule)).2 := by
  induction fuel generalizing notes schedule with
  | zero => exact ⟨0, rfl⟩
  | succ fuel ih =>
      rw [run]
      split
      · exact ⟨0, rfl⟩
      · cases stepped : schedule.step load with
        | none => exact ⟨0, rfl⟩
        | some next =>
            obtain ⟨steps, same⟩ := ih (schedule.stepNotes note notes) next
            refine ⟨steps + 1, ?_⟩
            simp only [follow, stepped]
            exact same

theorem start_stands (notes : G) (world : W) (job : J) (holds : claim notes world [job]) :
    (start world job).Stands claim notes [] := by
  refine ⟨⟨?_, ?_⟩, holds⟩
  · simp only [start, List.map_cons, List.map_nil, List.nodup_cons, List.not_mem_nil, not_false_eq_true,
      List.nodup_nil, and_self]
  · intro number member
    rw [List.mem_singleton.mp member]
    exact Nat.zero_lt_one

-- Whatever the scheduler does can be done.
theorem follow_reaches (load : Workload W J) (note : J → W → G → G) (world : W) (job : J) (notes : G) (steps : Nat) :
    load.Reach note world job notes (follow load note steps (notes, start world job)).1
      (follow load note steps (notes, start world job)).2.world
      ((follow load note steps (notes, start world job)).2.jobs.map Prod.snd) := by
  have begins : (start world job).Stands (load.Reach note world job notes) notes [] :=
    start_stands notes world job .start
  have stands := follow_stands (reach_law load note world job notes) steps notes _ begins
  have holds := stands.holds
  rwa [List.append_nil] at holds

theorem run_reaches (load : Workload W J) (note : J → W → G → G) (world : W) (job : J) (notes : G) (stop : W → Bool)
    (fuel : Nat) :
    ∃ noted jobs, load.Reach note world job notes noted ((start world job).run load stop fuel).world jobs := by
  have follows : ∃ steps, (start world job).run load stop fuel = (follow load note steps (notes, start world job)).2 :=
    run_follows note stop fuel notes (start world job)
  obtain ⟨steps, same⟩ := follows
  exact ⟨_, _, same ▸ follow_reaches load note world job notes steps⟩

end Schedule

-- What can have been noted, and what the world and its jobs can have become, when a crew has begun in a world: jobs
-- take turns in any order, and are woken at any time, and the clock is set to any time.
inductive Workload.CrewReach (load : Workload W J) (note : J → W → G → G) (world : W) (crew : List J) (notes : G) :
    G → W → List J → Prop where
  | start : CrewReach load note world crew notes notes world crew
  | perm {noted reached jobs others} (before : CrewReach load note world crew notes noted reached jobs)
      (same : jobs.Perm others) : CrewReach load note world crew notes noted reached others
  | touch {noted reached next rest} (before : CrewReach load note world crew notes noted reached (next :: rest))
      (key : Nat) : CrewReach load note world crew notes noted reached (load.touch key next :: rest)
  | elapse {noted reached jobs} (before : CrewReach load note world crew notes noted reached jobs) (now : Nat) :
      CrewReach load note world crew notes noted (load.elapse now reached) jobs
  | turn {noted reached next rest} (before : CrewReach load note world crew notes noted reached (next :: rest)) :
      CrewReach load note world crew notes (note next reached noted) (load.poll next reached).2.1
        ((load.poll next reached).1.toList ++ rest ++ Request.begun (load.poll next reached).2.2)

theorem crew_reach_law (load : Workload W J) (note : J → W → G → G) (world : W) (crew : List J) (notes : G) :
    load.Law note (load.CrewReach note world crew notes) where
  perm same before := .perm before same
  touch before key := .touch before key
  elapse before now := .elapse before now
  turn before := .turn before

theorem Workload.Law.crew_reached {load : Workload W J} {note : J → W → G → G} {claim : G → W → List J → Prop}
    (law : load.Law note claim) (world : W) (crew : List J) (notes : G) (begins : claim notes world crew) (noted : G)
    (reached : W) (jobs : List J) (reach : load.CrewReach note world crew notes noted reached jobs) :
    claim noted reached jobs := by
  induction reach with
  | start => exact begins
  | perm before same ih => exact law.perm same ih
  | touch before key ih => exact law.touch ih key
  | elapse before now ih => exact law.elapse ih now
  | turn before ih => exact law.turn ih

namespace Schedule

def crew (world : W) (jobs : List J) : Schedule W J :=
  ⟨world, (List.range jobs.length).zip jobs, List.range jobs.length, [], jobs.length⟩

theorem crew_stands (claim : G → W → List J → Prop) (notes : G) (world : W) (jobs : List J)
    (holds : claim notes world jobs) : (crew world jobs).Stands claim notes [] := by
  have numbers : ((List.range jobs.length).zip jobs).map Prod.fst = List.range jobs.length :=
    List.map_fst_zip (by simp)
  have same : ((List.range jobs.length).zip jobs).map Prod.snd = jobs := List.map_snd_zip (by simp)
  refine ⟨⟨?_, ?_⟩, ?_⟩
  · simp only [crew, numbers]
    exact List.nodup_range
  · intro number member
    simp only [crew, numbers] at member
    exact List.mem_range.mp member
  · simp only [crew, same, List.append_nil]
    exact holds

-- Whatever the scheduler does for a crew can be done.
theorem crew_reaches (load : Workload W J) (note : J → W → G → G) (world : W) (jobs : List J) (notes : G)
    (steps : Nat) :
    load.CrewReach note world jobs notes (follow load note steps (notes, crew world jobs)).1
      (follow load note steps (notes, crew world jobs)).2.world
      ((follow load note steps (notes, crew world jobs)).2.jobs.map Prod.snd) := by
  have begins := crew_stands (load.CrewReach note world jobs notes) notes world jobs .start
  have stands := follow_stands (crew_reach_law load note world jobs notes) steps notes _ begins
  have holds := stands.holds
  rwa [List.append_nil] at holds

end Schedule

end Workcell
