import Mathlib.Data.List.TakeWhile
import Workcell.Proofs.Schedule.Transfer

/-!
The queue for turns, with one job at a desk that is the first of all jobs: whoever is young has a turn to come before the
desk has one, unless somebody is still at work whose turn the desk will not see before.
-/

set_option autoImplicit false

namespace Workcell

variable {W J G : Type}

-- Sorts of jobs that no waking leads into or out of.
structure Workload.Sorts (load : Workload W J) where
  desk : J → Prop
  young : J → Prop
  drives : J → Prop
  touch_desk : ∀ key job, desk (load.touch key job) ↔ desk job
  touch_young : ∀ key job, young (load.touch key job) ↔ young job
  touch_drives : ∀ key job, drives (load.touch key job) ↔ drives job

variable {load : Workload W J}

structure Workload.Sorts.Turns (sorts : load.Sorts) (job : J) (world : W) : Prop where
  desk : ∀ left, (load.poll job world).1 = some left → (sorts.desk left ↔ sorts.desk job)
  aged : ∀ left, (load.poll job world).1 = some left → ¬ sorts.young left
  begun : ∀ other, .begin other ∈ (load.poll job world).2.2 → ¬ sorts.desk other
  restless : sorts.desk job → ∀ key, .rest key ∉ (load.poll job world).2.2
  young : (∀ other, .begin other ∈ (load.poll job world).2.2 → ¬ sorts.young other) ∨
    ¬ sorts.desk job ∧ (∃ left, (load.poll job world).1 = some left ∧ sorts.drives left) ∧
      ∀ sent, .signal sent ∈ (load.poll job world).2.2 → ∀ other, sorts.desk other →
      ∀ leaf ∈ load.leaves other, sent ∉ leaf.signals

namespace Schedule

def ahead (schedule : Schedule W J) : List Nat := schedule.ready.takeWhile (· != 0)

-- The order of the jobs and of their turns.
structure Rows (sorts : load.Sorts) (schedule : Schedule W J) : Prop where
  numbered : schedule.Numbered
  begun : 0 < schedule.next
  nodup : schedule.ready.Nodup
  known : ∀ number ∈ schedule.ready, number < schedule.next
  desk : ∀ entry ∈ schedule.jobs, sorts.desk entry.2 ↔ entry.1 = 0
  resting : ∀ entry ∈ schedule.resting, entry.1 ≠ 0 ∧ entry.1 < schedule.next

def Stalled (sorts : load.Sorts) (schedule : Schedule W J) : Prop :=
  0 ∈ schedule.ready ∧ ∃ entry ∈ schedule.jobs, sorts.drives entry.2 ∧ entry.1 ∉ schedule.ahead

structure Queued (sorts : load.Sorts) (schedule : Schedule W J) : Prop extends Rows sorts schedule where
  young : ∀ entry ∈ schedule.jobs, sorts.young entry.2 →
    entry.1 ∈ schedule.ahead ∨ schedule.Stalled sorts ∧ entry.1 ∈ schedule.ready

structure Grown (sorts : load.Sorts) (begun : List J) (before after : Schedule W J) : Prop where
  rows : after.Rows sorts
  ready : ∃ more, after.ready = before.ready ++ more
  young : ∀ entry ∈ after.jobs, sorts.young entry.2 →
    (∃ former ∈ before.jobs, former.1 = entry.1 ∧ sorts.young former.2) ∨
      entry.1 ∈ after.ready ∧ ∃ job ∈ begun, sorts.young job
  drives : ∀ entry ∈ before.jobs, sorts.drives entry.2 → ∃ later ∈ after.jobs, later.1 = entry.1 ∧ sorts.drives later.2

variable {sorts : load.Sorts} {schedule next : Schedule W J}

theorem Grown.refl (rows : schedule.Rows sorts) : Grown sorts [] schedule schedule where
  rows := rows
  ready := ⟨[], (List.append_nil _).symm⟩
  young entry member young := Or.inl ⟨entry, member, rfl, young⟩
  drives entry member drives := ⟨entry, member, rfl, drives⟩

theorem Grown.trans {begun more : List J} {first second third : Schedule W J} (before : Grown sorts begun first second)
    (after : Grown sorts more second third) : Grown sorts (begun ++ more) first third where
  rows := after.rows
  ready := by
    obtain ⟨news, grown⟩ := before.ready
    obtain ⟨others, grownMore⟩ := after.ready
    exact ⟨news ++ others, by rw [grownMore, grown, List.append_assoc]⟩
  young entry member young := by
    obtain ⟨others, grownMore⟩ := after.ready
    rcases after.young entry member young with ⟨former, inside, own, youngBefore⟩ | ⟨ready, job, begins, youngJob⟩
    · rcases before.young former inside youngBefore with ⟨oldest, known, same, youngest⟩ | ⟨ready, job, begins, youngJob⟩
      · exact Or.inl ⟨oldest, known, same.trans own, youngest⟩
      · refine Or.inr ⟨?_, job, List.mem_append_left _ begins, youngJob⟩
        rw [grownMore, ← own]
        exact List.mem_append_left _ ready
    · exact Or.inr ⟨ready, job, List.mem_append_right _ begins, youngJob⟩
  drives entry member drives := by
    obtain ⟨between, inside, own, drivesStill⟩ := before.drives entry member drives
    obtain ⟨later, last, same, drivesLater⟩ := after.drives between inside drivesStill
    exact ⟨later, last, same.trans own, drivesLater⟩

theorem wake_grown (rows : schedule.Rows sorts) (number key : Nat) :
    Grown sorts [] schedule (schedule.wake load number key) := by
  have numbered := (wake_stands (anything_lawful load) () [] schedule number key rows.numbered.stands).numbered
  unfold wake at numbered ⊢
  split
  · rename_i known
    rw [if_pos known] at numbered
    have inside : number < schedule.next := by
      obtain ⟨entry, member, own⟩ := List.any_eq_true.mp known
      exact (by simpa using own : entry.1 = number) ▸ rows.numbered.below entry.1 (List.mem_map_of_mem member)
    have same : ∀ entry : Nat × J, (if entry.1 = number then (entry.1, load.touch key entry.2) else entry).1 = entry.1 := by
      intro entry
      split <;> rfl
    refine ⟨⟨numbered, rows.begun, ?_, ?_, ?_, rows.resting⟩, ?_, ?_, ?_⟩
    · exact enqueue_nodup _ _ rows.nodup
    · intro other member
      rcases (mem_enqueue _ _ _).mp member with before | own
      · exact rows.known other before
      · rw [List.mem_singleton.mp own]
        exact inside
    · intro entry member
      obtain ⟨before, there, rfl⟩ := List.mem_map.mp member
      rw [same, ← rows.desk before there]
      split
      · exact sorts.touch_desk key before.2
      · exact Iff.rfl
    · show ∃ more, enqueue schedule.ready [number] = _
      rw [enqueue_one]
      split
      · exact ⟨[], (List.append_nil _).symm⟩
      · exact ⟨[number], rfl⟩
    · intro entry member young
      obtain ⟨before, there, rfl⟩ := List.mem_map.mp member
      refine Or.inl ⟨before, there, (same before).symm, ?_⟩
      split at young
      · exact (sorts.touch_young key before.2).mp young
      · exact young
    · intro entry member drives
      refine ⟨_, List.mem_map_of_mem member, same entry, ?_⟩
      split
      · exact (sorts.touch_drives key entry.2).mpr drives
      · exact drives
  · exact .refl rows

theorem wakes_grown {E : Type} (rows : schedule.Rows sorts) (items : List E) (job key : E → Nat) :
    Grown sorts [] schedule (items.foldl (fun schedule item => schedule.wake load (job item) (key item)) schedule) := by
  induction items generalizing schedule with
  | nil => exact .refl rows
  | cons item rest ih =>
      have woken := wake_grown rows (job item) (key item)
      exact woken.trans (ih woken.rows)

theorem begin_grown (rows : schedule.Rows sorts) (number : Nat) (newJob : J) (noDesk : ¬ sorts.desk newJob) :
    Grown sorts [newJob] schedule (schedule.grant load number (.begin newJob)) := by
  have numbered := begin_numbered load number newJob rows.numbered
  refine ⟨⟨numbered, Nat.succ_pos _, ?_, ?_, ?_, ?_⟩, ⟨[schedule.next], rfl⟩, ?_, ?_⟩
  · refine List.nodup_append.mpr ⟨rows.nodup, List.nodup_singleton _, ?_⟩
    rintro one member other last rfl
    rw [List.mem_singleton.mp last] at member
    exact Nat.lt_irrefl _ (rows.known _ member)
  · intro other member
    rcases List.mem_append.mp member with before | last
    · exact Nat.lt_succ_of_lt (rows.known other before)
    · rw [List.mem_singleton.mp last]
      exact Nat.lt_succ_self _
  · intro entry member
    rcases List.mem_append.mp member with before | last
    · exact rows.desk entry before
    · rw [List.mem_singleton.mp last]
      exact ⟨fun desk => absurd desk noDesk, fun first => absurd first (Nat.ne_of_gt rows.begun)⟩
  · exact fun entry member => ⟨(rows.resting entry member).1, Nat.lt_succ_of_lt (rows.resting entry member).2⟩
  · intro entry member young
    rcases List.mem_append.mp member with before | last
    · exact Or.inl ⟨entry, before, rfl, young⟩
    · rw [List.mem_singleton.mp last] at young ⊢
      exact Or.inr ⟨List.mem_append_right _ (List.mem_singleton.mpr rfl), newJob, List.mem_singleton.mpr rfl, young⟩
  · exact fun entry member drives => ⟨entry, List.mem_append_left _ member, rfl, drives⟩

theorem grant_grown (rows : schedule.Rows sorts) (number : Nat) (inside : number < schedule.next) (request : Request J)
    (noDesk : ∀ job, request = .begin job → ¬ sorts.desk job) (rests : ∀ key, request = .rest key → number ≠ 0) :
    Grown sorts (Request.begun [request]) schedule (schedule.grant load number request) := by
  cases request with
  | begin job => exact begin_grown rows number job (noDesk job rfl)
  | signal sent => exact wakes_grown rows _ (fun place : Place => place.job) fun place => place.leaf.key
  | again key => exact wake_grown rows number key
  | rest key =>
      refine ⟨⟨⟨rows.numbered.nodup, rows.numbered.below⟩, rows.begun, rows.nodup, rows.known, rows.desk, ?_⟩,
        ⟨[], (List.append_nil _).symm⟩, fun entry member young => Or.inl ⟨entry, member, rfl, young⟩,
        fun entry member drives => ⟨entry, member, rfl, drives⟩⟩
      intro entry member
      rcases List.mem_append.mp member with before | last
      · exact rows.resting entry before
      · rw [List.mem_singleton.mp last]
        exact ⟨rests key rfl, inside⟩

theorem grant_next (load : Workload W J) (number : Nat) (request : Request J) (schedule : Schedule W J) :
    schedule.next ≤ (schedule.grant load number request).next := by
  have wakes : ∀ {E : Type} (items : List E) (job key : E → Nat) (schedule : Schedule W J),
      (items.foldl (fun schedule item => schedule.wake load (job item) (key item)) schedule).next = schedule.next := by
    intro E items job key schedule
    induction items generalizing schedule with
    | nil => rfl
    | cons item rest ih =>
        rw [List.foldl_cons, ih]
        unfold wake
        split <;> rfl
  cases request with
  | begin job => exact Nat.le_succ _
  | signal sent => exact Nat.le_of_eq (wakes _ (fun place : Place => place.job) (fun place => place.leaf.key) schedule).symm
  | again key => exact Nat.le_of_eq (wakes [()] (fun _ => number) (fun _ => key) schedule).symm
  | rest key => exact Nat.le_refl _

theorem grants_grown (rows : schedule.Rows sorts) (number : Nat) (inside : number < schedule.next)
    (requests : List (Request J)) (noDesk : ∀ job, .begin job ∈ requests → ¬ sorts.desk job)
    (rests : ∀ key, .rest key ∈ requests → number ≠ 0) :
    Grown sorts (Request.begun requests) schedule
      (requests.foldl (fun schedule request => schedule.grant load number request) schedule) := by
  induction requests generalizing schedule with
  | nil => exact .refl rows
  | cons request rest ih =>
      have granted := grant_grown rows number inside request (fun job is => noDesk job (is ▸ List.mem_cons_self))
        fun key is => rests key (is ▸ List.mem_cons_self)
      have later := ih granted.rows (Nat.lt_of_lt_of_le inside (grant_next load number request schedule))
        (fun job member => noDesk job (List.mem_cons_of_mem _ member)) fun key member =>
        rests key (List.mem_cons_of_mem _ member)
      have both := granted.trans later
      rwa [← Request.begun_append] at both

theorem begun_of_mem (requests : List (Request J)) (job : J) (member : job ∈ Request.begun requests) :
    .begin job ∈ requests := by
  induction requests with
  | nil => cases member
  | cons request rest ih =>
      cases request with
      | begin other =>
          rcases List.mem_cons.mp member with rfl | later
          · exact List.mem_cons_self
          · exact List.mem_cons_of_mem _ (ih later)
      | signal sent => exact List.mem_cons_of_mem _ (ih member)
      | again key => exact List.mem_cons_of_mem _ (ih member)
      | rest key => exact List.mem_cons_of_mem _ (ih member)

theorem wakes_pass_by {E : Type} (load : Workload W J) (items : List E) (job key : E → Nat)
    (others : ∀ item ∈ items, job item ≠ 0) (schedule : Schedule W J)
    (called : 0 ∈ (items.foldl (fun schedule item => schedule.wake load (job item) (key item)) schedule).ready) :
    0 ∈ schedule.ready := by
  induction items generalizing schedule with
  | nil => exact called
  | cons item rest ih =>
      have before : 0 ∈ (schedule.wake load (job item) (key item)).ready :=
        ih (fun other member => others other (List.mem_cons_of_mem _ member)) _ called
      unfold wake at before
      split at before
      · rcases (mem_enqueue _ _ _).mp before with already | own
        · exact already
        · exact absurd (List.mem_singleton.mp own).symm (others item List.mem_cons_self)
      · exact before

-- What the desk does not listen to gives it no turn.
theorem grants_pass_by (rows : schedule.Rows sorts) (number : Nat) (inside : number < schedule.next) (other : number ≠ 0)
    (requests : List (Request J)) (noDesk : ∀ job, .begin job ∈ requests → ¬ sorts.desk job)
    (unheard : ∀ sent, .signal sent ∈ requests → ∀ job, sorts.desk job → ∀ leaf ∈ load.leaves job, sent ∉ leaf.signals)
    (called : 0 ∈ (requests.foldl (fun schedule request => schedule.grant load number request) schedule).ready) :
    0 ∈ schedule.ready := by
  induction requests generalizing schedule with
  | nil => exact called
  | cons request rest ih =>
      have granted := grant_grown rows number inside request (fun job is => noDesk job (is ▸ List.mem_cons_self))
        fun _ _ => other
      have before := ih granted.rows (Nat.lt_of_lt_of_le inside (grant_next load number request schedule))
        (fun job member => noDesk job (List.mem_cons_of_mem _ member))
        (fun sent member => unheard sent (List.mem_cons_of_mem _ member)) called
      cases request with
      | begin job =>
          rcases List.mem_append.mp before with already | last
          · exact already
          · exact absurd (List.mem_singleton.mp last) (Nat.ne_of_lt rows.begun)
      | signal sent =>
          refine wakes_pass_by load _ (fun place : Place => place.job) (fun place => place.leaf.key) ?_ schedule before
          intro place member first
          obtain ⟨sits, listens⟩ := List.mem_filter.mp ((mem_sortBy _ place _).mp member)
          obtain ⟨entry, known, inside⟩ := List.mem_flatMap.mp sits
          obtain ⟨leaf, has, rfl⟩ := List.mem_map.mp inside
          exact unheard sent List.mem_cons_self entry.2 ((rows.desk entry known).mpr first) leaf has
            (List.contains_iff_mem.mp listens)
      | again key => exact wakes_pass_by load [()] (fun _ => number) (fun _ => key) (fun _ _ => other) schedule before
      | rest key => exact before

theorem ahead_of_mem (ready more : List Nat) (called : 0 ∈ ready) :
    (ready ++ more).takeWhile (· != 0) = ready.takeWhile (· != 0) := by
  induction ready with
  | nil => cases called
  | cons number rest ih =>
      by_cases first : number = 0
      · simp [first]
      · rw [List.cons_append, List.takeWhile_cons, List.takeWhile_cons, if_pos (by simpa using first),
          if_pos (by simpa using first)]
        rcases List.mem_cons.mp called with own | later
        · exact absurd own.symm first
        · rw [ih later]

theorem ahead_of_not_mem (ready : List Nat) (uncalled : 0 ∉ ready) : ready.takeWhile (· != 0) = ready := by
  refine List.takeWhile_eq_self_iff.mpr fun number member => bne_iff_ne.mpr ?_
  rintro rfl
  exact uncalled member

theorem ahead_of_append (ready more : List Nat) (number : Nat) (member : number ∈ ready.takeWhile (· != 0)) :
    number ∈ (ready ++ more).takeWhile (· != 0) := by
  by_cases called : 0 ∈ ready
  · rwa [ahead_of_mem ready more called]
  · rw [List.takeWhile_append_of_pos]
    · exact List.mem_append_left _ (List.takeWhile_subset _ member)
    · intro other inside
      have differs : other ≠ 0 := by
        rintro rfl
        exact called inside
      simpa using differs

theorem Queued.popped (queued : schedule.Queued sorts) (number : Nat) (rest : List Nat)
    (ready : schedule.ready = number :: rest) (entry : Nat × J) (member : entry ∈ schedule.jobs)
    (young : sorts.young entry.2) (other : entry.1 ≠ number) :
    entry.1 ∈ rest.takeWhile (· != 0) ∨ 0 ∈ rest ∧ entry.1 ∈ rest ∧ ∃ driver ∈ schedule.jobs, sorts.drives driver.2 ∧
      driver.1 ∉ rest.takeWhile (· != 0) ∧ driver.1 ≠ number := by
  have standing := queued.young entry member young
  have nodup := queued.nodup
  unfold Stalled ahead at standing
  rw [ready] at standing nodup
  by_cases first : number = 0
  · subst first
    have empty : (0 :: rest).takeWhile (· != 0) = [] := rfl
    rw [empty] at standing
    rcases standing with none | ⟨-, inside⟩
    · cases none
    · rcases List.mem_cons.mp inside with own | later
      · exact absurd own other
      · left
        rwa [ahead_of_not_mem rest (List.nodup_cons.mp nodup).1]
  · have opens : (number :: rest).takeWhile (· != 0) = number :: rest.takeWhile (· != 0) := by
      rw [List.takeWhile_cons, if_pos (by simpa using first)]
    rw [opens] at standing
    rcases standing with front | ⟨⟨called, driver, known, drives, behind⟩, inside⟩
    · exact Or.inl ((List.mem_cons.mp front).resolve_left other)
    · refine Or.inr ⟨(List.mem_cons.mp called).resolve_left fun own => first own.symm, ?_, driver, known, drives, ?_, ?_⟩
      · exact (List.mem_cons.mp inside).resolve_left other
      · exact fun later => behind (List.mem_cons_of_mem _ later)
      · exact fun own => behind (own ▸ List.mem_cons_self)

theorem leave_rows (rows : schedule.Rows sorts) (number : Nat) (job : J) (found : schedule.jobs.lookup number = some job)
    (rest : List Nat) (ready : schedule.ready = number :: rest) (world : W) (left : Option J)
    (desk : ∀ other, left = some other → (sorts.desk other ↔ sorts.desk job)) :
    (({ schedule with ready := rest, world := world } : Schedule W J).leave number left).Rows sorts := by
  have turned : ({ schedule with ready := rest, world := world } : Schedule W J).Numbered :=
    ⟨rows.numbered.nodup, rows.numbered.below⟩
  obtain ⟨numbered, -⟩ := leave_numbered turned number left
  have nodup : rest.Nodup := (List.nodup_cons.mp (ready ▸ rows.nodup)).2
  have known : ∀ other ∈ rest, other < schedule.next := fun other member =>
    rows.known other (ready ▸ List.mem_cons_of_mem _ member)
  cases left with
  | some left =>
      refine ⟨numbered, rows.begun, nodup, known, fun entry member => ?_, rows.resting⟩
      obtain ⟨before, inside, rfl⟩ := List.mem_map.mp member
      by_cases own : before.1 = number
      · rw [if_pos own]
        exact (desk left rfl).trans (rows.desk (number, job) (mem_of_lookup number job schedule.jobs found))
      · rw [if_neg own]
        exact rows.desk before inside
  | none =>
      refine ⟨numbered, rows.begun, nodup, known, fun entry member => ?_, fun entry member => ?_⟩
      · exact rows.desk entry (List.mem_filter.mp member).1
      · exact rows.resting entry (List.mem_filter.mp member).1

theorem mem_leave (number : Nat) (left : Option J) (entry : Nat × J) (member : entry ∈ (schedule.leave number left).jobs) :
    entry.1 ≠ number ∧ entry ∈ schedule.jobs ∨ entry.1 = number ∧ left = some entry.2 := by
  cases left with
  | some left =>
      obtain ⟨before, inside, rfl⟩ := List.mem_map.mp member
      by_cases own : before.1 = number
      · rw [if_pos own]
        exact Or.inr ⟨rfl, rfl⟩
      · rw [if_neg own]
        exact Or.inl ⟨own, inside⟩
  | none =>
      obtain ⟨inside, other⟩ := List.mem_filter.mp member
      exact Or.inl ⟨by simpa using other, inside⟩

theorem leave_mem (number : Nat) (left : Option J) (entry : Nat × J) (member : entry ∈ schedule.jobs)
    (other : entry.1 ≠ number) : entry ∈ (schedule.leave number left).jobs := by
  cases left with
  | some left => exact List.mem_map.mpr ⟨entry, member, if_neg other⟩
  | none => exact List.mem_filter.mpr ⟨member, by simpa using other⟩

theorem leave_ready (number : Nat) (left : Option J) : (schedule.leave number left).ready = schedule.ready := by
  cases left <;> rfl

theorem leave_next (number : Nat) (left : Option J) : (schedule.leave number left).next = schedule.next := by
  cases left <;> rfl

theorem turn_queued (queued : schedule.Queued sorts) (number : Nat) (rest : List Nat)
    (ready : schedule.ready = number :: rest)
    (turns : ∀ job, schedule.jobs.lookup number = some job → sorts.Turns job schedule.world) :
    (({ schedule with ready := rest } : Schedule W J).turn load number).Queued sorts := by
  have nodup := List.nodup_cons.mp (ready ▸ queued.nodup)
  unfold turn
  dsimp only
  cases found : schedule.jobs.lookup number with
  | none =>
      have gone : ∀ entry ∈ schedule.jobs, entry.1 ≠ number := by
        rintro entry member rfl
        have nobody := List.lookup_eq_none_iff.mp found entry member
        simp at nobody
      refine ⟨⟨⟨queued.numbered.nodup, queued.numbered.below⟩, queued.begun, nodup.2, fun other member =>
        queued.known other (ready ▸ List.mem_cons_of_mem _ member), queued.desk, queued.resting⟩,
        fun entry member young => ?_⟩
      rcases queued.popped number rest ready entry member young (gone entry member) with front |
        ⟨called, inside, driver, known, drives, behind, -⟩
      · exact Or.inl front
      · exact Or.inr ⟨⟨called, driver, known, drives, behind⟩, inside⟩
  | some job =>
      have turn := turns job found
      dsimp only
      have own := mem_of_lookup number job schedule.jobs found
      have inside : number < schedule.next := queued.numbered.below number (List.mem_map_of_mem own)
      have rows := leave_rows queued.toRows number job found rest ready (load.poll job schedule.world).2.1
        (load.poll job schedule.world).1 turn.desk
      have readyLeft : (({ schedule with ready := rest, world := (load.poll job schedule.world).2.1 } :
          Schedule W J).leave number (load.poll job schedule.world).1).ready = rest := leave_ready number _
      have insideLeft : number < (({ schedule with ready := rest, world := (load.poll job schedule.world).2.1 } :
          Schedule W J).leave number (load.poll job schedule.world).1).next := by
        rw [leave_next]
        exact inside
      have rests : ∀ key, .rest key ∈ (load.poll job schedule.world).2.2 → number ≠ 0 := fun key asks first =>
        turn.restless ((queued.desk _ own).mpr first) key asks
      have grown := grants_grown rows number insideLeft (load.poll job schedule.world).2.2 turn.begun rests
      obtain ⟨more, appended⟩ := grown.ready
      rw [readyLeft] at appended
      refine ⟨grown.rows, fun entry member young => ?_⟩
      unfold Stalled ahead
      rw [appended]
      rcases grown.young entry member young with ⟨former, there, same, youngBefore⟩ | ⟨has, other, begins, youngJob⟩
      · rcases mem_leave number _ former there with ⟨differs, before⟩ | ⟨-, left⟩
        · rw [← same]
          rcases queued.popped number rest ready former before youngBefore differs with front |
            ⟨called, waits, driver, known, drives, behind, another⟩
          · exact Or.inl (ahead_of_append rest more former.1 front)
          · obtain ⟨later, last, sameDriver, drivesLater⟩ :=
              grown.drives driver (leave_mem number _ driver known another) drives
            refine Or.inr ⟨⟨List.mem_append_left _ called, later, last, drivesLater, ?_⟩, List.mem_append_left _ waits⟩
            rw [ahead_of_mem rest more called, sameDriver]
            exact behind
        · exact absurd youngBefore (turn.aged _ left)
      · have begins := begun_of_mem _ other begins
        rw [appended] at has
        rcases turn.young with nobody | ⟨noDesk, ⟨left, goesOn, drives⟩, unheard⟩
        · exact absurd youngJob (nobody other begins)
        · have another : number ≠ 0 := fun first => noDesk ((queued.desk _ own).mpr first)
          by_cases called : 0 ∈ rest
          · obtain ⟨later, last, sameDriver, drivesLater⟩ := grown.drives (number, left) (by
              rw [goesOn]
              exact List.mem_map.mpr ⟨(number, job), own, if_pos rfl⟩) drives
            refine Or.inr ⟨⟨List.mem_append_left _ called, later, last, drivesLater, ?_⟩, has⟩
            rw [ahead_of_mem rest more called, sameDriver]
            exact fun front => nodup.1 (List.takeWhile_subset _ front)
          · have uncalled : 0 ∉ rest ++ more := by
              intro late
              rw [← appended] at late
              have before := grants_pass_by rows number insideLeft another _ turn.begun unheard late
              rw [readyLeft] at before
              exact called before
            left
            rwa [ahead_of_not_mem _ uncalled]

-- Nobody is young when nobody has a turn to come.
theorem Queued.none_young (queued : schedule.Queued sorts) (ready : schedule.ready = []) (entry : Nat × J)
    (member : entry ∈ schedule.jobs) : ¬ sorts.young entry.2 := by
  intro young
  have standing := queued.young entry member young
  unfold ahead at standing
  rw [ready] at standing
  rcases standing with front | ⟨-, inside⟩
  · cases front
  · cases inside

theorem wakes_queued {E : Type} (rows : schedule.Rows sorts) (aged : ∀ entry ∈ schedule.jobs, ¬ sorts.young entry.2)
    (items : List E) (job key : E → Nat) :
    (items.foldl (fun schedule item => schedule.wake load (job item) (key item)) schedule).Queued sorts := by
  have grown := wakes_grown rows items job key
  refine ⟨grown.rows, fun entry member young => ?_⟩
  rcases grown.young entry member young with ⟨former, inside, -, before⟩ | ⟨-, other, none, -⟩
  · exact absurd before (aged former inside)
  · cases none

theorem step_queued (queued : schedule.Queued sorts) (stepped : schedule.step load = some next)
    (turns : ∀ entry ∈ schedule.jobs, sorts.Turns entry.2 schedule.world) : next.Queued sorts := by
  unfold step at stepped
  cases ready : schedule.ready with
  | cons number rest =>
      simp only [ready, Option.some.injEq] at stepped
      subst stepped
      exact turn_queued queued number rest ready fun job found => turns _ (mem_of_lookup number job schedule.jobs found)
  | nil =>
      have aged := queued.none_young ready
      simp only [ready] at stepped
      cases resting : schedule.resting with
      | cons entry others =>
          simp only [resting, Option.some.injEq] at stepped
          subst stepped
          have rows : ({ schedule with resting := [] } : Schedule W J).Rows sorts :=
            ⟨⟨queued.numbered.nodup, queued.numbered.below⟩, queued.begun, queued.nodup, queued.known, queued.desk, nofun⟩
          exact wakes_queued rows aged schedule.resting Prod.fst Prod.snd
      | nil =>
          simp only [resting] at stepped
          obtain ⟨due, -, rfl⟩ := Option.map_eq_some_iff.mp stepped
          have rows : ({ schedule with world := load.elapse due schedule.world } : Schedule W J).Rows sorts :=
            ⟨⟨queued.numbered.nodup, queued.numbered.below⟩, queued.begun, queued.nodup, queued.known, queued.desk,
              queued.resting⟩
          exact wakes_queued rows aged _ (fun entry : Timer × Place => entry.2.job) fun entry => entry.2.leaf.key

theorem follow_queued {note : J → W → G → G} {claim : G → W → List J → Prop} (law : load.Law note claim)
    (turns : ∀ notes world jobs job, claim notes world jobs → job ∈ jobs → sorts.Turns job world) (steps : Nat) (notes : G)
    (schedule : Schedule W J) (stands : schedule.Stands claim notes []) (queued : schedule.Queued sorts) :
    (follow load note steps (notes, schedule)).2.Queued sorts := by
  induction steps generalizing notes schedule with
  | zero => exact queued
  | succ steps ih =>
      rw [follow]
      split
      · next next stepped =>
        refine ih _ next (step_stands law notes schedule next stepped stands)
          (step_queued queued stepped fun entry member => ?_)
        exact turns notes schedule.world _ entry.2 stands.holds (List.mem_append_left _ (List.mem_map_of_mem member))
      · exact queued

end Schedule

end Workcell
