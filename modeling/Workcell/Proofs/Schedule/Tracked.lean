import Workcell.Proofs.Cancellation.Places
import Workcell.Proofs.Schedule.Law

/-!
One job among the others: what becomes of it by the steps of the scheduler. A job that nothing wakes into another one is
changed by its own turns alone, and the clock does not pass the time that it waits for.
-/

set_option autoImplicit false

namespace Workcell

variable {W J : Type}

theorem Duration.due_ahead (now span : Nat) (lasts : span ≠ 0) : now < due now span := by
  unfold due
  split
  · exact Nat.lt_add_of_pos_right (by decide)
  · omega

theorem lookup_map_entries {A : Type} (f : Nat → A → A) (number : Nat) (entries : List (Nat × A)) :
    (entries.map fun entry => (entry.1, f entry.1 entry.2)).lookup number = (entries.lookup number).map (f number) := by
  induction entries with
  | nil => rfl
  | cons entry rest ih =>
      rw [List.map_cons, List.lookup_cons, List.lookup_cons]
      by_cases same : number = entry.1
      · subst same
        simp
      · have differs : (number == entry.1) = false := by simpa using same
        rw [differs]
        exact ih

theorem lookup_filter_other {A : Type} (gone number : Nat) (entries : List (Nat × A)) (other : number ≠ gone) :
    (entries.filter fun entry => !(entry.1 == gone)).lookup number = entries.lookup number := by
  induction entries with
  | nil => rfl
  | cons entry rest ih =>
      by_cases same : entry.1 = gone
      · have differs : (number == entry.1) = false := by simpa [same] using other
        rw [List.filter_cons_of_neg (by simp [same]), List.lookup_cons, differs, ih]
      · rw [List.filter_cons_of_pos (by simp [same]), List.lookup_cons, List.lookup_cons, ih]

theorem lookup_filter_own {A : Type} (gone : Nat) (entries : List (Nat × A)) :
    (entries.filter fun entry => !(entry.1 == gone)).lookup gone = none := by
  rw [List.lookup_eq_none_iff]
  intro entry member
  have other : entry.1 ≠ gone := by simpa using (List.mem_filter.mp member).2
  exact bne_iff_ne.mpr other.symm

namespace Schedule

-- What a number stands for, by now and for good: a number that stands for no job any more is not given out again.
structure Slot (schedule : Schedule W J) (number : Nat) (job? : Option J) : Prop where
  numbered : schedule.Numbered
  known : number < schedule.next
  found : schedule.jobs.lookup number = job?

-- A job that is the same when it has been woken.
def Firm (load : Workload W J) (job : J) : Prop := ∀ key, load.touch key job = job

variable {load : Workload W J} {schedule next : Schedule W J} {number : Nat} {job? : Option J}

theorem anything_lawful (load : Workload W J) : load.Law (fun _ _ notes => notes) fun (_ : Unit) _ _ => True :=
  ⟨fun _ _ => trivial, fun _ _ => trivial, fun _ _ => trivial, fun _ => trivial⟩

theorem Numbered.stands (numbered : schedule.Numbered) : schedule.Stands (fun (_ : Unit) _ _ => True) () [] :=
  ⟨numbered, trivial⟩

structure Onward (number : Nat) (job? : Option J) (before after : Schedule W J) : Prop where
  slot : after.Slot number job?
  world : after.world = before.world
  ready : before.ready ⊆ after.ready

theorem Onward.refl (slot : schedule.Slot number job?) : Onward number job? schedule schedule :=
  ⟨slot, rfl, fun _ member => member⟩

theorem Onward.trans {first second third : Schedule W J} (before : Onward number job? first second)
    (after : Onward number job? second third) : Onward number job? first third :=
  ⟨after.slot, after.world.trans before.world, fun _ member => after.ready (before.ready member)⟩

theorem wake_onward (firm : ∀ job, job? = some job → Firm load job) (slot : schedule.Slot number job?) (other key : Nat) :
    Onward number job? schedule (schedule.wake load other key) := by
  have numbered := (wake_stands (anything_lawful load) () [] schedule other key slot.numbered.stands).numbered
  unfold wake at numbered ⊢
  split at numbered
  · rename_i known
    rw [if_pos known]
    refine ⟨⟨numbered, slot.known, ?_⟩, rfl, fun _ member => (mem_enqueue _ _ _).mpr (Or.inl member)⟩
    have touched : (fun entry : Nat × J => if entry.1 = other then (entry.1, load.touch key entry.2) else entry) =
        fun entry => (entry.1, if entry.1 = other then load.touch key entry.2 else entry.2) := by
      funext entry
      split <;> rfl
    rw [touched, lookup_map_entries (fun own job => if own = other then load.touch key job else job), slot.found]
    cases job? with
    | none => rfl
    | some job =>
        rw [Option.map_some]
        split
        · rw [firm job rfl key]
        · rfl
  · rename_i unknown
    rw [if_neg unknown]
    exact .refl slot

theorem foldl_onward {A : Type} (act : Schedule W J → A → Schedule W J)
    (keeps : ∀ schedule item, schedule.Slot number job? → Onward number job? schedule (act schedule item))
    (items : List A) (slot : schedule.Slot number job?) : Onward number job? schedule (items.foldl act schedule) := by
  induction items generalizing schedule with
  | nil => exact .refl slot
  | cons item rest ih => exact (keeps schedule item slot).trans (ih (keeps schedule item slot).slot)

theorem begin_onward (slot : schedule.Slot number job?) (other : Nat) (newJob : J) :
    Onward number job? schedule (schedule.grant load other (.begin newJob)) := by
  have stands : (schedule.grant load other (.begin newJob)).Stands (fun (_ : Unit) _ _ => True) () [] :=
    begin_stands () [] schedule other newJob ⟨slot.numbered, trivial⟩
  refine ⟨⟨stands.numbered, Nat.lt_succ_of_lt slot.known, ?_⟩, rfl, fun _ => List.mem_append_left _⟩
  show (schedule.jobs ++ [(schedule.next, newJob)]).lookup number = job?
  have differs : (number == schedule.next) = false := by simpa using Nat.ne_of_lt slot.known
  rw [List.lookup_append, List.lookup_cons, differs, List.lookup_nil, Option.or_none, slot.found]

theorem grant_onward (firm : ∀ job, job? = some job → Firm load job) (slot : schedule.Slot number job?) (other : Nat)
    (request : Request J) : Onward number job? schedule (schedule.grant load other request) := by
  cases request with
  | begin newJob => exact begin_onward slot other newJob
  | signal signal => exact foldl_onward _ (fun _ _ slot => wake_onward firm slot _ _) _ slot
  | again key => exact wake_onward firm slot other key
  | rest key => exact ⟨⟨⟨slot.numbered.nodup, slot.numbered.below⟩, slot.known, slot.found⟩, rfl, fun _ member => member⟩

theorem grants_onward (firm : ∀ job, job? = some job → Firm load job) (other : Nat) (requests : List (Request J))
    (slot : schedule.Slot number job?) :
    Onward number job? schedule
      (requests.foldl (fun schedule request => schedule.grant load other request) schedule) :=
  foldl_onward _ (fun _ request slot => grant_onward firm slot other request) requests slot

theorem slot_of_begun (load : Workload W J) (numbered : schedule.Numbered) (other : Nat) (newJob : J) :
    (schedule.grant load other (.begin newJob)).Slot schedule.next (some newJob) ∧
      schedule.next ∈ (schedule.grant load other (.begin newJob)).ready := by
  have stands : (schedule.grant load other (.begin newJob)).Stands (fun (_ : Unit) _ _ => True) () [] :=
    begin_stands () [] schedule other newJob ⟨numbered, trivial⟩
  refine ⟨⟨stands.numbered, Nat.lt_succ_self _, ?_⟩, List.mem_append_right _ (List.mem_singleton.mpr rfl)⟩
  have fresh : schedule.jobs.lookup schedule.next = none := by
    rw [List.lookup_eq_none_iff]
    intro entry member
    exact bne_iff_ne.mpr (Nat.ne_of_gt (numbered.below entry.1 (List.mem_map_of_mem member)))
  show (schedule.jobs ++ [(schedule.next, newJob)]).lookup schedule.next = some newJob
  rw [List.lookup_append, fresh]
  simp

theorem leave_numbered (numbered : schedule.Numbered) (other : Nat) (left : Option J) :
    (schedule.leave other left).Numbered ∧ (schedule.leave other left).next = schedule.next := by
  cases left with
  | some left =>
      have numbers : (schedule.jobs.map fun entry => if entry.1 = other then (other, left) else entry).map Prod.fst =
          schedule.jobs.map Prod.fst := by
        rw [List.map_map]
        refine List.map_congr_left fun entry _ => ?_
        rw [Function.comp]
        split
        · exact Eq.symm ‹_›
        · rfl
      exact ⟨⟨numbers.symm ▸ numbered.nodup, fun entry member => numbered.below entry (numbers ▸ member)⟩, rfl⟩
  | none =>
      have fewer : ((schedule.leave other none).jobs.map Prod.fst).Sublist (schedule.jobs.map Prod.fst) :=
        List.filter_sublist.map Prod.fst
      exact ⟨⟨fewer.nodup numbered.nodup, fun entry member => numbered.below entry (fewer.subset member)⟩, rfl⟩

theorem leave_lookup (other : Nat) (left : Option J) (there : (schedule.jobs.lookup other).isSome = true) (number : Nat) :
    (schedule.leave other left).jobs.lookup number = if number = other then left else schedule.jobs.lookup number := by
  cases left with
  | some left =>
      have put : (fun entry : Nat × J => if entry.1 = other then (other, left) else entry) =
          fun entry => (entry.1, if entry.1 = other then left else entry.2) := by
        funext entry
        split
        · rename_i same
          rw [same]
        · rfl
      show (schedule.jobs.map _).lookup number = _
      rw [put, lookup_map_entries (fun own job => if own = other then left else job)]
      by_cases same : number = other
      · subst same
        obtain ⟨held, is⟩ := Option.isSome_iff_exists.mp there
        simp [is]
      · simp [same]
  | none =>
      show (schedule.jobs.filter _).lookup number = _
      by_cases same : number = other
      · rw [if_pos same, same]
        exact lookup_filter_own other schedule.jobs
      · rw [if_neg same]
        exact lookup_filter_other other number schedule.jobs same

theorem own_turn (job : J) (slot : schedule.Slot number (some job))
    (firm : ∀ left, (load.poll job schedule.world).1 = some left → Firm load left) :
    (schedule.turn load number).Slot number (load.poll job schedule.world).1 ∧
      (schedule.turn load number).world = (load.poll job schedule.world).2.1 := by
  unfold turn
  simp only [slot.found]
  have polled : ({ schedule with world := (load.poll job schedule.world).2.1 } : Schedule W J).Numbered :=
    ⟨slot.numbered.nodup, slot.numbered.below⟩
  obtain ⟨numbered, same⟩ := leave_numbered polled number (load.poll job schedule.world).1
  have left : (({ schedule with world := (load.poll job schedule.world).2.1 } : Schedule W J).leave number
      (load.poll job schedule.world).1).Slot number (load.poll job schedule.world).1 := by
    refine ⟨numbered, same.symm ▸ slot.known, ?_⟩
    rw [leave_lookup number _ (by simp [slot.found]), if_pos rfl]
  have granted := grants_onward firm number (load.poll job schedule.world).2.2 left
  refine ⟨granted.slot, granted.world.trans ?_⟩
  cases (load.poll job schedule.world).1 with
  | some left => rfl
  | none => rfl

theorem other_turn (firm : ∀ job, job? = some job → Firm load job) (slot : schedule.Slot number job?) (other : Nat)
    (differs : number ≠ other) :
    (schedule.turn load other).Slot number job? ∧ schedule.ready ⊆ (schedule.turn load other).ready := by
  unfold turn
  cases found : schedule.jobs.lookup other with
  | none => exact ⟨slot, fun _ member => member⟩
  | some work =>
      have polled : ({ schedule with world := (load.poll work schedule.world).2.1 } : Schedule W J).Numbered :=
        ⟨slot.numbered.nodup, slot.numbered.below⟩
      obtain ⟨numbered, same⟩ := leave_numbered polled other (load.poll work schedule.world).1
      have left : (({ schedule with world := (load.poll work schedule.world).2.1 } : Schedule W J).leave other
          (load.poll work schedule.world).1).Slot number job? := by
        refine ⟨numbered, same.symm ▸ slot.known, ?_⟩
        rw [leave_lookup other _ (by simp [found]), if_neg differs]
        exact slot.found
      have granted := grants_onward firm other (load.poll work schedule.world).2.2 left
      refine ⟨granted.slot, fun waiting member => granted.ready ?_⟩
      cases (load.poll work schedule.world).1 with
      | some left => exact member
      | none => exact member

theorem stir_onward (firm : ∀ job, job? = some job → Firm load job) (slot : schedule.Slot number job?) :
    Onward number job? schedule (schedule.stir load) :=
  have stirred : ({ schedule with resting := [] } : Schedule W J).Slot number job? :=
    ⟨⟨slot.numbered.nodup, slot.numbered.below⟩, slot.known, slot.found⟩
  have woken := foldl_onward (fun schedule (entry : Nat × Nat) => schedule.wake load entry.1 entry.2)
    (fun _ _ slot => wake_onward firm slot _ _) schedule.resting stirred
  ⟨woken.slot, woken.world, woken.ready⟩

theorem mem_insertBy {E : Type} (rank : E → Nat) (item other : E) (items : List E) :
    other ∈ insertBy rank item items ↔ other = item ∨ other ∈ items := by
  induction items with
  | nil => exact List.mem_cons
  | cons first rest ih =>
      rw [insertBy]
      split
      · exact List.mem_cons
      · rw [List.mem_cons, List.mem_cons, ih]
        exact or_left_comm

theorem mem_sortBy {E : Type} (rank : E → Nat) (other : E) (items : List E) :
    other ∈ sortBy rank items ↔ other ∈ items := by
  have folded : ∀ (items sorted : List E), other ∈ items.foldl (fun sorted item => insertBy rank item sorted) sorted ↔
      other ∈ sorted ∨ other ∈ items := by
    intro items
    induction items with
    | nil => simp
    | cons item rest ih =>
        intro sorted
        rw [List.foldl_cons, ih, mem_insertBy, List.mem_cons, or_assoc, or_left_comm]
  rw [sortBy, folded]
  simp

-- Whoever is woken has a turn to come.
theorem woken_ready (firm : ∀ job, job? = some job → Firm load job) (slot : schedule.Slot number job?)
    (there : job?.isSome = true) {E : Type} (job key : E → Nat) (items : List E) (item : E) (member : item ∈ items)
    (own : job item = number) :
    number ∈ (items.foldl (fun schedule item => schedule.wake load (job item) (key item)) schedule).ready := by
  induction items generalizing schedule with
  | nil => cases member
  | cons first rest ih =>
      have once := wake_onward firm slot (job first) (key first)
      rcases List.mem_cons.mp member with rfl | later
      · refine (foldl_onward _ (fun _ _ slot => wake_onward firm slot _ _) rest once.slot).ready ?_
        obtain ⟨held, is⟩ := Option.isSome_iff_exists.mp (slot.found.symm ▸ there)
        obtain ⟨before, after, split, -⟩ := split_at_job schedule.jobs slot.numbered.nodup number held is
        have known : schedule.jobs.any (fun entry => entry.1 == job item) = true := by
          rw [split, own]
          simp
        show number ∈ (schedule.wake load (job item) (key item)).ready
        rw [wake, if_pos known]
        exact (mem_enqueue _ _ _).mpr (Or.inr (List.mem_singleton.mpr own.symm))
      · exact ih once.slot later

theorem place_of_leaf (job : J) (found : schedule.jobs.lookup number = some job) (numbered : schedule.Numbered)
    (leaf : Leaf) (member : leaf ∈ load.leaves job) : (⟨number, leaf⟩ : Place) ∈ schedule.places load := by
  obtain ⟨before, after, split, -⟩ := split_at_job schedule.jobs numbered.nodup number job found
  rw [places, split]
  simp only [List.flatMap_append, List.flatMap_cons, List.mem_append, List.mem_map]
  exact Or.inr (Or.inl ⟨leaf, member, rfl⟩)

theorem jump_tracked (job : J) (firm : Firm load job) (slot : schedule.Slot number (some job))
    (jumped : schedule.jump load = some next) :
    next.Slot number (some job) ∧ schedule.ready ⊆ next.ready ∧ ∃ due, next.world = load.elapse due schedule.world ∧
      ∀ leaf ∈ load.leaves job, ∀ timer, leaf.timer = some timer →
        due ≤ timer.due ∧ (timer.due ≤ due → number ∈ next.ready) := by
  obtain ⟨due, earliest, rfl⟩ := Option.map_eq_some_iff.mp jumped
  have firm? : ∀ held, some job = some held → Firm load held := fun held same => Option.some.inj same ▸ firm
  have elapsed : ({ schedule with world := load.elapse due schedule.world } : Schedule W J).Slot number (some job) :=
    ⟨⟨slot.numbered.nodup, slot.numbered.below⟩, slot.known, slot.found⟩
  have woken := foldl_onward (fun schedule (entry : Timer × Place) => schedule.wake load entry.2.job entry.2.leaf.key)
    (fun _ _ slot => wake_onward firm? slot _ _)
    (sortBy (fun entry => entry.1.order) ((schedule.timers load).filter fun entry => decide (entry.1.due ≤ due))) elapsed
  refine ⟨woken.slot, woken.ready, due, woken.world, fun leaf member timer timed => ?_⟩
  have listed : (timer, (⟨number, leaf⟩ : Place)) ∈ schedule.timers load := by
    refine List.mem_filterMap.mpr ⟨⟨number, leaf⟩, place_of_leaf job slot.found slot.numbered leaf member, ?_⟩
    rw [timed]
    rfl
  have least : due ≤ timer.due :=
    (List.min?_eq_some_iff.mp earliest).2 timer.due (List.mem_map.mpr ⟨_, listed, rfl⟩)
  refine ⟨least, fun reached => ?_⟩
  refine woken_ready firm? elapsed rfl _ _ _ (timer, ⟨number, leaf⟩) ?_ rfl
  exact (mem_sortBy _ _ _).mpr (List.mem_filter.mpr ⟨listed, decide_eq_true reached⟩)

theorem step_tracked (job : J) (firm : Firm load job) (slot : schedule.Slot number (some job))
    (stepped : schedule.step load = some next) :
    (∃ rest, schedule.ready = number :: rest ∧
        next = ({ schedule with ready := rest } : Schedule W J).turn load number) ∨
      schedule.ready.head? ≠ some number ∧ next.Slot number (some job) ∧
        (number ∈ schedule.ready → number ∈ next.ready) ∧
        (schedule.ready ≠ [] ∨ next.world = schedule.world ∨ ∃ due, next.world = load.elapse due schedule.world ∧
          ∀ leaf ∈ load.leaves job, ∀ timer, leaf.timer = some timer →
            due ≤ timer.due ∧ (timer.due ≤ due → number ∈ next.ready)) := by
  have firm? : ∀ held, some job = some held → Firm load held := fun held same => Option.some.inj same ▸ firm
  unfold step at stepped
  cases ready : schedule.ready with
  | cons first rest =>
      simp only [ready, Option.some.injEq] at stepped
      subst stepped
      by_cases own : number = first
      · subst own
        exact Or.inl ⟨rest, rfl, rfl⟩
      · have popped : ({ schedule with ready := rest } : Schedule W J).Slot number (some job) :=
          ⟨⟨slot.numbered.nodup, slot.numbered.below⟩, slot.known, slot.found⟩
        obtain ⟨kept, still⟩ := other_turn firm? popped first own
        refine Or.inr ⟨fun same => own (Option.some.inj same).symm, kept, fun member => still ?_, Or.inl (by simp)⟩
        exact (List.mem_cons.mp member).resolve_left own
  | nil =>
      simp only [ready] at stepped
      have nobody : ([] : List Nat).head? ≠ some number := by simp
      split at stepped
      · cases stepped
        have stirred := stir_onward firm? slot
        exact Or.inr ⟨nobody, stirred.slot, (fun member => nomatch member), Or.inr (Or.inl stirred.world)⟩
      · obtain ⟨kept, -, due, world, waits⟩ := jump_tracked job firm slot stepped
        exact Or.inr ⟨nobody, kept, (fun member => nomatch member), Or.inr (Or.inr ⟨due, world, waits⟩)⟩

theorem step_vacant (slot : schedule.Slot number none) (stepped : schedule.step load = some next) :
    next.Slot number none := by
  have firm? : ∀ held, (none : Option J) = some held → Firm load held := fun held same => nomatch same
  unfold step at stepped
  split at stepped
  · rename_i first rest ready
    cases stepped
    have popped : ({ schedule with ready := rest } : Schedule W J).Slot number none :=
      ⟨⟨slot.numbered.nodup, slot.numbered.below⟩, slot.known, slot.found⟩
    by_cases own : number = first
    · subst own
      unfold turn
      simp only [slot.found]
      exact popped
    · exact (other_turn firm? popped first own).1
  · split at stepped
    · cases stepped
      exact (stir_onward firm? slot).slot
    · obtain ⟨due, -, rfl⟩ := Option.map_eq_some_iff.mp stepped
      have elapsed : ({ schedule with world := load.elapse due schedule.world } : Schedule W J).Slot number none :=
        ⟨⟨slot.numbered.nodup, slot.numbered.below⟩, slot.known, slot.found⟩
      exact (foldl_onward _ (fun _ _ slot => wake_onward firm? slot _ _) _ elapsed).slot

theorem step_of_timed (job : J) (slot : schedule.Slot number (some job)) (leaf : Leaf) (member : leaf ∈ load.leaves job)
    (timer : Timer) (timed : leaf.timer = some timer) : (schedule.step load).isSome = true := by
  have listed : (timer, (⟨number, leaf⟩ : Place)) ∈ schedule.timers load := by
    refine List.mem_filterMap.mpr ⟨⟨number, leaf⟩, place_of_leaf job slot.found slot.numbered leaf member, ?_⟩
    rw [timed]
    rfl
  unfold step
  cases schedule.ready with
  | cons first rest => rfl
  | nil =>
      cases schedule.resting with
      | cons first rest => rfl
      | nil =>
          show (schedule.jump load).isSome = true
          unfold jump earliest?
          rw [Option.isSome_map, List.isSome_min?_iff]
          exact List.ne_nil_of_mem (List.mem_map.mpr ⟨_, listed, rfl⟩)

end Schedule

end Workcell
