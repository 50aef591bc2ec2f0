import Workcell.Proofs.Schedule.Tracked

/-!
A job that is changed by being woken, among the others. What is known of it is that it is of some sort, which wakings do not
lead out of; and whoever wakes one of its places has it know that.
-/

set_option autoImplicit false

namespace Workcell

variable {W J : Type}

def Workload.Stable (load : Workload W J) (sort : J → Prop) : Prop := ∀ key job, sort job → sort (load.touch key job)

namespace Schedule

structure Seat (schedule : Schedule W J) (number : Nat) (sort : J → Prop) : Prop where
  numbered : schedule.Numbered
  known : number < schedule.next
  held : ∃ job, schedule.jobs.lookup number = some job ∧ sort job

structure Seated (number : Nat) (sort : J → Prop) (before after : Schedule W J) : Prop where
  seat : after.Seat number sort
  world : after.world = before.world
  ready : before.ready ⊆ after.ready

variable {load : Workload W J} {schedule next : Schedule W J} {number : Nat} {sort finer : J → Prop}

theorem Slot.seat {job : J} (slot : schedule.Slot number (some job)) (is : sort job) : schedule.Seat number sort :=
  ⟨slot.numbered, slot.known, job, slot.found, is⟩

theorem Seat.slot (seat : schedule.Seat number sort) : ∃ job, sort job ∧ schedule.Slot number (some job) := by
  obtain ⟨job, found, is⟩ := seat.held
  exact ⟨job, is, seat.numbered, seat.known, found⟩

theorem Seated.refl (seat : schedule.Seat number sort) : Seated number sort schedule schedule :=
  ⟨seat, rfl, fun _ member => member⟩

theorem Seated.trans {first second third : Schedule W J} (before : Seated number finer first second)
    (after : Seated number sort second third) : Seated number sort first third :=
  ⟨after.seat, after.world.trans before.world, fun _ member => after.ready (before.ready member)⟩

theorem wake_slot (load : Workload W J) {job : J} (slot : schedule.Slot number (some job)) (other key : Nat) :
    (schedule.wake load other key).Slot number (some (if number = other then load.touch key job else job)) ∧
      (schedule.wake load other key).world = schedule.world ∧ schedule.ready ⊆ (schedule.wake load other key).ready ∧
      (number = other → number ∈ (schedule.wake load other key).ready) := by
  have numbered := (wake_stands (anything_lawful load) () [] schedule other key slot.numbered.stands).numbered
  unfold wake at numbered ⊢
  split at numbered
  · rename_i known
    rw [if_pos known]
    refine ⟨⟨numbered, slot.known, ?_⟩, rfl, fun _ member => (mem_enqueue _ _ _).mpr (Or.inl member),
      fun own => (mem_enqueue _ _ _).mpr (Or.inr (List.mem_singleton.mpr own))⟩
    have touched : (fun entry : Nat × J => if entry.1 = other then (entry.1, load.touch key entry.2) else entry) =
        fun entry => (entry.1, if entry.1 = other then load.touch key entry.2 else entry.2) := by
      funext entry
      split <;> rfl
    rw [touched, lookup_map_entries (fun own job => if own = other then load.touch key job else job), slot.found]
    rfl
  · rename_i unknown
    have differs : number ≠ other := by
      rintro rfl
      obtain ⟨before, after, split, -⟩ := split_at_job schedule.jobs slot.numbered.nodup number job slot.found
      exact unknown (by rw [split]; simp)
    rw [if_neg unknown, if_neg differs]
    exact ⟨slot, rfl, fun _ member => member, fun own => absurd own differs⟩

theorem wake_seated (stable : load.Stable sort) (seat : schedule.Seat number sort) (other key : Nat) :
    Seated number sort schedule (schedule.wake load other key) := by
  obtain ⟨job, is, slot⟩ := seat.slot
  obtain ⟨still, world, ready, -⟩ := wake_slot load slot other key
  refine ⟨still.seat ?_, world, ready⟩
  split
  · exact stable key job is
  · exact is

theorem wake_told {key : Nat} (told : ∀ job, sort job → finer (load.touch key job)) (seat : schedule.Seat number sort) :
    (schedule.wake load number key).Seat number finer ∧ number ∈ (schedule.wake load number key).ready := by
  obtain ⟨job, is, slot⟩ := seat.slot
  obtain ⟨still, -, -, ready⟩ := wake_slot load slot number key
  rw [if_pos rfl] at still
  exact ⟨still.seat (told job is), ready rfl⟩

theorem foldl_seated {A : Type} (act : Schedule W J → A → Schedule W J)
    (keeps : ∀ schedule item, schedule.Seat number sort → Seated number sort schedule (act schedule item))
    (items : List A) (seat : schedule.Seat number sort) : Seated number sort schedule (items.foldl act schedule) := by
  induction items generalizing schedule with
  | nil => exact .refl seat
  | cons item rest ih => exact (keeps schedule item seat).trans (ih (keeps schedule item seat).seat)

theorem wakes_told (stable : load.Stable sort) (stableFiner : load.Stable finer) {E : Type} (job key : E → Nat)
    (items : List E) (item : E) (member : item ∈ items) (own : job item = number)
    (told : ∀ job, sort job → finer (load.touch (key item) job)) (seat : schedule.Seat number sort) :
    (items.foldl (fun schedule item => schedule.wake load (job item) (key item)) schedule).Seat number finer ∧
      number ∈ (items.foldl (fun schedule item => schedule.wake load (job item) (key item)) schedule).ready := by
  induction items generalizing schedule with
  | nil => cases member
  | cons first rest ih =>
      rcases List.mem_cons.mp member with rfl | later
      · obtain ⟨knows, ready⟩ := wake_told told seat
        have onward := foldl_seated (fun schedule item => schedule.wake load (job item) (key item))
          (fun _ _ seat => wake_seated stableFiner seat _ _) rest knows
        rw [List.foldl_cons, own]
        exact ⟨onward.seat, onward.ready ready⟩
      · exact ih later (wake_seated stable seat _ _).seat

theorem begin_seated (seat : schedule.Seat number sort) (other : Nat) (newJob : J) :
    Seated number sort schedule (schedule.grant load other (.begin newJob)) := by
  obtain ⟨job, is, slot⟩ := seat.slot
  have begun : Onward number (some job) schedule (schedule.grant load other (.begin newJob)) :=
    begin_onward slot other newJob
  exact ⟨begun.slot.seat is, begun.world, begun.ready⟩

theorem grant_seated (stable : load.Stable sort) (seat : schedule.Seat number sort) (other : Nat) (request : Request J) :
    Seated number sort schedule (schedule.grant load other request) := by
  cases request with
  | begin newJob => exact begin_seated seat other newJob
  | signal signal => exact foldl_seated _ (fun _ _ seat => wake_seated stable seat _ _) _ seat
  | again key => exact wake_seated stable seat other key
  | rest key => exact ⟨⟨⟨seat.numbered.nodup, seat.numbered.below⟩, seat.known, seat.held⟩, rfl, fun _ member => member⟩

theorem grants_seated (stable : load.Stable sort) (other : Nat) (requests : List (Request J))
    (seat : schedule.Seat number sort) :
    Seated number sort schedule
      (requests.foldl (fun schedule request => schedule.grant load other request) schedule) :=
  foldl_seated _ (fun _ request seat => grant_seated stable seat other request) requests seat

theorem signal_told (stable : load.Stable sort) (stableFiner : load.Stable finer) (other : Nat) (signal : Signal)
    (leaf : Leaf) (has : ∀ job, sort job → leaf ∈ load.leaves job) (listens : signal ∈ leaf.signals)
    (told : ∀ job, sort job → finer (load.touch leaf.key job)) (seat : schedule.Seat number sort) :
    (schedule.grant load other (.signal signal)).Seat number finer ∧
      number ∈ (schedule.grant load other (.signal signal)).ready := by
  obtain ⟨job, found, is⟩ := seat.held
  refine wakes_told stable stableFiner (fun place : Place => place.job) (fun place => place.leaf.key) _ ⟨number, leaf⟩ ?_ rfl
    told seat
  refine (mem_sortBy _ _ _).mpr (List.mem_filter.mpr ⟨place_of_leaf job found seat.numbered leaf (has job is), ?_⟩)
  simpa using listens

theorem leave_seated (seat : schedule.Seat number sort) (world : W) (other : Nat) (left : Option J)
    (there : (schedule.jobs.lookup other).isSome = true) (differs : number ≠ other) :
    (({ schedule with world := world } : Schedule W J).leave other left).Seat number sort := by
  obtain ⟨job, is, slot⟩ := seat.slot
  have turned : ({ schedule with world := world } : Schedule W J).Numbered := ⟨slot.numbered.nodup, slot.numbered.below⟩
  obtain ⟨numbered, same⟩ := leave_numbered turned other left
  refine ⟨numbered, same.symm ▸ slot.known, job, ?_, is⟩
  have present : (({ schedule with world := world } : Schedule W J).jobs.lookup other).isSome = true := there
  rw [leave_lookup other left present, if_neg differs]
  exact slot.found

theorem leave_slot {job : J} (slot : schedule.Slot number (some job)) (world : W) (rest : List Nat) (left : J) :
    (({ schedule with ready := rest, world := world } : Schedule W J).leave number (some left)).Slot number
      (some left) := by
  have turned : ({ schedule with ready := rest, world := world } : Schedule W J).Numbered :=
    ⟨slot.numbered.nodup, slot.numbered.below⟩
  obtain ⟨numbered, same⟩ := leave_numbered turned number (some left)
  refine ⟨numbered, same.symm ▸ slot.known, ?_⟩
  have present : (({ schedule with ready := rest, world := world } : Schedule W J).jobs.lookup number).isSome = true := by
    rw [slot.found]
    rfl
  rw [leave_lookup number (some left) present, if_pos rfl]

theorem turn_seated (stable : load.Stable sort) (seat : schedule.Seat number sort) (other : Nat) (differs : number ≠ other) :
    (schedule.turn load other).Seat number sort ∧ schedule.ready ⊆ (schedule.turn load other).ready := by
  unfold turn
  cases found : schedule.jobs.lookup other with
  | none => exact ⟨seat, fun _ member => member⟩
  | some work =>
      have left := leave_seated seat (load.poll work schedule.world).2.1 other (load.poll work schedule.world).1
        (by simp [found]) differs
      have granted := grants_seated stable other (load.poll work schedule.world).2.2 left
      refine ⟨granted.seat, fun waiting member => granted.ready ?_⟩
      cases (load.poll work schedule.world).1 with
      | some left => exact member
      | none => exact member

theorem turn_told (stable : load.Stable sort) (stableFiner : load.Stable finer) (seat : schedule.Seat number sort)
    (other : Nat) (work : J) (found : schedule.jobs.lookup other = some work) (differs : number ≠ other) (signal : Signal)
    (sent : .signal signal ∈ (load.poll work schedule.world).2.2) (leaf : Leaf)
    (has : ∀ job, sort job → leaf ∈ load.leaves job) (listens : signal ∈ leaf.signals)
    (told : ∀ job, sort job → finer (load.touch leaf.key job)) :
    (schedule.turn load other).Seat number finer ∧ number ∈ (schedule.turn load other).ready := by
  obtain ⟨first, last, requests⟩ := List.append_of_mem sent
  have left := leave_seated seat (load.poll work schedule.world).2.1 other (load.poll work schedule.world).1
    (by simp [found]) differs
  have before := grants_seated stable other first left
  obtain ⟨knows, ready⟩ := signal_told stable stableFiner other signal leaf has listens told before.seat
  have later := grants_seated stableFiner other last knows
  unfold turn
  simp only [found, requests, List.foldl_append, List.foldl_cons]
  exact ⟨later.seat, later.ready ready⟩

theorem jump_seated (stable : load.Stable sort) (seat : schedule.Seat number sort)
    (jumped : schedule.jump load = some next) :
    next.Seat number sort ∧ ∃ due, next.world = load.elapse due schedule.world ∧
      ∀ leaf, (∀ job, sort job → leaf ∈ load.leaves job) → ∀ timer, leaf.timer = some timer →
        due ≤ timer.due ∧ (timer.due ≤ due → number ∈ next.ready ∧ ∀ finer : J → Prop, load.Stable finer →
          (∀ job, sort job → finer (load.touch leaf.key job)) → next.Seat number finer) := by
  obtain ⟨due, earliest, rfl⟩ := Option.map_eq_some_iff.mp jumped
  obtain ⟨job, found, is⟩ := seat.held
  have elapsed : ({ schedule with world := load.elapse due schedule.world } : Schedule W J).Seat number sort :=
    ⟨⟨seat.numbered.nodup, seat.numbered.below⟩, seat.known, job, found, is⟩
  have woken := foldl_seated (fun schedule (entry : Timer × Place) => schedule.wake load entry.2.job entry.2.leaf.key)
    (fun _ _ seat => wake_seated stable seat _ _)
    (sortBy (fun entry => entry.1.order) ((schedule.timers load).filter fun entry => decide (entry.1.due ≤ due))) elapsed
  refine ⟨woken.seat, due, woken.world, fun leaf has timer timed => ?_⟩
  have listed : (timer, (⟨number, leaf⟩ : Place)) ∈ schedule.timers load := by
    refine List.mem_filterMap.mpr ⟨⟨number, leaf⟩, place_of_leaf job found seat.numbered leaf (has job is), ?_⟩
    rw [timed]
    rfl
  refine ⟨(List.min?_eq_some_iff.mp earliest).2 timer.due (List.mem_map.mpr ⟨_, listed, rfl⟩), fun reached => ?_⟩
  have called : (timer, (⟨number, leaf⟩ : Place)) ∈
      sortBy (fun entry : Timer × Place => entry.1.order)
        ((schedule.timers load).filter fun entry => decide (entry.1.due ≤ due)) :=
    (mem_sortBy _ _ _).mpr (List.mem_filter.mpr ⟨listed, decide_eq_true reached⟩)
  have tells : ∀ finer : J → Prop, load.Stable finer → (∀ job, sort job → finer (load.touch leaf.key job)) → _ :=
    fun finer stableFiner told => wakes_told stable stableFiner (fun entry : Timer × Place => entry.2.job)
      (fun entry => entry.2.leaf.key) _ (timer, ⟨number, leaf⟩) called rfl told elapsed
  exact ⟨(tells (fun _ => True) (fun _ _ _ => trivial) fun _ _ => trivial).2,
    fun finer stableFiner told => (tells finer stableFiner told).1⟩

end Schedule

end Workcell
