import Mathlib.Data.List.Nodup
import Workcell.Proofs.Schedule.Tracked

/-!
Schedules that stand for each other: there the same jobs are at work as here, under other numbers, on a clock that is
ahead, and among old jobs that have nothing left to do. The scheduler wakes places there in the order of those that they
stand for.
-/

set_option autoImplicit false

namespace Workcell

variable {A B : Type}

namespace Schedule

def Ranked (rank : A → Nat) (items : List A) : Prop := items.Pairwise fun first second => rank first ≤ rank second

theorem insert_by_ranked (rank : A → Nat) (item : A) (items : List A) (ranked : Ranked rank items) :
    Ranked rank (insertBy rank item items) := by
  induction items with
  | nil => exact List.pairwise_singleton _ _
  | cons first rest ih =>
      obtain ⟨least, later⟩ := List.pairwise_cons.mp ranked
      rw [insertBy]
      by_cases before : rank item < rank first
      · rw [if_pos before]
        refine List.pairwise_cons.mpr ⟨fun other member => ?_, ranked⟩
        rcases List.mem_cons.mp member with rfl | inside
        · exact Nat.le_of_lt before
        · exact Nat.le_trans (Nat.le_of_lt before) (least other inside)
      · rw [if_neg before]
        refine List.pairwise_cons.mpr ⟨fun other member => ?_, ih later⟩
        rcases (mem_insertBy rank item other rest).mp member with rfl | inside
        · exact Nat.le_of_not_lt before
        · exact least other inside

-- What is put behind an item of a greater rank is put behind those that follow it too.
theorem insert_by_filter (rank : A → Nat) (kept : A → Bool) (item : A) (items : List A) (ranked : Ranked rank items) :
    (insertBy rank item items).filter kept =
      if kept item = true then insertBy rank item (items.filter kept) else items.filter kept := by
  induction items with
  | nil => cases stays : kept item <;> simp [insertBy, stays]
  | cons first rest ih =>
      obtain ⟨least, later⟩ := List.pairwise_cons.mp ranked
      by_cases before : rank item < rank first
      · rw [insertBy, if_pos before]
        cases stays : kept item with
        | false => rw [List.filter_cons_of_neg (by simp [stays])]; simp
        | true =>
            rw [List.filter_cons_of_pos stays, if_pos rfl]
            cases next : (first :: rest).filter kept with
            | nil => rfl
            | cons head tail =>
                have inside : head ∈ first :: rest := (List.mem_filter.mp (next ▸ List.mem_cons_self)).1
                have after : rank item < rank head := by
                  rcases List.mem_cons.mp inside with rfl | inside
                  · exact before
                  · exact Nat.lt_of_lt_of_le before (least head inside)
                rw [insertBy, if_pos after]
      · rw [insertBy, if_neg before]
        cases head : kept first with
        | false =>
            rw [List.filter_cons_of_neg (by simp [head]), List.filter_cons_of_neg (by simp [head])]
            exact ih later
        | true =>
            rw [List.filter_cons_of_pos head, List.filter_cons_of_pos head, ih later]
            cases stays : kept item with
            | false => simp
            | true => simp [insertBy, before]

theorem sort_by_filter (rank : A → Nat) (kept : A → Bool) (items : List A) :
    (sortBy rank items).filter kept = sortBy rank (items.filter kept) := by
  have folded : ∀ sorted, Ranked rank sorted →
      (items.foldl (fun sorted item => insertBy rank item sorted) sorted).filter kept =
        (items.filter kept).foldl (fun sorted item => insertBy rank item sorted) (sorted.filter kept) := by
    induction items with
    | nil => exact fun _ _ => rfl
    | cons item rest ih =>
        intro sorted ranked
        rw [List.foldl_cons, ih _ (insert_by_ranked rank item sorted ranked), insert_by_filter rank kept item sorted ranked]
        cases stays : kept item with
        | false => rw [List.filter_cons_of_neg (by simp [stays])]; simp
        | true => rw [List.filter_cons_of_pos stays, List.foldl_cons, if_pos rfl]
  exact folded [] List.Pairwise.nil

theorem insert_by_map (rank : B → Nat) (change : A → B) (item : A) (items : List A) :
    insertBy rank (change item) (items.map change) = (insertBy (fun item => rank (change item)) item items).map change := by
  induction items with
  | nil => rfl
  | cons first rest ih =>
      rw [List.map_cons, insertBy, insertBy]
      split
      · rfl
      · rw [List.map_cons, ih]

theorem sort_by_map (rank : B → Nat) (change : A → B) (items : List A) :
    sortBy rank (items.map change) = (sortBy (fun item => rank (change item)) items).map change := by
  have folded : ∀ sorted : List A,
      (items.map change).foldl (fun sorted item => insertBy rank item sorted) (sorted.map change) =
        (items.foldl (fun sorted item => insertBy (fun item => rank (change item)) item sorted) sorted).map change := by
    induction items with
    | nil => exact fun _ => rfl
    | cons item rest ih =>
        intro sorted
        rw [List.map_cons, List.foldl_cons, List.foldl_cons, insert_by_map, ih]
  exact folded []

theorem insert_by_congr (rank other : A → Nat) (item : A) (items : List A)
    (same : ∀ next ∈ items, rank item < rank next ↔ other item < other next) :
    insertBy rank item items = insertBy other item items := by
  induction items with
  | nil => rfl
  | cons first rest ih =>
      rw [insertBy, insertBy, ih fun next member => same next (List.mem_cons_of_mem _ member)]
      simp only [same first List.mem_cons_self]

-- It is the order of the ranks that counts.
theorem sort_by_congr (rank other : A → Nat) (items : List A)
    (same : ∀ first ∈ items, ∀ second ∈ items, rank first < rank second ↔ other first < other second) :
    sortBy rank items = sortBy other items := by
  have folded : ∀ rest sorted : List A, (∀ item ∈ rest, item ∈ items) → (∀ item ∈ sorted, item ∈ items) →
      rest.foldl (fun sorted item => insertBy rank item sorted) sorted =
        rest.foldl (fun sorted item => insertBy other item sorted) sorted := by
    intro rest
    induction rest with
    | nil => exact fun _ _ _ => rfl
    | cons item rest ih =>
        intro sorted inside placed
        have own := inside item List.mem_cons_self
        have step := insert_by_congr rank other item sorted fun next member => same item own next (placed next member)
        rw [List.foldl_cons, List.foldl_cons, step]
        refine ih _ (fun next member => inside next (List.mem_cons_of_mem _ member)) fun next member => ?_
        rcases (mem_insertBy other item next sorted).mp member with rfl | later
        · exact own
        · exact placed next later
  exact folded items [] (fun _ member => member) nofun

end Schedule

variable {W J G : Type}

-- What becomes of jobs, numbers, keys and signals there.
structure Transfer (J : Type) where
  start : Nat
  ahead : Nat
  cast : J → J
  key : Nat → Nat
  leafKey : J → Nat → Nat
  said : Signal → Signal
  begins : 0 < start
  rises : ∀ one other, key one < key other ↔ one < other
  apart : ∀ one other, said one = said other → one = other

namespace Transfer

variable (moved : Transfer J)

def number (number : Nat) : Nat := if number = 0 then 0 else number - 1 + moved.start

def isOld (number : Nat) : Bool := decide (0 < number ∧ number < moved.start)

def timer (timer : Timer) : Timer := ⟨timer.due + moved.ahead, moved.key timer.order⟩

def leaf (job : J) (leaf : Leaf) : Leaf :=
  ⟨moved.leafKey job leaf.key, leaf.timer.map moved.timer, leaf.signals.map moved.said⟩

def request : Request J → Request J
  | .begin job => .begin (moved.cast job)
  | .signal signal => .signal (moved.said signal)
  | .again key => .again (moved.key key)
  | .rest key => .rest (moved.key key)

@[simp]
theorem number_is_new (number : Nat) : moved.isOld (moved.number number) = false := by
  have begins := moved.begins
  by_cases first : number = 0
  · simp [Transfer.number, isOld, first]
  · simp only [Transfer.number, isOld, if_neg first, decide_eq_false_iff_not]
    omega

@[simp]
theorem number_same (one other : Nat) : moved.number one = moved.number other ↔ one = other := by
  have begins := moved.begins
  unfold Transfer.number
  split <;> split <;> omega

theorem new_number (number : Nat) (new : moved.isOld number = false) : ∃ here, number = moved.number here := by
  have begins := moved.begins
  simp only [isOld, decide_eq_false_iff_not] at new
  by_cases first : number = 0
  · exact ⟨0, first⟩
  · refine ⟨number - moved.start + 1, ?_⟩
    simp only [Transfer.number, Nat.succ_ne_zero, if_false]
    omega

theorem number_next (number : Nat) (positive : 0 < number) : moved.number (number + 1) = moved.number number + 1 := by
  simp only [Transfer.number]
  split <;> split <;> omega

end Transfer

-- What has to hold of the turns of jobs for a transfer. Worlds are related whatever their clocks, and what the old
-- jobs do there is nothing to the others.
structure Workload.Moves (load : Workload W J) (note : J → W → G → G) (moved : Transfer J) (limit : Nat)
    (related : W → W → Prop) (fit : J → Prop) (idle : W → J → Prop) (same : G → G → Prop) : Prop where
  now_elapse : ∀ now world, load.now (load.elapse now world) = now
  elapse_here : ∀ {here there}, related here there → ∀ now, related (load.elapse now here) there
  elapse_there : ∀ {here there}, related here there → ∀ now, related here (load.elapse now there)
  elapse_idle : ∀ {there job}, idle there job → ∀ now, idle (load.elapse now there) job
  touch_fit : ∀ {job}, fit job → ∀ key, fit (load.touch key job)
  touch : ∀ job key, load.touch (moved.key key) (moved.cast job) = moved.cast (load.touch key job)
  touch_leaf : ∀ job key, load.touch (moved.leafKey job key) (moved.cast job) = moved.cast (load.touch key job)
  leaf_key : ∀ job key, moved.leafKey (load.touch key job) = moved.leafKey job
  leaves : ∀ job, load.leaves (moved.cast job) = (load.leaves job).map (moved.leaf job)
  ranks : ∀ {job other : J} {leaf further : Leaf} {signal : Signal}, leaf ∈ load.leaves job → further ∈ load.leaves other →
    signal ∈ leaf.signals → signal ∈ further.signals →
    (moved.leafKey job leaf.key < moved.leafKey other further.key ↔ leaf.key < further.key)
  poll : ∀ {here there job}, related here there → fit job → load.now there = load.now here + moved.ahead →
    load.now here ≤ limit → ∃ world,
      load.poll (moved.cast job) there =
      ((load.poll job here).1.map moved.cast, world, (load.poll job here).2.2.map moved.request) ∧
      related (load.poll job here).2.1 world ∧
      (load.now (load.poll job here).2.1 = load.now here ∧ load.now world = load.now there) ∧
      (∀ left, (load.poll job here).1 = some left → fit left) ∧
      (∀ begun, .begin begun ∈ (load.poll job here).2.2 → fit begun) ∧
      (∀ old, idle there old → idle world old) ∧
      ∀ notes other, same notes other → same (note job here notes) (note (moved.cast job) there other)
  rests : ∀ {there old}, idle there old → ∃ timer key world, load.leaves old = [⟨key, some timer, []⟩] ∧
    (∀ key, load.touch key old = old) ∧
    load.poll old there = (if timer.due ≤ load.now there then none else some old, world, []) ∧
    load.now world = load.now there ∧ (∀ {here}, related here there → related here world) ∧
    (∀ other, idle there other → idle world other) ∧ ∀ notes, note old there notes = notes

namespace Schedule

-- The schedule there stands for the one here.
structure Copies (moved : Transfer J) (related : W → W → Prop) (fit : J → Prop) (idle : W → J → Prop)
    (here there : Schedule W J) : Prop where
  world : related here.world there.world
  numbered : here.Numbered
  jobs : (there.jobs.filter fun entry => !moved.isOld entry.1) =
    here.jobs.map fun entry => (moved.number entry.1, moved.cast entry.2)
  fit : ∀ entry ∈ here.jobs, fit entry.2
  idle : ∀ entry ∈ there.jobs, moved.isOld entry.1 = true → idle there.world entry.2
  ready : (there.ready.filter fun number => !moved.isOld number) = here.ready.map moved.number
  resting : (there.resting.filter fun entry => !moved.isOld entry.1) =
    here.resting.map fun entry => (moved.number entry.1, moved.key entry.2)
  next : there.next = moved.number here.next
  begun : 0 < here.next

variable {load : Workload W J} {note : J → W → G → G} {moved : Transfer J} {limit : Nat} {related : W → W → Prop}
  {fit : J → Prop} {idle : W → J → Prop} {same : G → G → Prop} {here there : Schedule W J}

namespace Copies

theorem known (copies : here.Copies moved related fit idle there) (number : Nat) :
    (there.jobs.any fun entry => entry.1 == moved.number number) = here.jobs.any fun entry => entry.1 == number := by
  have new : (there.jobs.any fun entry => entry.1 == moved.number number) =
      (there.jobs.filter fun entry => !moved.isOld entry.1).any fun entry => entry.1 == moved.number number := by
    rw [List.any_filter]
    congr 1
    funext entry
    by_cases own : entry.1 = moved.number number
    · simp [own]
    · simp [own]
  rw [new, copies.jobs, List.any_map]
  congr 1
  funext entry
  by_cases own : entry.1 = number
  · simp [own]
  · simp [own]

theorem found (copies : here.Copies moved related fit idle there) (number : Nat) :
    there.jobs.lookup (moved.number number) = (here.jobs.lookup number).map moved.cast := by
  have new : there.jobs.lookup (moved.number number) =
      (there.jobs.filter fun entry => !moved.isOld entry.1).lookup (moved.number number) := by
    induction there.jobs with
    | nil => rfl
    | cons entry rest ih =>
        by_cases own : moved.number number = entry.1
        · rw [List.filter_cons_of_pos (by simp [← own]), List.lookup_cons, List.lookup_cons, own]
          simp
        · have differs : (moved.number number == entry.1) = false := by simpa using own
          rw [List.lookup_cons, differs]
          cases old : moved.isOld entry.1 with
          | true => rw [List.filter_cons_of_neg (by simp [old]), ih]
          | false => rw [List.filter_cons_of_pos (by simp [old]), List.lookup_cons, differs, ih]
  rw [new, copies.jobs]
  induction here.jobs with
  | nil => rfl
  | cons entry rest ih =>
      rw [List.map_cons, List.lookup_cons, List.lookup_cons]
      by_cases own : number = entry.1
      · simp [own]
      · have differs : (number == entry.1) = false := by simpa using own
        have apart : (moved.number number == moved.number entry.1) = false := by simpa using own
        rw [differs, apart]
        exact ih

theorem awaits (copies : here.Copies moved related fit idle there) (number : Nat) :
    moved.number number ∈ there.ready ↔ number ∈ here.ready := by
  have new : moved.number number ∈ there.ready ↔ moved.number number ∈ there.ready.filter fun number =>
      !moved.isOld number := by
    simp
  rw [new, copies.ready]
  simp

end Copies

theorem mem_of_lookup {A : Type} (number : Nat) (job : A) (jobs : List (Nat × A)) (found : jobs.lookup number = some job) :
    (number, job) ∈ jobs := by
  obtain ⟨before, after, split, -⟩ := List.lookup_eq_some_iff.mp found
  rw [split]
  exact List.mem_append_right _ List.mem_cons_self

theorem begin_numbered (load : Workload W J) (number : Nat) (newJob : J) (numbered : here.Numbered) :
    (here.grant load number (.begin newJob)).Numbered := by
  have stands : (here.grant load number (.begin newJob)).Stands (fun (_ : Unit) _ _ => True) () [] :=
    begin_stands () [] here number newJob ⟨numbered, trivial⟩
  exact stands.numbered

theorem enqueue_one (queue : List Nat) (number : Nat) :
    enqueue queue [number] = if number ∈ queue then queue else queue ++ [number] := by
  simp [enqueue]

def seats (load : Workload W J) (schedule : Schedule W J) : List ((Nat × J) × Leaf) :=
  schedule.jobs.flatMap fun entry => (load.leaves entry.2).map fun leaf => (entry, leaf)

theorem mem_seats (load : Workload W J) (schedule : Schedule W J) (seat : (Nat × J) × Leaf)
    (member : seat ∈ schedule.seats load) :
    seat.1 ∈ schedule.jobs ∧ seat.2 ∈ load.leaves seat.1.2 := by
  obtain ⟨entry, known, inside⟩ := List.mem_flatMap.mp member
  obtain ⟨leaf, has, rfl⟩ := List.mem_map.mp inside
  exact ⟨known, has⟩

theorem places_eq_seats (load : Workload W J) (schedule : Schedule W J) :
    schedule.places load = (schedule.seats load).map fun seat => ⟨seat.1.1, seat.2⟩ := by
  simp [places, seats, List.map_flatMap, Function.comp_def]

namespace Copies

variable (moves : load.Moves note moved limit related fit idle same)
include moves

theorem wake (copies : here.Copies moved related fit idle there) (number key other : Nat)
    (tied : ∀ entry ∈ here.jobs, entry.1 = number →
      load.touch other (moved.cast entry.2) = moved.cast (load.touch key entry.2)) :
    (here.wake load number key).Copies moved related fit idle (there.wake load (moved.number number) other) := by
  have numbered := (wake_stands (anything_lawful load) () [] here number key copies.numbered.stands).numbered
  unfold Schedule.wake at numbered ⊢
  rw [copies.known number]
  by_cases known : (here.jobs.any fun entry => entry.1 == number) = true
  · rw [if_pos known] at numbered ⊢
    rw [if_pos known]
    refine ⟨copies.world, numbered, ?_, ?_, ?_, ?_, copies.resting, copies.next, copies.begun⟩
    · have apart : (there.jobs.map fun entry =>
        if entry.1 = moved.number number then (entry.1, load.touch other entry.2) else
          entry).filter (fun entry => !moved.isOld entry.1) =
            (there.jobs.filter fun entry => !moved.isOld entry.1).map fun entry =>
              if entry.1 = moved.number number then (entry.1, load.touch other entry.2) else entry := by
        rw [List.filter_map]
        congr 1
        refine List.filter_congr fun entry _ => ?_
        simp only [Function.comp]
        split <;> rfl
      rw [apart, copies.jobs, List.map_map, List.map_map]
      refine List.map_congr_left fun entry member => ?_
      simp only [Function.comp, moved.number_same]
      by_cases own : entry.1 = number
      · simp only [if_pos own, tied entry member own]
      · simp only [if_neg own]
    · intro entry member
      obtain ⟨before, inside, rfl⟩ := List.mem_map.mp member
      split
      · exact moves.touch_fit (copies.fit before inside) key
      · exact copies.fit before inside
    · intro entry member old
      obtain ⟨before, inside, rfl⟩ := List.mem_map.mp member
      by_cases own : before.1 = moved.number number
      · simp [own] at old
      · rw [if_neg own] at old ⊢
        exact copies.idle before inside old
    · rw [enqueue_one, enqueue_one]
      by_cases waits : number ∈ here.ready
      · rw [if_pos waits, if_pos ((copies.awaits number).mpr waits), copies.ready]
      · rw [if_neg waits, if_neg fun member => waits ((copies.awaits number).mp member), List.filter_append, copies.ready]
        simp
  · rw [if_neg known, if_neg known]
    exact copies

-- Waking an old job does not concern the others.
theorem wake_old (copies : here.Copies moved related fit idle there) (number key : Nat) (old : moved.isOld number = true) :
    here.Copies moved related fit idle (there.wake load number key) := by
  unfold Schedule.wake
  split
  · have asleep : (there.jobs.map fun entry => if entry.1 = number then (entry.1, load.touch key entry.2) else entry) =
        there.jobs := by
      refine (List.map_congr_left fun entry member => ?_).trans (List.map_id _)
      by_cases own : entry.1 = number
      · obtain ⟨timer, leafKey, world, -, firm, -⟩ := moves.rests (copies.idle entry member (own ▸ old))
        rw [if_pos own, firm key]
        rfl
      · rw [if_neg own]
        rfl
    refine ⟨copies.world, copies.numbered, ?_, copies.fit, ?_, ?_, copies.resting, copies.next, copies.begun⟩
    · rw [asleep]
      exact copies.jobs
    · rw [asleep]
      exact copies.idle
    · rw [enqueue_one]
      split
      · exact copies.ready
      · rw [List.filter_append, copies.ready]
        simp [old]
  · exact copies

omit moves in
def Tied (moved : Transfer J) (here : Schedule W J) (call other : Nat × Nat) : Prop :=
  other.1 = moved.number call.1 ∧
    ∀ entry ∈ here.jobs, entry.1 = call.1 → other.2 = moved.key call.2 ∨ other.2 = moved.leafKey entry.2 call.2

theorem tied_wake (call other : Nat × Nat) (tied : Tied moved here call other) (number key : Nat) :
    Tied moved (here.wake load number key) call other := by
  refine ⟨tied.1, fun entry member own => ?_⟩
  unfold Schedule.wake at member
  split at member
  · obtain ⟨before, inside, rfl⟩ := List.mem_map.mp member
    by_cases woken : before.1 = number
    · rw [if_pos woken] at own ⊢
      rw [moves.leaf_key]
      exact tied.2 before inside own
    · rw [if_neg woken] at own ⊢
      exact tied.2 before inside own
  · exact tied.2 entry member own

theorem wakes (copies : here.Copies moved related fit idle there) (calls others : List (Nat × Nat))
    (tied : List.Forall₂ (Tied moved here) calls (others.filter fun call => !moved.isOld call.1)) :
    (calls.foldl (fun schedule call => schedule.wake load call.1 call.2) here).Copies moved related fit idle
      (others.foldl (fun schedule call => schedule.wake load call.1 call.2) there) := by
  induction others generalizing calls here there with
  | nil =>
      cases tied
      exact copies
  | cons other rest ih =>
      cases old : moved.isOld other.1 with
      | true =>
          rw [List.filter_cons_of_neg (by simp [old])] at tied
          exact ih (copies.wake_old moves other.1 other.2 old) calls tied
      | false =>
          rw [List.filter_cons_of_pos (by simp [old])] at tied
          cases tied with
          | cons own later =>
              rename_i call calls
              have woken := copies.wake moves call.1 call.2 other.2 fun entry member is => by
                rcases own.2 entry member is with same | same
                · rw [same, moves.touch]
                · rw [same, moves.touch_leaf]
              rw [← own.1] at woken
              exact ih woken calls (later.imp fun one other tied => tied_wake moves one other tied call.1 call.2)

theorem seats_there (copies : here.Copies moved related fit idle there) :
    (there.places load).filter (fun place => !moved.isOld place.job) =
      (here.seats load).map fun seat => ⟨moved.number seat.1.1, moved.leaf seat.1.2 seat.2⟩ := by
  have new : ∀ jobs : List (Nat × J),
      (jobs.flatMap fun entry => (load.leaves entry.2).map fun leaf => (⟨entry.1, leaf⟩ : Place)).filter
          (fun place => !moved.isOld place.job) =
        (jobs.filter fun entry => !moved.isOld entry.1).flatMap fun entry =>
          (load.leaves entry.2).map fun leaf => (⟨entry.1, leaf⟩ : Place) := by
    intro jobs
    induction jobs with
    | nil => rfl
    | cons entry rest ih =>
        rw [List.flatMap_cons, List.filter_append, ih]
        cases old : moved.isOld entry.1 with
        | true =>
            have none : ((load.leaves entry.2).map fun leaf => (⟨entry.1, leaf⟩ : Place)).filter
                (fun place => !moved.isOld place.job) = [] := by
              simp [List.filter_eq_nil_iff, old]
            rw [none, List.filter_cons_of_neg (by simp [old]), List.nil_append]
        | false =>
            have all : ((load.leaves entry.2).map fun leaf => (⟨entry.1, leaf⟩ : Place)).filter
                (fun place => !moved.isOld place.job) = (load.leaves entry.2).map fun leaf => ⟨entry.1, leaf⟩ := by
              simp [List.filter_eq_self, old]
            rw [all, List.filter_cons_of_pos (by simp [old]), List.flatMap_cons]
  rw [places, new, copies.jobs, seats]
  simp only [List.flatMap_map, List.map_flatMap, moves.leaves, List.map_map, Function.comp_def]

omit moves in
-- The number of a job tells which job it is.
theorem tied_seat (copies : here.Copies moved related fit idle there) (seat : (Nat × J) × Leaf)
    (member : seat ∈ here.seats load) :
    Tied moved here (seat.1.1, seat.2.key) (moved.number seat.1.1, (moved.leaf seat.1.2 seat.2).key) := by
  refine ⟨rfl, fun entry inside own => Or.inr ?_⟩
  obtain ⟨known, -⟩ := mem_seats load here seat member
  obtain rfl : entry = seat.1 := List.inj_on_of_nodup_map copies.numbered.nodup inside known own
  rfl

theorem deliver (copies : here.Copies moved related fit idle there) (signal : Signal) :
    (here.deliver load signal).Copies moved related fit idle (there.deliver load (moved.said signal)) := by
  have hears : ∀ leaf : Leaf, ∀ job, (moved.leaf job leaf).signals.contains (moved.said signal) =
      leaf.signals.contains signal := by
    intro leaf job
    rw [Bool.eq_iff_iff, List.contains_iff_mem, List.contains_iff_mem]
    refine ⟨fun member => ?_, fun member => List.mem_map_of_mem member⟩
    obtain ⟨sent, inside, same⟩ := List.mem_map.mp member
    exact moved.apart sent signal same ▸ inside
  have calls : ∀ (schedule : Schedule W J) (places : List Place),
      places.foldl (fun schedule place => schedule.wake load place.job place.leaf.key) schedule =
        (places.map fun place => (place.job, place.leaf.key)).foldl
          (fun schedule call => schedule.wake load call.1 call.2) schedule := by
    intro schedule places
    rw [List.foldl_map]
  unfold Schedule.deliver
  dsimp only
  rw [calls, calls]
  apply copies.wakes moves
  -- Both sides are read off the same list of seats.
  have heard : (here.places load).filter (fun place => place.leaf.signals.contains signal) =
      ((here.seats load).filter fun seat => seat.2.signals.contains signal).map fun seat => ⟨seat.1.1, seat.2⟩ := by
    rw [places_eq_seats, List.filter_map]
    rfl
  have heardThere : ((sortBy (fun place => place.leaf.key)
      ((there.places load).filter fun place => place.leaf.signals.contains (moved.said signal))).map
        fun place => (place.job, place.leaf.key)).filter (fun call => !moved.isOld call.1) =
      ((sortBy (fun seat => (moved.leaf seat.1.2 seat.2).key)
        ((here.seats load).filter fun seat => seat.2.signals.contains signal)).map fun seat =>
          (moved.number seat.1.1, (moved.leaf seat.1.2 seat.2).key)) := by
    rw [List.filter_map]
    simp only [Function.comp_def]
    rw [sort_by_filter, List.filter_filter]
    simp only [Bool.and_comm (!moved.isOld _)]
    rw [← List.filter_filter, copies.seats_there moves, List.filter_map]
    simp only [Function.comp_def, hears]
    rw [sort_by_map, List.map_map]
    rfl
  rw [heard, heardThere, sort_by_map, List.map_map]
  have order : sortBy (fun seat : (Nat × J) × Leaf => (moved.leaf seat.1.2 seat.2).key)
        ((here.seats load).filter fun seat => seat.2.signals.contains signal) =
      sortBy (fun seat => seat.2.key) ((here.seats load).filter fun seat => seat.2.signals.contains signal) := by
    refine sort_by_congr _ _ _ fun first member second further => ?_
    obtain ⟨inside, listens⟩ := List.mem_filter.mp member
    obtain ⟨insideToo, listensToo⟩ := List.mem_filter.mp further
    exact moves.ranks (mem_seats load here first inside).2 (mem_seats load here second insideToo).2
      (List.contains_iff_mem.mp listens) (List.contains_iff_mem.mp listensToo)
  rw [order]
  refine List.forall₂_map_left_iff.mpr (List.forall₂_map_right_iff.mpr (List.forall₂_same.mpr fun seat member => ?_))
  have member := (mem_sortBy _ seat _).mp member
  exact copies.tied_seat seat (List.mem_filter.mp member).1

theorem grant (copies : here.Copies moved related fit idle there) (number : Nat) (request : Request J)
    (begun : ∀ job, request = .begin job → fit job) :
    (here.grant load number request).Copies moved related fit idle
    (there.grant load (moved.number number) (moved.request request)) := by
  cases request with
  | begin job =>
      have numbered := begin_numbered load number job copies.numbered
      refine ⟨copies.world, numbered, ?_, ?_, ?_, ?_, copies.resting, ?_, Nat.succ_pos _⟩
      · show (there.jobs ++ [(there.next, moved.cast job)]).filter _ = (here.jobs ++ [(here.next, job)]).map _
        rw [List.filter_append, copies.jobs, List.map_append, copies.next]
        simp
      · intro entry member
        rcases List.mem_append.mp member with before | last
        · exact copies.fit entry before
        · rw [List.mem_singleton.mp last]
          exact begun job rfl
      · intro entry member old
        rcases List.mem_append.mp member with before | last
        · exact copies.idle entry before old
        · rw [List.mem_singleton.mp last, copies.next] at old
          simp at old
      · show (there.ready ++ [there.next]).filter _ = (here.ready ++ [here.next]).map _
        rw [List.filter_append, copies.ready, List.map_append, copies.next]
        simp
      · show there.next + 1 = moved.number (here.next + 1)
        rw [copies.next, moved.number_next here.next copies.begun]
  | signal signal => exact copies.deliver moves signal
  | again key => exact copies.wake moves number key (moved.key key) fun entry _ _ => moves.touch entry.2 key
  | rest key =>
      refine ⟨copies.world, ⟨copies.numbered.nodup, copies.numbered.below⟩, copies.jobs, copies.fit, copies.idle,
        copies.ready, ?_, copies.next, copies.begun⟩
      show (there.resting ++ [(moved.number number, moved.key key)]).filter _ = (here.resting ++ [(number, key)]).map _
      rw [List.filter_append, copies.resting, List.map_append]
      simp

theorem grants (copies : here.Copies moved related fit idle there) (number : Nat) (requests : List (Request J))
    (begun : ∀ job, .begin job ∈ requests → fit job) :
    (requests.foldl (fun schedule request => schedule.grant load number request) here).Copies moved related fit idle
      ((requests.map moved.request).foldl (fun schedule request => schedule.grant load (moved.number number) request)
        there) := by
  induction requests generalizing here there with
  | nil => exact copies
  | cons request rest ih =>
      refine ih (copies.grant moves number request fun job is => ?_) fun job member =>
        begun job (List.mem_cons_of_mem _ member)
      exact begun job (is ▸ List.mem_cons_self)

end Copies

end Schedule

end Workcell
