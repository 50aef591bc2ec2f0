import Workcell.Proofs.Schedule.Transfer

/-!
Two schedules of which one stands for the other, step by step: whatever happens there happens here or concerns old jobs
alone, and the old jobs hold nobody up for good.
-/

set_option autoImplicit false

namespace Workcell.Schedule

variable {W J G : Type} {load : Workload W J} {note : J → W → G → G} {moved : Transfer J} {limit : Nat}
  {related : W → W → Prop} {fit : J → Prop} {idle : W → J → Prop} {same : G → G → Prop} {here there : Schedule W J}

namespace Copies

variable (moves : load.Moves note moved limit related fit idle same)

theorem leave (copies : here.Copies moved related fit idle there) (world after : W) (stays : related world after)
    (still : ∀ old, idle there.world old → idle after old) (number : Nat) (left : Option J)
    (good : ∀ job, left = some job → fit job) :
    (({ here with world := world } : Schedule W J).leave number left).Copies moved related fit idle
      (({ there with world := after } : Schedule W J).leave (moved.number number) (left.map moved.cast)) := by
  have turned : ({ here with world := world } : Schedule W J).Numbered := ⟨copies.numbered.nodup, copies.numbered.below⟩
  obtain ⟨numbered, -⟩ := leave_numbered turned number left
  have gone : ∀ own, (!(moved.number own == moved.number number)) = !(own == number) := by
    intro own
    by_cases same : own = number
    · simp [same]
    · simp [same]
  cases left with
  | some left =>
      refine ⟨stays, numbered, ?_, ?_, ?_, copies.ready, copies.resting, copies.next, copies.begun⟩
      · show (there.jobs.map fun entry => if entry.1 = moved.number number then (moved.number number, moved.cast left) else
          entry).filter (fun entry => !moved.isOld entry.1) = _
        have apart : (there.jobs.map fun entry =>
          if entry.1 = moved.number number then (moved.number number, moved.cast left)
            else entry).filter (fun entry => !moved.isOld entry.1) =
              (there.jobs.filter fun entry => !moved.isOld entry.1).map fun entry =>
                if entry.1 = moved.number number then (moved.number number, moved.cast left) else entry := by
          rw [List.filter_map]
          congr 1
          refine List.filter_congr fun entry _ => ?_
          simp only [Function.comp]
          split
          · next own => rw [own]
          · rfl
        rw [apart, copies.jobs, List.map_map]
        show _ = (here.jobs.map _).map _
        rw [List.map_map]
        refine List.map_congr_left fun entry _ => ?_
        simp only [Function.comp, moved.number_same]
        split <;> rfl
      · intro entry member
        obtain ⟨before, inside, rfl⟩ := List.mem_map.mp member
        split
        · exact good left rfl
        · exact copies.fit before inside
      · intro entry member old
        obtain ⟨before, inside, rfl⟩ := List.mem_map.mp member
        by_cases own : before.1 = moved.number number
        · simp [own] at old
        · rw [if_neg own] at old ⊢
          exact still before.2 (copies.idle before inside old)
  | none =>
      refine ⟨stays, numbered, ?_, ?_, ?_, copies.ready, ?_, copies.next, copies.begun⟩
      · show (there.jobs.filter _).filter _ = (here.jobs.filter _).map _
        rw [List.filter_comm, copies.jobs, List.filter_map]
        simp only [Function.comp_def, gone]
      · exact fun entry member => copies.fit entry (List.mem_filter.mp member).1
      · exact fun entry member old => still entry.2 (copies.idle entry (List.mem_filter.mp member).1 old)
      · show (there.resting.filter _).filter _ = (here.resting.filter _).map _
        rw [List.filter_comm, copies.resting, List.filter_map]
        simp only [Function.comp_def, gone]

-- An old job that is left, or that is not, changes nothing for the others.
theorem leave_old (copies : here.Copies moved related fit idle there) (after : W) (stays : related here.world after)
    (still : ∀ old, idle there.world old → idle after old) (number : Nat) (old : moved.isOld number = true) (left : Option J)
    (idles : ∀ job, left = some job → idle there.world job) :
    here.Copies moved related fit idle (({ there with world := after } : Schedule W J).leave number left) := by
  have other : ∀ own, (!moved.isOld own) = true → (!(own == number)) = true := by
    intro own new
    have differs : own ≠ number := by
      rintro rfl
      simp [old] at new
    simpa using differs
  cases left with
  | some left =>
      refine ⟨stays, copies.numbered, ?_, copies.fit, ?_, copies.ready, copies.resting, copies.next, copies.begun⟩
      · show (there.jobs.map fun entry => if entry.1 = number then (number, left) else entry).filter
          (fun entry => !moved.isOld entry.1) = _
        rw [← copies.jobs, List.filter_map]
        have unmoved : ∀ entry ∈ there.jobs.filter fun entry => !moved.isOld entry.1,
            (if entry.1 = number then (number, left) else entry) = entry := by
          intro entry member
          have differs := other entry.1 (List.mem_filter.mp member).2
          exact if_neg (by simpa using differs)
        have apart : there.jobs.filter ((fun entry => !moved.isOld entry.1) ∘ fun entry =>
            if entry.1 = number then (number, left) else entry) = there.jobs.filter fun entry => !moved.isOld entry.1 := by
          refine List.filter_congr fun entry _ => ?_
          simp only [Function.comp]
          split
          · next own => rw [own]
          · rfl
        rw [apart]
        exact (List.map_congr_left unmoved).trans (List.map_id _)
      · intro entry member isOld
        obtain ⟨before, inside, rfl⟩ := List.mem_map.mp member
        by_cases own : before.1 = number
        · rw [if_pos own]
          exact still left (idles left rfl)
        · rw [if_neg own] at isOld ⊢
          exact still before.2 (copies.idle before inside isOld)
  | none =>
      refine ⟨stays, copies.numbered, ?_, copies.fit, ?_, copies.ready, ?_, copies.next, copies.begun⟩
      · show (there.jobs.filter fun entry => !(entry.1 == number)).filter (fun entry => !moved.isOld entry.1) = _
        rw [List.filter_comm, ← copies.jobs]
        exact List.filter_eq_self.mpr fun entry member => other entry.1 (List.mem_filter.mp member).2
      · exact fun entry member isOld => still entry.2 (copies.idle entry (List.mem_filter.mp member).1 isOld)
      · show (there.resting.filter fun entry => !(entry.1 == number)).filter (fun entry => !moved.isOld entry.1) = _
        rw [List.filter_comm, ← copies.resting]
        exact List.filter_eq_self.mpr fun entry member => other entry.1 (List.mem_filter.mp member).2

def alarms (load : Workload W J) (schedule : Schedule W J) : List (Timer × (Nat × J) × Leaf) :=
  (schedule.seats load).filterMap fun seat => seat.2.timer.map fun timer => (timer, seat)

theorem timers_eq_alarms (load : Workload W J) (schedule : Schedule W J) :
    schedule.timers load = (alarms load schedule).map fun alarm => (alarm.1, ⟨alarm.2.1.1, alarm.2.2⟩) := by
  rw [timers, places_eq_seats, alarms, List.filterMap_map, List.map_filterMap]
  congr 1
  funext seat
  cases timed : seat.2.timer <;> simp [Function.comp, timed]

include moves

theorem alarms_there (copies : here.Copies moved related fit idle there) :
    (there.timers load).filter (fun entry => !moved.isOld entry.2.job) =
      (alarms load here).map fun alarm =>
        (moved.timer alarm.1, ⟨moved.number alarm.2.1.1, moved.leaf alarm.2.1.2 alarm.2.2⟩) := by
  have new : (there.timers load).filter (fun entry => !moved.isOld entry.2.job) =
      ((there.places load).filter fun place => !moved.isOld place.job).filterMap fun place =>
        place.leaf.timer.map fun timer => (timer, place) := by
    rw [timers, List.filter_filterMap, List.filterMap_filter]
    congr 1
    funext place
    cases old : moved.isOld place.job <;> cases place.leaf.timer <;> simp [old]
  rw [new, copies.seats_there moves, List.filterMap_map, alarms, List.map_filterMap]
  congr 1
  funext seat
  cases timed : seat.2.timer <;> simp [Function.comp, Transfer.leaf, timed]

end Copies

theorem jump_calls (load : Workload W J) (schedule : Schedule W J) (due : Nat) (timers : List (Timer × Place)) :
    timers.foldl (fun schedule entry => schedule.wake load entry.2.job entry.2.leaf.key)
        { schedule with world := load.elapse due schedule.world } =
      (timers.map fun entry => (entry.2.job, entry.2.leaf.key)).foldl
        (fun schedule call => schedule.wake load call.1 call.2)
        { schedule with world := load.elapse due schedule.world } := by
  rw [List.foldl_map]

namespace Copies

variable (moves : load.Moves note moved limit related fit idle same)
include moves

-- The clock jumps to the time of one of the others: it does so here too.
theorem jump_together (copies : here.Copies moved related fit idle there) (next : Schedule W J)
    (jumped : there.jump load = some next) (due : Nat) (earliest : earliest? (there.timers load) = some due)
    (entry : Timer × Place) (member : entry ∈ there.timers load) (new : moved.isOld entry.2.job = false)
    (reached : entry.1.due ≤ due) :
    ∃ before last, here.jump load = some last ∧ last.Copies moved related fit idle next ∧ due = before + moved.ahead ∧
      last.world = load.elapse before here.world ∧ next.world = load.elapse due there.world := by
  obtain ⟨isOne, least⟩ := List.min?_eq_some_iff.mp earliest
  have there' := copies.alarms_there moves
  have kept : entry ∈ (there.timers load).filter fun entry => !moved.isOld entry.2.job :=
    List.mem_filter.mpr ⟨member, by simp [new]⟩
  rw [there'] at kept
  obtain ⟨alarm, rings, rfl⟩ := List.mem_map.mp kept
  have moment : due = alarm.1.due + moved.ahead :=
    Nat.le_antisymm (least _ (List.mem_map_of_mem member)) reached
  have first : ∀ other ∈ alarms load here, alarm.1.due ≤ other.1.due := by
    intro other rings
    have among : (moved.timer other.1, (⟨moved.number other.2.1.1, moved.leaf other.2.1.2 other.2.2⟩ : Place)) ∈
        (there.timers load).filter fun entry => !moved.isOld entry.2.job := there' ▸ List.mem_map_of_mem rings
    have bound := least _ (List.mem_map_of_mem (List.mem_filter.mp among).1)
    simp only [Transfer.timer] at bound
    omega
  have earliestHere : earliest? (here.timers load) = some alarm.1.due := by
    refine List.min?_eq_some_iff.mpr ⟨?_, fun other inside => ?_⟩
    · rw [timers_eq_alarms, List.map_map]
      exact List.mem_map.mpr ⟨alarm, rings, rfl⟩
    · rw [timers_eq_alarms, List.map_map] at inside
      obtain ⟨other, rings, rfl⟩ := List.mem_map.mp inside
      exact first other rings
  have elapsed : ({ here with world := load.elapse alarm.1.due here.world } : Schedule W J).Copies moved related fit idle
      { there with world := load.elapse due there.world } :=
    ⟨moves.elapse_there (moves.elapse_here copies.world _) _, ⟨copies.numbered.nodup, copies.numbered.below⟩, copies.jobs,
      copies.fit, fun entry member old =>
      moves.elapse_idle (copies.idle entry member old) due, copies.ready, copies.resting, copies.next,
      copies.begun⟩
  unfold Schedule.jump at jumped ⊢
  dsimp only at jumped ⊢
  rw [earliest, Option.map_some, Option.some.injEq] at jumped
  rw [earliestHere, Option.map_some]
  refine ⟨alarm.1.due, _, rfl, ?_, moment, ?_, ?_⟩
  · rw [← jumped, jump_calls, jump_calls]
    refine elapsed.wakes moves _ _ ?_
    have woken : (here.timers load).filter (fun entry => decide (entry.1.due ≤ alarm.1.due)) =
        ((alarms load here).filter fun other => decide (other.1.due ≤ alarm.1.due)).map fun alarm =>
          (alarm.1, ⟨alarm.2.1.1, alarm.2.2⟩) := by
      rw [timers_eq_alarms, List.filter_map]
      rfl
    have wokenThere : ((sortBy (fun entry => entry.1.order)
        ((there.timers load).filter fun entry => decide (entry.1.due ≤ due))).map
          fun entry => (entry.2.job, entry.2.leaf.key)).filter (fun call => !moved.isOld call.1) =
        (sortBy (fun other => moved.key other.1.order)
          ((alarms load here).filter fun other => decide (other.1.due ≤ alarm.1.due))).map fun other =>
            (moved.number other.2.1.1, (moved.leaf other.2.1.2 other.2.2).key) := by
      have late : ∀ other : Timer, decide ((moved.timer other).due ≤ due) = decide (other.due ≤ alarm.1.due) := by
        intro other
        simp only [Transfer.timer, moment, Nat.add_le_add_iff_right]
      rw [List.filter_map]
      simp only [Function.comp_def]
      rw [sort_by_filter, List.filter_filter]
      simp only [Bool.and_comm (!moved.isOld _)]
      rw [← List.filter_filter, there', List.filter_map]
      simp only [Function.comp_def, late]
      rw [sort_by_map, List.map_map]
      rfl
    rw [woken, wokenThere, sort_by_map, List.map_map]
    have order : sortBy (fun other : Timer × (Nat × J) × Leaf => moved.key other.1.order)
          ((alarms load here).filter fun other => decide (other.1.due ≤ alarm.1.due)) =
        sortBy (fun other => other.1.order) ((alarms load here).filter fun other => decide (other.1.due ≤ alarm.1.due)) :=
      sort_by_congr _ _ _ fun _ _ _ _ => moved.rises _ _
    rw [order]
    refine List.forall₂_map_left_iff.mpr (List.forall₂_map_right_iff.mpr (List.forall₂_same.mpr fun other inside => ?_))
    have rings := (List.mem_filter.mp ((mem_sortBy _ other _).mp inside)).1
    obtain ⟨seat, sits, timed⟩ := List.mem_filterMap.mp rings
    obtain ⟨timer, -, rfl⟩ := Option.map_eq_some_iff.mp timed
    exact elapsed.tied_seat seat sits
  · exact wakes_world load _ _ _ _
  · rw [← jumped]
    exact wakes_world load _ _ _ _

end Copies

end Workcell.Schedule
