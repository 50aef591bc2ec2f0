import Workcell.Proofs.Schedule.Abreast
import Workcell.Proofs.Schedule.Queue

/-!
A schedule from a turn of the desk on: all other jobs are old jobs from then on, and what the desk does and begins it might
have done and begun in a schedule of its own.
-/

set_option autoImplicit false

namespace Workcell.Schedule

variable {W J : Type} {load : Workload W J} {sorts : load.Sorts} {schedule : Schedule W J}

theorem start_numbered (world : W) (job : J) : (start world job).Numbered := by
  have stands : (start world job).Stands (fun (_ : Unit) _ _ => True) () [] := start_stands () world job trivial
  exact stands.numbered

theorem start_queued (sorts : load.Sorts) (world : W) (job : J) (desk : sorts.desk job) (aged : ¬ sorts.young job) :
    (start world job).Queued sorts where
  numbered := start_numbered world job
  begun := Nat.zero_lt_one
  nodup := List.nodup_singleton 0
  known number member := List.mem_singleton.mp member ▸ Nat.zero_lt_one
  desk entry member := by
    rw [List.mem_singleton.mp member]
    exact ⟨fun _ => rfl, fun _ => desk⟩
  resting := nofun
  young entry member young := by
    rw [List.mem_singleton.mp member] at young
    exact absurd young aged

theorem Stands.front {G : Type} {note : J → W → G → G} {claim : G → W → List J → Prop} {notes : G}
    (stands : schedule.Stands claim notes []) (law : load.Law note claim) (number : Nat) (job : J)
    (found : schedule.jobs.lookup number = some job) : ∃ rest, claim notes schedule.world (job :: rest) := by
  obtain ⟨before, after, split, -⟩ := split_at_job schedule.jobs stands.numbered.nodup number job found
  refine ⟨(before ++ after).map Prod.snd, law.perm ?_ stands.holds⟩
  rw [split, List.append_nil]
  simp only [List.map_append, List.map_cons]
  exact List.perm_middle

theorem deliver_unheard (load : Workload W J) (schedule : Schedule W J) (sent : Signal)
    (unheard : ∀ entry ∈ schedule.jobs, ∀ leaf ∈ load.leaves entry.2, sent ∉ leaf.signals) :
    schedule.deliver load sent = schedule := by
  have nobody : (schedule.places load).filter (fun place => place.leaf.signals.contains sent) = [] := by
    refine List.filter_eq_nil_iff.mpr fun place member listens => ?_
    obtain ⟨entry, known, inside⟩ := List.mem_flatMap.mp member
    obtain ⟨leaf, has, rfl⟩ := List.mem_map.mp inside
    exact unheard entry known leaf has (List.contains_iff_mem.mp listens)
  unfold deliver
  rw [nobody]
  rfl

theorem signals_unheard (load : Workload W J) (number : Nat) (requests : List (Request J)) (schedule : Schedule W J)
    (unheard : ∀ request ∈ requests, ∃ sent : Signal, request = .signal sent ∧
      ∀ entry ∈ schedule.jobs, ∀ leaf ∈ load.leaves entry.2, sent ∉ leaf.signals) :
    requests.foldl (fun schedule request => schedule.grant load number request) schedule = schedule := by
  induction requests with
  | nil => rfl
  | cons request rest ih =>
      obtain ⟨sent, rfl, nobody⟩ := unheard request List.mem_cons_self
      rw [List.foldl_cons, grant, deliver_unheard load schedule sent nobody]
      exact ih fun other member => unheard other (List.mem_cons_of_mem _ member)

variable {moved : Transfer J}

theorem old_of_known (begins : moved.start = schedule.next) (number : Nat) (known : number < schedule.next)
    (other : number ≠ 0) :
    moved.isOld number = true := by
  simp only [Transfer.isOld, decide_eq_true_eq]
  omega

theorem only_desk (rows : schedule.Rows sorts) (begins : moved.start = schedule.next) (job : J)
    (found : schedule.jobs.lookup 0 = some job) : (schedule.jobs.filter fun entry => !moved.isOld entry.1) = [(0, job)] := by
  obtain ⟨before, after, split, others⟩ := split_at_job schedule.jobs rows.numbered.nodup 0 job found
  have old : ∀ entry ∈ before ++ after, moved.isOld entry.1 = true := by
    intro entry member
    have inside : entry ∈ schedule.jobs := by
      rw [split]
      rcases List.mem_append.mp member with early | late
      · exact List.mem_append_left _ early
      · exact List.mem_append_right _ (List.mem_cons_of_mem _ late)
    exact old_of_known begins entry.1 (rows.numbered.below entry.1 (List.mem_map_of_mem inside)) (others entry member)
  have none : ∀ part : List (Nat × J), (∀ entry ∈ part, entry ∈ before ++ after) →
      (part.filter fun entry => !moved.isOld entry.1) = [] := fun part inside =>
    List.filter_eq_nil_iff.mpr fun entry member => by simp [old entry (inside entry member)]
  have desk : moved.isOld 0 = false := by simp [Transfer.isOld]
  rw [split, List.filter_append, List.filter_cons_of_pos (by simp [desk]), none before fun _ => List.mem_append_left after,
    none after fun _ => List.mem_append_right before]
  rfl

theorem Rows.hands_over {related : W → W → Prop} {fit : J → Prop} {idle : W → J → Prop} (rows : schedule.Rows sorts)
    (moved : Transfer J) (begins : moved.start = schedule.next) (rest : List Nat) (ready : schedule.ready = 0 :: rest)
    (job : J) (found : schedule.jobs.lookup 0 = some job) (first world after : W) (own : J) (stays : related world after)
    (left : Option J) (good : ∀ job, left = some job → fit job)
    (idles : ∀ entry ∈ schedule.jobs, entry.1 ≠ 0 → idle after entry.2) :
    (({ start first own with ready := [], world := world } : Schedule W J).leave 0 left).Copies moved related fit idle
      (({ schedule with ready := rest, world := after } : Schedule W J).leave 0 (left.map moved.cast)) := by
  have alone := only_desk rows begins job found
  have positive := moved.begins
  have desk : moved.number 0 = 0 := rfl
  have next : schedule.next = moved.number 1 := by
    simp only [Transfer.number, Nat.one_ne_zero, if_false]
    omega
  have unready : (rest.filter fun number => !moved.isOld number) = [] := by
    refine List.filter_eq_nil_iff.mpr fun number member => ?_
    have old := old_of_known begins number (rows.known number (ready ▸ List.mem_cons_of_mem _ member)) (by
      rintro rfl
      exact (List.nodup_cons.mp (ready ▸ rows.nodup)).1 member)
    simp [old]
  have unrested : (schedule.resting.filter fun entry => !moved.isOld entry.1) = [] := by
    refine List.filter_eq_nil_iff.mpr fun entry member => ?_
    obtain ⟨other, known⟩ := rows.resting entry member
    simp [old_of_known begins entry.1 known other]
  have began : ({ start first own with ready := [], world := world } : Schedule W J).Numbered :=
    ⟨(start_numbered first own).nodup, (start_numbered first own).below⟩
  obtain ⟨numbered, -⟩ := leave_numbered began 0 left
  have settled : ∀ entry ∈ (({ schedule with ready := rest, world := after } : Schedule W J).leave 0
      (left.map moved.cast)).jobs, moved.isOld entry.1 = true → idle after entry.2 := by
    intro entry member old
    rcases mem_leave 0 _ entry member with ⟨other, inside⟩ | ⟨same, -⟩
    · exact idles entry inside other
    · rw [same] at old
      simp [Transfer.isOld] at old
  cases left with
  | some left =>
      refine ⟨stays, numbered, ?_, ?_, settled, unready, unrested, next, Nat.zero_lt_one⟩
      · show ((schedule.jobs.map fun entry => if entry.1 = 0 then (0, moved.cast left) else entry).filter _) = _
        have apart : (schedule.jobs.map fun entry => if entry.1 = 0 then (0, moved.cast left) else entry).filter
            (fun entry => !moved.isOld entry.1) =
              (schedule.jobs.filter fun entry => !moved.isOld entry.1).map fun entry =>
                if entry.1 = 0 then (0, moved.cast left) else entry := by
          rw [List.filter_map]
          congr 1
          refine List.filter_congr fun entry _ => ?_
          simp only [Function.comp]
          split
          · next own => rw [own]
          · rfl
        rw [apart, alone]
        rfl
      · intro entry member
        obtain ⟨before, inside, rfl⟩ := List.mem_map.mp member
        rw [List.mem_singleton.mp inside]
        exact good left rfl
  | none =>
      refine ⟨stays, numbered, ?_, by rintro entry ⟨⟩, settled, unready, ?_, next, Nat.zero_lt_one⟩
      · show (schedule.jobs.filter fun entry => !(entry.1 == 0)).filter (fun entry => !moved.isOld entry.1) = []
        rw [List.filter_comm, alone]
        rfl
      · show (schedule.resting.filter fun entry => !(entry.1 == 0)).filter (fun entry => !moved.isOld entry.1) = []
        rw [List.filter_comm, unrested]
        rfl

end Workcell.Schedule
