import Workcell.Proofs.Stock.Accounted
import Workcell.Proofs.Stock.Names

/-!
Ids of the materials of a run. What is spawned is named from the stream of the cell, class after class; so long as the
draws differ, so do the ids, and no two stations hold materials of one id.

Ids are not unique beyond that: a draw is one of a fixed number, and a seed may give the same one twice.
-/

set_option autoImplicit false

namespace Workcell

variable {R : Type}

def Event.spawned? (event : Event R) : Option Material :=
  match event.kind with
  | .materialSpawn => event.material?
  | _ => none

def spawned (log : List (Event R)) : List Material := log.filterMap Event.spawned?

def classesOf (log : List (Event R)) : List String := (spawned log).map Material.className

def idsOf (log : List (Event R)) : List String := (spawned log).map Material.id

theorem spawned_append (log more : List (Event R)) : spawned (log ++ more) = spawned log ++ spawned more :=
  List.filterMap_append

theorem classes_append (log more : List (Event R)) : classesOf (log ++ more) = classesOf log ++ classesOf more := by
  rw [classesOf, spawned_append, List.map_append]
  rfl

theorem ids_append (log more : List (Event R)) : idsOf (log ++ more) = idsOf log ++ idsOf more := by
  rw [idsOf, spawned_append, List.map_append]
  rfl

theorem spawned_of_others (log : List (Event R)) (others : ∀ event ∈ log, event.kind ≠ .materialSpawn) :
    spawned log = [] := by
  refine List.filterMap_eq_nil_iff.mpr fun event member => ?_
  have other := others event member
  unfold Event.spawned?
  split
  · rename_i kind
    exact absurd kind other
  · rfl

-- The ids in a table are issued ones, and stations with materials of one id are one station if no id has been issued
-- twice.
structure MaterialTable.Bears (table : MaterialTable) (issued : List String) : Prop where
  known : ∀ station material, table.at? station = some material → material.id ∈ issued
  apart : issued.Nodup → ∀ first second material other, table.at? first = some material →
    table.at? second = some other → material.id = other.id → first = second

namespace MaterialTable.Bears

theorem empty (table : MaterialTable) (bare : table.entries = []) : table.Bears [] where
  known station material stands := by simp [MaterialTable.at?, bare] at stands
  apart _ first _ material _ stands := by simp [MaterialTable.at?, bare] at stands

theorem clear {table : MaterialTable} {issued : List String} (bears : table.Bears issued) (station : String) :
    (table.clear station).Bears issued := by
  have before (other : String) (material : Material) (stands : (table.clear station).at? other = some material) :
      table.at? other = some material := by
    rw [MaterialTable.at_clear, Function.update_apply] at stands
    split at stands
    · cases stands
    · exact stands
  refine ⟨fun other material stands => bears.known other material (before other material stands), ?_⟩
  intro nodup first second material other stands standsToo
  exact bears.apart nodup first second material other (before first material stands) (before second other standsToo)

-- A material may be put wherever no other station has one of its id.
theorem put {table : MaterialTable} {issued : List String} (bears : table.Bears issued) (station : String)
    (material : Material) (known : material.id ∈ issued)
    (free : issued.Nodup → ∀ other present, other ≠ station → table.at? other = some present →
      present.id ≠ material.id) :
    (table.put station material).Bears issued := by
  have placed (other : String) (present : Material) (stands : (table.put station material).at? other = some present) :
      (other = station ∧ present = material) ∨ (other ≠ station ∧ table.at? other = some present) := by
    rw [MaterialTable.at_put, Function.update_apply] at stands
    split at stands
    · rename_i here
      exact Or.inl ⟨here, (Option.some.inj stands).symm⟩
    · rename_i elsewhere
      exact Or.inr ⟨elsewhere, stands⟩
  constructor
  · intro other present stands
    rcases placed other present stands with ⟨-, rfl⟩ | ⟨-, stood⟩
    · exact known
    · exact bears.known other present stood
  · intro nodup first second present other standsFirst standsSecond same
    rcases placed first present standsFirst with ⟨rfl, rfl⟩ | ⟨elsewhere, stood⟩ <;>
      rcases placed second other standsSecond with ⟨rfl, rfl⟩ | ⟨elsewhereToo, stoodToo⟩
    · rfl
    · exact absurd same.symm (free nodup second other elsewhereToo stoodToo)
    · exact absurd same (free nodup first present elsewhere stood)
    · exact bears.apart nodup first second present other stood stoodToo same

-- The id issued last is borne by nothing yet.
theorem put_new {table : MaterialTable} {issued : List String} (bears : table.Bears issued) (station : String)
    (material : Material) : (table.put station material).Bears (issued ++ [material.id]) := by
  have grown : table.Bears (issued ++ [material.id]) :=
    ⟨fun other present stands => List.mem_append_left _ (bears.known other present stands),
      fun nodup => bears.apart (List.nodup_append.mp nodup).1⟩
  refine grown.put station material (List.mem_append_right _ List.mem_cons_self) ?_
  intro nodup other present _ stands
  exact (List.nodup_append.mp nodup).2.2 present.id (bears.known other present stands) material.id List.mem_cons_self

theorem put_again {table : MaterialTable} {issued : List String} (bears : table.Bears issued) (station : String)
    (before after : Material) (stands : table.at? station = some before) (same : after.id = before.id) :
    (table.put station after).Bears issued := by
  refine bears.put station after (same ▸ bears.known station before stands) ?_
  intro nodup other present elsewhere standsToo alike
  exact elsewhere (bears.apart nodup other station present before standsToo stands (alike.trans same))

theorem move {table : MaterialTable} {issued : List String} (bears : table.Bears issued) (source target : String)
    (material : Material) (stands : table.at? source = some material) :
    ((table.clear source).put target material).Bears issued := by
  refine (bears.clear source).put target material (bears.known source material stands) ?_
  intro nodup other present _ left alike
  rw [MaterialTable.at_clear, Function.update_apply] at left
  split at left
  · cases left
  · rename_i elsewhere
    exact elsewhere (bears.apart nodup other source present material left stands alike)

end MaterialTable.Bears

def Cell.Named (before after : Cell R) : Prop :=
  ∃ news, after.events = before.events ++ news ∧ spawned news = before.ids.materials (classesOf news) ∧
    after.ids = before.ids.past (classesOf news) ∧
    ∀ issued, before.materials.Bears issued → after.materials.Bears (issued ++ idsOf news)

namespace Cell.Named

-- Work that spawns nothing.
theorem of_kept (before after : Cell R) (news : List (Event R)) (told : after.events = before.events ++ news)
    (none : spawned news = []) (ids : after.ids = before.ids)
    (bears : ∀ issued, before.materials.Bears issued → after.materials.Bears issued) : Named before after := by
  have classes : classesOf news = [] := by rw [classesOf, none, List.map_nil]
  have noIds : idsOf news = [] := by rw [idsOf, none, List.map_nil]
  refine ⟨news, told, by rw [classes, none]; rfl, by rw [classes, ids]; rfl, fun issued held => ?_⟩
  rw [noIds, List.append_nil]
  exact bears issued held

theorem of_same (before after : Cell R) (events : after.events = before.events)
    (materials : after.materials = before.materials) (ids : after.ids = before.ids) : Named before after :=
  of_kept before after [] (by rw [events, List.append_nil]) rfl ids fun _ bears => materials ▸ bears

theorem refl (cell : Cell R) : Named cell cell := of_same cell cell rfl rfl rfl

theorem trans (first second third : Cell R) (before : Named first second) (after : Named second third) :
    Named first third := by
  obtain ⟨news, told, named, drawn, bears⟩ := before
  obtain ⟨more, toldMore, namedMore, drawnMore, bearsMore⟩ := after
  refine ⟨news ++ more, by rw [toldMore, told, List.append_assoc], ?_, ?_, fun issued held => ?_⟩
  · rw [spawned_append, classes_append, Ids.Source.materials_append, named, namedMore, drawn]
  · rw [classes_append, drawnMore, drawn, Ids.Source.past, Ids.Source.past, Ids.Source.past, List.foldl_append]
  · rw [ids_append, ← List.append_assoc]
    exact bearsMore _ (bears issued held)

theorem placing : Placing (R := R) Named where
  refl := refl
  trans := trans
  putAxis cell handle before after := by
    unfold Cell.putAxis
    split
    · exact of_same _ _ rfl rfl rfl
    · exact of_same _ _ rfl rfl rfl
  putActuator cell handle before after := by
    unfold Cell.putActuator
    split
    · exact of_same _ _ rfl rfl rfl
    · exact of_same _ _ rfl rfl rfl
  effect _ _ := of_same _ _ rfl rfl rfl

theorem footing [Scalar R] : Footing (R := R) Named where
  refl := refl
  trans := trans
  addAxis _ _ _ _ _ _ := of_same _ _ rfl rfl rfl
  addActuator _ _ _ _ _ _ := of_same _ _ rfl rfl rfl
  timer _ _ := of_same _ _ rfl rfl rfl
  assign _ _ _ := of_same _ _ rfl rfl rfl
  stopAxis := placing.stop_axis
  stopActuator := placing.stop_actuator

end Cell.Named

theorem Cell.named_by_spawn (cell : Cell R) (station className id : String) (ids : Ids.Source)
    (drawn : cell.ids.next className = (id, ids)) :
    Named cell (({ cell with ids := ids }.putMaterial station ⟨id, className⟩).pushEvent
      (.materialSpawn station ⟨id, className⟩)) := by
  have news : spawned [Event.materialSpawn (R := R) station ⟨id, className⟩] = [⟨id, className⟩] := rfl
  have classes : classesOf [Event.materialSpawn (R := R) station ⟨id, className⟩] = [className] := by
    rw [classesOf, news, List.map_singleton]
  have issued : idsOf [Event.materialSpawn (R := R) station ⟨id, className⟩] = [id] := by
    rw [idsOf, news, List.map_singleton]
  refine ⟨[_], rfl, ?_, ?_, fun earlier bears => ?_⟩
  · rw [news, classes, Ids.Source.materials, Ids.Source.materials, drawn]
  · rw [classes, Ids.Source.past, List.foldl_cons, List.foldl_nil, drawn]
    rfl
  · rw [issued]
    exact bears.put_new station ⟨id, className⟩

namespace Action

variable [Scalar R]

theorem spawn_named (call : Call R) : Act.Within Cell.Named (Stock.spawn call) := by
  have footing := Cell.Named.footing (R := R)
  refine Act.within_bind footing.trans _ _ (Act.within_of_except footing.refl _) fun station => ?_
  refine Act.within_bind footing.trans _ _ (Act.within_of_except footing.refl _) fun className => ?_
  intro cell
  rcases drawn : cell.ids.next className with ⟨id, ids⟩
  rw [Act.bind_apply]
  simp only [Act.change, Cell.nextId, drawn]
  exact cell.named_by_spawn station className id ids drawn

theorem transform_named (call : Call R) : Act.Within Cell.Named (Stock.transform call) := by
  have footing := Cell.Named.footing (R := R)
  refine Act.within_bind footing.trans _ _ (Act.within_of_except footing.refl _) fun station => ?_
  refine Act.within_bind footing.trans _ _ (Act.within_of_except footing.refl _) fun className => ?_
  intro cell
  rw [Act.get_bind_apply]
  cases stands : cell.materials.at? station with
  | none => exact footing.refl cell
  | some before =>
      exact .of_kept _ _ [_] rfl rfl rfl fun issued bears => bears.put_again station before _ stands rfl

theorem consume_named (call : Call R) : Act.Within Cell.Named (Stock.consume call) := by
  have footing := Cell.Named.footing (R := R)
  refine Act.within_bind footing.trans _ _ (Act.within_of_except footing.refl _) fun station => ?_
  intro cell
  rw [Act.bind_apply, take_apply]
  cases stands : cell.materials.at? station with
  | none => exact footing.refl cell
  | some material => exact .of_kept _ _ [_] rfl rfl rfl fun issued bears => bears.clear station

theorem unbind_named (call : Call R) : Act.Within Cell.Named (Stock.unbind call) := by
  have footing := Cell.Named.footing (R := R)
  refine Act.within_bind footing.trans _ _ (Act.within_of_except footing.refl _) fun station => ?_
  refine Act.within_bind footing.trans _ _ (Act.within_change _ fun cell => ?_) fun material => ?_
  · simp only [Cell.takeMaterial, MaterialTable.take]
    cases cell.materials.at? station with
    | none => exact footing.refl cell
    | some material => exact .of_kept _ _ [] (by simp) rfl rfl fun issued bears => bears.clear station
  · cases material with
    | none => exact Act.within_pure footing.refl _
    | some material => exact Act.within_pure footing.refl _

theorem attach_named (call : Call R) : Act.Within Cell.Named (Stock.attach call) := by
  have footing := Cell.Named.footing (R := R)
  refine Act.within_bind footing.trans _ _ (Act.within_of_except footing.refl _) fun holder => ?_
  refine Act.within_bind footing.trans _ _ (Act.within_of_except footing.refl _) fun source => ?_
  intro cell
  rw [Act.bind_apply, take_apply]
  cases stands : cell.materials.at? source with
  | none => exact footing.refl cell
  | some material =>
      exact .of_kept _ _ [_] rfl rfl rfl fun issued bears => bears.move source holder material stands

theorem detach_named (call : Call R) : Act.Within Cell.Named (Stock.detach call) := by
  have footing := Cell.Named.footing (R := R)
  refine Act.within_bind footing.trans _ _ (Act.within_of_except footing.refl _) fun holder => ?_
  refine Act.within_bind footing.trans _ _ (Act.within_of_except footing.refl _) fun target => ?_
  intro cell
  rw [Act.bind_apply, take_apply]
  cases stands : cell.materials.at? holder with
  | none => exact footing.refl cell
  | some material =>
      exact .of_kept _ _ [_] rfl rfl rfl fun issued bears => bears.move holder target material stands

end Action

-- Calls that give no material an id of their own choice.
def Call.Unchosen (call : Call R) : Prop := call.operation ≠ .bind

variable [Scalar R]

theorem unchosen_named (cell : Cell R) (call : Call R) (handler : Handler R) (unchosen : call.Unchosen)
    (resolved : HandlerTable.standard.resolve cell call = .ok handler) : Act.Within Cell.Named (handler call) := by
  have placing := Cell.Named.placing (R := R)
  refine Action.standard_within_of_stock Cell.Named.footing placing.command_axis placing.fire_actuator cell call ?_
    handler resolved
  intro handler member
  simp only [Action.stocks, List.mem_cons, Prod.mk.injEq, List.not_mem_nil, or_false] at member
  rcases member with ⟨-, rfl⟩ | ⟨-, rfl⟩ | ⟨-, rfl⟩ | ⟨bound, -⟩ | ⟨-, rfl⟩ | ⟨-, rfl⟩ | ⟨-, rfl⟩
  · exact Action.spawn_named call
  · exact Action.transform_named call
  · exact Action.consume_named call
  · exact absurd bound unchosen
  · exact Action.unbind_named call
  · exact Action.attach_named call
  · exact Action.detach_named call

def Cell.Names (first taken : List (Event R)) (source : Ids.Source) (cell : Cell R) : Prop :=
  ∃ log, taken ++ cell.events = first ++ log ∧ spawned log = source.materials (classesOf log) ∧
    cell.ids = source.past (classesOf log) ∧ cell.materials.Bears (idsOf log)

theorem names_upkeep (first taken : List (Event R)) (source : Ids.Source) :
    Upkeep HandlerTable.standard Call.Unchosen (fun _ => True) fun _ => Cell.Names (R := R) first taken source := by
  refine Cell.Named.footing.upkeep (fun _ _ _ _ _ _ => .of_same _ _ rfl rfl rfl) _ unchosen_named _ _ ?_
    (fun _ _ => trivial) (fun _ _ _ => trivial)
  rintro before after ⟨news, added, named, drawn, bears⟩ ⟨log, told, namedLog, drawnLog, bearsLog⟩
  refine ⟨log ++ news, by rw [added, ← List.append_assoc, told, List.append_assoc], ?_, ?_, ?_⟩
  · rw [spawned_append, classes_append, Ids.Source.materials_append, namedLog, named, drawnLog]
  · rw [classes_append, drawn, drawnLog, Ids.Source.past, Ids.Source.past, Ids.Source.past, List.foldl_append]
  · rw [ids_append]
    exact bears _ bearsLog

-- What others may do between two turns of a run: frames carry queued events away, events are queued that spawn
-- nothing, and the materials and the stream of their ids are left alone.
structure Cell.Bystood (carried : List (Event R)) (before between : Cell R) : Prop where
  queue : ∃ left more, before.events = carried ++ left ∧ between.events = left ++ more ∧
    ∀ event ∈ more, event.kind ≠ .materialSpawn
  materials : between.materials = before.materials
  ids : between.ids = before.ids

-- What a task has come to in the last of its turns, and the events carried away between its turns.
inductive Annals (task : Task R) (cell : Cell R) : List (Event R) → Progress R → Cell R → Prop where
  | first {progress after} (keys : List Nat)
      (turn : (task.wake keys).poll HandlerTable.standard cell = (progress, after)) :
      Annals task cell [] progress after
  | next {taken run before between progress after} (keys : List Nat) (carried : List (Event R))
      (earlier : Annals task cell taken (.pending run) before) (bystood : before.Bystood carried between)
      (turn : (Task.running (run.wake keys)).poll HandlerTable.standard between = (progress, after)) :
      Annals task cell (taken ++ carried) progress after

theorem annals_of_start (step : Step R) (cell : Cell R) :
    Annals (.fresh step) cell [] (step.start .standard cell).1 (step.start .standard cell).2 := .first [] rfl

omit [Scalar R] in
theorem Cell.Names.bystood {first taken carried : List (Event R)} {source : Ids.Source} {before between : Cell R}
    (names : before.Names first taken source) (bystood : before.Bystood carried between) :
    between.Names first (taken ++ carried) source := by
  obtain ⟨log, told, named, drawn, bears⟩ := names
  obtain ⟨left, more, split, queue, others⟩ := bystood.queue
  have none := spawned_of_others more others
  have classes : classesOf (log ++ more) = classesOf log := by simp [classesOf, spawned_append, none]
  have ids : idsOf (log ++ more) = idsOf log := by simp [idsOf, spawned_append, none]
  refine ⟨log ++ more, ?_, ?_, ?_, ?_⟩
  · calc taken ++ carried ++ between.events
      _ = taken ++ before.events ++ more := by simp [queue, split]
      _ = first ++ (log ++ more) := by rw [told, List.append_assoc]
  · rw [spawned_append, none, List.append_nil, classes, named]
  · rw [bystood.ids, drawn, classes]
  · rw [bystood.materials, ids]
    exact bears

theorem annals_names (step : Step R) (every : step.Every Call.Unchosen) (cell : Cell R)
    (bare : cell.materials.entries = []) (taken : List (Event R)) (progress : Progress R) (after : Cell R)
    (annals : Annals (.fresh step) cell taken progress after) :
    Upkeep.After Call.Unchosen (fun _ => True) (fun _ => Cell.Names cell.events taken cell.ids) [] (progress, after) := by
  induction annals with
  | first keys turn =>
      have kept := (names_upkeep cell.events [] cell.ids).start_keeps step every [] cell
        ⟨[], by simp, rfl, rfl, .empty _ bare⟩
      exact (show step.start _ cell = _ from turn) ▸ kept
  | next keys carried earlier bystood turn ih =>
      rename_i taken run before between progress after
      obtain ⟨names, fit⟩ := ih
      have kept := (names_upkeep cell.events (taken ++ carried) cell.ids).resume_keeps (run.wake keys)
        (wake_fit keys run fit) [] between (names.bystood bystood)
      exact (show (run.wake keys).resume _ between = _ from turn) ▸ kept

/-- The materials that a run spawns are named class after class from the draws of its stream. Their ids are pairwise
distinct exactly when no two of one class have drawn the same number, and then stations that hold materials of one id
are one station, at every turn and at the end. -/
theorem ids_differ_as_the_draws_do (step : Step R) (every : step.Every Call.Unchosen) (cell : Cell R)
    (bare : cell.materials.entries = []) (taken : List (Event R)) (progress : Progress R) (after : Cell R)
    (annals : Annals (.fresh step) cell taken progress after) :
    ∃ log, taken ++ after.events = cell.events ++ log ∧
      idsOf log = ((classesOf log).zip (cell.ids.draws (classesOf log).length)).map
        (fun drawn => Ids.name drawn.1 drawn.2) ∧
      ((idsOf log).Nodup ↔ ((classesOf log).zip (cell.ids.draws (classesOf log).length)).Nodup) ∧
      ((idsOf log).Nodup → ∀ first second material other, after.materials.at? first = some material →
        after.materials.at? second = some other → material.id = other.id → first = second) := by
  have names : after.Names cell.events taken cell.ids := by
    have told := annals_names step every cell bare taken progress after annals
    cases progress with
    | done value => exact told
    | fault fault => exact told.1
    | panicked message => exact told
    | pending run => exact told.1
  obtain ⟨log, told, named, -, bears⟩ := names
  refine ⟨log, told, ?_, ?_, bears.apart⟩
  · rw [idsOf, named, Ids.Source.ids_of_materials]
  · rw [idsOf, named, Ids.Source.ids_nodup_iff]

def twoBolts : Step Rat := Flow.andThen (Flow.spawn "left" "bolt") (Flow.spawn "right" "bolt")

def seededCell (seed : Nat) : Cell Rat := { gripperCell with ids := Ids.Source.seeded seed }

theorem ids_differ_for_two_bolts :
    twoBolts.Every Call.Unchosen ∧ (seededCell 0).materials.entries = [] ∧
      Annals (.fresh twoBolts) (seededCell 0) [] (twoBolts.start .standard (seededCell 0)).1
        (twoBolts.start .standard (seededCell 0)).2 ∧
      (idsOf (twoBolts.start .standard (seededCell 0)).2.events).Nodup ∧
      ∀ first second material other,
        (twoBolts.start .standard (seededCell 0)).2.materials.at? first = some material →
        (twoBolts.start .standard (seededCell 0)).2.materials.at? second = some other →
        material.id = other.id → first = second := by
  have unchosen : twoBolts.Every Call.Unchosen := ⟨nofun, fun _ => nofun⟩
  have annals := annals_of_start twoBolts (seededCell 0)
  obtain ⟨log, told, -, distinct, apart⟩ := ids_differ_as_the_draws_do twoBolts unchosen (seededCell 0) rfl _ _ _ annals
  have quiet : (seededCell 0).events = [] := rfl
  rw [quiet, List.nil_append, List.nil_append] at told
  have classes : classesOf (twoBolts.start .standard (seededCell 0)).2.events = ["bolt", "bolt"] := by decide +kernel
  have drawn : (["bolt", "bolt"].zip ((seededCell 0).ids.draws 2)).Nodup := by decide +kernel
  rw [← told] at distinct apart
  rw [classes] at distinct
  have nodup := distinct.mpr drawn
  exact ⟨unchosen, rfl, annals, nodup, apart nodup⟩

-- A seed whose first two draws are the same: both bolts have one id, and two stations hold it.
theorem two_bolts_of_one_id :
    twoBolts.Every Call.Unchosen ∧ (seededCell 25609338).materials.entries = [] ∧
      (twoBolts.start .standard (seededCell 25609338)).1.isPending = false ∧
      idsOf (twoBolts.start .standard (seededCell 25609338)).2.events = ["bolt-5b5bc8", "bolt-5b5bc8"] ∧
      (twoBolts.start .standard (seededCell 25609338)).2.materials.at? "left" = some ⟨"bolt-5b5bc8", "bolt"⟩ ∧
      (twoBolts.start .standard (seededCell 25609338)).2.materials.at? "right" = some ⟨"bolt-5b5bc8", "bolt"⟩ := by
  refine ⟨⟨nofun, fun _ => nofun⟩, rfl, ?_, ?_, ?_, ?_⟩
  · decide +kernel
  · decide +kernel
  · decide +kernel
  · decide +kernel

end Workcell
