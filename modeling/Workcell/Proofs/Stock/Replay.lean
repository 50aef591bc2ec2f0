import Mathlib.Logic.Function.Basic
import Workcell.Proofs.Telemetry.Tables
import Workcell.Telemetry.Event

/-!
What a log of events makes of empty stations. A reader has the events only: stations, ids and classes are read off
their payloads, by the names of the fields.
-/

set_option autoImplicit false

namespace Workcell

abbrev Stations := String → Option Material

variable {R : Type}

namespace Event

def text? (event : Event R) (field : String) : Option String :=
  match event.payload with
  | some (.record fields) =>
      match fields.lookup field with
      | some (.text s) => some s
      | _ => none
  | _ => none

def material? (event : Event R) : Option Material := do
  let id ← event.text? "id"
  let className ← event.text? "class"
  pure ⟨id, className⟩

def replay (stations : Stations) (event : Event R) : Option Stations :=
  match event.kind with
  | .materialSpawn | .materialTransform => do
      let station ← event.text? "station"
      let material ← event.material?
      pure (Function.update stations station (some material))
  | .materialConsume => do
      let station ← event.text? "station"
      pure (Function.update stations station none)
  | .attach => do
      let source ← event.text? "from"
      let holder ← event.text? "holder"
      let material ← event.material?
      pure (Function.update (Function.update stations source none) holder (some material))
  | .detach => do
      let holder ← event.text? "holder"
      let target ← event.text? "to"
      let material ← event.material?
      pure (Function.update (Function.update stations holder none) target (some material))
  | _ => some stations

def Meets (stations : Stations) (event : Event R) (field : String) (fits : Material → Prop) : Prop :=
  ∃ station before, event.text? field = some station ∧ stations station = some before ∧
    event.text? "id" = some before.id ∧ fits before

-- What an event says of the stations before it is true of them.
def Fits (stations : Stations) (event : Event R) : Prop :=
  match event.kind with
  | .materialTransform => event.Meets stations "station" fun before => event.text? "from" = some before.className
  | .materialConsume => event.Meets stations "station" fun before => event.text? "class" = some before.className
  | .attach => event.Meets stations "from" fun before => event.text? "class" = some before.className
  | .detach => event.Meets stations "holder" fun before => event.text? "class" = some before.className
  | _ => True

theorem replay_of_other (event : Event R) (stations : Stations) (other : event.kind.tellsMaterial = false) :
    event.replay stations = some stations := by
  obtain ⟨kind, message, payload⟩ := event
  cases kind <;> simp_all [EventKind.tellsMaterial, replay]

theorem fits_of_other (event : Event R) (stations : Stations) (other : event.kind.tellsMaterial = false) :
    event.Fits stations := by
  obtain ⟨kind, message, payload⟩ := event
  cases kind <;> simp_all [EventKind.tellsMaterial, Fits]

end Event

def replay (log : List (Event R)) : Option Stations := log.foldlM Event.replay fun _ => none

theorem replay_append (log more : List (Event R)) :
    replay (log ++ more) = (replay log).bind fun stations => more.foldlM Event.replay stations := List.foldlM_append

namespace MaterialTable

@[simp]
theorem at_put (table : MaterialTable) (station : String) (material : Material) :
    (table.put station material).at? = Function.update table.at? station (some material) := by
  funext other
  by_cases same : other = station
  · subst other
    rw [Function.update_self]
    exact Tree.lookup_insert_self station material table.entries
  · rw [Function.update_of_ne same]
    exact Tree.lookup_insert_other station other material table.entries same

theorem lookup_without (name query : String) (entries : List (String × Material)) :
    (entries.filter fun entry => !(entry.1 == name)).lookup query =
      if query = name then none else entries.lookup query := by
  induction entries with
  | nil => simp
  | cons entry rest ih =>
      obtain ⟨other, material⟩ := entry
      by_cases here : other = name
      · subst other
        rw [List.filter_cons_of_neg (by simp), ih, List.lookup_cons]
        by_cases same : query = name
        · rw [if_pos same, if_pos same]
        · have differs : (query == name) = false := by simpa using same
          rw [if_neg same, if_neg same, differs]
      · rw [List.filter_cons_of_pos (by simpa using here), List.lookup_cons, List.lookup_cons, ih]
        by_cases same : query = name
        · subst query
          have differs : (name == other) = false := by simpa using Ne.symm here
          simp [differs]
        · simp [same]

@[simp]
theorem at_clear (table : MaterialTable) (station : String) :
    (table.clear station).at? = Function.update table.at? station none := by
  funext other
  rw [Function.update_apply]
  exact lookup_without station other table.entries

def Ordered (table : MaterialTable) : Prop := Tree.Ordered table.entries

theorem ordered_put (table : MaterialTable) (station : String) (material : Material) (ordered : table.Ordered) :
    (table.put station material).Ordered := Tree.ordered_insert station material table.entries ordered

theorem ordered_clear (table : MaterialTable) (station : String) (ordered : table.Ordered) :
    (table.clear station).Ordered := List.Pairwise.filter _ ordered

end MaterialTable

-- A log accounts for a table: replayed it gives the table, and each of its events fits those before it.
structure Accounts (log : List (Event R)) (table : MaterialTable) : Prop where
  replays : replay log = some table.at?
  fits : ∀ earlier event later, log = earlier ++ event :: later →
    ∃ stations, replay earlier = some stations ∧ event.Fits stations
  ordered : table.Ordered

namespace Accounts

theorem empty (table : MaterialTable) (bare : table.entries = []) : Accounts (R := R) [] table where
  replays := by
    have nothing : table.at? = fun _ => none := funext fun station => by simp [MaterialTable.at?, bare]
    rw [nothing]
    rfl
  fits _ _ _ split := by simp at split
  ordered := by
    rw [MaterialTable.Ordered, bare]
    exact List.Pairwise.nil

theorem push (log : List (Event R)) (table after : MaterialTable) (event : Event R) (accounts : Accounts log table)
    (fits : event.Fits table.at?) (replays : event.replay table.at? = some after.at?) (ordered : after.Ordered) :
    Accounts (log ++ [event]) after where
  replays := by simp [replay_append, accounts.replays, replays]
  -- The event split off is the last one, or one that the log had before.
  fits earlier other later split := by
    rcases List.eq_nil_or_concat later with rfl | ⟨front, last, rfl⟩
    · obtain ⟨rfl, same⟩ := List.append_inj' split rfl
      cases same
      exact ⟨table.at?, accounts.replays, fits⟩
    · have before : log = earlier ++ other :: front := by
        rw [List.concat_eq_append, ← List.cons_append, ← List.append_assoc] at split
        exact (List.append_inj' split rfl).1
      exact accounts.fits earlier other front before
  ordered := ordered

theorem push_others (log more : List (Event R)) (table : MaterialTable) (accounts : Accounts log table)
    (others : ∀ event ∈ more, event.kind.tellsMaterial = false) : Accounts (log ++ more) table := by
  induction more generalizing log with
  | nil => simpa using accounts
  | cons event rest ih =>
      have other := others event List.mem_cons_self
      have pushed := push log table table event accounts (event.fits_of_other _ other) (event.replay_of_other _ other)
        accounts.ordered
      simpa using ih (log ++ [event]) pushed fun event member => others event (List.mem_cons_of_mem _ member)

theorem spawn (log : List (Event R)) (table : MaterialTable) (accounts : Accounts log table) (station : String)
    (material : Material) :
    Accounts (log ++ [.materialSpawn station material]) (table.put station material) := by
  refine accounts.push log table _ _ trivial ?_ (table.ordered_put station material accounts.ordered)
  simp [Event.replay, Event.materialSpawn, Event.withPayload, Event.material?, Event.text?, List.lookup_cons]

theorem transform (log : List (Event R)) (table : MaterialTable) (accounts : Accounts log table)
    (station className : String) (before : Material) (stands : table.at? station = some before) :
    Accounts (log ++ [.materialTransform station before.className ⟨before.id, className⟩])
      (table.put station ⟨before.id, className⟩) := by
  refine accounts.push log table _ _ ⟨station, before, rfl, stands, rfl, rfl⟩ ?_
    (table.ordered_put station _ accounts.ordered)
  simp [Event.replay, Event.materialTransform, Event.withPayload, Event.material?, Event.text?, List.lookup_cons]

theorem consume (log : List (Event R)) (table : MaterialTable) (accounts : Accounts log table) (station : String)
    (material : Material) (stands : table.at? station = some material) :
    Accounts (log ++ [.materialConsume station material]) (table.clear station) := by
  refine accounts.push log table _ _ ⟨station, material, rfl, stands, rfl, rfl⟩ ?_
    (table.ordered_clear station accounts.ordered)
  simp [Event.replay, Event.materialConsume, Event.withPayload, Event.text?, List.lookup_cons]

theorem attach (log : List (Event R)) (table : MaterialTable) (accounts : Accounts log table)
    (holder source : String) (material : Material) (stands : table.at? source = some material) :
    Accounts (log ++ [.attach holder source material]) ((table.clear source).put holder material) := by
  refine accounts.push log table _ _ ⟨source, material, rfl, stands, rfl, rfl⟩ ?_ ?_
  · simp [Event.replay, Event.attach, Event.withPayload, Event.material?, Event.text?, List.lookup_cons]
  · exact (table.clear source).ordered_put holder material (table.ordered_clear source accounts.ordered)

theorem detach (log : List (Event R)) (table : MaterialTable) (accounts : Accounts log table)
    (holder target : String) (material : Material) (stands : table.at? holder = some material) :
    Accounts (log ++ [.detach holder target material]) ((table.clear holder).put target material) := by
  refine accounts.push log table _ _ ⟨holder, material, rfl, stands, rfl, rfl⟩ ?_ ?_
  · simp [Event.replay, Event.detach, Event.withPayload, Event.material?, Event.text?, List.lookup_cons]
  · exact (table.clear holder).ordered_put target material (table.ordered_clear holder accounts.ordered)

end Accounts

end Workcell
