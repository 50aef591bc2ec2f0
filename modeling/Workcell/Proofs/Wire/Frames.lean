import Mathlib.Data.List.Nodup
import Workcell.Proofs.Exact
import Workcell.Proofs.Telemetry.Tables
import Workcell.Proofs.Wire.Trees
import Workcell.Telemetry.Frame

/-!
Frames on the wire: a log of frames, one to a line, is read back line by line as the frames that it was written from.
-/

set_option autoImplicit false

namespace Workcell

variable {R : Type}

/-! ## Tables that are in order already -/

namespace Tree

variable {A : Type}

theorem insertField_last (name : String) (value : A) (table : List (String × A))
    (above : ∀ entry ∈ table, entry.1 < name) : insertField name value table = table ++ [(name, value)] := by
  induction table with
  | nil => rfl
  | cons entry rest ih =>
      obtain ⟨other, old⟩ := entry
      have before : other < name := above (other, old) List.mem_cons_self
      have differs : name ≠ other := fun same => String.lt_irrefl other (same ▸ before)
      have later := ih fun entry member => above entry (List.mem_cons_of_mem _ member)
      rw [insertField, if_neg differs, if_neg (String.lt_asymm before), later]
      rfl

theorem foldl_ordered (fields table : List (String × A)) (ordered : Ordered (table ++ fields)) :
    fields.foldl (fun table field => insertField field.1 field.2 table) table = table ++ fields := by
  induction fields generalizing table with
  | nil => simp
  | cons field rest ih =>
      have above : ∀ entry ∈ table, entry.1 < field.1 := fun entry member =>
        (List.pairwise_append.mp ordered).2.2 entry member field List.mem_cons_self
      rw [List.foldl_cons, insertField_last field.1 field.2 table above]
      rw [List.append_cons] at ordered
      simpa using ih _ ordered

theorem orderFields_ordered (fields : List (String × A)) (ordered : Ordered fields) : orderFields fields = fields :=
  foldl_ordered fields [] ordered

end Tree

namespace Document

theorem fieldsOf_sublist (names : List String) (fields : List (String × Tree R)) (distinct : names.Nodup)
    (known : (fields.map Prod.fst).Sublist names) : fieldsOf .json names (.record fields) = some fields := by
  have all : (fields.filter fun field => names.contains field.1) = fields := by
    rw [List.filter_eq_self]
    intro field member
    have inside := known.subset (List.mem_map_of_mem member)
    simpa using inside
  have once : ∀ name, (fields.filter fun field => field.1 == name).length ≤ 1 := by
    intro name
    calc (fields.filter fun field => field.1 == name).length = (fields.map Prod.fst).count name := by
          rw [List.count, List.countP_map, List.countP_eq_length_filter]
          rfl
      _ ≤ 1 := List.nodup_iff_count_le_one.mp (distinct.sublist known) name
  simp only [fieldsOf, all]
  rw [if_pos]
  simpa using fun name _ => once name

theorem asNat_count (limit n : Nat) (small : n < limit) : asNat limit (.int n : Tree R) = some n := by
  have within : (0 : Int) ≤ n ∧ (n : Int) < limit := ⟨Int.natCast_nonneg n, Int.ofNat_lt.mpr small⟩
  rw [asNat, if_pos within, Int.toNat_natCast]

theorem defaulted_found {A : Type} (name : String) (decode : Tree R → Option A) (fields : List (String × Tree R))
    (tree : Option (Tree R)) (part : Option A) (found : fields.lookup name = tree)
    (read : tree.elim (some none) (optional decode) = some part) :
    defaulted name none (optional decode) fields = some part := by
  rw [defaulted, found]
  cases tree with
  | none => exact read
  | some tree => exact read

end Document

-- A number is written as a literal that stands for it.
def Scalar.Wires [Scalar R] (x : R) : Prop :=
  Scalar.isFinite x = true → ∃ literal : Document.Literal, literal.Formed ∧ (Scalar.wire x).toList = literal.text ∧
    Document.asNumber (Document.Json.literalTree literal : Tree R) = some x

namespace Event

-- The events that are made by name, with or without a message of their own.
inductive Made : Event R → Prop where
  | bare (kind : EventKind) : Made ⟨kind, none, none⟩
  | flowStarted (scenario : String) (tickBase schemaVersion : Nat) (base : tickBase < Nat.pow 2 64)
      (version : schemaVersion < Nat.pow 2 32) : Made (flowStarted scenario tickBase schemaVersion)
  | flowStopped (reason : StopReason) : Made (flowStopped reason)
  | error (code source : Option String) (message : String) : Made (error code source message)
  | materialSpawn (station : String) (material : Material) : Made (materialSpawn station material)
  | materialTransform (station before : String) (material : Material) : Made (materialTransform station before material)
  | materialConsume (station : String) (material : Material) : Made (materialConsume station material)
  | attach (holder source : String) (material : Material) : Made (attach holder source material)
  | detach (holder target : String) (material : Material) : Made (detach holder target material)
  | message {event : Event R} (made : Made event) (text : String) : Made { event with message := some text }

inductive Leaf : Tree R → Prop where
  | text (s : String) : Leaf (.text s)
  | count (n : Nat) (small : n < Nat.pow 2 64) : Leaf (.int n)

inductive Flat : Tree R → Prop where
  | record (fields : List (String × Tree R)) (ordered : Tree.Ordered fields) (leaves : ∀ field ∈ fields, Leaf field.2) :
      Flat (.record fields)

theorem Flat.texts (fields : List (String × String)) (names : List String) (named : fields.map Prod.fst = names)
    (ordered : names.Pairwise (· < ·)) :
    Flat (.record (fields.map fun field => (field.1, Tree.text field.2)) : Tree R) := by
  refine .record _ ?_ ?_
  · subst named
    exact List.pairwise_map.mpr (List.pairwise_map.mp ordered)
  · intro field member
    obtain ⟨entry, -, rfl⟩ := List.mem_map.mp member
    exact .text entry.2

theorem Made.flat {event : Event R} (made : Made event) : ∀ payload, event.payload = some payload → Flat payload := by
  induction made with
  | bare kind => exact fun _ same => nomatch same
  | flowStarted scenario tickBase schemaVersion base version =>
      rintro _ ⟨⟩
      have ordered : ["scenario", "schemaVersion", "tickBase"].Pairwise (· < ·) := by decide
      refine .record _ (List.pairwise_map.mp ordered) ?_
      simp only [List.forall_mem_cons, List.not_mem_nil, false_implies, implies_true, and_true]
      exact ⟨.text _, .count _ (Nat.lt_trans version (by decide)), .count _ base⟩
  | flowStopped reason =>
      rintro _ ⟨⟩
      exact .texts [("reason", reason.name)] ["reason"] rfl (by decide)
  | error code source message =>
      rintro _ ⟨⟩
      cases code with
      | none =>
          cases source with
          | none => exact .texts [] [] rfl (by decide)
          | some source => exact .texts [("source", source)] ["source"] rfl (by decide)
      | some code =>
          cases source with
          | none => exact .texts [("code", code)] ["code"] rfl (by decide)
          | some source => exact .texts [("code", code), ("source", source)] ["code", "source"] rfl (by decide)
  | materialSpawn station material =>
      rintro _ ⟨⟩
      exact .texts [("class", material.className), ("id", material.id), ("station", station)] ["class", "id", "station"]
        rfl (by decide)
  | materialTransform station before material =>
      rintro _ ⟨⟩
      exact .texts [("class", material.className), ("from", before), ("id", material.id), ("station", station)]
        ["class", "from", "id", "station"] rfl (by decide)
  | materialConsume station material =>
      rintro _ ⟨⟩
      exact .texts [("class", material.className), ("id", material.id), ("station", station)] ["class", "id", "station"]
        rfl (by decide)
  | attach holder source material =>
      rintro _ ⟨⟩
      exact .texts [("class", material.className), ("from", source), ("holder", holder), ("id", material.id)]
        ["class", "from", "holder", "id"] rfl (by decide)
  | detach holder target material =>
      rintro _ ⟨⟩
      exact .texts [("class", material.className), ("holder", holder), ("id", material.id), ("to", target)]
        ["class", "holder", "id", "to"] rfl (by decide)
  | message made text ih => exact ih

theorem Leaf.ordered {tree : Tree R} (leaf : Leaf tree) : tree.ordered = tree := by
  cases leaf with
  | text s => rfl
  | count n small => rfl

theorem Leaf.readable {tree : Tree R} (leaf : Leaf tree) (depth : Nat) : tree.readable depth = true := by
  cases leaf with
  | text s => cases depth <;> rfl
  | count n small => cases depth <;> rfl

theorem Flat.payload {tree : Tree R} (flat : Flat tree) : payloadOfTree? tree = some tree := by
  obtain ⟨fields, ordered, leaves⟩ := flat
  have same : Tree.orderedFields fields = fields := by
    clear ordered
    induction fields with
    | nil => rfl
    | cons field rest ih =>
        obtain ⟨name, item⟩ := field
        rw [Tree.orderedFields, (leaves _ List.mem_cons_self).ordered,
          ih fun other member => leaves other (List.mem_cons_of_mem _ member)]
  have readable : ∀ depth, Tree.readableFields depth fields = true := by
    intro depth
    clear ordered same
    induction fields with
    | nil => cases depth <;> rfl
    | cons field rest ih =>
        obtain ⟨name, item⟩ := field
        rw [Tree.readableFields, (leaves _ List.mem_cons_self).readable depth,
          ih fun other member => leaves other (List.mem_cons_of_mem _ member)]
        rfl
  rw [payloadOfTree?, if_pos (show Tree.readable payloadDepth (.record fields) = true from readable _),
    Tree.ordered, same, Tree.orderFields_ordered fields ordered]

/-! ## Events -/

theorem named_name (kind : EventKind) : EventKind.named? kind.name = some kind := by
  cases kind <;> rfl

theorem lookup_givenTree (name : String) (part : Option (Tree R)) : (givenTree name part).lookup name = part := by
  cases part with
  | none => rfl
  | some tree => simp [givenTree]

theorem lookup_givenTree_other (name other : String) (differs : other ≠ name) (part : Option (Tree R)) :
    (givenTree name part).lookup other = none := by
  cases part with
  | none => rfl
  | some tree =>
      have unlike : (other == name) = false := beq_eq_false_iff_ne.mpr differs
      rw [givenTree, List.lookup_cons, unlike]
      rfl

theorem given_eq (name : String) (part : Option String) :
    (given name part : List (String × Tree R)) = givenTree name (part.map .text) := by
  cases part with
  | none => rfl
  | some s => rfl

theorem names_givenTree (name : String) (part : Option (Tree R)) : ((givenTree name part).map Prod.fst).Sublist [name] := by
  cases part with
  | none => exact List.nil_sublist _
  | some tree => exact List.Sublist.refl _

theorem ofTree_tree (event : Event R) (flat : ∀ payload, event.payload = some payload → Flat payload) :
    ofTree? event.tree = some event := by
  obtain ⟨kind, message, payload⟩ := event
  rw [tree, given_eq]
  have names : ((("type", .text kind.name) :: (givenTree "msg" (message.map .text) ++ givenTree "payload" payload)).map
      Prod.fst).Sublist ["type", "msg", "payload"] := by
    rw [List.map_cons, List.map_append]
    exact (List.Sublist.append (names_givenTree "msg" _) (names_givenTree "payload" _)).cons_cons "type"
  have fields := Document.fieldsOf_sublist (R := R) _ _ (by decide) names
  have msg : List.lookup "msg" (("type", Tree.text kind.name) ::
      (givenTree "msg" (message.map .text) ++ givenTree "payload" payload)) = message.map .text := by
    rw [List.lookup_cons, List.lookup_append, lookup_givenTree, lookup_givenTree_other _ _ (by decide)]
    simp
  have load : List.lookup "payload" (("type", Tree.text kind.name) ::
      (givenTree "msg" (message.map .text) ++ givenTree "payload" payload)) = payload := by
    rw [List.lookup_cons, List.lookup_append, lookup_givenTree, lookup_givenTree_other _ _ (by decide)]
    simp
  have told := Document.defaulted_found "msg" Document.asText _ _ message msg (by cases message <;> rfl)
  have carried := Document.defaulted_found "payload" payloadOfTree? _ _ payload load (by
    cases payload with
    | none => rfl
    | some tree =>
        have read := (flat tree rfl).payload
        obtain ⟨fields, -, -⟩ := flat tree rfl
        exact congrArg (Option.map some) read)
  simp only [ofTree?, fields, Document.required, List.lookup_cons_self, Document.asVariant, named_name, told, carried,
    Option.bind_eq_bind, Option.bind_some, Option.pure_def]

variable [Scalar R]

open Document.Json (Reread RereadFields RereadItems)

theorem Leaf.reread {tree : Tree R} (leaf : Leaf tree) : Reread tree tree := by
  cases leaf with
  | text s => exact .text s
  | count n small => exact .int n small

theorem Flat.reread {tree : Tree R} (flat : Flat tree) : Reread tree tree := by
  obtain ⟨fields, -, leaves⟩ := flat
  refine .record ?_
  induction fields with
  | nil => exact .nil
  | cons field rest ih =>
      exact .cons (leaves field List.mem_cons_self).reread
        (ih fun other member => leaves other (List.mem_cons_of_mem _ member))

theorem reread_givenTree (name : String) (part : Option (Tree R)) (each : ∀ tree, part = some tree → Reread tree tree) :
    RereadFields (givenTree name part) (givenTree name part) := by
  cases part with
  | none => exact .nil
  | some tree => exact .cons (each tree rfl) .nil

theorem reread_tree (event : Event R) (flat : ∀ payload, event.payload = some payload → Flat payload) :
    Reread event.tree event.tree := by
  rw [tree, given_eq]
  refine .record (.cons (.text _) (.append (reread_givenTree _ _ ?_) (reread_givenTree _ _ ?_)))
  · intro tree same
    obtain ⟨s, -, rfl⟩ := Option.map_eq_some_iff.mp same
    exact .text s
  · exact fun payload same => (flat payload same).reread

end Event

/-! ## Frames -/

namespace Frame

open Document Document.Json

variable [Scalar R]

-- A frame as it can be held: ticks are counted in 64 bits, tables are in order, device values are finite, and the
-- events are made by name.
structure Proper (frame : Frame R) : Prop where
  tick : frame.tick < Nat.pow 2 64
  values : ∀ table, frame.values = some table →
    Tree.Ordered table ∧ ∀ entry ∈ table, Scalar.isFinite entry.2 = true
  materials : ∀ table, frame.materials = some table → Tree.Ordered table
  events : ∀ events, frame.events = some events → ∀ event ∈ events, event.Made

def Exact (frame : Frame R) : Prop := ∀ table, frame.values = some table → ∀ entry ∈ table, Scalar.Wires entry.2

theorem table_reread {A : Type} (encode : A → Tree R) (decode : Tree R → Option A) (table : List (String × A))
    (ordered : Tree.Ordered table)
    (each : ∀ entry ∈ table, ∃ other, Reread (encode entry.2) other ∧ decode other = some entry.2) :
    ∃ other, Reread (.record (table.map fun entry => (entry.1, encode entry.2))) other ∧
      optional (tableOfTree? decode) other = some (some table) := by
  have entries : ∃ others, RereadFields (table.map fun entry => (entry.1, encode entry.2)) others ∧
      (others.mapM fun field => (decode field.2).map fun entry => (field.1, entry)) = some table := by
    clear ordered
    induction table with
    | nil => exact ⟨[], .nil, rfl⟩
    | cons entry rest ih =>
        obtain ⟨other, first, decoded⟩ := each entry List.mem_cons_self
        obtain ⟨others, later, read⟩ := ih fun entry member => each entry (List.mem_cons_of_mem _ member)
        exact ⟨(entry.1, other) :: others, .cons first later, by simp [decoded, read]⟩
  obtain ⟨others, reread, read⟩ := entries
  refine ⟨.record others, .record reread, ?_⟩
  show (tableOfTree? decode (.record others)).map some = _
  rw [tableOfTree?, read, Option.map_some, Tree.orderFields_ordered table ordered]
  rfl

theorem list_reread {A : Type} (encode : A → Tree R) (decode : Tree R → Option A) (items : List A)
    (each : ∀ item ∈ items, ∃ other, Reread (encode item) other ∧ decode other = some item) :
    ∃ other, Reread (.list (items.map encode)) other ∧ optional (asList decode) other = some (some items) := by
  have all : ∃ others, RereadItems (items.map encode) others ∧ others.mapM decode = some items := by
    induction items with
    | nil => exact ⟨[], .nil, rfl⟩
    | cons item rest ih =>
        obtain ⟨other, first, decoded⟩ := each item List.mem_cons_self
        obtain ⟨others, later, read⟩ := ih fun item member => each item (List.mem_cons_of_mem _ member)
        exact ⟨other :: others, .cons first later, by simp [decoded, read]⟩
  obtain ⟨others, reread, read⟩ := all
  refine ⟨.list others, .list reread, ?_⟩
  show (asList decode (.list others)).map some = _
  rw [asList, read]
  rfl

theorem section_reread {A : Type} (name : String) (encode : A → Tree R) (decode : Tree R → Option A) (part : Option A)
    (each : ∀ a, part = some a → ∃ other, Reread (encode a) other ∧ optional decode other = some (some a)) :
    ∃ other : Option (Tree R), RereadFields (Event.givenTree name (part.map encode)) (Event.givenTree name other) ∧
      other.elim (some none) (optional decode) = some part := by
  cases part with
  | none => exact ⟨none, .nil, rfl⟩
  | some a =>
      obtain ⟨other, reread, read⟩ := each a rfl
      exact ⟨some other, .cons reread .nil, read⟩

theorem material_reread (material : Material) : Reread (material.tree : Tree R) material.tree :=
  .record (.cons (.text _) (.cons (.text _) .nil))

def sections (frame : Frame R) (values materials events : Option (Tree R)) : List (String × Tree R) :=
  [("t", .int frame.tick), ("step", .text frame.step)] ++ Event.givenTree "m" values
    ++ Event.givenTree "mat" materials ++ Event.givenTree "e" events

theorem tree_reread (frame : Frame R) (proper : frame.Proper) (exact : frame.Exact) :
    ∃ other, Reread frame.tree other ∧ ofTree? other = some frame := by
  obtain ⟨values, valuesReread, valuesRead⟩ := section_reread "m"
    (fun table : List (String × R) => (.record (table.map fun entry => (entry.1, .number entry.2)) : Tree R))
    (tableOfTree? (asNumber (R := R))) frame.values (by
      intro table given
      obtain ⟨ordered, finite⟩ := proper.values table given
      refine table_reread (fun x => .number x) (asNumber (R := R)) table ordered ?_
      intro entry member
      obtain ⟨literal, formed, spelled, stands⟩ := exact table given entry member (finite entry member)
      exact ⟨literalTree literal, .number entry.2 literal formed spelled, stands⟩)
  obtain ⟨materials, materialsReread, materialsRead⟩ := section_reread "mat"
    (fun table : List (String × Material) => (.record (table.map fun entry => (entry.1, entry.2.tree)) : Tree R))
    (tableOfTree? Material.ofTree?)
    frame.materials (by
      intro table given
      refine table_reread Material.tree Material.ofTree? table (proper.materials table given) ?_
      exact fun entry _ => ⟨_, material_reread entry.2, rfl⟩)
  obtain ⟨events, eventsReread, eventsRead⟩ := section_reread "e"
    (fun events : List (Event R) => .list (events.map Event.tree)) (asList Event.ofTree?) frame.events (by
      intro events given
      refine list_reread Event.tree Event.ofTree? events ?_
      intro event member
      have flat := (proper.events events given event member).flat
      exact ⟨_, event.reread_tree flat, event.ofTree_tree flat⟩)
  have names : ((sections frame values materials events).map Prod.fst).Sublist ["t", "step", "m", "mat", "e"] := by
    simp only [sections, List.map_append]
    exact .append (.append (.append (.refl _) (Event.names_givenTree "m" _)) (Event.names_givenTree "mat" _))
      (Event.names_givenTree "e" _)
  have fields := fieldsOf_sublist (R := R) _ _ (by decide) names
  have tick : required "t" (asNat (Nat.pow 2 64)) (sections frame values materials events) = some frame.tick := by
    have found : (sections frame values materials events).lookup "t" = some (.int frame.tick) := rfl
    simp only [required, found]
    exact asNat_count _ _ proper.tick
  have m := defaulted_found "m" _ (sections frame values materials events) values frame.values (by
    simp [sections, List.lookup_append, Event.lookup_givenTree, Event.lookup_givenTree_other, List.lookup_cons]) valuesRead
  have mat := defaulted_found "mat" _ (sections frame values materials events) materials frame.materials (by
    simp [sections, List.lookup_append, Event.lookup_givenTree, Event.lookup_givenTree_other, List.lookup_cons])
    materialsRead
  have e := defaulted_found "e" _ (sections frame values materials events) events frame.events (by
    simp [sections, List.lookup_append, Event.lookup_givenTree, Event.lookup_givenTree_other, List.lookup_cons]) eventsRead
  refine ⟨.record (sections frame values materials events), ?_, ?_⟩
  · exact .record (.append (.append (.append (.cons (.int _ proper.tick) (.cons (.text _) .nil)) valuesReread)
      materialsReread) eventsReread)
  · have step : required "step" asText (sections frame values materials events) = some frame.step := rfl
    rw [ofTree?, fields]
    refine Option.bind_eq_some_iff.mpr ⟨_, rfl, Option.bind_eq_some_iff.mpr ⟨_, tick, ?_⟩⟩
    refine Option.bind_eq_some_iff.mpr ⟨_, step, Option.bind_eq_some_iff.mpr ⟨_, m, ?_⟩⟩
    exact Option.bind_eq_some_iff.mpr ⟨_, mat, Option.bind_eq_some_iff.mpr ⟨_, e, rfl⟩⟩

theorem write_visible (frame : Frame R) (proper : frame.Proper) (exact : frame.Exact) :
    ∀ c ∈ frame.write.toList, ' ' ≤ c := by
  obtain ⟨other, reread, -⟩ := tree_reread frame proper exact
  exact write_printable frame.tree other reread

theorem read_write (frame : Frame R) (proper : frame.Proper) (exact : frame.Exact) : read? frame.write = some frame := by
  obtain ⟨other, reread, decoded⟩ := tree_reread frame proper exact
  rw [read?, write, Json.read_write frame.tree other reread]
  exact decoded

/-! ## Logs -/

def log (frames : List (Frame R)) : String := String.ofList (frames.flatMap fun frame => frame.write.toList ++ ['\n'])

def lines (text : String) : List String :=
  let pieces := text.toList.splitOn '\n'
  (if pieces.getLast? = some [] then pieces.dropLast else pieces).map String.ofList

theorem lines_log (frames : List (Frame R)) (whole : ∀ frame ∈ frames, '\n' ∉ frame.write.toList) :
    lines (log frames) = frames.map write := by
  have pieces : (log frames).toList.splitOn '\n' = frames.map (fun frame => frame.write.toList) ++ [[]] := by
    rw [log, String.toList_ofList]
    induction frames with
    | nil => exact List.splitOn_nil '\n'
    | cons frame rest ih =>
        have later := ih fun other member => whole other (List.mem_cons_of_mem _ member)
        have unbroken : ∀ c ∈ frame.write.toList, (c == '\n') = false := by
          intro c member
          refine beq_eq_false_iff_ne.mpr ?_
          rintro rfl
          exact whole frame List.mem_cons_self member
        rw [List.flatMap_cons, List.append_assoc]
        show List.splitOnP _ (frame.write.toList ++ '\n' :: _) = _
        rw [List.splitOnP_append_cons_of_forall_mem unbroken '\n' rfl]
        exact congrArg (frame.write.toList :: ·) later
  simp [lines, pieces, List.map_map, Function.comp_def]

/-- Frames written one to a line hold no control character on their lines, and reading the lines one by one gives back
exactly the same frames. -/
theorem log_read_back (frames : List (Frame R)) (proper : ∀ frame ∈ frames, frame.Proper)
    (exact : ∀ frame ∈ frames, frame.Exact) :
    (∀ frame ∈ frames, ∀ c ∈ frame.write.toList, ' ' ≤ c) ∧ (lines (log frames)).mapM read? = some frames := by
  have visible : ∀ frame ∈ frames, ∀ c ∈ frame.write.toList, ' ' ≤ c := fun frame member =>
    write_visible frame (proper frame member) (exact frame member)
  refine ⟨visible, ?_⟩
  have whole : ∀ frame ∈ frames, '\n' ∉ frame.write.toList := fun frame member inside =>
    absurd (visible frame member '\n' inside) (by decide)
  rw [lines_log frames whole]
  clear visible whole
  induction frames with
  | nil => rfl
  | cons frame rest ih =>
      have first := read_write frame (proper frame List.mem_cons_self) (exact frame List.mem_cons_self)
      have later := ih (fun other member => proper other (List.mem_cons_of_mem _ member))
        fun other member => exact other (List.mem_cons_of_mem _ member)
      simp [first, later]

-- A step named with a line break, a device at 3, a quoted class, a fault without a source; then a frame with no section.
theorem log_read_back_quoted :
    let told : Frame Rat :=
      ⟨7, "grün\n\x01", some [("lift", 3)], some [("nest", ⟨"M-1", "\"blank\""⟩)],
        some [Event.error (some "IO_ERROR") none "no \\ answer", Event.flowStopped .error]⟩
    let silent : Frame Rat := ⟨8, "", none, none, none⟩
    (∀ frame ∈ [told, silent], frame.Proper ∧ frame.Exact) ∧
    (lines (log [told, silent])).mapM read? = some [told, silent] := by
  intro told silent
  have three : Scalar.Wires (3 : Rat) := fun _ =>
    ⟨natural 3, natural_formed 3, (natural_text 3).symm, by rw [natural_tree 3 (by decide)]; rfl⟩
  have proper : ∀ frame ∈ [told, silent], frame.Proper := by
    simp only [List.forall_mem_cons, List.not_mem_nil, false_implies, implies_true, and_true]
    refine ⟨⟨by decide, ?_, ?_, ?_⟩, ⟨by decide, nofun, nofun, nofun⟩⟩
    · rintro _ ⟨⟩
      exact ⟨List.pairwise_singleton _ _, fun _ _ => rfl⟩
    · rintro _ ⟨⟩
      exact List.pairwise_singleton _ _
    · rintro _ ⟨⟩
      simp only [List.forall_mem_cons, List.not_mem_nil, false_implies, implies_true, and_true]
      exact ⟨.error _ _ _, .flowStopped _⟩
  have exact : ∀ frame ∈ [told, silent], frame.Exact := by
    simp only [List.forall_mem_cons, List.not_mem_nil, false_implies, implies_true, and_true]
    refine ⟨?_, nofun⟩
    rintro _ ⟨⟩
    simpa using three
  exact ⟨fun frame member => ⟨proper frame member, exact frame member⟩, (log_read_back [told, silent] proper exact).2⟩

end Frame

end Workcell
