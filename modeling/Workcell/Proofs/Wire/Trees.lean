import Workcell.Proofs.Wire.Literal
import Workcell.Proofs.Wire.Strings

/-!
Trees on the wire: the compact text of a tree is read back as the tree, apart from its numbers, which come back as what
their literals say, and it holds no control, hence no line break.
-/

set_option autoImplicit false

namespace Workcell.Document.Json

variable {R : Type} [Scalar R]

mutual
-- What the text of a tree is read back as.
inductive Reread : Tree R → Tree R → Prop where
  | null : Reread .null .null
  | bool (b : Bool) : Reread (.bool b) (.bool b)
  | int (n : Nat) (small : n < Nat.pow 2 64) : Reread (.int n) (.int n)
  | number (x : R) (literal : Literal) (formed : literal.Formed) (spelled : (Scalar.wire x).toList = literal.text) :
      Reread (.number x) (literalTree literal)
  | text (s : String) : Reread (.text s) (.text s)
  | list {items others : List (Tree R)} (each : RereadItems items others) : Reread (.list items) (.list others)
  | record {fields others : List (String × Tree R)} (each : RereadFields fields others) :
      Reread (.record fields) (.record others)

inductive RereadItems : List (Tree R) → List (Tree R) → Prop where
  | nil : RereadItems [] []
  | cons {item other : Tree R} {items others : List (Tree R)} (first : Reread item other)
      (later : RereadItems items others) : RereadItems (item :: items) (other :: others)

inductive RereadFields : List (String × Tree R) → List (String × Tree R) → Prop where
  | nil : RereadFields [] []
  | cons {name : String} {item other : Tree R} {fields others : List (String × Tree R)} (first : Reread item other)
      (later : RereadFields fields others) : RereadFields ((name, item) :: fields) ((name, other) :: others)
end

theorem RereadFields.append {fields others fields' others' : List (String × Tree R)}
    (first : RereadFields fields others) (second : RereadFields fields' others') :
    RereadFields (fields ++ fields') (others ++ others') := by
  induction fields generalizing others with
  | nil =>
      cases first
      exact second
  | cons field fields ih =>
      cases first with
      | cons head tail => exact .cons head (ih tail)

/-! ## The text of a tree in front of others -/

theorem writeValue_int (i : Int) (rest : List Char) :
    writeValue (.int i : Tree R) rest = (toString i).toList ++ rest := rfl

theorem writeValue_number (x : R) (rest : List Char) :
    writeValue (.number x) rest = (Scalar.wire x).toList ++ rest := rfl

theorem writeValue_text (s : String) (rest : List Char) :
    writeValue (.text s : Tree R) rest = writeString s ++ rest := rfl

theorem writeValue_list (items : List (Tree R)) (rest : List Char) :
    writeValue (.list items) rest = '[' :: writeItems items (']' :: rest) := rfl

theorem writeValue_record (fields : List (String × Tree R)) (rest : List Char) :
    writeValue (.record fields) rest = '\x7b' :: writeFields fields ('\x7d' :: rest) := rfl

theorem writeItems_cons (item next : Tree R) (items : List (Tree R)) (rest : List Char) :
    writeItems (item :: next :: items) rest = writeValue item (',' :: writeItems (next :: items) rest) := rfl

theorem writeFields_last (name : String) (item : Tree R) (rest : List Char) :
    writeFields [(name, item)] rest = writeString name ++ ':' :: writeValue item rest := rfl

theorem writeFields_cons (name : String) (item : Tree R) (next : String × Tree R) (fields : List (String × Tree R))
    (rest : List Char) :
    writeFields ((name, item) :: next :: fields) rest
      = writeString name ++ ':' :: writeValue item (',' :: writeFields (next :: fields) rest) := rfl

mutual
theorem writeValue_append : (tree : Tree R) → (rest : List Char) → writeValue tree rest = writeValue tree [] ++ rest
  | .null, _ => rfl
  | .unreadable, _ => rfl
  | .bool true, _ => rfl
  | .bool false, _ => rfl
  | .int i, rest => by rw [writeValue_int, writeValue_int, List.append_nil]
  | .number x, rest => by rw [writeValue_number, writeValue_number, List.append_nil]
  | .text s, rest => by rw [writeValue_text, writeValue_text, List.append_nil]
  | .list items, rest => by
      rw [writeValue_list, writeValue_list, writeItems_append items [']'], writeItems_append items (']' :: rest),
        List.cons_append, List.append_assoc, List.singleton_append]
  | .record fields, rest => by
      rw [writeValue_record, writeValue_record, writeFields_append fields ['\x7d'],
        writeFields_append fields ('\x7d' :: rest), List.cons_append, List.append_assoc, List.singleton_append]

theorem writeItems_append : (items : List (Tree R)) → (rest : List Char) →
    writeItems items rest = writeItems items [] ++ rest
  | [], _ => rfl
  | [item], rest => writeValue_append item rest
  | item :: next :: items, rest => by
      rw [writeItems_cons, writeItems_cons, writeItems_append (next :: items) rest,
        writeValue_append item (',' :: (writeItems (next :: items) [] ++ rest)),
        writeValue_append item (',' :: writeItems (next :: items) []), List.append_assoc, List.cons_append]

theorem writeFields_append : (fields : List (String × Tree R)) → (rest : List Char) →
    writeFields fields rest = writeFields fields [] ++ rest
  | [], _ => rfl
  | [(name, item)], rest => by
      rw [writeFields_last, writeFields_last, writeValue_append item rest, List.append_assoc, List.cons_append]
  | (name, item) :: next :: fields, rest => by
      rw [writeFields_cons, writeFields_cons, writeFields_append (next :: fields) rest,
        writeValue_append item (',' :: (writeFields (next :: fields) [] ++ rest)),
        writeValue_append item (',' :: writeFields (next :: fields) []), List.append_assoc, List.cons_append,
        List.append_assoc, List.cons_append]
end

theorem writeString_append (s : String) (rest : List Char) :
    writeString s ++ rest = '"' :: (s.toList.flatMap escapeChar ++ '"' :: rest) := by
  simp [writeString]

/-! ## Reading -/

def Begins (cs : List Char) : Prop := ∃ c more, cs = c :: more ∧ isBlank c = false ∧ c ≠ ']' ∧ c ≠ '\x7d'

theorem begins_char (c : Char) (more : List Char) (visible : isBlank c = false) (list : c ≠ ']') (record : c ≠ '\x7d') :
    Begins (c :: more) := ⟨c, more, rfl, visible, list, record⟩

theorem digit_visible (c : Char) (digit : isDigit c = true) : isBlank c = false := by
  cases blank : isBlank c with
  | false => rfl
  | true =>
      simp only [isBlank, Bool.or_eq_true, beq_iff_eq] at blank
      rcases blank with ((rfl | rfl) | rfl) | rfl
      · cases digit
      · cases digit
      · cases digit
      · cases digit

theorem begins_text (literal : Literal) (formed : literal.Formed) (rest : List Char) : Begins (literal.text ++ rest) := by
  obtain ⟨c, more, same, begins⟩ := text_begins literal formed
  rw [same]
  rcases begins with rfl | digit
  · exact begins_char _ _ (by decide) (by decide) (by decide)
  · refine begins_char _ _ (digit_visible c digit) ?_ ?_
    · rintro rfl
      cases digit
    · rintro rfl
      cases digit

theorem begins_written (tree other : Tree R) (reread : Reread tree other) (rest : List Char) :
    Begins (writeValue tree rest) := by
  cases reread with
  | null => exact begins_char _ _ (by decide) (by decide) (by decide)
  | bool b =>
      cases b with
      | true => exact begins_char _ _ (by decide) (by decide) (by decide)
      | false => exact begins_char _ _ (by decide) (by decide) (by decide)
  | int n small =>
      rw [writeValue_int, ← natural_text]
      exact begins_text _ (natural_formed n) rest
  | number x literal formed spelled =>
      rw [writeValue_number, spelled]
      exact begins_text literal formed rest
  | text s => exact begins_char _ _ (by decide) (by decide) (by decide)
  | list each => exact begins_char _ _ (by decide) (by decide) (by decide)
  | record each => exact begins_char _ _ (by decide) (by decide) (by decide)

theorem begins_items (item : Tree R) (items others : List (Tree R)) (reread : RereadItems (item :: items) others)
    (rest : List Char) : Begins (writeItems (item :: items) rest) := by
  cases reread with
  | cons first later =>
      cases items with
      | nil => exact begins_written item _ first rest
      | cons next items => exact begins_written item _ first _

theorem begins_fields (field : String × Tree R) (fields : List (String × Tree R)) (rest : List Char) :
    Begins (writeFields (field :: fields) rest) := by
  cases fields with
  | nil => exact begins_char _ _ (by decide) (by decide) (by decide)
  | cons next fields => exact begins_char _ _ (by decide) (by decide) (by decide)

theorem skipBlanks_begins (cs : List Char) (begins : Begins cs) : skipBlanks cs = cs := by
  obtain ⟨c, more, rfl, visible, -⟩ := begins
  simp [skipBlanks, visible]

theorem skipBlanks_mark (c : Char) (more : List Char) (visible : isBlank c = false) :
    skipBlanks (c :: more) = c :: more := by
  simp [skipBlanks, visible]

theorem readValue_text (literal : Literal) (formed : literal.Formed) (rest : List Char) (ends : Ends rest) (fuel : Nat) :
    (readValue (fuel + 1) (literal.text ++ rest) : Option (Tree R × List Char)) = some (literalTree literal, rest) := by
  have read := readNumber_text (R := R) literal formed rest ends
  obtain ⟨c, more, same, begins⟩ := text_begins literal formed
  rw [same, List.cons_append] at read ⊢
  have other : ∀ d, isDigit d = false → d ≠ '-' → c ≠ d := by
    rintro d plain unsigned rfl
    rcases begins with rfl | digit
    · exact unsigned rfl
    · rw [plain] at digit
      cases digit
  unfold readValue
  split
  · rename_i same
    exact absurd (List.cons.inj same).1 (other 'n' (by decide) (by decide))
  · rename_i same
    exact absurd (List.cons.inj same).1 (other 't' (by decide) (by decide))
  · rename_i same
    exact absurd (List.cons.inj same).1 (other 'f' (by decide) (by decide))
  · rename_i same
    exact absurd (List.cons.inj same).1 (other '"' (by decide) (by decide))
  · rename_i same
    exact absurd (List.cons.inj same).1 (other '[' (by decide) (by decide))
  · rename_i same
    exact absurd (List.cons.inj same).1 (other '\x7b' (by decide) (by decide))
  · exact read

theorem readItems_last (fuel : Nat) (cs rest : List Char) (item : Tree R)
    (read : readValue fuel cs = some (item, ']' :: rest)) : readItems (fuel + 1) cs = some ([item], rest) := by
  rw [readItems, read]
  rfl

theorem readItems_more (fuel : Nat) (cs more rest : List Char) (item : Tree R) (items : List (Tree R))
    (read : readValue fuel cs = some (item, ',' :: more)) (begins : Begins more)
    (later : readItems fuel more = some (items, rest)) : readItems (fuel + 1) cs = some (item :: items, rest) := by
  rw [readItems, read]
  show (readItems fuel (skipBlanks more)).bind _ = _
  rw [skipBlanks_begins more begins, later]
  rfl

theorem readFields_last (fuel : Nat) (name : String) (cs rest : List Char) (item : Tree R) (begins : Begins cs)
    (read : readValue fuel cs = some (item, '\x7d' :: rest)) :
    readFields (fuel + 1) (writeString name ++ ':' :: cs) = some ([(name, item)], rest) := by
  rw [writeString_append, readFields, readString_written]
  show (readValue fuel (skipBlanks cs)).bind _ = _
  rw [skipBlanks_begins cs begins, read]
  rfl

theorem readFields_more (fuel : Nat) (name : String) (cs more rest : List Char) (item : Tree R)
    (fields : List (String × Tree R)) (begins : Begins cs) (read : readValue fuel cs = some (item, ',' :: more))
    (continues : Begins more) (later : readFields fuel more = some (fields, rest)) :
    readFields (fuel + 1) (writeString name ++ ':' :: cs) = some ((name, item) :: fields, rest) := by
  rw [writeString_append, readFields, readString_written]
  show (readValue fuel (skipBlanks cs)).bind _ = _
  rw [skipBlanks_begins cs begins, read]
  show (readFields fuel (skipBlanks more)).bind _ = _
  rw [skipBlanks_begins more continues, later]
  rfl

mutual
theorem readValue_written : (tree other : Tree R) → (reread : Reread tree other) → (rest : List Char) → Ends rest →
    (fuel : Nat) → 2 * (writeValue tree []).length ≤ fuel → readValue fuel (writeValue tree rest) = some (other, rest)
  | _, _, reread, rest, ends, 0, enough => by
      obtain ⟨c, more, same, -⟩ := begins_written _ _ reread []
      rw [same] at enough
      cases enough
  | _, _, .null, rest, _, fuel + 1, _ => rfl
  | _, _, .bool true, rest, _, fuel + 1, _ => rfl
  | _, _, .bool false, rest, _, fuel + 1, _ => rfl
  | _, _, .int n small, rest, ends, fuel + 1, _ => by
      rw [writeValue_int, ← natural_text, readValue_text (natural n) (natural_formed n) rest ends fuel, natural_tree n small]
  | _, _, .number x literal formed spelled, rest, ends, fuel + 1, _ => by
      rw [writeValue_number, spelled, readValue_text literal formed rest ends fuel]
  | _, _, .text s, rest, _, fuel + 1, _ => by
      rw [writeValue_text, writeString_append, readValue, readString_written]
  | .list [], _, .list .nil, rest, _, fuel + 1, _ => rfl
  | .list (item :: items), _, .list each, rest, _, fuel + 1, enough => by
      have text : 2 * (writeItems (item :: items) []).length < fuel := by
        rw [writeValue_list, writeItems_append] at enough
        simp only [List.length_cons, List.length_append, List.length_nil] at enough
        omega
      have read := readItems_written item items _ each rest fuel text
      obtain ⟨c, more, same, visible, inside, -⟩ := begins_items item items _ each (']' :: rest)
      rw [same] at read
      rw [writeValue_list, same, readValue, skipBlanks_mark c more visible]
      split
      · rename_i closed
        exact absurd (List.cons.inj closed).1 inside
      · rw [read]
        rfl
  | .record [], _, .record .nil, rest, _, fuel + 1, _ => rfl
  | .record ((name, item) :: fields), _, .record each, rest, _, fuel + 1, enough => by
      have text : 2 * (writeFields ((name, item) :: fields) []).length < fuel := by
        rw [writeValue_record, writeFields_append] at enough
        simp only [List.length_cons, List.length_append, List.length_nil] at enough
        omega
      have read := readFields_written name item fields _ each rest fuel text
      obtain ⟨c, more, same, visible, -, inside⟩ := begins_fields (name, item) fields ('\x7d' :: rest)
      rw [same] at read
      rw [writeValue_record, same, readValue, skipBlanks_mark c more visible]
      split
      · rename_i closed
        exact absurd (List.cons.inj closed).1 inside
      · rw [read]
        rfl

theorem readItems_written : (item : Tree R) → (items : List (Tree R)) → (others : List (Tree R)) →
    RereadItems (item :: items) others → (rest : List Char) → (fuel : Nat) →
    2 * (writeItems (item :: items) []).length < fuel →
    readItems fuel (writeItems (item :: items) (']' :: rest)) = some (others, rest)
  | _, _, _, _, _, 0, enough => nomatch enough
  | item, [], _, .cons first .nil, rest, fuel + 1, enough =>
      readItems_last fuel _ rest _
        (readValue_written item _ first _ (ends_cons ']' rest (by decide)) fuel (Nat.le_of_lt_succ enough))
  | item, next :: items, _, .cons first later, rest, fuel + 1, enough => by
      rw [writeItems_cons, writeValue_append, List.length_append, List.length_cons] at enough
      have head := readValue_written item _ first (',' :: writeItems (next :: items) (']' :: rest))
        (ends_cons ',' _ (by decide)) fuel (by omega)
      have tail := readItems_written next items _ later rest fuel (by omega)
      exact readItems_more fuel _ _ rest _ _ head (begins_items next items _ later _) tail

theorem readFields_written : (name : String) → (item : Tree R) → (fields : List (String × Tree R)) →
    (others : List (String × Tree R)) → RereadFields ((name, item) :: fields) others → (rest : List Char) →
    (fuel : Nat) → 2 * (writeFields ((name, item) :: fields) []).length < fuel →
    readFields fuel (writeFields ((name, item) :: fields) ('\x7d' :: rest)) = some (others, rest)
  | _, _, _, _, _, _, 0, enough => nomatch enough
  | name, item, [], _, .cons first .nil, rest, fuel + 1, enough => by
      simp only [writeFields_last, List.length_append, List.length_cons] at enough
      have read := readValue_written item _ first _ (ends_cons '\x7d' rest (by decide)) fuel (by omega)
      exact readFields_last fuel name _ rest _ (begins_written item _ first _) read
  | name, item, (name', item') :: fields, _, .cons first later, rest, fuel + 1, enough => by
      rw [writeFields_cons, writeValue_append] at enough
      simp only [List.length_append, List.length_cons] at enough
      have head := readValue_written item _ first (',' :: writeFields ((name', item') :: fields) ('\x7d' :: rest))
        (ends_cons ',' _ (by decide)) fuel (by omega)
      have tail := readFields_written name' item' fields _ later rest fuel (by omega)
      exact readFields_more fuel name _ _ rest _ _ (begins_written item _ first _) head
        (begins_fields (name', item') fields _) tail
end

theorem read_write (tree other : Tree R) (reread : Reread tree other) : read (write tree) = some other := by
  have begins := skipBlanks_begins _ (begins_written tree other reread [])
  have read := readValue_written tree other reread [] ends_nil _ (Nat.le_add_right _ 2)
  simp only [Json.read, write, String.toList_ofList, begins, read]
  rfl

/-! ## No controls -/

theorem printable_of_all (cs : List Char) (all : cs.all (fun c => decide (32 ≤ c.toNat)) = true) :
    ∀ c ∈ cs, 32 ≤ c.toNat := by
  simpa using all

theorem enclosed_printable (first last : Char) (inside : List Char) (opening : 32 ≤ first.toNat)
    (closing : 32 ≤ last.toNat) (all : ∀ c ∈ inside, 32 ≤ c.toNat) :
    ∀ c ∈ first :: (inside ++ [last]), 32 ≤ c.toNat := by
  intro c member
  simp only [List.mem_cons, List.mem_append, List.not_mem_nil, or_false] at member
  rcases member with rfl | inner | rfl
  · exact opening
  · exact all c inner
  · exact closing

mutual
theorem written_printable : (tree other : Tree R) → (reread : Reread tree other) →
    ∀ c ∈ writeValue tree [], 32 ≤ c.toNat
  | _, _, .null => printable_of_all "null".toList rfl
  | _, _, .bool true => printable_of_all "true".toList rfl
  | _, _, .bool false => printable_of_all "false".toList rfl
  | _, _, .int n _ => by
      rw [writeValue_int, List.append_nil, ← natural_text]
      exact text_printable (natural n) (natural_formed n)
  | _, _, .number x literal formed spelled => by
      rw [writeValue_number, List.append_nil, spelled]
      exact text_printable literal formed
  | _, _, .text s => by
      rw [writeValue_text, List.append_nil]
      exact writeString_printable s
  | .list items, _, .list each => by
      have inside := items_printable items _ each
      rw [writeValue_list, writeItems_append]
      exact enclosed_printable '[' ']' _ (by decide) (by decide) inside
  | .record fields, _, .record each => by
      have inside := fields_printable fields _ each
      rw [writeValue_record, writeFields_append]
      exact enclosed_printable '\x7b' '\x7d' _ (by decide) (by decide) inside

theorem items_printable : (items others : List (Tree R)) → RereadItems items others →
    ∀ c ∈ writeItems items [], 32 ≤ c.toNat
  | _, _, .nil => fun c member => nomatch member
  | [item], _, .cons first .nil => written_printable item _ first
  | item :: next :: items, _, .cons first later => by
      have head := written_printable item _ first
      have tail := items_printable (next :: items) _ later
      intro c member
      rw [writeItems_cons, writeValue_append] at member
      rcases List.mem_append.mp member with left | right
      · exact head c left
      · rcases List.mem_cons.mp right with rfl | inside
        · decide
        · exact tail c inside

theorem fields_printable : (fields others : List (String × Tree R)) → RereadFields fields others →
    ∀ c ∈ writeFields fields [], 32 ≤ c.toNat
  | _, _, .nil => fun c member => nomatch member
  | [(name, item)], _, .cons first .nil => by
      have head := written_printable item _ first
      intro c member
      rcases List.mem_append.mp member with left | right
      · exact writeString_printable name c left
      · rcases List.mem_cons.mp right with rfl | inside
        · decide
        · exact head c inside
  | (name, item) :: next :: fields, _, .cons first later => by
      have head := written_printable item _ first
      have tail := fields_printable (next :: fields) _ later
      intro c member
      rw [writeFields_cons, writeValue_append] at member
      rcases List.mem_append.mp member with left | right
      · exact writeString_printable name c left
      · rcases List.mem_cons.mp right with rfl | inside
        · decide
        · rcases List.mem_append.mp inside with value | others
          · exact head c value
          · rcases List.mem_cons.mp others with rfl | beyond
            · decide
            · exact tail c beyond
end

theorem write_printable (tree other : Tree R) (reread : Reread tree other) :
    ∀ c ∈ (write tree).toList, 32 ≤ c.toNat := by
  rw [write, String.toList_ofList]
  exact written_printable tree other reread

end Workcell.Document.Json
