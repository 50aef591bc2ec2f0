import Workcell.Document.Json

/-!
Strings on the wire: whatever characters a text is made of, it is written without controls, and its inside is read back
as the same text.
-/

set_option autoImplicit false

namespace Workcell.Document.Json

theorem hexValue_digit (n : Nat) (small : n < 16) : hexValue? (hexDigit n) = some n := by
  have each : ∀ n < 16, hexValue? (hexDigit n) = some n := by decide
  exact each n small

theorem hexUnit_digits (n : Nat) (small : n < 32) :
    hexUnit? '0' '0' (hexDigit (n / 16)) (hexDigit (n % 16)) = some n := by
  have zero : hexValue? '0' = some 0 := rfl
  have high := hexValue_digit (n / 16) (by omega)
  have low := hexValue_digit (n % 16) (by omega)
  have whole : ((0 * 16 + 0) * 16 + n / 16) * 16 + n % 16 = n := by omega
  simp only [hexUnit?, zero, high, low, Option.bind_eq_bind, Option.bind_some, Option.pure_def, whole]

def lettered : List Char := ['"', '\\', '\x08', '\x0c', '\n', '\r', '\t']

inductive Spelled (c : Char) : List Char → Prop where
  | letter (e : Char) (means : shortEscape? e = some c) (visible : 32 ≤ e.toNat) : Spelled c ['\\', e]
  | unit (control : c.toNat < 32) : Spelled c ['\\', 'u', '0', '0', hexDigit (c.toNat / 16), hexDigit (c.toNat % 16)]
  | plain (visible : 32 ≤ c.toNat) (quote : c ≠ '"') (slash : c ≠ '\\') : Spelled c [c]

theorem escape_spelled (c : Char) : Spelled c (escapeChar c) := by
  by_cases short : c ∈ lettered
  · simp only [lettered, List.mem_cons, List.not_mem_nil, or_false] at short
    rcases short with rfl | rfl | rfl | rfl | rfl | rfl | rfl
    · exact .letter '"' rfl (by decide)
    · exact .letter '\\' rfl (by decide)
    · exact .letter 'b' rfl (by decide)
    · exact .letter 'f' rfl (by decide)
    · exact .letter 'n' rfl (by decide)
    · exact .letter 'r' rfl (by decide)
    · exact .letter 't' rfl (by decide)
  · simp only [lettered, List.mem_cons, List.not_mem_nil, or_false, not_or] at short
    obtain ⟨quote, slash, back, feed, line, carriage, tab⟩ := short
    simp only [escapeChar, if_neg quote, if_neg slash, if_neg back, if_neg feed, if_neg line, if_neg carriage,
      if_neg tab]
    by_cases control : c.toNat < 32
    · rw [if_pos control]
      exact .unit control
    · rw [if_neg control]
      exact .plain (Nat.not_lt.mp control) quote slash

theorem readPiece_spelled (c : Char) (text rest : List Char) (spelled : Spelled c text) :
    readPiece (text ++ rest) = some (.char c, rest) := by
  cases spelled with
  | letter e means visible =>
      have lettered : e ≠ 'u' := by
        rintro rfl
        cases means
      show readPiece ('\\' :: e :: rest) = _
      unfold readPiece
      split
      · rename_i same
        cases same
        exact absurd rfl lettered
      · rename_i same
        cases same
        rw [means]
        rfl
      · rename_i letter same
        cases same
        exact (letter e rest rfl rfl).elim
      · rename_i same
        cases same
  | unit control =>
      have unit := hexUnit_digits c.toNat control
      have high : isHighHalf c.toNat = false := decide_eq_false (by omega)
      have low : isLowHalf c.toNat = false := decide_eq_false (by omega)
      show readPiece ('\\' :: 'u' :: '0' :: '0' :: hexDigit (c.toNat / 16) :: hexDigit (c.toNat % 16) :: rest) = _
      simp [readPiece, unit, high, low, Char.ofNat_toNat]
  | plain visible quote slash =>
      show readPiece (c :: rest) = _
      unfold readPiece
      split
      · rename_i same
        cases same
        exact absurd rfl slash
      · rename_i same
        cases same
        exact absurd rfl slash
      · rename_i same
        cases same
        rw [if_neg]
        rintro (control | rfl | rfl)
        · omega
        · exact quote rfl
        · exact slash rfl
      · rename_i same
        cases same

theorem hexDigit_visible (n : Nat) (small : n < 16) : 32 ≤ (hexDigit n).toNat := by
  have each : ∀ n < 16, 32 ≤ (hexDigit n).toNat := by decide
  exact each n small

theorem spelled_visible (c : Char) (text : List Char) (spelled : Spelled c text) : ∀ d ∈ text, 32 ≤ d.toNat := by
  cases spelled with
  | letter e means visible => simpa using visible
  | unit control =>
      have high := hexDigit_visible (c.toNat / 16) (by omega)
      have low := hexDigit_visible (c.toNat % 16) (by omega)
      simpa using ⟨high, low⟩
  | plain visible quote slash => simpa using visible

theorem spelled_within (c : Char) (text : List Char) (spelled : Spelled c text) :
    ∃ first more, text = first :: more ∧ first ≠ '"' := by
  cases spelled with
  | letter e means visible => exact ⟨_, _, rfl, by decide⟩
  | unit control => exact ⟨_, _, rfl, by decide⟩
  | plain visible quote slash => exact ⟨_, _, rfl, quote⟩

theorem readPieces_escapes (cs rest : List Char) (fuel : Nat) (enough : cs.length ≤ fuel) :
    readPieces fuel (cs.flatMap escapeChar ++ '"' :: rest) = some (cs.map .char, rest) := by
  induction cs generalizing fuel with
  | nil => rw [List.flatMap_nil, List.nil_append, readPieces.eq_def]; rfl
  | cons c cs ih =>
      cases fuel with
      | zero => cases enough
      | succ fuel =>
          have later := ih fuel (Nat.le_of_succ_le_succ enough)
          have piece := readPiece_spelled c _ (cs.flatMap escapeChar ++ '"' :: rest) (escape_spelled c)
          obtain ⟨first, more, spelled, within⟩ := spelled_within c _ (escape_spelled c)
          rw [List.flatMap_cons, List.append_assoc]
          rw [spelled, List.cons_append] at piece ⊢
          unfold readPieces
          split
          · rename_i same
            cases same
            exact absurd rfl within
          · rename_i empty _
            cases empty
          · rename_i same _
            cases same
            simp [piece, later]

theorem piecesText_chars (cs : List Char) : piecesText? (cs.map .char) = some (String.ofList cs) := by
  induction cs with
  | nil => rfl
  | cons c cs ih =>
      obtain ⟨chars, same, text⟩ := Option.map_eq_some_iff.mp ih
      have all : chars = cs := String.ofList_injective text
      subst all
      exact Option.map_eq_some_iff.mpr ⟨c :: chars, by simp [same], rfl⟩

theorem escapes_length (cs : List Char) : cs.length ≤ (cs.flatMap escapeChar).length := by
  induction cs with
  | nil => exact Nat.le_refl 0
  | cons c cs ih =>
      obtain ⟨first, more, spelled, -⟩ := spelled_within c _ (escape_spelled c)
      rw [List.flatMap_cons, spelled, List.length_append, List.length_cons, List.length_cons]
      omega

theorem readString_written (s : String) (rest : List Char) :
    readString (s.toList.flatMap escapeChar ++ '"' :: rest) = some (some s, rest) := by
  have enough : s.toList.length ≤ (s.toList.flatMap escapeChar ++ '"' :: rest).length := by
    have longer := escapes_length s.toList
    rw [List.length_append]
    omega
  rw [readString, readPieces_escapes s.toList rest _ enough]
  simp [piecesText_chars]

theorem writeString_printable (s : String) : ∀ c ∈ writeString s, 32 ≤ c.toNat := by
  intro c member
  simp only [writeString, List.mem_cons, List.mem_append, List.mem_flatMap, List.not_mem_nil, or_false] at member
  rcases member with rfl | ⟨origin, -, inside⟩ | rfl
  · decide
  · exact spelled_visible origin _ (escape_spelled origin) c inside
  · decide

end Workcell.Document.Json
