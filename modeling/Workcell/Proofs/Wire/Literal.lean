import Mathlib.Data.Nat.Digits.Defs
import Workcell.Document.Json
import Workcell.Document.Record

/-!
Numbers on the wire: a literal that follows the grammar is read up to its end, whatever may follow a value, and a whole
number of 64 bits is written as a literal that is read as itself.
-/

set_option autoImplicit false

namespace Workcell.Document

def Ends (rest : List Char) : Prop := ∀ c more, rest = c :: more → c = ',' ∨ c = ']' ∨ c = '\x7d'

theorem ends_nil : Ends [] := fun _ _ same => nomatch same

theorem ends_cons (c : Char) (rest : List Char) (mark : c = ',' ∨ c = ']' ∨ c = '\x7d') : Ends (c :: rest) := by
  intro other more same
  cases same
  exact mark

theorem isDigit_eq (c : Char) : isDigit c = c.isDigit := by
  have same : ('0' ≤ c ∧ c ≤ '9') ↔ (48 ≤ c.val ∧ c.val ≤ 57) := Iff.rfl
  simp [isDigit, Char.isDigit, same]

namespace Literal

def Digits (digits : List Char) : Prop := digits ≠ [] ∧ ∀ c ∈ digits, isDigit c = true

-- The grammar of numbers: no part is empty, and only zero itself begins with a zero.
structure Formed (literal : Literal) : Prop where
  whole : literal.whole = ['0'] ∨ Digits literal.whole ∧ literal.whole.head? ≠ some '0'
  fraction : ∀ digits, literal.fraction = some digits → Digits digits
  exponent : ∀ minus digits, literal.exponent = some (minus, digits) → Digits digits

def fractionText : Option (List Char) → List Char
  | none => []
  | some digits => '.' :: digits

def exponentText : Option (Bool × List Char) → List Char
  | none => []
  | some (minus, digits) => 'e' :: (if minus then '-' else '+') :: digits

def body (literal : Literal) : List Char :=
  literal.whole ++ (fractionText literal.fraction ++ exponentText literal.exponent)

def text (literal : Literal) : List Char := if literal.negative then '-' :: literal.body else literal.body

end Literal

open Literal

namespace Json

theorem splitDigits_append (digits rest : List Char) (all : ∀ c ∈ digits, isDigit c = true)
    (stops : ∀ c more, rest = c :: more → isDigit c = false) : splitDigits (digits ++ rest) = (digits, rest) := by
  induction digits with
  | nil =>
      cases rest with
      | nil => rfl
      | cons c more => simp [splitDigits, stops c more rfl]
  | cons c digits ih =>
      have later := ih fun other member => all other (List.mem_cons_of_mem _ member)
      have first := all c List.mem_cons_self
      simp only [splitDigits, Prod.mk.injEq] at later ⊢
      simp [first, later]

theorem readWhole_append (whole rest : List Char)
    (formed : whole = ['0'] ∨ Literal.Digits whole ∧ whole.head? ≠ some '0')
    (stops : ∀ c more, rest = c :: more → isDigit c = false) : readWhole (whole ++ rest) = some (whole, rest) := by
  rcases formed with rfl | ⟨⟨some, all⟩, unpadded⟩
  · cases rest with
    | nil => rfl
    | cons c more => simp [readWhole, stops c more rfl]
  · cases whole with
    | nil => exact absurd rfl some
    | cons c digits =>
        have first : c ≠ '0' := fun same => unpadded (congrArg Option.some same)
        have split := splitDigits_append (c :: digits) rest all stops
        rw [List.cons_append] at split ⊢
        unfold readWhole
        split
        · rename_i same
          cases same
          exact absurd rfl first
        · rw [split]
          rfl

theorem readFraction_append (fraction : Option (List Char)) (rest : List Char)
    (formed : ∀ digits, fraction = some digits → Literal.Digits digits)
    (stops : ∀ c more, rest = c :: more → isDigit c = false ∧ c ≠ '.') :
    readFraction (fractionText fraction ++ rest) = some (fraction, rest) := by
  cases fraction with
  | none =>
      cases rest with
      | nil => rfl
      | cons c more =>
          show readFraction (c :: more) = _
          unfold readFraction
          split
          · rename_i same
            cases same
            exact absurd rfl (stops '.' _ rfl).2
          · rfl
  | some digits =>
      obtain ⟨filled, all⟩ := formed digits rfl
      have split := splitDigits_append digits rest all fun c more same => (stops c more same).1
      rw [fractionText, List.cons_append, readFraction, split]
      simp [filled]

theorem readExponent_append (exponent : Option (Bool × List Char)) (rest : List Char)
    (formed : ∀ minus digits, exponent = some (minus, digits) → Literal.Digits digits)
    (stops : ∀ c more, rest = c :: more → isDigit c = false ∧ c ≠ 'e' ∧ c ≠ 'E') :
    readExponent (exponentText exponent ++ rest) = some (exponent, rest) := by
  cases exponent with
  | none =>
      cases rest with
      | nil => rfl
      | cons c more =>
          obtain ⟨-, small, big⟩ := stops c more rfl
          show readExponent (c :: more) = _
          rw [readExponent, if_neg (by simp [small, big])]
  | some exponent =>
      obtain ⟨minus, digits⟩ := exponent
      obtain ⟨filled, all⟩ := formed minus digits rfl
      have split := splitDigits_append digits rest all fun c more same => (stops c more same).1
      have sign : readSign ((if minus then '-' else '+') :: (digits ++ rest)) = (minus, digits ++ rest) := by
        cases minus with
        | true => rfl
        | false => rfl
      rw [exponentText, List.cons_append, List.cons_append, readExponent, if_pos (Or.inl rfl), sign]
      simp [split, filled]

theorem exponent_stops (exponent : Option (Bool × List Char)) (rest : List Char) (ends : Ends rest) (c : Char)
    (more : List Char) (same : exponentText exponent ++ rest = c :: more) : isDigit c = false ∧ c ≠ '.' := by
  cases exponent with
  | none =>
      rcases ends c more same with rfl | rfl | rfl
      · decide
      · decide
      · decide
  | some exponent =>
      cases same
      decide

theorem fraction_stops (literal : Literal) (rest : List Char) (ends : Ends rest) (c : Char) (more : List Char)
    (same : fractionText literal.fraction ++ (exponentText literal.exponent ++ rest) = c :: more) : isDigit c = false := by
  cases given : literal.fraction with
  | none =>
      rw [given] at same
      exact (exponent_stops _ rest ends c more same).1
  | some digits =>
      rw [given] at same
      cases same
      decide

theorem readLiteral_body (literal : Literal) (formed : literal.Formed) (rest : List Char) (ends : Ends rest) :
    readLiteral literal.negative (literal.body ++ rest) = some (literal, rest) := by
  have marks : ∀ c more, rest = c :: more → isDigit c = false ∧ c ≠ 'e' ∧ c ≠ 'E' := by
    intro c more same
    rcases ends c more same with rfl | rfl | rfl
    · decide
    · decide
    · decide
  have whole := readWhole_append literal.whole _ formed.whole (fraction_stops literal rest ends)
  have fraction := readFraction_append literal.fraction _ formed.fraction (exponent_stops literal.exponent rest ends)
  have exponent := readExponent_append literal.exponent rest formed.exponent marks
  simp only [readLiteral, Literal.body, List.append_assoc, whole, fraction, exponent, Option.bind_eq_bind,
    Option.bind_some, Option.pure_def]

variable {R : Type} [Scalar R]

theorem body_begins (literal : Literal) (formed : literal.Formed) :
    ∃ c more, literal.body = c :: more ∧ isDigit c = true := by
  rcases formed.whole with zero | ⟨⟨filled, all⟩, -⟩
  · exact ⟨'0', _, by rw [Literal.body, zero]; rfl, by decide⟩
  · obtain ⟨c, more, same⟩ := List.exists_cons_of_ne_nil filled
    exact ⟨c, _, by rw [Literal.body, same]; rfl, all c (same ▸ List.mem_cons_self)⟩

theorem text_begins (literal : Literal) (formed : literal.Formed) :
    ∃ c more, literal.text = c :: more ∧ (c = '-' ∨ isDigit c = true) := by
  cases negative : literal.negative with
  | true => exact ⟨'-', literal.body, by rw [Literal.text, negative, if_pos rfl], Or.inl rfl⟩
  | false =>
      obtain ⟨c, more, same, digit⟩ := body_begins literal formed
      exact ⟨c, more, by rw [Literal.text, negative, if_neg Bool.false_ne_true, same], Or.inr digit⟩

theorem readNumber_text (literal : Literal) (formed : literal.Formed) (rest : List Char) (ends : Ends rest) :
    (readNumber (literal.text ++ rest) : Option (Tree R × List Char)) = some (literalTree literal, rest) := by
  have read := readLiteral_body literal formed rest ends
  cases negative : literal.negative with
  | true =>
      rw [negative] at read
      rw [Literal.text, negative, if_pos rfl, List.cons_append, readNumber, read]
      rfl
  | false =>
      obtain ⟨c, more, same, digit⟩ := body_begins literal formed
      rw [negative, same, List.cons_append] at read
      rw [Literal.text, negative, if_neg Bool.false_ne_true, same, List.cons_append]
      unfold readNumber
      split
      · rename_i signed
        cases signed
        exact absurd digit (by decide)
      · rw [read]
        rfl

theorem digits_printable (digits : List Char) (all : ∀ c ∈ digits, isDigit c = true) : ∀ c ∈ digits, 32 ≤ c.toNat := by
  intro c member
  have digit := all c member
  have above : '0' ≤ c := (of_decide_eq_true digit).1
  have counted : '0'.toNat ≤ c.toNat := above
  exact Nat.le_trans (by decide) counted

theorem text_printable (literal : Literal) (formed : literal.Formed) : ∀ c ∈ literal.text, 32 ≤ c.toNat := by
  have whole : ∀ c ∈ literal.whole, 32 ≤ c.toNat := by
    rcases formed.whole with zero | ⟨⟨-, all⟩, -⟩
    · rw [zero]
      exact digits_printable _ (List.forall_mem_singleton.mpr rfl)
    · exact digits_printable _ all
  have fraction : ∀ c ∈ fractionText literal.fraction, 32 ≤ c.toNat := by
    cases given : literal.fraction with
    | none => exact fun c member => nomatch member
    | some digits =>
        rintro c (_ | ⟨_, member⟩)
        · decide
        · exact digits_printable digits (formed.fraction digits given).2 c member
  have exponent : ∀ c ∈ exponentText literal.exponent, 32 ≤ c.toNat := by
    cases given : literal.exponent with
    | none => exact fun c member => nomatch member
    | some exponent =>
        obtain ⟨minus, digits⟩ := exponent
        rintro c (_ | ⟨_, member⟩)
        · decide
        · rcases List.mem_cons.mp member with rfl | later
          · cases minus with
            | true => decide
            | false => decide
          · exact digits_printable digits (formed.exponent minus digits given).2 c later
  have body : ∀ c ∈ literal.body, 32 ≤ c.toNat := by
    intro c member
    rcases List.mem_append.mp member with first | later
    · exact whole c first
    · rcases List.mem_append.mp later with second | third
      · exact fraction c second
      · exact exponent c third
  intro c member
  rw [Literal.text] at member
  split at member
  · rcases List.mem_cons.mp member with rfl | inside
    · decide
    · exact body c inside
  · exact body c member

/-! ## Whole numbers -/

def natural (n : Nat) : Literal := ⟨false, Nat.toDigits 10 n, none, none⟩

theorem natural_text (n : Nat) : (natural n).text = (toString (n : Int)).toList := by
  show Nat.toDigits 10 n ++ [] = (Nat.repr n).toList
  simp [Nat.repr]

theorem natural_digits (n : Nat) : Literal.Digits (Nat.toDigits 10 n) := by
  refine ⟨Nat.toDigits_ne_nil, ?_⟩
  intro c member
  rw [isDigit_eq]
  exact Nat.isDigit_of_mem_toDigits (by decide) (by decide) member

-- The first digit is the number's itself below ten, and that of its tenth from there on.
theorem natural_unpadded (n : Nat) (some : n ≠ 0) : (Nat.toDigits 10 n).head? ≠ Option.some '0' := by
  induction n using Nat.strong_induction_on with
  | _ n ih =>
      by_cases small : n < 10
      · rw [Nat.toDigits_of_lt_base small]
        have each : ∀ digit < 10, digit ≠ 0 → Nat.digitChar digit ≠ '0' := by decide
        simpa using each n small some
      · have tenth := ih (n / 10) (by omega) (by omega)
        have filled : (Nat.toDigits 10 (n / 10)).head?.isSome = true :=
          List.isSome_head?.mpr Nat.toDigits_ne_nil
        rw [Nat.toDigits_of_base_le (by decide) (by omega), List.head?_append, Option.or_of_isSome filled]
        exact tenth

theorem natural_formed (n : Nat) : (natural n).Formed where
  whole := by
    by_cases none : n = 0
    · subst none
      exact Or.inl rfl
    · exact Or.inr ⟨natural_digits n, natural_unpadded n none⟩
  fraction := nofun
  exponent := nofun

theorem natural_int (n : Nat) (small : n < Nat.pow 2 64) : (natural n).int? = some (n : Int) := by
  have value : digitsValue (Nat.toDigits 10 n) = n := by
    calc digitsValue (Nat.toDigits 10 n) = Nat.ofDigitChars 10 (Nat.toDigits 10 n) 0 := Nat.ofDigitChars_eq_foldl.symm
      _ = n := Nat.ofDigitChars_ten_toDigits
  simp only [natural, Literal.int?, value, Bool.false_eq_true, if_false, if_pos small]

theorem natural_tree (n : Nat) (small : n < Nat.pow 2 64) : (literalTree (natural n) : Tree R) = .int n := by
  rw [literalTree, natural_int n small]

end Json

end Workcell.Document
