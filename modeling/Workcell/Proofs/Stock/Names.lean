import Mathlib.Algebra.Ring.Nat
import Mathlib.Data.List.Nodup
import Workcell.Material.Ids
import Workcell.Material.Table

/-!
Names of new materials: a class and a number that is drawn for it. Class and number can be read off a name again, so
names are as different as the draws behind them.
-/

set_option autoImplicit false

namespace Workcell.Ids

def digits : Nat → Nat → List Char
  | 0, _ => []
  | width + 1, n => digits width (n / 16) ++ [Nat.digitChar (n % 16)]

theorem length_digits (width n : Nat) : (digits width n).length = width := by
  induction width generalizing n with
  | zero => rfl
  | succ width ih => rw [digits, List.length_append, ih, List.length_singleton]

theorem digits_zero (width : Nat) : digits width 0 = List.replicate width '0' := by
  induction width with
  | zero => rfl
  | succ width ih =>
      rw [digits, Nat.zero_div, ih, List.replicate_succ']
      rfl

theorem padded_eq_digits (width n : Nat) (fits : n < 16 ^ (width + 1)) :
    List.replicate (width + 1 - (Nat.toDigits 16 n).length) '0' ++ Nat.toDigits 16 n = digits (width + 1) n := by
  induction width generalizing n with
  | zero =>
      have small : n < 16 := by simpa using fits
      rw [Nat.toDigits_of_lt_base small, digits, Nat.mod_eq_of_lt small]
      rfl
  | succ width ih =>
      rw [digits]
      by_cases small : n < 16
      · rw [Nat.toDigits_of_lt_base small, Nat.div_eq_of_lt small, Nat.mod_eq_of_lt small, digits_zero,
          List.length_singleton, Nat.add_sub_cancel]
      · rw [Nat.toDigits_of_base_le (by decide) (Nat.le_of_not_lt small), List.length_append, List.length_singleton,
          Nat.add_sub_add_right, ← List.append_assoc, ih (n / 16) (Nat.div_lt_of_lt_mul (by rwa [← Nat.pow_succ']))]

theorem digit_injective (a b : Nat) (smallA : a < 16) (smallB : b < 16) (same : Nat.digitChar a = Nat.digitChar b) :
    a = b := by
  have all : ∀ x y : Fin 16, Nat.digitChar x = Nat.digitChar y → x = y := by decide
  exact congrArg Fin.val (all ⟨a, smallA⟩ ⟨b, smallB⟩ same)

theorem digits_injective (width a b : Nat) (fitsA : a < 16 ^ width) (fitsB : b < 16 ^ width)
    (same : digits width a = digits width b) : a = b := by
  induction width generalizing a b with
  | zero => rw [Nat.lt_one_iff.mp fitsA, Nat.lt_one_iff.mp fitsB]
  | succ width ih =>
      obtain ⟨front, last⟩ := List.append_inj' same rfl
      have high := ih (a / 16) (b / 16) (Nat.div_lt_of_lt_mul (by rwa [← Nat.pow_succ']))
        (Nat.div_lt_of_lt_mul (by rwa [← Nat.pow_succ'])) front
      have low := digit_injective _ _ (Nat.mod_lt a (by decide)) (Nat.mod_lt b (by decide)) (List.cons.inj last).1
      rw [← Nat.div_add_mod a 16, ← Nat.div_add_mod b 16, high, low]

def numbers : Nat := 16 ^ 6

def name (className : String) (n : Nat) : String := className ++ "-" ++ hexText n

theorem name_injective (first second : String) (a b : Nat) (fitsA : a < numbers) (fitsB : b < numbers)
    (same : name first a = name second b) : first = second ∧ a = b := by
  have spelt (className : String) (n : Nat) (fits : n < numbers) :
      (name className n).toList = className.toList ++ '-' :: digits 6 n := by
    simp only [name, hexText, padded_eq_digits 5 n fits, String.toList_append, String.toList_ofList, List.append_assoc]
    rfl
  have letters := congrArg String.toList same
  rw [spelt first a fitsA, spelt second b fitsB] at letters
  obtain ⟨classes, rest⟩ := List.append_inj' letters (by simp [length_digits])
  exact ⟨String.toList_inj.mp classes, digits_injective 6 a b fitsA fitsB (List.cons.inj rest).2⟩

namespace Source

theorem number_bound (source : Source) : source.number.1 < numbers := by
  unfold number
  rcases source.usableWord maxSkips with ⟨word, left⟩
  show (word >>> 8).toNat < 16 ^ 6
  rw [UInt32.toNat_shiftRight]
  have below := word.toNat_lt
  simp only [Nat.shiftRight_eq_div_pow]
  show word.toNat / 2 ^ 8 < 16 ^ 6
  omega

def draws (source : Source) : Nat → List Nat
  | 0 => []
  | count + 1 => source.number.1 :: source.number.2.draws count

def materials (source : Source) : List String → List Material
  | [] => []
  | className :: rest => ⟨(source.next className).1, className⟩ :: (source.next className).2.materials rest

def past (source : Source) (classes : List String) : Source :=
  classes.foldl (fun source className => (source.next className).2) source

theorem materials_append (source : Source) (classes more : List String) :
    source.materials (classes ++ more) = source.materials classes ++ (source.past classes).materials more := by
  induction classes generalizing source with
  | nil => rfl
  | cons className rest ih =>
      rw [List.cons_append, materials, materials, ih, List.cons_append]
      rfl

theorem ids_of_materials (source : Source) (classes : List String) :
    (source.materials classes).map Material.id =
      (classes.zip (source.draws classes.length)).map fun drawn => name drawn.1 drawn.2 := by
  induction classes generalizing source with
  | nil => rfl
  | cons className rest ih =>
      rw [materials, List.map_cons, ih, List.length_cons, draws, List.zip_cons_cons, List.map_cons]
      rfl

theorem draws_bound (source : Source) (count number : Nat) (drawn : number ∈ source.draws count) :
    number < numbers := by
  induction count generalizing source with
  | zero => cases drawn
  | succ count ih =>
      rcases List.mem_cons.mp drawn with rfl | later
      · exact source.number_bound
      · exact ih _ later

theorem ids_nodup_iff (source : Source) (classes : List String) :
    ((source.materials classes).map Material.id).Nodup ↔ (classes.zip (source.draws classes.length)).Nodup := by
  rw [ids_of_materials]
  constructor
  · exact List.Nodup.of_map _
  · intro nodup
    refine nodup.map_on ?_
    rintro ⟨first, a⟩ memberA ⟨second, b⟩ memberB same
    have fitsA := source.draws_bound _ a (List.of_mem_zip memberA).2
    have fitsB := source.draws_bound _ b (List.of_mem_zip memberB).2
    obtain ⟨rfl, rfl⟩ := name_injective first second a b fitsA fitsB same
    rfl

end Source

end Workcell.Ids
