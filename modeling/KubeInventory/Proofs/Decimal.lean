import KubeInventory.Text.Unsigned
import Mathlib.Algebra.Group.Nat.Defs
import Mathlib.Data.List.Basic
import Mathlib.Data.List.TakeDrop
import Mathlib.Data.List.TakeWhile

/-! Numbers in decimal: the digits that a number is written with, what digits are worth, and which
texts are read as unsigned numbers. -/

namespace KubeInventory.Text

theorem isDigit_of_mem_toDigits {n : Nat} {c : Char} (h : c ∈ Nat.toDigits 10 n) :
    isDigit c = true := by
  have hDigit := Nat.isDigit_of_mem_toDigits (by decide) (Nat.le_refl 10) h
  simp only [Char.isDigit, ge_iff_le, Bool.and_eq_true, decide_eq_true_eq] at hDigit
  simp only [isDigit, Bool.and_eq_true, decide_eq_true_eq, Char.le_def]
  exact hDigit

/-- Each number has a first digit. -/
theorem exists_toDigits_eq_cons (n : Nat) :
    ∃ c cs, Nat.toDigits 10 n = c :: cs ∧ isDigit c = true := by
  obtain ⟨c, cs, hHead⟩ := List.exists_cons_of_ne_nil (Nat.toDigits_ne_nil (n := n) (b := 10))
  exact ⟨c, cs, hHead, isDigit_of_mem_toDigits (by rw [hHead]; exact List.mem_cons_self)⟩

/-- So a text that starts with anything else is not the digits of a number. -/
theorem toDigits_ne_cons {n : Nat} {c : Char} (hDigit : isDigit c = false) (rest : List Char) :
    Nat.toDigits 10 n ≠ c :: rest := by
  intro hSame
  rw [isDigit_of_mem_toDigits (n := n) (by rw [hSame]; exact List.mem_cons_self)] at hDigit
  cases hDigit

/-- Only zero is written with a zero at the front. -/
theorem head?_toDigits_ne_zero {n : Nat} (h : 0 < n) : (Nat.toDigits 10 n).head? ≠ some '0' := by
  induction n using Nat.strongRecOn with
  | ind n ih =>
      rw [Nat.toDigits_eq_if (by decide)]
      split
      · rename_i hSmall
        intro hZero
        have hDigit : n.digitChar = '0' := by simpa using hZero
        exact absurd (Nat.digitChar_eq_zero.mp hDigit) (Nat.ne_of_gt h)
      · rename_i hLarge
        rw [List.head?_append_of_ne_nil _ Nat.toDigits_ne_nil]
        exact ih (n / 10) (by omega) (by omega)

/-- The digits at the front are separated from what follows them. -/
theorem span_isDigit {ds rest : List Char} (hDigits : ∀ c ∈ ds, isDigit c = true)
    (hRest : ∀ c ∈ rest.head?, isDigit c = false) :
    (ds ++ rest).span isDigit = (ds, rest) := by
  have hStop : rest.takeWhile isDigit = [] ∧ rest.dropWhile isDigit = rest := by
    cases rest with
    | nil => exact ⟨rfl, rfl⟩
    | cons c cs =>
        have hc := hRest c rfl
        exact ⟨List.takeWhile_cons_of_neg (by simp [hc]), List.dropWhile_cons_of_neg (by simp [hc])⟩
  rw [List.span_eq_takeWhile_dropWhile, List.takeWhile_append_of_pos hDigits,
    List.dropWhile_append_of_pos hDigits, hStop.1, hStop.2, List.append_nil]

/-- A number is less than the power of ten that has one digit more. -/
theorem lt_ten_pow_length_toDigits (n : Nat) : n < 10 ^ (Nat.toDigits 10 n).length :=
  (Nat.length_toDigits_le_iff (by decide) Nat.length_toDigits_pos).mp (Nat.le_refl _)

theorem ten_pow_le_of_pos {n : Nat} (h : 0 < n) : 10 ^ ((Nat.toDigits 10 n).length - 1) ≤ n := by
  have hLength := Nat.length_toDigits_pos (b := 10) (n := n)
  rcases Nat.eq_or_lt_of_le hLength with hOne | hMore
  · rw [← hOne]
    exact h
  · have hNot := mt (Nat.length_toDigits_le_iff (b := 10) (n := n)
      (k := (Nat.toDigits 10 n).length - 1) (by decide) (by omega)).mpr (by omega)
    exact Nat.le_of_not_lt hNot

/-- More digits never make a number smaller. -/
theorem le_ofDigitChars (cs : List Char) (n : Nat) : n ≤ Nat.ofDigitChars 10 cs n := by
  induction cs generalizing n with
  | nil => exact Nat.le_of_eq Nat.ofDigitChars_nil.symm
  | cons c rest ih =>
      rw [Nat.ofDigitChars_cons]
      exact Nat.le_trans (by omega) (ih _)

/-- Each digit multiplies what was read by ten and adds its own value. -/
theorem ofDigitChars_cons_eq (c : Char) (cs : List Char) (n : Nat) :
    Nat.ofDigitChars 10 (c :: cs) n = Nat.ofDigitChars 10 cs (n * 10 + digitValue c) := by
  rw [Nat.ofDigitChars_cons, digitValue, Nat.mul_comm]

theorem toList_toString_natCast (n : Nat) : (toString (n : Int)).toList = Nat.toDigits 10 n :=
  Nat.toList_repr

theorem toList_toString_negSucc (n : Nat) :
    (toString (Int.negSucc n)).toList = '-' :: Nat.toDigits 10 (n + 1) := by
  rw [Int.toString_eq_repr, Int.repr, String.toList_append, Nat.toList_repr]
  rfl

/-- What a whole number starts with. -/
theorem exists_toString_eq_cons (n : Int) :
    ∃ c cs, (toString n).toList = c :: cs ∧ (isDigit c = true ∨ c = '-') := by
  cases n with
  | ofNat n =>
      obtain ⟨d, ds, hHead, hDigit⟩ := exists_toDigits_eq_cons n
      exact ⟨d, ds, (toList_toString_natCast n).trans hHead, .inl hDigit⟩
  | negSucc n => exact ⟨'-', _, toList_toString_negSucc n, .inr rfl⟩

section Unsigned

variable {bound : Nat} {text : String}

/-- Whether a text is an unsigned number in decimal, with or without a plus sign before it, and
which. Zeros at the front do not count. -/
def IsNumeral (text : String) (n : Nat) : Prop :=
  ∃ digits : List Char, digits ≠ [] ∧ (∀ c ∈ digits, isDigit c = true) ∧
    (text.toList = digits ∨ text.toList = '+' :: digits) ∧ Nat.ofDigitChars 10 digits 0 = n

/-- Digits are read while their number stays within the bound. The number only grows on the way, so
one that is too large is noticed at the end as well as in between. -/
theorem readDigits_eq_ok_iff {cs : List Char} {read n : Nat} (hRead : read ≤ bound) :
    readDigits bound read cs = .ok n ↔
      (∀ c ∈ cs, isDigit c = true) ∧ Nat.ofDigitChars 10 cs read = n ∧ n ≤ bound := by
  induction cs generalizing read with
  | nil =>
      rw [readDigits, Except.ok.injEq, Nat.ofDigitChars_nil]
      constructor
      · rintro rfl
        exact ⟨nofun, rfl, hRead⟩
      · exact fun h => h.2.1
  | cons c rest ih =>
      rw [readDigits, ofDigitChars_cons_eq, List.forall_mem_cons]
      cases hDigit : isDigit c with
      | false => simp
      | true =>
          rw [Bool.not_true, if_neg Bool.false_ne_true]
          split
          · rename_i hOver
            -- Digits that follow cannot take the number back below the bound.
            have hGrows := le_ofDigitChars rest (read * 10 + digitValue c)
            constructor
            · nofun
            · rintro ⟨-, rfl, hBound⟩
              omega
          · rename_i hWithin
            rw [ih (Nat.le_of_not_lt hWithin)]
            simp

theorem isNumeral_of_plus {cs : List Char} (hText : text.toList = '+' :: cs) {n : Nat} :
    IsNumeral text n ↔
      cs ≠ [] ∧ (∀ c ∈ cs, isDigit c = true) ∧ Nat.ofDigitChars 10 cs 0 = n := by
  constructor
  · rintro ⟨digits, hSome, hDigits, hForm, hValue⟩
    rw [hText] at hForm
    rcases hForm with rfl | hSign
    · exact absurd (hDigits '+' List.mem_cons_self) (by decide)
    · obtain rfl := (List.cons.inj hSign).2
      exact ⟨hSome, hDigits, hValue⟩
  · rintro ⟨hSome, hDigits, hValue⟩
    exact ⟨cs, hSome, hDigits, .inr hText, hValue⟩

theorem isNumeral_of_no_plus (hPlain : ∀ cs, text.toList ≠ '+' :: cs) {n : Nat} :
    IsNumeral text n ↔ text.toList ≠ [] ∧ (∀ c ∈ text.toList, isDigit c = true) ∧
      Nat.ofDigitChars 10 text.toList 0 = n := by
  constructor
  · rintro ⟨digits, hSome, hDigits, hForm, hValue⟩
    obtain rfl := hForm.resolve_right (hPlain digits)
    exact ⟨hSome, hDigits, hValue⟩
  · rintro ⟨hSome, hDigits, hValue⟩
    exact ⟨text.toList, hSome, hDigits, .inl rfl, hValue⟩

/-- A text is read as a number just if it is the numeral of one within the bound. -/
theorem readUnsigned_eq_ok_iff {n : Nat} :
    readUnsigned bound text = .ok n ↔ IsNumeral text n ∧ n ≤ bound := by
  rw [readUnsigned]
  split
  · rename_i hEmpty
    have hPlain (cs : List Char) : text.toList ≠ '+' :: cs := by simp [hEmpty]
    simp [isNumeral_of_no_plus hPlain, hEmpty]
  · rename_i hSign
    simp [isNumeral_of_plus hSign]
  · rename_i cs hNotAlone hSign
    have hSome : cs ≠ [] := hNotAlone
    rw [isNumeral_of_plus hSign, readDigits_eq_ok_iff (Nat.zero_le bound)]
    simp [hSome, and_assoc]
  · rename_i hNotEmpty _ hPlain
    have hSome : text.toList ≠ [] := hNotEmpty
    rw [isNumeral_of_no_plus hPlain, readDigits_eq_ok_iff (Nat.zero_le bound), and_assoc, and_assoc,
      and_iff_right hSome]

/-- Texts are read as the numbers they denote, up to the bound. -/
theorem toOption_readUnsigned_eq_some_iff {n : Nat} :
    (readUnsigned bound text).toOption = some n ↔ IsNumeral text n ∧ n ≤ bound := by
  rw [← readUnsigned_eq_ok_iff]
  cases readUnsigned bound text <;> simp [Except.toOption]

theorem maxWord_eq : maxWord = 2 ^ 64 - 1 := by decide

theorem isNumeral_toString (n : Nat) : IsNumeral (toString n) n :=
  ⟨Nat.toDigits 10 n, Nat.toDigits_ne_nil, fun _ => isDigit_of_mem_toDigits, .inl Nat.toList_repr,
    Nat.ofDigitChars_ten_toDigits⟩

end Unsigned

end KubeInventory.Text
