import KubeInventory.Json.Reader
import KubeInventory.Json.Writer
import KubeInventory.Proofs.Decimal
import Mathlib.Data.List.TakeDrop
import Mathlib.Data.List.TakeWhile
import Mathlib.Data.Option.Basic

/-! Strings and whole numbers of JSON, read from the text that they are written as. -/

namespace KubeInventory.Json

open KubeInventory.Text

section Strings

variable {c : Char} {rest : List Char}

/-- A character escaped by a single letter stands for the character that the letter means. -/
theorem stringUnits_escape {e : Char} (hLetter : e ≠ 'u') (h : escaped? e = some c) :
    stringUnits ('\\' :: e :: rest) =
      (stringUnits rest).map fun (units, rest) => (c.toNat :: units, rest) := by
  rw [stringUnits]
  · simp only [h, Option.map_eq_bind]
    rfl
  · intro _ _ _ _ _ hU
    exact absurd hU hLetter

/-- Characters that need no escape stand for themselves. -/
theorem stringUnits_plain (hQuote : c ≠ '"') (hBackslash : c ≠ '\\') (h : ' ' ≤ c) :
    stringUnits (c :: rest) =
      (stringUnits rest).map fun (units, rest) => (c.toNat :: units, rest) := by
  rw [stringUnits]
  · simp only [h, bne_iff_ne.mpr hBackslash, Option.map_eq_bind, decide_true, Bool.and_self,
      guard_true]
    rfl
  · exact hQuote
  · intro _ _ _ _ _ hU
    exact absurd hU hBackslash
  · intro _ _ hU
    exact absurd hU hBackslash

theorem stringUnits_hex {a b : Char} (h : hexUnit? '0' '0' a b = some c.toNat) :
    stringUnits ('\\' :: 'u' :: '0' :: '0' :: a :: b :: rest) =
      (stringUnits rest).map fun (units, rest) => (c.toNat :: units, rest) := by
  rw [stringUnits, h, Option.map_eq_bind]
  rfl

/-- Each control character has an escape that is read as it. -/
theorem escape_of_control (h : c < ' ') :
    (∃ e, shortEscape? c = some e ∧ e ≠ 'u' ∧ escaped? e = some c) ∨
      shortEscape? c = none ∧
        hexUnit? '0' '0' (hexDigit (c.toNat / 16)) (hexDigit (c.toNat % 16)) = some c.toNat := by
  have hAll : ∀ n : Fin 32,
      ((shortEscape? (Char.ofNat n)).any fun e =>
          e != 'u' && escaped? e == some (Char.ofNat n)) = true ∨
        shortEscape? (Char.ofNat n) = none ∧
          hexUnit? '0' '0' (hexDigit (n / 16)) (hexDigit (n % 16)) = some n.val := by
    decide +kernel
  have hSmall : c.toNat < 32 := h
  have hControl := hAll ⟨c.toNat, hSmall⟩
  rw [Char.ofNat_toNat] at hControl
  refine hControl.imp_left fun hShort => ?_
  obtain ⟨e, hEscape, hRead⟩ := (Option.any_eq_true _ _).mp hShort
  rw [Bool.and_eq_true, bne_iff_ne, beq_iff_eq] at hRead
  exact ⟨e, hEscape, hRead⟩

/-- However the writer puts a character, the reader gets back its one unit. -/
theorem stringUnits_escapeChar (c : Char) (rest : List Char) :
    stringUnits (escapeChar c ++ rest) =
      (stringUnits rest).map fun (units, rest) => (c.toNat :: units, rest) := by
  rw [escapeChar]
  split
  · rename_i hMarked
    rcases Bool.or_eq_true_iff.mp hMarked with hQuote | hBackslash
    · obtain rfl := eq_of_beq hQuote
      exact stringUnits_escape (by decide) rfl
    · obtain rfl := eq_of_beq hBackslash
      exact stringUnits_escape (by decide) rfl
  · rename_i hUnmarked
    simp only [Bool.or_eq_true, beq_iff_eq, not_or] at hUnmarked
    split
    · rename_i hPlain
      exact stringUnits_plain hUnmarked.1 hUnmarked.2 hPlain
    · rename_i hControl
      rcases escape_of_control (Char.not_le.mp hControl) with
        ⟨e, hShort, hLetter, hRead⟩ | ⟨hLong, hRead⟩
      · rw [hShort]
        exact stringUnits_escape hLetter hRead
      · rw [hLong]
        exact stringUnits_hex hRead

/-- Character by character up to the quotation mark, which the writer escapes inside a text. -/
theorem stringUnits_flatMap_escapeChar (cs rest : List Char) :
    stringUnits (cs.flatMap escapeChar ++ '"' :: rest) = some (cs.map Char.toNat, rest) := by
  induction cs with
  | nil => rfl
  | cons c cs ih =>
      rw [List.flatMap_cons, List.append_assoc, stringUnits_escapeChar, ih, Option.map_some,
        List.map_cons]

/-- No character is half of a surrogate pair. -/
theorem not_surrogate (c : Char) : (isHighSurrogate c.toNat || isLowSurrogate c.toNat) = false := by
  have hValid := c.valid
  simp only [UInt32.isValidChar, Nat.isValidChar] at hValid
  simp only [isHighSurrogate, isLowSurrogate, Char.toNat, Bool.or_eq_false_iff,
    Bool.and_eq_false_iff, decide_eq_false_iff_not]
  omega

/-- Units that are characters are joined to just these, for none of them is half of a pair. -/
theorem joinUnits_map_toNat (cs : List Char) : joinUnits (cs.map Char.toNat) = some cs := by
  induction cs with
  | nil => rfl
  | cons c cs ih =>
      have hWhole := not_surrogate c
      cases cs with
      | nil => simp [joinUnits, hWhole]
      | cons d cs =>
          rw [Bool.or_eq_false_iff] at hWhole
          rw [List.map_cons] at ih
          simp [joinUnits, hWhole, ih]

/-- A text is read back from what it is written as, whatever stands behind it. -/
theorem stringLiteral_flatMap_escapeChar (text : String) (rest : List Char) :
    stringLiteral (text.toList.flatMap escapeChar ++ '"' :: rest) = some (some text, rest) := by
  simp [stringLiteral, stringUnits_flatMap_escapeChar, joinUnits_map_toNat]

end Strings

section Numbers

/-- Whether nothing in the characters carries on a number before them. -/
def EndsNumber (cs : List Char) : Prop :=
  ∀ c ∈ cs.head?, isDigit c = false ∧ c ≠ '.' ∧ c ≠ 'e' ∧ c ≠ 'E'

/-- A whole number as written. -/
def numeralOf (n : Int) : Numeral := ⟨decide (n < 0), Nat.toDigits 10 n.natAbs, none, none⟩

variable {rest : List Char}

/-- All digits at the front are read, of which there must be some. -/
theorem digits_eq_some_iff {cs ds : List Char} : digits cs = some (ds, rest) ↔
    cs = ds ++ rest ∧ ds ≠ [] ∧ (∀ c ∈ ds, isDigit c = true) ∧
      ∀ c ∈ rest.head?, isDigit c = false := by
  rw [digits]
  constructor
  · rw [List.span_eq_takeWhile_dropWhile]
    dsimp only
    intro h
    split at h
    · cases h
    · rename_i hSome
      obtain ⟨rfl, rfl⟩ := Prod.mk.inj (Option.some.inj h)
      refine ⟨(List.takeWhile_append_dropWhile).symm, by simpa using hSome,
        fun c => List.mem_takeWhile_imp, fun c hc => ?_⟩
      have hHead := List.head?_dropWhile_not isDigit cs
      rw [hc] at hHead
      simpa using hHead
  · rintro ⟨rfl, hSome, hDigits, hStop⟩
    rw [span_isDigit hDigits hStop]
    simp [hSome]

theorem digits_append {taken : List Char} (hSome : taken ≠ [])
    (hDigits : ∀ c ∈ taken, isDigit c = true) (hEnd : EndsNumber rest) :
    digits (taken ++ rest) = some (taken, rest) :=
  digits_eq_some_iff.mpr ⟨rfl, hSome, hDigits, fun c hc => (hEnd c hc).1⟩

/-- A number is not written with a leading zero, except for zero itself. -/
theorem wholePart_toDigits (n : Nat) (hEnd : EndsNumber rest) :
    wholePart (Nat.toDigits 10 n ++ rest) = some (Nat.toDigits 10 n, rest) := by
  rcases Nat.eq_zero_or_pos n with rfl | hPos
  · rfl
  · have hDigits : digits (Nat.toDigits 10 n ++ rest) = some (Nat.toDigits 10 n, rest) :=
      digits_append Nat.toDigits_ne_nil (fun _ => isDigit_of_mem_toDigits) hEnd
    obtain ⟨d, ds, hHead, -⟩ := exists_toDigits_eq_cons n
    have hNotZero : d ≠ '0' := by
      rintro rfl
      exact head?_toDigits_ne_zero hPos (by rw [hHead, List.head?_cons])
    rw [hHead, List.cons_append] at hDigits ⊢
    rw [wholePart]
    · exact hDigits
    · exact fun _ hZero => absurd (List.cons.inj hZero).1 hNotZero

theorem fractionPart_of_endsNumber (hEnd : EndsNumber rest) :
    fractionPart rest = some (none, rest) := by
  rw [fractionPart]
  rintro cs rfl
  exact (hEnd '.' rfl).2.1 rfl

theorem exponentPart_of_endsNumber (hEnd : EndsNumber rest) :
    exponentPart rest = some (none, rest) := by
  rw [exponentPart]
  · rintro cs rfl
    exact (hEnd 'e' rfl).2.2.1 rfl
  · rintro cs rfl
    exact (hEnd 'E' rfl).2.2.2 rfl

theorem unsignedNumeral_toDigits (negative : Bool) (n : Nat) (hEnd : EndsNumber rest) :
    unsignedNumeral negative (Nat.toDigits 10 n ++ rest) =
      some (⟨negative, Nat.toDigits 10 n, none, none⟩, rest) := by
  simp [unsignedNumeral, wholePart_toDigits n hEnd, fractionPart_of_endsNumber hEnd,
    exponentPart_of_endsNumber hEnd]

/-- Whole numbers are written with neither fraction nor exponent, so that nothing must follow that
would start one. -/
theorem numeral_toString (n : Int) (hEnd : EndsNumber rest) :
    numeral ((toString n).toList ++ rest) = some (numeralOf n, rest) := by
  cases n with
  | ofNat n =>
      have hText : (toString (Int.ofNat n)).toList = Nat.toDigits 10 n := toList_toString_natCast n
      obtain ⟨d, ds, hHead, hDigit⟩ := exists_toDigits_eq_cons n
      have hNumeral := unsignedNumeral_toDigits false n hEnd
      have hNumeral' : numeralOf (Int.ofNat n) = ⟨false, d :: ds, none, none⟩ := by
        rw [← hHead, numeralOf, Int.ofNat_eq_natCast,
          decide_eq_false (Int.not_lt.mpr (Int.natCast_nonneg n)), Int.natAbs_natCast]
      rw [hText, hNumeral']
      rw [hHead] at hNumeral ⊢
      rw [List.cons_append, numeral]
      · exact hNumeral
      · intro cs hSign
        rw [(List.cons.inj hSign).1] at hDigit
        exact absurd hDigit (by decide)
  | negSucc n =>
      rw [toList_toString_negSucc, List.cons_append, numeral,
        unsignedNumeral_toDigits true (n + 1) hEnd, numeralOf,
        decide_eq_true (Int.negSucc_lt_zero n), Int.natAbs_negSucc]

theorem fill_eq {cs : List Char} {word : Nat} (h : Nat.ofDigitChars 10 cs word ≤ maxWord) :
    fill word cs = (Nat.ofDigitChars 10 cs word, []) := by
  induction cs generalizing word with
  | nil => rw [fill, Nat.ofDigitChars_nil]
  | cons c cs ih =>
      rw [ofDigitChars_cons_eq] at h ⊢
      have hFits := Nat.not_lt.mpr (Nat.le_trans (le_ofDigitChars cs _) h)
      rw [fill, if_neg hFits, ih h]

/-- Whole numbers of 64 bits, signed or not, are read exactly. -/
theorem number?_numeralOf {n : Int} (hLeast : -(maxMagnitude : Int) ≤ n) (hGreatest : n ≤ maxWord) :
    (numeralOf n).number? = some (.int n) := by
  have hWords : maxMagnitude ≤ maxWord := by decide
  have hFill : fill 0 (Nat.toDigits 10 n.natAbs) = (n.natAbs, []) := by
    have hValue := Nat.ofDigitChars_ten_toDigits (n := n.natAbs)
    rw [fill_eq (by omega), hValue]
  rw [Numeral.number?, numeralOf, hFill]
  by_cases hSign : n < 0
  · have hExact : (n.natAbs == 0 || decide (maxMagnitude < n.natAbs)) = false :=
      Bool.or_eq_false_iff.mpr
        ⟨beq_eq_false_iff_ne.mpr (by omega), decide_eq_false (by omega)⟩
    have hValue : -(n.natAbs : Int) = n := by omega
    simp only [hSign, hExact, hValue, List.isEmpty_nil, decide_true, Bool.not_true,
      Bool.false_eq_true, if_true, if_false]
  · have hValue : (n.natAbs : Int) = n := by omega
    simp only [hSign, hValue, List.isEmpty_nil, decide_false, Bool.not_false, if_true]

end Numbers

end KubeInventory.Json
