import KubeInventory.Proofs.Decimal
import KubeInventory.Proofs.ShortestDecimal
import KubeInventory.Yaml.Scalar

/-! Numbers in decimal as they stand in a document. In each of its layouts the text of a number is
read as the digits that it was laid out from and the place of the last of them, and so as the number
again. -/

namespace KubeInventory

open KubeInventory.Text

/-- A decimal fraction as it is written: the digits before the point, those behind it if there is a
point, and the exponent if there is one. -/
structure DecimalText where
  whole : List Char
  fraction : Option (List Char)
  exponent : Option Int

namespace DecimalText

def exponentChars (e : Int) : List Char :=
  (if e < 0 then ['-'] else []) ++ Nat.toDigits 10 e.natAbs

def chars (n : DecimalText) : List Char :=
  n.whole ++ (n.fraction.map ('.' :: ·)).getD [] ++
    (n.exponent.map fun e => 'e' :: exponentChars e).getD []

def digits (n : DecimalText) : List Char := n.whole ++ n.fraction.getD []

/-- The place of the last digit. -/
def place (n : DecimalText) : Int := n.exponent.getD 0 - (n.fraction.getD []).length

/-- The number that the text denotes. -/
def value (n : DecimalText) : ℚ := (Nat.ofDigitChars 10 n.digits 0 : ℚ) * 10 ^ n.place

/-- The forms that are read: digits, with a point behind them or an exponent. -/
structure WellFormed (n : DecimalText) : Prop where
  whole_ne_nil : n.whole ≠ []
  isDigit_of_mem : ∀ c ∈ n.digits, isDigit c = true
  marked : n.fraction.isSome = true ∨ n.exponent.isSome = true
  exponent_le : ∀ e, n.exponent = some e → e.natAbs ≤ exponentLimit

theorem foldl_digitValue (cs : List Char) (n : Nat) :
    cs.foldl (fun n c => n * 10 + digitValue c) n = Nat.ofDigitChars 10 cs n := by
  induction cs generalizing n with
  | nil => exact Nat.ofDigitChars_nil.symm
  | cons c rest ih => rw [List.foldl_cons, ih, ofDigitChars_cons_eq]

/-- Digits read up to a limit that they do not pass. -/
theorem foldl_min_digitValue {limit : Nat} (cs : List Char) {n : Nat}
    (h : Nat.ofDigitChars 10 cs n ≤ limit) :
    cs.foldl (fun n c => min limit (n * 10 + digitValue c)) n = Nat.ofDigitChars 10 cs n := by
  induction cs generalizing n with
  | nil => exact Nat.ofDigitChars_nil.symm
  | cons c rest ih =>
      rw [ofDigitChars_cons_eq] at h ⊢
      have hStep : min limit (n * 10 + digitValue c) = n * 10 + digitValue c :=
        Nat.min_eq_right ((le_ofDigitChars rest _).trans h)
      rw [List.foldl_cons, hStep, ih h]

/-- An exponent is read back if it is within the limit of the reader. -/
theorem exponentOf?_exponentChars {e : Int} (h : e.natAbs ≤ exponentLimit) :
    Yaml.exponentOf? (exponentChars e) = some e := by
  have hDigits : (Nat.toDigits 10 e.natAbs).all isDigit = true :=
    List.all_eq_true.mpr fun c => isDigit_of_mem_toDigits
  have hFold : (Nat.toDigits 10 e.natAbs).foldl
      (fun n c => min exponentLimit (n * 10 + digitValue c)) 0 = e.natAbs := by
    rw [foldl_min_digitValue _ (by rwa [Nat.ofDigitChars_ten_toDigits]),
      Nat.ofDigitChars_ten_toDigits]
  by_cases hSign : e < 0
  · have hChars : exponentChars e = '-' :: Nat.toDigits 10 e.natAbs := by
      rw [exponentChars, if_pos hSign, List.singleton_append]
    rw [hChars, Yaml.exponentOf?]
    simp only [hDigits, hFold, List.isEmpty_eq_false_iff.mpr Nat.toDigits_ne_nil]
    exact congrArg some (by rw [if_true]; omega)
  · have hChars : exponentChars e = Nat.toDigits 10 e.natAbs := by
      rw [exponentChars, if_neg hSign, List.nil_append]
    rw [hChars, Yaml.exponentOf?]
    · simp only [hDigits, hFold, List.isEmpty_eq_false_iff.mpr Nat.toDigits_ne_nil]
      exact congrArg some (by rw [if_neg Bool.false_ne_true]; omega)
    · exact toDigits_ne_cons rfl
    · exact toDigits_ne_cons rfl

/-- A decimal fraction is read as its digits and the place of the last of them. -/
theorem decimal?_chars {n : DecimalText} (hForm : n.WellFormed) (negative : Bool) :
    Yaml.decimal? negative n.chars =
      Binary64.ofDecimal? negative (Nat.ofDigitChars 10 n.digits 0) n.place := by
  obtain ⟨whole, fraction, exponent⟩ := n
  have hWhole : ∀ c ∈ whole, isDigit c = true := fun c hc =>
    hForm.isDigit_of_mem c (List.mem_append_left _ hc)
  have hEnd : ∀ c ∈ ((exponent.map fun e => 'e' :: exponentChars e).getD []).head?,
      isDigit c = false := by
    cases exponent with
    | none => nofun
    | some e =>
        rintro c ⟨⟩
        decide
  have hExponent (e : Int) (h : exponent = some e) : Yaml.exponentOf? (exponentChars e) = some e :=
    exponentOf?_exponentChars (hForm.exponent_le e h)
  have hSome : whole.isEmpty = false := List.isEmpty_eq_false_iff.mpr hForm.whole_ne_nil
  rw [Yaml.decimal?, chars]
  cases fraction with
  | none =>
      rw [Option.map_none, Option.getD_none, List.append_nil, span_isDigit hWhole hEnd]
      cases exponent with
      | none => simp [hSome, foldl_digitValue, digits, place]
      | some e => simp [hSome, hExponent e rfl, foldl_digitValue, digits, place]
  | some ds =>
      have hFraction : ∀ c ∈ ds, isDigit c = true := fun c hc =>
        hForm.isDigit_of_mem c (List.mem_append_right _ hc)
      rw [Option.map_some, Option.getD_some, List.append_assoc, span_isDigit hWhole (by
        rintro c ⟨⟩
        decide)]
      simp only [List.cons_append, span_isDigit hFraction hEnd]
      cases exponent with
      | none => simp [hSome, foldl_digitValue, digits, place,
          Nat.ofDigitChars_append]
      | some e => simp [hSome, hExponent e rfl, foldl_digitValue, digits, place,
          Nat.ofDigitChars_append]

/-- What is written in front of a negative number. -/
def signChars (negative : Bool) : List Char := if negative then ['-'] else []

section Numeric

variable {s : String}

/-- Whether a text starts with a digit, or with a sign and a digit. -/
def startsNumeric : List Char → Bool
  | '-' :: d :: _ => isDigit d
  | c :: _ => isDigit c
  | [] => false

theorem startsNumeric_cons {c : Char} (h : isDigit c = true) (rest : List Char) :
    startsNumeric (c :: rest) = true ∧ startsNumeric ('-' :: c :: rest) = true := by
  refine ⟨?_, h⟩
  rw [startsNumeric]
  · exact h
  · rintro d ds rfl
    exact absurd h (by decide)

theorem beq_eq_false_of_startsNumeric (hFront : startsNumeric s.toList = true) (word : String)
    (hWord : startsNumeric word.toList = false) : (s == word) = false := by
  rw [beq_eq_false_iff_ne]
  rintro rfl
  rw [hFront] at hWord
  cases hWord

/-- What starts like a number is a number or a text. -/
theorem resolve_of_startsNumeric (hFront : startsNumeric s.toList = true) :
    Yaml.resolve s = match Yaml.int? s.toList with
      | some n => .int n
      | none => if Yaml.isPaddedNumber s.toList then .text else match Yaml.float? s with
        | some x => .float x
        | none => .text := by
  have hNot := beq_eq_false_of_startsNumeric hFront
  have hEmpty : s.isEmpty = false := by
    rw [Bool.eq_false_iff, ne_eq, String.isEmpty_iff]
    exact ne_of_beq_false (hNot "" rfl)
  have hNull : Yaml.isNull s = false := by
    simp only [Yaml.isNull, hNot "null" rfl, hNot "Null" rfl, hNot "NULL" rfl, hNot "~" rfl,
      Bool.or_self]
  have hBool : Yaml.bool? s = none := by
    simp only [Yaml.bool?, hNot "true" rfl, hNot "True" rfl, hNot "TRUE" rfl, hNot "false" rfl,
      hNot "False" rfl, hNot "FALSE" rfl, Bool.or_self, Bool.false_eq_true, if_false]
  have hRead := Yaml.resolve.eq_def s
  simp only [hEmpty, hNull, hBool, Bool.or_self, Bool.false_eq_true, if_false] at hRead
  exact hRead

theorem float?_of_startsNumeric (hFront : startsNumeric s.toList = true) :
    Yaml.float? s = (match s.toList with
      | '-' :: rest => Yaml.decimal? true rest
      | cs => Yaml.decimal? false cs).map .finite := by
  have hNot := beq_eq_false_of_startsNumeric hFront
  have hPlus : ∀ rest, s.toList ≠ '+' :: rest := by
    intro rest hSign
    rw [hSign] at hFront
    cases hFront
  rw [Yaml.float?]
  dsimp only
  split
  · exact absurd ‹_› (hPlus _)
  · simp only [hNot ".inf" rfl, hNot ".Inf" rfl, hNot ".INF" rfl,
      hNot "-.inf" rfl, hNot "-.Inf" rfl, hNot "-.INF" rfl, hNot ".nan" rfl, hNot ".NaN" rfl,
      hNot ".NAN" rfl, Bool.or_self, Bool.false_eq_true, if_false]
    split
    · exact absurd ‹_› (hPlus _)
    · rename_i hMinus
      rw [hMinus]
      rfl
    · rename_i hNoMinus
      split
      · exact absurd ‹_› (hNoMinus _)
      · rfl

end Numeric

section Resolution

variable {n : DecimalText}

/-- Something in the text of a decimal fraction is no digit. -/
theorem exists_mark (hForm : n.WellFormed) : ∃ c ∈ n.chars, c = '.' ∨ c = 'e' := by
  rcases hForm.marked with hFraction | hExponent
  · obtain ⟨ds, hds⟩ := Option.isSome_iff_exists.mp hFraction
    exact ⟨'.', by simp [chars, hds], .inl rfl⟩
  · obtain ⟨e, he⟩ := Option.isSome_iff_exists.mp hExponent
    exact ⟨'e', by simp [chars, he], .inr rfl⟩

theorem mem_chars (hForm : n.WellFormed) {c : Char} (h : c ∈ n.chars) :
    isDigit c = true ∨ c = '.' ∨ c = 'e' ∨ c = '-' := by
  simp only [chars, List.mem_append, or_assoc] at h
  rcases h with hWhole | hFraction | hExponent
  · exact .inl (hForm.isDigit_of_mem c (List.mem_append_left _ hWhole))
  · cases hPoint : n.fraction with
    | none => simp [hPoint] at hFraction
    | some ds =>
        rw [hPoint, Option.map_some, Option.getD_some, List.mem_cons] at hFraction
        rcases hFraction with rfl | hDigit
        · exact .inr (.inl rfl)
        · exact .inl (hForm.isDigit_of_mem c (by simp [digits, hPoint, hDigit]))
  · cases hMark : n.exponent with
    | none => simp [hMark] at hExponent
    | some e =>
        rw [hMark, Option.map_some, Option.getD_some, List.mem_cons, exponentChars,
          List.mem_append] at hExponent
        rcases hExponent with rfl | hSign | hDigit
        · exact .inr (.inr (.inl rfl))
        · exact .inr (.inr (.inr (by simpa using (List.mem_ite_nil_right.mp hSign).2)))
        · exact .inl (isDigit_of_mem_toDigits hDigit)

/-- The text of a decimal fraction starts with a digit. -/
theorem exists_chars_eq_cons (hForm : n.WellFormed) :
    ∃ c cs, n.chars = c :: cs ∧ isDigit c = true := by
  obtain ⟨c, cs, hWhole⟩ := List.exists_cons_of_ne_nil hForm.whole_ne_nil
  refine ⟨c, _, by rw [chars, hWhole, List.cons_append, List.cons_append], ?_⟩
  exact hForm.isDigit_of_mem c (by simp [digits, hWhole])

theorem chars_ne_cons (hForm : n.WellFormed) {c : Char} (hDigit : isDigit c = false)
    (rest : List Char) : n.chars ≠ c :: rest := by
  obtain ⟨d, ds, hChars, hFront⟩ := exists_chars_eq_cons hForm
  intro hSame
  rw [(List.cons.inj (hChars.symm.trans hSame)).1, hDigit] at hFront
  cases hFront

theorem naturalIn?_eq_none {radix : Nat} {cs : List Char} {c : Char} (hMem : c ∈ cs)
    (hDigit : Yaml.digitIn? radix c = none) : Yaml.naturalIn? radix cs = none := by
  have hFold (n : Nat) :
      cs.foldlM (fun n c => (Yaml.digitIn? radix c).map (n * radix + ·)) n = none := by
    induction cs generalizing n with
    | nil => cases hMem
    | cons d rest ih =>
        rw [List.foldlM_cons]
        rcases List.mem_cons.mp hMem with rfl | hLater
        · rw [hDigit]
          rfl
        · cases Yaml.digitIn? radix d with
          | none => rfl
          | some m => exact ih hLater _
  rw [Yaml.naturalIn?, hFold, ite_self]

theorem magnitude?_chars (hForm : n.WellFormed) (whole : List Char) :
    Yaml.magnitude? whole n.chars = none := by
  obtain ⟨mark, hMark, hEither⟩ := exists_mark hForm
  have hNatural : Yaml.naturalIn? 10 n.chars = none :=
    naturalIn?_eq_none hMark (by rcases hEither with rfl | rfl <;> decide)
  have hRadix (r : Char) (hr : ¬(isDigit r = true ∨ r = '.' ∨ r = 'e' ∨ r = '-'))
      (rest : List Char) : n.chars ≠ '0' :: r :: rest := by
    intro hSame
    exact hr (mem_chars hForm (by simp [hSame]))
  rw [Yaml.magnitude?, hNatural, ite_self]
  · exact hRadix 'x' (by decide)
  · exact hRadix 'o' (by decide)
  · exact hRadix 'b' (by decide)

theorem startsNumeric_signed (hForm : n.WellFormed) (negative : Bool) :
    startsNumeric (signChars negative ++ n.chars) = true := by
  obtain ⟨c, cs, hChars, hDigit⟩ := exists_chars_eq_cons hForm
  obtain ⟨hPositive, hNegative⟩ := startsNumeric_cons hDigit cs
  rw [hChars]
  cases negative with
  | true => exact hNegative
  | false => exact hPositive

/-- A point or an exponent keeps the text of a number from being read as a whole number. -/
theorem int?_signed (hForm : n.WellFormed) (negative : Bool) :
    Yaml.int? (signChars negative ++ n.chars) = none := by
  cases negative with
  | true =>
      have hNatural : Yaml.naturalIn? 10 ('-' :: n.chars) = none :=
        naturalIn?_eq_none List.mem_cons_self (by decide)
      have hUnsigned : Yaml.unsigned? ('-' :: n.chars) = none := by
        simp [Yaml.unsigned?, Yaml.magnitude?, hNatural]
      simp [Yaml.int?, signChars, hUnsigned, Yaml.negative?, magnitude?_chars hForm]
  | false =>
      have hUnsigned : Yaml.unsigned? n.chars = none := by
        rw [Yaml.unsigned?]
        · exact magnitude?_chars hForm _
        · exact chars_ne_cons hForm rfl
      have hNegative : Yaml.negative? n.chars = none := by
        rw [Yaml.negative?]
        exact chars_ne_cons hForm rfl
      simp [Yaml.int?, signChars, hUnsigned, hNegative]

/-- A padded number has a zero in front of further digits. -/
theorem exists_of_isPaddedNumber {cs : List Char} (h : Yaml.isPaddedNumber cs = true) :
    ∃ c rest, (cs = '0' :: c :: rest ∨ cs = '-' :: '0' :: c :: rest ∨
      cs = '+' :: '0' :: c :: rest) ∧ ∀ d ∈ c :: rest, isDigit d = true := by
  unfold Yaml.isPaddedNumber at h
  dsimp only at h
  split at h
  · rename_i c rest hDigits
    refine ⟨c, rest, ?_, List.all_eq_true.mp h⟩
    split at hDigits
    · exact .inr (.inl (congrArg _ hDigits))
    · exact .inr (.inr (congrArg _ hDigits))
    · exact .inl hDigits
  · cases h

theorem isDigit_of_isPaddedNumber {cs : List Char} (h : Yaml.isPaddedNumber cs = true) :
    ∀ c ∈ cs, isDigit c = true ∨ c = '-' ∨ c = '+' := by
  obtain ⟨d, rest, hForm, hDigits⟩ := exists_of_isPaddedNumber h
  have hPadded : ∀ c ∈ '0' :: d :: rest, isDigit c = true :=
    List.forall_mem_cons.mpr ⟨by decide, hDigits⟩
  intro c hMem
  rcases hForm with rfl | rfl | rfl
  · exact .inl (hPadded c hMem)
  · rcases List.mem_cons.mp hMem with rfl | hRest
    · exact .inr (.inl rfl)
    · exact .inl (hPadded c hRest)
  · rcases List.mem_cons.mp hMem with rfl | hRest
    · exact .inr (.inr rfl)
    · exact .inl (hPadded c hRest)

theorem isPaddedNumber_signed (hForm : n.WellFormed) (negative : Bool) :
    Yaml.isPaddedNumber (signChars negative ++ n.chars) = false := by
  obtain ⟨mark, hMark, hEither⟩ := exists_mark hForm
  rw [Bool.eq_false_iff]
  intro hPadded
  have hDigit := isDigit_of_isPaddedNumber hPadded mark (List.mem_append_right _ hMark)
  rcases hEither with rfl | rfl <;> exact absurd hDigit (by decide)

/-- A decimal fraction that stands for a number of the format means that number. -/
theorem resolve_signed (hForm : n.WellFormed) (negative : Bool) {x : Binary64}
    (h : Binary64.ofDecimal? negative (Nat.ofDigitChars 10 n.digits 0) n.place = some x) :
    Yaml.resolve (String.ofList (signChars negative ++ n.chars)) = .float (.finite x) := by
  have hFront : startsNumeric (String.ofList (signChars negative ++ n.chars)).toList = true := by
    rw [String.toList_ofList]
    exact startsNumeric_signed hForm negative
  have hFloat : Yaml.float? (String.ofList (signChars negative ++ n.chars)) =
      some (.finite x) := by
    rw [float?_of_startsNumeric hFront, String.toList_ofList]
    cases negative with
    | true => exact congrArg _ ((decimal?_chars hForm true).trans h)
    | false =>
        rw [signChars, if_neg Bool.false_ne_true, List.nil_append]
        have hRead := (decimal?_chars hForm false).trans h
        split
        · exact absurd ‹_› (chars_ne_cons hForm rfl _)
        · rw [hRead]
          rfl
  rw [resolve_of_startsNumeric hFront, hFloat, String.toList_ofList, int?_signed hForm,
    isPaddedNumber_signed hForm]
  rfl

end Resolution

end DecimalText

end KubeInventory

namespace KubeInventory.Binary64

open KubeInventory.Text

/-- How a positive number is laid out, of which the digits and the place of the last of them are
given. -/
def layout (digits : List Char) (place : Int) : DecimalText :=
  let first : Int := place + digits.length - 1
  if first < -5 || 15 < first then
    ⟨digits.take 1, if digits.length ≤ 1 then none else some (digits.drop 1), some first⟩
  else if 0 ≤ place then ⟨digits ++ List.replicate place.toNat '0', some ['0'], none⟩
  else if 0 ≤ first then
    ⟨digits.take (first.toNat + 1), some (digits.drop (first.toNat + 1)), none⟩
  else ⟨['0'], some (List.replicate (-first - 1).toNat '0' ++ digits), none⟩

theorem text_eq {x : Binary64} (hSome : x.isZero = false) :
    x.text false = String.ofList (DecimalText.signChars x.negative ++
      (layout (stripZeros (Nat.toDigits 10 x.shortest.1) x.shortest.2).1
        (stripZeros (Nat.toDigits 10 x.shortest.1) x.shortest.2).2).chars) := by
  rw [text]
  dsimp only
  rw [hSome, if_neg Bool.false_ne_true]
  generalize stripZeros (Nat.toDigits 10 x.shortest.1) x.shortest.2 = stripped
  obtain ⟨digits, place⟩ := stripped
  dsimp only
  have hSign : (if x.negative = true then "-" else "") =
      String.ofList (DecimalText.signChars x.negative) := by
    cases x.negative <;> rfl
  rw [hSign, ← String.ofList_append, layout]
  congr 2
  split
  · by_cases hShort : digits.length ≤ 1 <;>
      by_cases hSmall : place + digits.length - 1 < 0 <;>
        simp [DecimalText.chars, DecimalText.exponentChars, hShort, hSmall]
  · split
    · simp [DecimalText.chars]
    · split <;> simp [DecimalText.chars]

theorem wellFormed_layout {digits : List Char} {place : Int} (hSome : digits ≠ [])
    (hDigits : ∀ c ∈ digits, isDigit c = true)
    (hFirst : (place + digits.length - 1).natAbs ≤ exponentLimit) :
    (layout digits place).WellFormed := by
  have hTake (n : Nat) : digits.take (n + 1) ≠ [] := by simpa using hSome
  have hZeros (n : Nat) : ∀ c ∈ List.replicate n '0', isDigit c = true := fun c h => by
    rw [List.eq_of_mem_replicate h]
    rfl
  rw [layout]
  -- With an exponent; with zeros behind; with the point among the digits; with zeros in front.
  split
  · refine ⟨hTake 0, fun c h => ?_, .inr rfl, fun e he => ?_⟩
    · refine hDigits c ?_
      rcases List.mem_append.mp h with hFront | hBack
      · exact List.mem_of_mem_take hFront
      · split at hBack
        · cases hBack
        · exact List.mem_of_mem_drop hBack
    · cases he
      exact hFirst
  · split
    · refine ⟨by simp [hSome], fun c h => ?_, .inl rfl, nofun⟩
      simp only [DecimalText.digits, List.mem_append, Option.getD_some, List.mem_singleton] at h
      rcases h with (hDigit | hZero) | rfl
      · exact hDigits c hDigit
      · exact hZeros _ c hZero
      · rfl
    · split
      · refine ⟨hTake _, fun c h => hDigits c ?_, .inl rfl, nofun⟩
        simpa only [DecimalText.digits, Option.getD_some, List.take_append_drop] using h
      · refine ⟨List.cons_ne_nil _ _, fun c h => ?_, .inl rfl, nofun⟩
        simp only [DecimalText.digits, List.mem_append, Option.getD_some, List.mem_singleton] at h
        rcases h with rfl | hZero | hDigit
        · rfl
        · exact hZeros _ c hZero
        · exact hDigits c hDigit

theorem value_layout {digits : List Char} {place : Int} (hSome : digits ≠ []) :
    (layout digits place).value = Nat.ofDigitChars 10 digits 0 * 10 ^ place := by
  have hLength := List.length_pos_iff.mpr hSome
  rw [layout]
  split
  · have hJoined : digits.take 1 ++
        (if digits.length ≤ 1 then none else some (digits.drop 1)).getD [] = digits ∧
        ((if digits.length ≤ 1 then none else some (digits.drop 1)).getD []).length =
          digits.length - 1 := by
      split
      · simp [List.take_of_length_le ‹_›]
        omega
      · exact ⟨List.take_append_drop 1 digits, List.length_drop⟩
    simp only [DecimalText.value, DecimalText.digits, DecimalText.place, hJoined, Option.getD_some]
    congr 2
    omega
  · split
    · rename_i hPlace
      obtain ⟨k, rfl⟩ := Int.eq_ofNat_of_zero_le hPlace
      simp only [DecimalText.value, DecimalText.digits, DecimalText.place, Option.getD_some,
        Option.getD_none, Nat.ofDigitChars_append, Nat.ofDigitChars_replicate_zero]
      simp [Nat.ofDigitChars_cons]
      ring
    · split
      · simp only [DecimalText.value, DecimalText.digits, DecimalText.place, Option.getD_some,
          List.take_append_drop, List.length_drop, Option.getD_none]
        congr 2
        omega
      · simp only [DecimalText.value, DecimalText.digits, DecimalText.place, Option.getD_some,
          Option.getD_none, Nat.ofDigitChars_append, Nat.ofDigitChars_replicate_zero,
          List.length_append, List.length_replicate]
        have hZero : 10 ^ (-(place + digits.length - 1) - 1).toNat *
            Nat.ofDigitChars 10 ['0'] 0 = 0 := Nat.mul_zero _
        rw [hZero]
        congr 2
        omega

/-- Zeros at the end are taken off, and no digit is lost. -/
theorem stripZeros_eq (digits : List Char) (place : Int) :
    ∃ k : Nat, digits = (stripZeros digits place).1 ++ List.replicate k '0' ∧
      (stripZeros digits place).2 = place + k := by
  have hZeros : digits.reverse.takeWhile (· == '0') =
      List.replicate (digits.reverse.takeWhile (· == '0')).length '0' :=
    List.eq_replicate_of_mem fun c hc => by simpa using List.mem_takeWhile_imp hc
  have hSplit : digits = (digits.reverse.dropWhile (· == '0')).reverse ++
      List.replicate (digits.reverse.takeWhile (· == '0')).length '0' := by
    rw [← List.reverse_replicate, ← hZeros, ← List.reverse_append, List.takeWhile_append_dropWhile,
      List.reverse_reverse]
  refine ⟨_, hSplit, ?_⟩
  have hLength := congrArg List.length hSplit
  rw [List.length_append, List.length_replicate] at hLength
  rw [stripZeros]
  dsimp only
  omega

section Magnitude

variable {x : Binary64} {q : ℚ}

theorem Attracts.ten_zpow_le (hForm : x.Canonical) (hSome : 0 < x.mantissa) (h : x.Attracts q) :
    10 ^ (-400 : Int) ≤ q := by
  have hOne : (1 : ℚ) ≤ x.mantissa := by exact_mod_cast hSome
  have hReach := x.reach_le
  calc (10 : ℚ) ^ (-400 : Int) ≤ 2 ^ (-1075 : Int) := ten_zpow_le_two_zpow (by decide) (by decide)
    _ = 1 / 2 * 2 ^ (-1074 : Int) := by
        rw [show (-1075 : Int) = -1 + -1074 by decide, zpow_add₀ (by norm_num)]
        norm_num
    _ ≤ (x.mantissa - x.reach) * 2 ^ x.exponent := by
        have hWide : 1 / 2 ≤ (x.mantissa : ℚ) - x.reach := by linarith
        gcongr
        · exact one_le_two
        · exact hForm.least
    _ ≤ q := h.low

theorem Attracts.lt_ten_zpow (hForm : x.Canonical) (h : x.Attracts q) : q < 10 ^ (399 : Int) := by
  calc q < 2 ^ (53 + x.exponent) := h.lt_two_zpow hForm
    _ ≤ 2 ^ (3 * 399 : Int) := by
        have hGreatest := hForm.greatest
        exact zpow_le_zpow_right₀ one_le_two (by omega)
    _ = (2 ^ (3 : Int)) ^ (399 : Int) := zpow_mul ..
    _ ≤ 10 ^ (399 : Int) := zpow_le_zpow_left₀ (by norm_num) (by norm_num) (by norm_num)

end Magnitude

/-- The digits of a number that lies near one of the format do not stand far from the point. -/
theorem place_bounds {x : Binary64} (hForm : x.Canonical) (hSome : 0 < x.mantissa) {digits : Nat}
    {place : Int} (h : x.Attracts (digits * 10 ^ place)) :
    -400 < (Nat.toDigits 10 digits).length + place ∧
      (Nat.toDigits 10 digits).length + place < 400 := by
  have hDigits : 0 < digits := by
    rw [Nat.pos_iff_ne_zero]
    rintro rfl
    have hPos := h.pos hSome
    simp at hPos
  have hLength := Nat.length_toDigits_pos (b := 10) (n := digits)
  have hAbove : (10 : ℚ) ^ ((Nat.toDigits 10 digits).length - 1) ≤ digits := by
    exact_mod_cast ten_pow_le_of_pos hDigits
  have hBelow : (digits : ℚ) < 10 ^ (Nat.toDigits 10 digits).length := by
    exact_mod_cast lt_ten_pow_length_toDigits digits
  constructor
  · have hSmall : (10 : ℚ) ^ (-400 : Int) < 10 ^ ((Nat.toDigits 10 digits).length + place) := by
      calc (10 : ℚ) ^ (-400 : Int) ≤ digits * 10 ^ place := h.ten_zpow_le hForm hSome
        _ < 10 ^ (Nat.toDigits 10 digits).length * 10 ^ place := by gcongr
        _ = 10 ^ ((Nat.toDigits 10 digits).length + place) := by
            rw [zpow_add₀ (by norm_num), zpow_natCast]
    exact (zpow_lt_zpow_iff_right₀ (by norm_num)).mp hSmall
  · have hLarge : (10 : ℚ) ^ (((Nat.toDigits 10 digits).length - 1 : Nat) + place) <
        10 ^ (399 : Int) := by
      calc (10 : ℚ) ^ (((Nat.toDigits 10 digits).length - 1 : Nat) + place)
          = 10 ^ ((Nat.toDigits 10 digits).length - 1) * 10 ^ place := by
            rw [zpow_add₀ (by norm_num), zpow_natCast]
        _ ≤ digits * 10 ^ place := by gcongr
        _ < 10 ^ (399 : Int) := h.lt_ten_zpow hForm
    have hLess := (zpow_lt_zpow_iff_right₀ (by norm_num)).mp hLarge
    omega

/-- Digits that a number attracts are read as that number. -/
theorem ofDecimal?_of_attracts {x : Binary64} (hForm : x.Canonical) (hSome : 0 < x.mantissa)
    {digits : Nat} {place : Int} (h : x.Attracts (digits * 10 ^ place)) :
    ofDecimal? x.negative digits place = some x := by
  obtain ⟨hLeast, hGreatest⟩ := place_bounds hForm hSome h
  have hDigits : digits ≠ 0 := by
    rintro rfl
    have hPos := h.pos hSome
    simp at hPos
  rw [ofDecimal?, if_neg (by simpa using hDigits), if_neg (by omega), if_neg (by omega)]
  split
  · rename_i hSign
    obtain ⟨k, rfl⟩ := Int.eq_ofNat_of_zero_le hSign
    refine round?_of_attracts hForm (Nat.mul_ne_zero hDigits (by simp)) Nat.one_ne_zero ?_
    simpa using h
  · rename_i hSign
    obtain ⟨k, hk⟩ := Int.eq_ofNat_of_zero_le (a := -place) (by omega)
    obtain rfl : place = -(k : Int) := by omega
    refine round?_of_attracts hForm hDigits (by simp) ?_
    simpa [div_eq_mul_inv] using h

theorem eq_zero_of_isZero {x : Binary64} (hForm : x.Canonical) (h : x.isZero = true) :
    x = zero x.negative := by
  obtain ⟨negative, mantissa, exponent⟩ := x
  obtain rfl : mantissa = 0 := by simpa [isZero] using h
  obtain rfl : exponent = -1074 := hForm.full.resolve_right (by simp)
  rfl

/-- The digits that a number is written with, and their place. -/
theorem exists_layout {x : Binary64} (hForm : x.Canonical) (hSome : 0 < x.mantissa) :
    ∃ n : DecimalText, n.WellFormed ∧ x.Attracts n.value ∧
      x.text false = String.ofList (DecimalText.signChars x.negative ++ n.chars) := by
  have hAttracts : x.Attracts (x.shortest.1 * 10 ^ x.shortest.2) := by
    have hBack := (readsBack_iff hSome (powerOfTen_den_pos _)).mp (readsBack_shortest hForm hSome)
    rwa [Nat.cast_mul, mul_div_assoc, powerOfTen_eq] at hBack
  obtain ⟨hLeast, hGreatest⟩ := place_bounds hForm hSome hAttracts
  have hZero : x.isZero = false := by
    rw [isZero, beq_eq_false_iff_ne]
    exact hSome.ne'
  rw [text_eq hZero]
  obtain ⟨k, hDigits, hPlace⟩ := stripZeros_eq (Nat.toDigits 10 x.shortest.1) x.shortest.2
  generalize (stripZeros (Nat.toDigits 10 x.shortest.1) x.shortest.2).1 = digits at *
  generalize (stripZeros (Nat.toDigits 10 x.shortest.1) x.shortest.2).2 = place at *
  have hNumber : x.shortest.1 = 10 ^ k * Nat.ofDigitChars 10 digits 0 := by
    rw [← Nat.ofDigitChars_replicate_zero, ← Nat.ofDigitChars_append, ← hDigits,
      Nat.ofDigitChars_ten_toDigits]
  have hKept : digits ≠ [] := by
    rintro rfl
    have hPos := hAttracts.pos hSome
    rw [hNumber] at hPos
    simp at hPos
  have hLength := congrArg List.length hDigits
  rw [List.length_append, List.length_replicate] at hLength
  refine ⟨layout digits place, wellFormed_layout hKept (fun c hc => ?_) ?_, ?_, rfl⟩
  · exact isDigit_of_mem_toDigits (by rw [hDigits]; exact List.mem_append_left _ hc)
  · have hLimit : 400 ≤ exponentLimit := by decide
    omega
  · rw [value_layout hKept, hPlace, zpow_add₀ (by norm_num), zpow_natCast]
    rw [hNumber] at hAttracts
    convert hAttracts using 1
    push_cast
    ring

/-- The text of a number means the number. -/
theorem resolve_text {x : Binary64} (hForm : x.Canonical) :
    Yaml.resolve (x.text false) = .float (.finite x) := by
  cases hZero : x.isZero with
  | true =>
      rw [eq_zero_of_isZero hForm hZero]
      cases x.negative <;> decide +kernel
  | false =>
      have hSome : 0 < x.mantissa := by
        rw [isZero, beq_eq_false_iff_ne] at hZero
        exact Nat.pos_of_ne_zero hZero
      obtain ⟨n, hWellFormed, hAttracts, hText⟩ := exists_layout hForm hSome
      rw [hText]
      exact DecimalText.resolve_signed hWellFormed x.negative
        (ofDecimal?_of_attracts hForm hSome hAttracts)

end KubeInventory.Binary64
