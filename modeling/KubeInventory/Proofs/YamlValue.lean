import KubeInventory.Proofs.DecimalText
import KubeInventory.Proofs.YamlDocument

/-! Free values as documents. A value without tags is what its document means, if it is not nested
deeper than the reader goes. -/

namespace KubeInventory.Yaml

open KubeInventory.Text

namespace Value

/-- Values without tags: whole numbers have 64 bits, with a sign or without, and the keys of a
mapping mean different things. -/
inductive Untagged : Value → Prop
  | null : Untagged .null
  | bool (b : Bool) : Untagged (.bool b)
  | int {n : Int} (least : -(maxMagnitude : Int) ≤ n) (greatest : n ≤ maxWord) : Untagged (.int n)
  | finite {x : Binary64} (form : x.Canonical) : Untagged (.float (.finite x))
  | infinity (negative : Bool) : Untagged (.float (.infinity negative))
  | nan : Untagged (.float .nan)
  | string (text : String) : Untagged (.string text)
  | list {items : List Value} (items_untagged : ∀ v ∈ items, Untagged v) : Untagged (.list items)
  | mapping {entries : List (Value × Value)}
      (keys_distinct : entries.Pairwise fun a b => (b.1 == a.1) = false)
      (keys_untagged : ∀ entry ∈ entries, Untagged entry.1)
      (values_untagged : ∀ entry ∈ entries, Untagged entry.2) : Untagged (.mapping entries)

mutual

/-- How deep lists and mappings are nested in a value. -/
def nesting : Value → Nat
  | .list items => nestingOfItems items + 1
  | .mapping entries => nestingOfEntries entries + 1
  | .tagged _ v => nesting v
  | _ => 0

def nestingOfItems : List Value → Nat
  | [] => 0
  | v :: rest => max (nesting v) (nestingOfItems rest)

def nestingOfEntries : List (Value × Value) → Nat
  | [] => 0
  | (key, v) :: rest => max (max (nesting key) (nesting v)) (nestingOfEntries rest)

end

/-- A list is nested one level deeper than the deepest of its items. -/
theorem nesting_list_le_iff {items : List Value} {depth : Nat} :
    (list items).nesting ≤ depth + 1 ↔ ∀ v ∈ items, v.nesting ≤ depth := by
  rw [nesting, Nat.add_le_add_iff_right]
  induction items with
  | nil => simp [nestingOfItems]
  | cons v rest ih => rw [nestingOfItems, Nat.max_le, ih, List.forall_mem_cons]

/-- A mapping is nested one level deeper than the deepest of its keys and values. -/
theorem nesting_mapping_le_iff {entries : List (Value × Value)} {depth : Nat} :
    (mapping entries).nesting ≤ depth + 1 ↔
      ∀ entry ∈ entries, entry.1.nesting ≤ depth ∧ entry.2.nesting ≤ depth := by
  rw [nesting, Nat.add_le_add_iff_right]
  induction entries with
  | nil => simp [nestingOfEntries]
  | cons entry rest ih =>
      rw [nestingOfEntries, Nat.max_le, Nat.max_le, ih, List.forall_mem_cons]

end Value

section Integers

theorem digitIn?_ten {c : Char} (h : isDigit c = true) : digitIn? 10 c = some (digitValue c) := by
  have hValue : digitValue c < 10 := by
    simp only [isDigit, Bool.and_eq_true, decide_eq_true_eq, Char.le_def] at h
    have hLast : c.toNat ≤ '9'.toNat := h.2
    have hNine : '9'.toNat = 57 := rfl
    have hZero : '0'.toNat = 48 := rfl
    rw [digitValue]
    omega
  simp [digitIn?, h, hValue]

theorem foldlM_digitIn? {cs : List Char} (h : ∀ c ∈ cs, isDigit c = true) (n : Nat) :
    cs.foldlM (fun n c => (digitIn? 10 c).map (n * 10 + ·)) n =
      some (Nat.ofDigitChars 10 cs n) := by
  induction cs generalizing n with
  | nil => rw [Nat.ofDigitChars_nil]; rfl
  | cons c rest ih =>
      obtain ⟨hFirst, hRest⟩ := List.forall_mem_cons.mp h
      rw [List.foldlM_cons, digitIn?_ten hFirst, Option.map_some, ofDigitChars_cons_eq]
      exact ih hRest _

theorem naturalIn?_toDigits (n : Nat) : naturalIn? 10 (Nat.toDigits 10 n) = some n := by
  rw [naturalIn?, List.isEmpty_eq_false_iff.mpr Nat.toDigits_ne_nil, if_neg Bool.false_ne_true,
    foldlM_digitIn? fun _ => isDigit_of_mem_toDigits, Nat.ofDigitChars_ten_toDigits]

/-- Numbers are written without padding. -/
theorem toDigits_ne_padded (n : Nat) (c : Char) (rest : List Char) :
    Nat.toDigits 10 n ≠ '0' :: c :: rest := by
  intro hSame
  rcases Nat.eq_zero_or_pos n with rfl | hPos
  · rw [Nat.toDigits_zero] at hSame
    cases hSame
  · exact head?_toDigits_ne_zero hPos (by rw [hSame]; rfl)

/-- Numbers are not written with zeros in front, which would make them texts. -/
theorem isPaddedNumber_toDigits (n : Nat) : isPaddedNumber (Nat.toDigits 10 n) = false ∧
    isPaddedNumber ('-' :: Nat.toDigits 10 n) = false := by
  refine ⟨Bool.eq_false_iff.mpr fun hPadded => ?_, Bool.eq_false_iff.mpr fun hPadded => ?_⟩
  · obtain ⟨c, rest, hZero | hMinus | hPlus, -⟩ := DecimalText.exists_of_isPaddedNumber hPadded
    · exact toDigits_ne_padded n c rest hZero
    · exact toDigits_ne_cons rfl _ hMinus
    · exact toDigits_ne_cons rfl _ hPlus
  · obtain ⟨c, rest, hZero | hMinus | hPlus, -⟩ := DecimalText.exists_of_isPaddedNumber hPadded
    · cases hZero
    · exact toDigits_ne_padded n c rest (List.cons.inj hMinus).2
    · cases hPlus

theorem magnitude?_toDigits {whole : List Char} (hPadded : isPaddedNumber whole = false)
    (n : Nat) : magnitude? whole (Nat.toDigits 10 n) = some n := by
  rw [magnitude?, hPadded, if_neg Bool.false_ne_true, naturalIn?_toDigits]
  · exact toDigits_ne_padded n 'x'
  · exact toDigits_ne_padded n 'o'
  · exact toDigits_ne_padded n 'b'

/-- A whole number of 64 bits is read from its text. -/
theorem int?_toString {n : Int} (hLeast : -(maxMagnitude : Int) ≤ n) (hGreatest : n ≤ maxWord) :
    int? (toString n).toList = some n := by
  cases n with
  | ofNat n =>
      have hUnsigned : unsigned? (Nat.toDigits 10 n) = some n := by
        rw [unsigned?]
        · exact magnitude?_toDigits (isPaddedNumber_toDigits n).1 n
        · exact toDigits_ne_cons rfl
      have hBound : n < Nat.pow 2 128 := by
        have hWord : maxWord < Nat.pow 2 128 := by decide
        have hCast : n ≤ maxWord := Int.ofNat_le.mp hGreatest
        omega
      rw [Int.ofNat_eq_natCast, toList_toString_natCast, int?, hUnsigned]
      exact if_pos hBound
  | negSucc n =>
      have hUnsigned : unsigned? ('-' :: Nat.toDigits 10 (n + 1)) = none := by
        have hNatural : naturalIn? 10 ('-' :: Nat.toDigits 10 (n + 1)) = none :=
          DecimalText.naturalIn?_eq_none List.mem_cons_self (by decide)
        simp [unsigned?, magnitude?, hNatural]
      have hNegative : negative? ('-' :: Nat.toDigits 10 (n + 1)) = some (n + 1) :=
        magnitude?_toDigits (isPaddedNumber_toDigits (n + 1)).2 (n + 1)
      have hBound : n + 1 ≤ Nat.pow 2 127 := by
        have hWord : maxMagnitude ≤ Nat.pow 2 127 := by decide
        omega
      rw [toList_toString_negSucc, int?, hUnsigned]
      simp only [hNegative, Option.bind_some, if_pos hBound]
      rfl

/-- A whole number is written without quotes, and what stands without quotes and looks like one is
read as one. -/
theorem resolve_toString {n : Int} (hLeast : -(maxMagnitude : Int) ≤ n)
    (hGreatest : n ≤ maxWord) : resolve (toString n) = .int n := by
  have hFront : DecimalText.startsNumeric (toString n).toList = true := by
    cases n with
    | ofNat n =>
        obtain ⟨c, rest, hHead, hDigit⟩ := exists_toDigits_eq_cons n
        rw [Int.ofNat_eq_natCast, toList_toString_natCast, hHead]
        exact (DecimalText.startsNumeric_cons hDigit rest).1
    | negSucc n =>
        obtain ⟨c, rest, hHead, hDigit⟩ := exists_toDigits_eq_cons (n + 1)
        rw [toList_toString_negSucc, hHead]
        exact (DecimalText.startsNumeric_cons hDigit rest).2
  rw [DecimalText.resolve_of_startsNumeric hFront, int?_toString hLeast hGreatest]

end Integers

namespace Node

section Scalars

theorem value?_plain (depth : Nat) (text : String) :
    (scalar none .plain text).value? depth = plainValue? text :=
  value?_scalar .plain text

/-- No style turns into the plain one. -/
theorem preferred_of_styleOf_eq_plain {simpleKey : Bool} {preferred : Style} {text : String}
    (h : styleOf simpleKey preferred text = .plain) : preferred = .plain := by
  rw [styleOf] at h
  generalize shape text = textShape at h
  obtain ⟨multiline, plain, singleQuoted, literal⟩ := textShape
  generalize text.isEmpty = isEmpty at h
  cases preferred with
  | plain => rfl
  | _ =>
      revert simpleKey multiline plain singleQuoted literal isEmpty
      decide

/-- Only what reads as a text is written without quotes. -/
theorem resolve_of_preferredStyle_eq_plain {text : String} (h : preferredStyle text = .plain) :
    resolve text = .text := by
  rw [preferredStyle] at h
  split at h
  · cases h
  · cases hMeaning : resolve text with
    | text => rfl
    | _ =>
        rw [hMeaning] at h
        cases h

/-- A text is quoted wherever it would be read as anything else. -/
theorem value?_ofValue_string (isKey : Bool) (depth : Nat) (text : String) :
    (ofValue isKey (.string text)).value? depth = some (.string text) := by
  rw [ofValue, value?_scalar, untaggedScalar?]
  split
  · rename_i hPlain
    have hPreferred := preferred_of_styleOf_eq_plain (eq_of_beq hPlain)
    rw [plainValue?, resolve_of_preferredStyle_eq_plain hPreferred]
  · rfl

end Scalars

/-- Keys are told apart by their values, each from all before it. -/
theorem distinctKeys_iff {entries : List (Value × Value)} :
    distinctKeys entries = true ↔ entries.Pairwise fun a b => (b.1 == a.1) = false := by
  induction entries with
  | nil => simp [distinctKeys]
  | cons entry rest ih => simp [distinctKeys, ih]

section Parts

variable {isKey : Bool} {depth : Nat}

/-- A list comes back if its items do one level further in. -/
theorem value?_ofValue_list {items : List Value}
    (h : ∀ v ∈ items, (ofValue false v).value? depth = some v) :
    (ofValue isKey (.list items)).value? (depth + 1) = some (.list items) := by
  rw [ofValue, ofItems_eq_map, value?, mapM_map_eq_some h]
  rfl

/-- So does a mapping, unless the reader takes two of its keys for one. -/
theorem value?_ofValue_mapping {entries : List (Value × Value)}
    (hKeys : entries.Pairwise fun a b => (b.1 == a.1) = false)
    (h : ∀ entry ∈ entries, (ofValue (isSimpleKey entry.1) entry.1).value? depth = some entry.1 ∧
      (ofValue false entry.2).value? depth = some entry.2) :
    (ofValue isKey (.mapping entries)).value? (depth + 1) = some (.mapping entries) := by
  have hEntries : ((entries.map fun entry =>
      (ofValue (isSimpleKey entry.1) entry.1, ofValue false entry.2)).mapM fun entry => do
        return (← value? depth entry.1, ← value? depth entry.2)) = some entries :=
    mapM_map_eq_some fun entry hEntry => by
      rw [(h entry hEntry).1, (h entry hEntry).2]
      rfl
  rw [ofValue, ofEntries_eq_map, value?, hEntries, Option.bind_eq_bind, Option.bind_some,
    distinctKeys_iff.mpr hKeys]
  rfl

end Parts

/-- A value without tags is what its document means. -/
theorem value?_ofValue {v : Value} (hValue : v.Untagged) {isKey : Bool} {depth : Nat}
    (hNesting : v.nesting ≤ depth) : (ofValue isKey v).value? depth = some v := by
  induction hValue generalizing isKey depth with
  | null =>
      rw [ofValue, value?_plain]
      rfl
  | bool b =>
      rw [ofValue, value?_plain]
      cases b <;> rfl
  | int hLeast hGreatest =>
      rw [ofValue, value?_plain, plainValue?, resolve_toString hLeast hGreatest]
      exact if_pos (by simp [hLeast, hGreatest])
  | finite hForm =>
      rw [ofValue, value?_plain, plainValue?, Real.text, Binary64.resolve_text hForm]
  | infinity negative =>
      rw [ofValue, value?_plain]
      cases negative <;> rfl
  | nan =>
      rw [ofValue, value?_plain]
      rfl
  | string text => exact value?_ofValue_string isKey depth text
  | list _ ih =>
      cases depth with
      | zero => simp [Value.nesting] at hNesting
      | succ depth =>
          rw [Value.nesting_list_le_iff] at hNesting
          exact value?_ofValue_list fun v hv => ih v hv (hNesting v hv)
  | mapping hKeys _ _ ihKeys ihValues =>
      cases depth with
      | zero => simp [Value.nesting] at hNesting
      | succ depth =>
          rw [Value.nesting_mapping_le_iff] at hNesting
          refine value?_ofValue_mapping hKeys fun entry hEntry => ?_
          obtain ⟨hKey, hEntryValue⟩ := hNesting entry hEntry
          exact ⟨ihKeys entry hEntry hKey, ihValues entry hEntry hEntryValue⟩

/-- Nothing is read that is nested deeper than the reader goes. -/
theorem nesting_le_of_value? {v w : Value} (hValue : v.Untagged) {isKey : Bool} {depth : Nat}
    (h : (ofValue isKey v).value? depth = some w) : v.nesting ≤ depth := by
  induction hValue generalizing isKey depth w with
  | @list items _ ih =>
      rw [ofValue, ofItems_eq_map] at h
      cases depth with
      | zero => simp [value?] at h
      | succ depth =>
          rw [value?] at h
          obtain ⟨values, hValues, -⟩ := Option.map_eq_some_iff.mp h
          refine Value.nesting_list_le_iff.mpr fun v hv => ?_
          obtain ⟨_, hRead⟩ := isSome_of_mapM hValues (List.mem_map_of_mem hv)
          exact ih v hv hRead
  | @mapping entries _ _ _ ihKeys ihValues =>
      rw [ofValue, ofEntries_eq_map] at h
      cases depth with
      | zero => simp [value?] at h
      | succ depth =>
          rw [value?] at h
          obtain ⟨pairs, hPairs, -⟩ := Option.bind_eq_some_iff.mp h
          refine Value.nesting_mapping_le_iff.mpr fun entry hEntry => ?_
          obtain ⟨pair, hRead⟩ := isSome_of_mapM hPairs (List.mem_map_of_mem hEntry)
          obtain ⟨key, hKey, hRead⟩ := Option.bind_eq_some_iff.mp hRead
          obtain ⟨value, hEntryValue, -⟩ := Option.bind_eq_some_iff.mp hRead
          exact ⟨ihKeys entry hEntry hKey, ihValues entry hEntry hEntryValue⟩
  | _ => exact Nat.zero_le _

end Node

end KubeInventory.Yaml
