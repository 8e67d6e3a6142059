import KubeInventory.Proofs.Decimal
import KubeInventory.Proofs.Record
import KubeInventory.Yaml.Decode
import KubeInventory.Yaml.Writer
import Mathlib.Data.Option.Basic

/-! Values as YAML documents. The writer lays a value out as a document; what follows about reading
settings takes it as given that the reader gets that document back from the text, and that it means
the value again. -/

namespace KubeInventory.Yaml

namespace Node

/-- A node with a tag. -/
def tagged (tag : String) : Node → Node
  | .scalar _ style text => .scalar (some tag) style text
  | .list _ items => .list (some tag) items
  | .mapping _ entries => .mapping (some tag) entries
  | n => n

mutual

/-- The document that a value is written as; `isKey` says whether it is a key on its line. -/
def ofValue (isKey : Bool) : Value → Node
  | .null => .scalar none .plain "null"
  | .bool b => .scalar none .plain (if b then "true" else "false")
  | .int n => .scalar none .plain (toString n)
  | .float x => .scalar none .plain x.text
  | .string text => .scalar none (styleOf isKey (preferredStyle text) text) text
  | .list items => .list none (ofItems items)
  | .mapping entries => .mapping none (ofEntries entries)
  | .tagged tag v => (ofValue isKey v).tagged tag

def ofItems : List Value → List Node
  | [] => []
  | v :: rest => ofValue false v :: ofItems rest

def ofEntries : List (Value × Value) → List (Node × Node)
  | [] => []
  | (key, v) :: rest => (ofValue (isSimpleKey key) key, ofValue false v) :: ofEntries rest

end

/-- The items of a list are laid out one by one. -/
theorem ofItems_eq_map (items : List Value) : ofItems items = items.map (ofValue false) := by
  induction items with
  | nil => rfl
  | cons v rest ih => rw [ofItems, ih, List.map_cons]

theorem ofEntries_eq_map (entries : List (Value × Value)) :
    ofEntries entries =
      entries.map fun entry => (ofValue (isSimpleKey entry.1) entry.1, ofValue false entry.2) := by
  induction entries with
  | nil => rfl
  | cons entry rest ih => rw [ofEntries, ih, List.map_cons]

end Node

/-- Whether the text of a value is read as the document that was laid out, and this means the value.
-/
def ReadsBack (v : Value) : Prop :=
  Node.read (write v) = some (.ofValue false v) ∧
    (Node.ofValue false v).value? depthLimit = some v

namespace Node

section Records

variable {isKey : Bool} {depth : Nat}

/-- The keys of a record come back as they are. -/
theorem fields?_ofValue_record (isKey : Bool) (fields : List (String × Value)) :
    (ofValue isKey (.record fields)).fields? =
      some (fields.map fun field => (field.1, ofValue false field.2)) := by
  rw [Value.record, ofValue, ofEntries_eq_map, List.map_map, fields?, mapM_eq_some_iff,
    List.forall₂_map_left_iff, List.forall₂_map_right_iff]
  exact List.forall₂_same.mpr fun field _ => rfl

/-- So do the items of a list, each as it was laid out. -/
theorem items?_ofValue_list (isKey : Bool) (items : List Value) :
    (ofValue isKey (.list items)).items? = some (items.map (ofValue false)) := by
  rw [ofValue, ofItems_eq_map]
  rfl

/-- A record that means what it was laid out for does so in each field. -/
theorem value?_of_record {fields : List (String × Value)}
    (h : (ofValue isKey (.record fields)).value? (depth + 1) = some (.record fields)) :
    ∀ field ∈ fields, (ofValue false field.2).value? depth = some field.2 := by
  rw [Value.record, ofValue, ofEntries_eq_map, List.map_map, value?] at h
  obtain ⟨pairs, hPairs, h⟩ := Option.bind_eq_some_iff.mp h
  obtain ⟨-, -, hSame⟩ := Option.bind_eq_some_iff.mp h
  obtain rfl := Value.mapping.inj (Option.some.inj hSame)
  rw [mapM_eq_some_iff, List.forall₂_map_left_iff, List.forall₂_map_right_iff,
    List.forall₂_same] at hPairs
  intro field hField
  obtain ⟨key, -, hValue⟩ := Option.bind_eq_some_iff.mp (hPairs field hField)
  obtain ⟨v, hValue, hEntry⟩ := Option.bind_eq_some_iff.mp hValue
  obtain rfl : v = field.2 := (Prod.mk.inj (Option.some.inj hEntry)).2
  exact hValue

/-- Items of a list that means what it was laid out for do so themselves. -/
theorem value?_of_list {items : List Value}
    (h : (ofValue isKey (.list items)).value? (depth + 1) = some (.list items)) :
    ∀ v ∈ items, (ofValue false v).value? depth = some v := by
  rw [ofValue, ofItems_eq_map, value?] at h
  obtain ⟨values, hValues, hSame⟩ := Option.map_eq_some_iff.mp h
  obtain rfl := Value.list.inj hSame
  rw [mapM_eq_some_iff, List.forall₂_map_left_iff, List.forall₂_same] at hValues
  exact hValues

end Records

section Scalars

variable {isKey : Bool} {depth : Nat}

theorem text?_ofValue_string (isKey : Bool) (text : String) :
    (ofValue isKey (.string text)).text? = some text := rfl

theorem value?_scalar (style : Style) (text : String) :
    (scalar none style text).value? depth = untaggedScalar? style text := by
  rw [value?]

/-- A text that means itself is not taken for nothing. -/
theorem optionalText?_ofValue_string {text : String}
    (h : (ofValue isKey (.string text)).value? depth = some (.string text)) :
    (ofValue isKey (.string text)).optionalText? = some (some text) := by
  rw [ofValue, value?_scalar, untaggedScalar?] at h
  rw [ofValue, optionalText?]
  cases hPlain : styleOf isKey (preferredStyle text) text == .plain with
  | false => simp [bne, hPlain]
  | true =>
      rw [hPlain, if_pos rfl, plainValue?, resolve] at h
      have hSome : (text.isEmpty || isNull text) = false := by
        by_contra hNothing
        rw [Bool.not_eq_false] at hNothing
        rw [hNothing] at h
        cases h
      simp [bne, hPlain, hSome]

theorem plainValue?_eq_int {text : String} {n : Int} (h : plainValue? text = some (.int n)) :
    int? text.toList = some n ∧ n ≤ Text.maxWord := by
  rw [plainValue?] at h
  cases hResolve : resolve text with
  | int m =>
      rw [hResolve] at h
      simp only [word?, Option.ite_none_right_eq_some, Bool.and_eq_true, decide_eq_true_eq,
        Option.some.injEq, Value.int.injEq] at h
      obtain ⟨⟨-, hGreatest⟩, rfl⟩ := h
      refine ⟨?_, hGreatest⟩
      rw [resolve] at hResolve
      split at hResolve
      · cases hResolve
      · split at hResolve
        · cases hResolve
        · split at hResolve
          · rename_i hInt
            rw [hInt, Scalar.int.inj hResolve]
          · split at hResolve
            · cases hResolve
            · split at hResolve <;> cases hResolve
  | _ =>
      rw [hResolve] at h
      cases h

/-- A number that means itself is read where a number without a sign is called for. -/
theorem wordField?_ofValue_int {n : Nat}
    (h : (ofValue isKey (.int n)).value? depth = some (.int n)) :
    (ofValue isKey (.int n)).wordField? = some n := by
  rw [ofValue, value?_scalar, untaggedScalar?, if_pos (beq_self_eq_true _)] at h
  obtain ⟨hInt, hGreatest⟩ := plainValue?_eq_int h
  have hWord : Yaml.word? (toString (n : Int)) = some n := by
    have hUnsigned : negative? (toString (n : Int)).toList = none := by
      rw [Text.toList_toString_natCast, negative?]
      exact Text.toDigits_ne_cons rfl
    rw [int?, hUnsigned] at hInt
    rw [Yaml.word?]
    cases hNumber : unsigned? (toString (n : Int)).toList with
    | none =>
        rw [hNumber] at hInt
        cases hInt
    | some m =>
        simp only [hNumber, Option.ite_none_right_eq_some, Option.some.injEq,
          Int.natCast_inj] at hInt
        obtain ⟨-, rfl⟩ := hInt
        simpa using hGreatest
  exact hWord

end Scalars

end Node

end KubeInventory.Yaml
