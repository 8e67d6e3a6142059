import KubeInventory.Json.Decode
import KubeInventory.Proofs.Dict
import KubeInventory.Proofs.JsonScalar
import KubeInventory.Proofs.Record
import Mathlib.Data.List.DropRight

/-! Values of JSON, read from the text that they are written as. The reader gets back the parts that
the writer laid out, and the parts mean the value again if its numbers are whole, its objects have
their fields in key order and it is not nested too deeply. -/

namespace KubeInventory

open KubeInventory.Text

namespace Value

/-- Values without fractions, whose numbers have 64 bits, with a sign or without. -/
inductive Whole : Value → Prop
  | null : Whole .null
  | bool (b : Bool) : Whole (.bool b)
  | int {n : Int} (least : -(maxMagnitude : Int) ≤ n) (greatest : n ≤ maxWord) : Whole (.int n)
  | string (text : String) : Whole (.string text)
  | list {items : List Value} (items_whole : ∀ v ∈ items, Whole v) : Whole (.list items)
  | object {fields : List (String × Value)} (fields_whole : ∀ field ∈ fields, Whole field.2) :
      Whole (.object fields)

/-- Values whose objects have their fields in key order, each once, as maps have them. -/
inductive Ordered : Value → Prop
  | null : Ordered .null
  | bool (b : Bool) : Ordered (.bool b)
  | int (n : Int) : Ordered (.int n)
  | float (x : Binary64) : Ordered (.float x)
  | string (text : String) : Ordered (.string text)
  | list {items : List Value} (items_ordered : ∀ v ∈ items, Ordered v) : Ordered (.list items)
  | object {fields : List (String × Value)}
      (sorted : fields.Pairwise fun a b => compare a.1 b.1 = .lt)
      (fields_ordered : ∀ field ∈ fields, Ordered field.2) : Ordered (.object fields)

mutual

/-- How deep lists and objects are nested in a value. -/
def nesting : Value → Nat
  | .list items => nestingOfItems items + 1
  | .object fields => nestingOfFields fields + 1
  | _ => 0

def nestingOfItems : List Value → Nat
  | [] => 0
  | v :: rest => max (nesting v) (nestingOfItems rest)

def nestingOfFields : List (String × Value) → Nat
  | [] => 0
  | (_, v) :: rest => max (nesting v) (nestingOfFields rest)

end

/-- A list is nested one level deeper than the deepest of its items. -/
theorem nesting_list_le_iff {items : List Value} {depth : Nat} :
    (list items).nesting ≤ depth + 1 ↔ ∀ v ∈ items, v.nesting ≤ depth := by
  rw [nesting, Nat.add_le_add_iff_right]
  induction items with
  | nil => simp [nestingOfItems]
  | cons v rest ih => rw [nestingOfItems, Nat.max_le, ih, List.forall_mem_cons]

/-- An object is nested one level deeper than the deepest of its fields. -/
theorem nesting_object_le_iff {fields : List (String × Value)} {depth : Nat} :
    (object fields).nesting ≤ depth + 1 ↔ ∀ field ∈ fields, field.2.nesting ≤ depth := by
  rw [nesting, Nat.add_le_add_iff_right]
  induction fields with
  | nil => simp [nestingOfFields]
  | cons field rest ih => rw [nestingOfFields, Nat.max_le, ih, List.forall_mem_cons]

end Value

namespace Json

section Layout

theorem prettyItems_eq_map (level : Nat) (items : List Value) :
    prettyItems level items = items.map (pretty level) := by
  induction items with
  | nil => rfl
  | cons v rest ih => rw [prettyItems, ih, List.map_cons]

theorem prettyFields_eq_map (level : Nat) (fields : List (String × Value)) :
    prettyFields level fields =
      fields.map fun field => quote field.1 ++ [':', ' '] ++ pretty level field.2 := by
  induction fields with
  | nil => rfl
  | cons field rest ih => rw [prettyFields, ih, List.map_cons]

/-- The lines of a block. -/
def lines (level : Nat) (items : List (List Char)) : List Char :=
  List.intercalate [',', '\n'] (items.map (indentation level ++ ·))

theorem lines_single (level : Nat) (item : List Char) :
    lines level [item] = indentation level ++ item := by
  simp [lines]

theorem lines_cons_cons (level : Nat) (item next : List Char) (rest : List (List Char)) :
    lines level (item :: next :: rest) =
      indentation level ++ item ++ ',' :: '\n' :: lines level (next :: rest) := by
  simp [lines]

/-- A block has its brackets on lines of their own, and its items between them one level further in.
-/
theorem block_eq (opening closing : Char) (level : Nat) (items : List (List Char)) :
    block opening closing level items =
      opening :: '\n' :: (lines (level + 1) items ++ '\n' :: (indentation level ++ [closing])) := by
  simp [block, lines]

theorem ne_of_startsNumber {c d : Char} (h : isDigit c = true ∨ c = '-')
    (hOther : isDigit d = false ∧ d ≠ '-') : c ≠ d := by
  rintro rfl
  rcases h with hDigit | rfl
  · exact absurd hDigit (by simp [hOther.1])
  · exact hOther.2 rfl

/-- A number does not start with white space. -/
theorem isSpace_of_startsNumber {c : Char} (h : isDigit c = true ∨ c = '-') :
    isSpace c = false := by
  simp only [isSpace, Bool.or_eq_false_iff, beq_eq_false_iff_ne]
  exact ⟨⟨⟨ne_of_startsNumber h (by decide), ne_of_startsNumber h (by decide)⟩,
    ne_of_startsNumber h (by decide)⟩, ne_of_startsNumber h (by decide)⟩

/-- What a value starts with is neither white space nor the end of a list. -/
theorem exists_pretty_eq_cons {v : Value} (h : v.Whole) (level : Nat) :
    ∃ c cs, pretty level v = c :: cs ∧ isSpace c = false ∧ c ≠ ']' := by
  cases h with
  | null => exact ⟨_, _, rfl, rfl, by decide⟩
  | bool b => cases b <;> exact ⟨_, _, rfl, rfl, by decide⟩
  | int =>
      obtain ⟨c, cs, hText, hStart⟩ := exists_toString_eq_cons _
      exact ⟨c, cs, hText, isSpace_of_startsNumber hStart, ne_of_startsNumber hStart (by decide)⟩
  | string text => exact ⟨'"', _, rfl, rfl, by decide⟩
  | @list items => cases items <;> exact ⟨'[', _, rfl, rfl, by decide⟩
  | @object fields => cases fields <;> exact ⟨'\x7b', _, rfl, rfl, by decide⟩

end Layout

section Productions

variable {fuel : Nat} {cs rest : List Char}

/-- White space is skipped at once, so there is none to skip after it. -/
theorem skipSpace_skipSpace : skipSpace (skipSpace cs) = skipSpace cs :=
  List.dropWhile_idempotent _ _

/-- White space before a value does not matter. -/
theorem value_skipSpace : value fuel (skipSpace cs) = value fuel cs := by
  cases fuel with
  | zero => rfl
  | succ fuel => rw [value, value, skipSpace_skipSpace]

/-- Nor does it before the items of a list. -/
theorem elements_skipSpace : elements fuel (skipSpace cs) = elements fuel cs := by
  cases fuel with
  | zero => rfl
  | succ fuel => rw [elements, elements, value_skipSpace]

/-- Nor before the fields of an object. -/
theorem members_skipSpace : members fuel (skipSpace cs) = members fuel cs := by
  cases fuel with
  | zero => rfl
  | succ fuel => rw [members, members, skipSpace_skipSpace]

/-- A quotation mark opens a text. -/
theorem value_string :
    value (fuel + 1) ('"' :: cs) =
      (stringLiteral cs).map fun (text, rest) => (.string text, rest) := by
  rw [value]
  rfl

/-- A square bracket opens a list, which has items unless it is closed at once. -/
theorem value_array (h : (skipSpace cs).head? ≠ some ']') :
    value (fuel + 1) ('[' :: cs) =
      (elements fuel cs).map fun (items, rest) => (.array items, rest) := by
  have hOpen : skipSpace ('[' :: cs) = '[' :: cs := rfl
  rw [value, hOpen]
  split
  case h_5 rest hSame =>
    obtain rfl : cs = rest := (List.cons.inj hSame).2
    rw [← elements_skipSpace]
    split
    · rename_i hEnd
      rw [hEnd] at h
      exact absurd rfl h
    · rfl
  case h_7 hArray _ => exact (hArray cs rfl).elim
  all_goals
    rename_i hSame
    exact absurd (List.cons.inj hSame).1 (by decide)

/-- A curly bracket opens an object, which has fields unless it is closed at once. -/
theorem value_object (h : (skipSpace cs).head? ≠ some '\x7d') :
    value (fuel + 1) ('\x7b' :: cs) =
      (members fuel cs).map fun (fields, rest) => (.object fields, rest) := by
  have hOpen : skipSpace ('\x7b' :: cs) = '\x7b' :: cs := rfl
  rw [value, hOpen]
  split
  case h_6 rest hSame =>
    obtain rfl : cs = rest := (List.cons.inj hSame).2
    rw [← members_skipSpace]
    split
    · rename_i hEnd
      rw [hEnd] at h
      exact absurd rfl h
    · rfl
  case h_7 hObject => exact (hObject cs rfl).elim
  all_goals
    rename_i hSame
    exact absurd (List.cons.inj hSame).1 (by decide)

/-- A digit or a minus sign starts a number, for no other value starts with one. -/
theorem value_number {c : Char} (hStart : isDigit c = true ∨ c = '-') :
    value (fuel + 1) (c :: cs) = (numeral (c :: cs)).map fun (n, rest) => (.number n, rest) := by
  have hSpace : skipSpace (c :: cs) = c :: cs :=
    List.dropWhile_cons_of_neg (by simp [isSpace_of_startsNumber hStart])
  have hOther {d : Char} {ds : List Char} (hSame : c :: cs = d :: ds)
      (hNumber : isDigit d = false ∧ d ≠ '-') : False :=
    ne_of_startsNumber hStart hNumber (List.cons.inj hSame).1
  rw [value, hSpace]
  split
  case h_7 => rfl
  all_goals
    rename_i hSame
    exact (hOther hSame (by decide)).elim

/-- An item with a comma behind it is followed by more items. -/
theorem elements_cons {item : Syntax} {after : List Char}
    (hItem : value fuel cs = some (item, after))
    (hNext : skipSpace after = ',' :: rest) :
    elements (fuel + 1) cs =
      (elements fuel rest).map fun (items, rest) => (item :: items, rest) := by
  simp [elements, hItem, hNext]

/-- An item with the closing bracket behind it is the last. -/
theorem elements_single {item : Syntax} {after : List Char}
    (hItem : value fuel cs = some (item, after)) (hEnd : skipSpace after = ']' :: rest) :
    elements (fuel + 1) cs = some ([item], rest) := by
  simp [elements, hItem, hEnd]

variable {key : Literal} {keyText after body : List Char} {item : Syntax}

/-- A field with a comma behind it is followed by more fields. -/
theorem members_cons (hKey : skipSpace cs = '"' :: keyText)
    (hName : stringLiteral keyText = some (key, ':' :: body))
    (hItem : value fuel body = some (item, after)) (hNext : skipSpace after = ',' :: rest) :
    members (fuel + 1) cs =
      (members fuel rest).map fun (fields, rest) => ((key, item) :: fields, rest) := by
  have hColon : skipSpace (':' :: body) = ':' :: body := rfl
  simp [members, hKey, hName, hColon, hItem, hNext]

/-- A field with the closing bracket behind it is the last. -/
theorem members_single (hKey : skipSpace cs = '"' :: keyText)
    (hName : stringLiteral keyText = some (key, ':' :: body))
    (hItem : value fuel body = some (item, after)) (hEnd : skipSpace after = '\x7d' :: rest) :
    members (fuel + 1) cs = some ([(key, item)], rest) := by
  have hColon : skipSpace (':' :: body) = ':' :: body := rfl
  simp [members, hKey, hName, hColon, hItem, hEnd]

theorem skipSpace_newline : skipSpace ('\n' :: cs) = skipSpace cs := rfl

theorem skipSpace_indentation (level : Nat) : skipSpace (indentation level ++ cs) = skipSpace cs :=
  List.dropWhile_append_of_pos fun c hBlank => by rw [List.eq_of_mem_replicate hBlank]; rfl

end Productions

section Blocks

variable {rest : List Char}

/-- Characters that are read as a value wherever they stand. -/
def ReadsAs (text : List Char) (syn : Syntax) : Prop :=
  ∀ (fuel : Nat) (rest : List Char), text.length ≤ fuel → EndsNumber rest →
    value fuel (text ++ rest) = some (syn, rest)

/-- Lines may be indented. -/
theorem ReadsAs.value_indentation {text : List Char} {syn : Syntax} (h : ReadsAs text syn)
    {level fuel : Nat} (hFuel : text.length ≤ fuel) (hEnd : EndsNumber rest) :
    value fuel (indentation level ++ text ++ rest) = some (syn, rest) := by
  rw [List.append_assoc, ← value_skipSpace, skipSpace_indentation, value_skipSpace]
  exact h fuel rest hFuel hEnd

theorem endsNumber_comma : EndsNumber (',' :: rest) := by
  simp [EndsNumber, isDigit]

theorem endsNumber_bracket : EndsNumber (']' :: rest) := by
  simp [EndsNumber, isDigit]

theorem endsNumber_newline : EndsNumber ('\n' :: rest) := by
  simp [EndsNumber, isDigit]

theorem length_indentation (level : Nat) : (indentation level).length = 2 * level := by
  simp [indentation]

/-- The items of an array are read from their lines. -/
theorem elements_lines {texts : List (List Char)} {syns : List Syntax}
    (h : List.Forall₂ ReadsAs texts syns) (hSome : texts ≠ []) (level fuel : Nat)
    (hFuel : (lines (level + 1) texts).length ≤ fuel) :
    elements fuel (lines (level + 1) texts ++ '\n' :: (indentation level ++ ']' :: rest)) =
      some (syns, rest) := by
  -- On the lines, with a case for the last one, which no comma follows. Each line is longer than
  -- its item, so the fuel lasts for the item and for the lines below.
  induction h generalizing fuel with
  | nil => exact absurd rfl hSome
  | @cons text syn texts syns hItem hItems ih =>
      cases hItems with
      | nil =>
          rw [lines_single] at hFuel ⊢
          rw [List.length_append, length_indentation] at hFuel
          obtain ⟨fuel, rfl⟩ := Nat.exists_eq_add_of_le' (show 1 ≤ fuel by omega)
          refine elements_single (hItem.value_indentation (by omega) endsNumber_newline) ?_
          rw [skipSpace_newline, skipSpace_indentation]
          rfl
      | @cons next _ more _ hNext hMore =>
          rw [lines_cons_cons] at hFuel ⊢
          simp only [List.length_append, List.length_cons, length_indentation] at hFuel
          obtain ⟨fuel, rfl⟩ := Nat.exists_eq_add_of_le' (show 1 ≤ fuel by omega)
          have hLater := ih (List.cons_ne_nil _ _) fuel (by omega)
          rw [List.append_assoc, List.cons_append, List.cons_append]
          refine (elements_cons (hItem.value_indentation (by omega) endsNumber_comma) rfl).trans ?_
          rw [← elements_skipSpace, skipSpace_newline, elements_skipSpace, hLater, Option.map_some]

/-- A field of an object as it is written, with what its value is written as. -/
def fieldText (field : String × List Char) : List Char := quote field.1 ++ [':', ' '] ++ field.2

theorem skipSpace_fieldText (level : Nat) (key : String) (text : List Char) :
    skipSpace (indentation level ++ fieldText (key, text) ++ rest) =
      '"' :: (key.toList.flatMap escapeChar ++ '"' :: ':' :: ' ' :: (text ++ rest)) := by
  rw [List.append_assoc, skipSpace_indentation]
  simp [fieldText, quote, skipSpace, isSpace]

theorem ReadsAs.value_blank {text : List Char} {syn : Syntax} (h : ReadsAs text syn) {fuel : Nat}
    (hFuel : text.length ≤ fuel) (hEnd : EndsNumber rest) :
    value fuel (' ' :: (text ++ rest)) = some (syn, rest) := by
  rw [← value_skipSpace]
  show value fuel (skipSpace (text ++ rest)) = _
  rw [value_skipSpace]
  exact h fuel rest hFuel hEnd

/-- The fields of an object are read from their lines. -/
theorem members_lines {texts : List (String × List Char)} {syns : List (String × Syntax)}
    (h : List.Forall₂ (fun text syn => text.1 = syn.1 ∧ ReadsAs text.2 syn.2) texts syns)
    (hSome : texts ≠ []) (level fuel : Nat)
    (hFuel : (lines (level + 1) (texts.map fieldText)).length ≤ fuel) :
    members fuel
        (lines (level + 1) (texts.map fieldText) ++ '\n' :: (indentation level ++ '\x7d' :: rest)) =
      some (syns.map fun syn => (some syn.1, syn.2), rest) := by
  induction h generalizing fuel with
  | nil => exact absurd rfl hSome
  | @cons field syn fields syns hField hFields ih =>
      obtain ⟨key, text⟩ := field
      obtain ⟨key', item⟩ := syn
      obtain ⟨rfl, hItem⟩ : key = key' ∧ ReadsAs text item := hField
      have hLength : text.length < (fieldText (key, text)).length := by simp [fieldText]; omega
      cases hFields with
      | nil =>
          rw [List.map_cons, List.map_nil, lines_single] at hFuel ⊢
          rw [List.length_append, length_indentation] at hFuel
          obtain ⟨fuel, rfl⟩ := Nat.exists_eq_add_of_le' (show 1 ≤ fuel by omega)
          refine members_single (skipSpace_fieldText _ _ _) (stringLiteral_flatMap_escapeChar _ _)
            (hItem.value_blank (by omega) endsNumber_newline) ?_
          rw [skipSpace_newline, skipSpace_indentation]
          rfl
      | @cons next _ more _ hNext hMore =>
          rw [List.map_cons, List.map_cons, lines_cons_cons, ← List.map_cons] at hFuel ⊢
          simp only [List.length_append, List.length_cons, length_indentation] at hFuel
          obtain ⟨fuel, rfl⟩ := Nat.exists_eq_add_of_le' (show 1 ≤ fuel by omega)
          have hLater := ih (List.cons_ne_nil _ _) fuel (by omega)
          rw [List.append_assoc, List.cons_append, List.cons_append]
          refine (members_cons (skipSpace_fieldText _ _ _) (stringLiteral_flatMap_escapeChar _ _)
            (hItem.value_blank (by omega) endsNumber_comma) rfl).trans ?_
          rw [← members_skipSpace, skipSpace_newline, members_skipSpace, hLater, Option.map_some]
          rfl

/-- The first line starts as its item does. -/
theorem head?_skipSpace_lines {c : Char} {cs : List Char} (h : isSpace c = false) (level : Nat)
    (texts : List (List Char)) (rest : List Char) :
    (skipSpace (lines level ((c :: cs) :: texts) ++ rest)).head? = some c := by
  cases texts with
  | nil =>
      rw [lines_single, List.append_assoc, skipSpace_indentation]
      simp [skipSpace, h]
  | cons next more =>
      rw [lines_cons_cons, List.append_assoc, List.append_assoc, skipSpace_indentation]
      simp [skipSpace, h]

/-- The first character takes one unit of fuel, and the others are enough for the rest. -/
theorem readsAs_cons {c : Char} {cs : List Char} {syn : Syntax}
    (h : ∀ (fuel : Nat) (rest : List Char), cs.length ≤ fuel → EndsNumber rest →
      value (fuel + 1) (c :: (cs ++ rest)) = some (syn, rest)) : ReadsAs (c :: cs) syn := by
  intro fuel rest hFuel hEnd
  cases fuel with
  | zero => simp at hFuel
  | succ fuel => exact h fuel rest (Nat.le_of_succ_le_succ hFuel) hEnd

/-- A list reads as its items if each of its lines reads as one. That its first line does not start
with the closing bracket tells it from the empty list. -/
theorem readsAs_array {texts : List (List Char)} {syns : List Syntax}
    (h : List.Forall₂ ReadsAs texts syns) {c : Char} {cs : List Char}
    (hFirst : texts.head? = some (c :: cs)) (hStart : isSpace c = false ∧ c ≠ ']') (level : Nat) :
    ReadsAs ('[' :: '\n' :: (lines (level + 1) texts ++ '\n' :: (indentation level ++ [']'])))
      (.array syns) := by
  obtain ⟨more, rfl⟩ : ∃ more, texts = (c :: cs) :: more := List.head?_eq_some_iff.mp hFirst
  refine readsAs_cons fun fuel rest hFuel _ => ?_
  simp only [List.length_cons, List.length_append] at hFuel
  simp only [List.cons_append, List.append_assoc, List.nil_append]
  rw [value_array, ← elements_skipSpace, skipSpace_newline, elements_skipSpace,
    elements_lines h (List.cons_ne_nil _ _) level fuel (by omega), Option.map_some]
  rw [skipSpace_newline, head?_skipSpace_lines hStart.1]
  simpa using hStart.2

/-- An object reads as its fields if the value on each of its lines reads as one. -/
theorem readsAs_object {texts : List (String × List Char)} {syns : List (String × Syntax)}
    (h : List.Forall₂ (fun text syn => text.1 = syn.1 ∧ ReadsAs text.2 syn.2) texts syns)
    (hSome : texts ≠ []) (level : Nat) :
    ReadsAs ('\x7b' :: '\n' :: (lines (level + 1) (texts.map fieldText) ++
        '\n' :: (indentation level ++ ['\x7d'])))
      (.object (syns.map fun syn => (some syn.1, syn.2))) := by
  refine readsAs_cons fun fuel rest hFuel _ => ?_
  simp only [List.length_cons, List.length_append] at hFuel
  simp only [List.cons_append, List.append_assoc, List.nil_append]
  rw [value_object, ← members_skipSpace, skipSpace_newline, members_skipSpace,
    members_lines h hSome level fuel (by omega), Option.map_some]
  obtain ⟨field, more, rfl⟩ := List.exists_cons_of_ne_nil hSome
  have hQuote : fieldText field =
      '"' :: (field.1.toList.flatMap escapeChar ++ '"' :: ':' :: ' ' :: field.2) := by
    simp [fieldText, quote]
  rw [skipSpace_newline, List.map_cons, hQuote, head?_skipSpace_lines rfl]
  decide

end Blocks

namespace Syntax

mutual

/-- What is read from the text of a value. -/
def ofValue : Value → Syntax
  | .null => .null
  | .bool b => .bool b
  | .int n => .number (numeralOf n)
  | .float x => .number (((numeral (x.text true).toList).map Prod.fst).getD (numeralOf 0))
  | .string text => .string (some text)
  | .list items => .array (ofItems items)
  | .object fields => .object (ofFields fields)

def ofItems : List Value → List Syntax
  | [] => []
  | v :: rest => ofValue v :: ofItems rest

def ofFields : List (String × Value) → List (Literal × Syntax)
  | [] => []
  | (key, v) :: rest => (some key, ofValue v) :: ofFields rest

end

theorem ofItems_eq_map (items : List Value) : ofItems items = items.map ofValue := by
  induction items with
  | nil => rfl
  | cons v rest ih => rw [ofItems, ih, List.map_cons]

theorem ofFields_eq_map (fields : List (String × Value)) :
    ofFields fields = fields.map fun field => (some field.1, ofValue field.2) := by
  induction fields with
  | nil => rfl
  | cons field rest ih => rw [ofFields, ih, List.map_cons]

end Syntax

section Reading

open Syntax (ofValue)

theorem pretty_list {items : List Value} (h : items ≠ []) (level : Nat) :
    pretty level (.list items) =
      '[' :: '\n' :: (lines (level + 1) (items.map (pretty (level + 1))) ++
        '\n' :: (indentation level ++ [']'])) := by
  cases items with
  | nil => exact absurd rfl h
  | cons v rest => rw [pretty, block_eq, prettyItems_eq_map]; exact List.cons_ne_nil _ _

theorem pretty_object {fields : List (String × Value)} (h : fields ≠ []) (level : Nat) :
    pretty level (.object fields) =
      '\x7b' :: '\n' ::
        (lines (level + 1)
            ((fields.map fun field => (field.1, pretty (level + 1) field.2)).map fieldText) ++
          '\n' :: (indentation level ++ ['\x7d'])) := by
  cases fields with
  | nil => exact absurd rfl h
  | cons field rest =>
      rw [pretty, block_eq, prettyFields_eq_map, List.map_map]
      · rfl
      · exact List.cons_ne_nil _ _

/-- A value without fractions is read from its text wherever this stands. -/
theorem readsAs_pretty {v : Value} (h : v.Whole) (level : Nat) :
    ReadsAs (pretty level v) (ofValue v) := by
  induction h generalizing level with
  | null => exact readsAs_cons fun fuel rest _ _ => by rw [value]; rfl
  | bool b => cases b <;> exact readsAs_cons fun fuel rest _ _ => by rw [value]; rfl
  | @int n =>
      obtain ⟨c, cs, hText, hStart⟩ := exists_toString_eq_cons n
      rw [show pretty level (.int n) = c :: cs from hText]
      refine readsAs_cons fun fuel rest _ hEnd => ?_
      have hNumeral := numeral_toString n hEnd
      rw [hText, List.cons_append] at hNumeral
      rw [value_number hStart, hNumeral]
      rfl
  | string text =>
      refine readsAs_cons fun fuel rest _ _ => ?_
      rw [value_string]
      simp [stringLiteral_flatMap_escapeChar, ofValue]
  | @list items hWhole ih =>
      rcases eq_or_ne items [] with rfl | hSome
      · exact readsAs_cons fun fuel rest _ _ => by rw [value]; rfl
      · have hItems : List.Forall₂ ReadsAs (items.map (pretty (level + 1)))
            (items.map ofValue) := by
          rw [List.forall₂_map_left_iff, List.forall₂_map_right_iff]
          exact List.forall₂_same.mpr fun v hMem => ih v hMem (level + 1)
        -- The reader tells a list from an empty one by the first character of its first item.
        obtain ⟨v, more, rfl⟩ := List.exists_cons_of_ne_nil hSome
        obtain ⟨c, cs, hText, hStart⟩ :=
          exists_pretty_eq_cons (hWhole v List.mem_cons_self) (level + 1)
        rw [pretty_list hSome, ofValue, Syntax.ofItems_eq_map]
        exact readsAs_array hItems (by rw [List.map_cons, List.head?_cons, hText]) hStart level
  | @object fields hWhole ih =>
      rcases eq_or_ne fields [] with rfl | hSome
      · exact readsAs_cons fun fuel rest _ _ => by rw [value]; rfl
      · have hFields : List.Forall₂ (fun text syn => text.1 = syn.1 ∧ ReadsAs text.2 syn.2)
            (fields.map fun field => (field.1, pretty (level + 1) field.2))
            (fields.map fun field => (field.1, ofValue field.2)) := by
          rw [List.forall₂_map_left_iff, List.forall₂_map_right_iff]
          exact List.forall₂_same.mpr fun field hMem => ⟨rfl, ih field hMem (level + 1)⟩
        have hObject := readsAs_object hFields (by simpa using hSome) level
        rw [pretty_object hSome, ofValue, Syntax.ofFields_eq_map]
        simpa only [List.map_map, Function.comp_def] using hObject

/-- A text that holds a value and the end of its line is read as that value. -/
theorem read_write {v : Value} (h : v.Whole) : read (write v ++ "\n") = some (ofValue v) := by
  have hText : (write v ++ "\n").toList = pretty 0 v ++ ['\n'] := by simp [write]
  have hValue := readsAs_pretty h 0 ((pretty 0 v ++ ['\n']).length + 1) ['\n']
    (by rw [List.length_append]; omega) endsNumber_newline
  rw [read, hText]
  simp only [hValue]
  rfl

end Reading

section Meaning

open Syntax (ofValue)

/-- What is read from the text of a value means the value. -/
theorem value?_ofValue {v : Value} (hWhole : v.Whole) (hOrdered : v.Ordered) {depth : Nat}
    (hDepth : v.nesting ≤ depth) : (ofValue v).value? depth = some v := by
  induction hWhole generalizing depth with
  | null => cases depth <;> rfl
  | bool b => cases depth <;> rfl
  | int hLeast hGreatest =>
      rw [ofValue, Syntax.value?, number?_numeralOf hLeast hGreatest]
      rfl
  | string text => cases depth <;> rfl
  | @list items _ ih =>
      cases hOrdered with
      | list hItems =>
          cases depth with
          | zero => simp [Value.nesting] at hDepth
          | succ depth =>
              rw [Value.nesting_list_le_iff] at hDepth
              rw [ofValue, Syntax.ofItems_eq_map, Syntax.value?,
                mapM_map_eq_some fun v hMem => ih v hMem (hItems v hMem) (hDepth v hMem)]
              rfl
  | @object fields _ ih =>
      cases hOrdered with
      | object hSorted hFields =>
          cases depth with
          | zero => simp [Value.nesting] at hDepth
          | succ depth =>
              rw [Value.nesting_object_le_iff] at hDepth
              rw [ofValue, Syntax.ofFields_eq_map, Syntax.value?,
                mapM_map_eq_some fun field hMem => by
                  simp [ih field hMem (hFields field hMem) (hDepth field hMem)]]
              simp [Value.ofFields, Value.ofDict, Dict.entries_ofList_of_sorted hSorted]

end Meaning

end Json

end KubeInventory
