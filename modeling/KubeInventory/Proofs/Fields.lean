import KubeInventory.Value

/-! What stands in a field of a document. A field may be missing, and one that is there may hold a
value of another form than the one that is looked for; either way something is taken in its place.
Here this is told by the values themselves, and what reads a field is shown to find just that. -/

namespace KubeInventory.Value

/-- An object, each of whose fields is as told by its key, and so is each field that it lacks. -/
def HasFields (v : Value) (Is : String → Option Value → Prop) : Prop :=
  ∃ d : Dict String Value, v = .ofDict d ∧ ∀ key, Is key (d.get? key)

/-- What a field gives that should hold a value of some form. It is what the field holds, unless the
field is missing or holds a value of another form. -/
inductive Gives {α : Type} (form : α → Value) (missing : α) : Option Value → α → Prop where
  | held (x : α) : Gives form missing (some (form x)) x
  | other {field : Option Value} (h : ∀ x, field ≠ some (form x)) :
      Gives form missing field missing

/-- What is read from a field that should hold a list: something from each of its items, in order.
-/
def GivesEach {α : Type} (read : Value → α) (field : Option Value) (xs : List α) : Prop :=
  ∃ items, Gives .list [] field items ∧ xs = items.map read

variable {α : Type} {form : α → Value} {missing x : α} {v : Value} {field : Option Value}

theorem string?_eq_some_iff {text : String} : v.string? = some text ↔ v = .string text := by
  cases v <;> simp [string?]

theorem list?_eq_some_iff {items : List Value} : v.list? = some items ↔ v = .list items := by
  cases v <;> simp [list?]

theorem fields?_eq_some_iff {fields : List (String × Value)} :
    v.fields? = some fields ↔ v = .object fields := by
  cases v <;> simp [fields?]

/-- A reader that accepts just the values of one form finds what the field gives. -/
theorem gives_iff_of_reader {read? : Value → Option α}
    (hRead : ∀ v x, read? v = some x ↔ v = form x) :
    Gives form missing field x ↔ (field.bind read?).getD missing = x := by
  have hHeld (y : α) : field.bind read? = some y ↔ field = some (form y) := by
    simp [Option.bind_eq_some_iff, hRead]
  constructor
  · intro h
    cases h with
    | held => rw [Option.bind_some, (hRead _ _).mpr rfl, Option.getD_some]
    | other hOther =>
        have hNone : field.bind read? = none :=
          Option.eq_none_iff_forall_ne_some.mpr fun y hSome => hOther y ((hHeld y).mp hSome)
        rw [hNone, Option.getD_none]
  · rintro rfl
    cases hBind : field.bind read? with
    | none =>
        refine .other fun y hSome => ?_
        rw [(hHeld y).mpr hSome] at hBind
        cases hBind
    | some y =>
        rw [(hHeld y).mp hBind]
        exact .held y

/-- A list that is read with the empty one as its default is what the field gives. -/
theorem gives_itemsOf (field : Option Value) : Gives .list [] field (itemsOf field) :=
  (gives_iff_of_reader fun _ _ => list?_eq_some_iff).mpr rfl

theorem mem_getD_nil_iff {xs : Option (List α)} : x ∈ xs.getD [] ↔ ∃ ys, xs = some ys ∧ x ∈ ys := by
  cases xs <;> simp

/-- Something is an item of a field only if the field holds a list. -/
theorem mem_itemsOf_iff : v ∈ itemsOf field ↔ ∃ items, field = some (.list items) ∧ v ∈ items := by
  simp only [itemsOf, mem_getD_nil_iff, Option.bind_eq_some_iff, list?_eq_some_iff,
    exists_eq_right]

theorem givesEach_itemsOf (read : Value → α) (field : Option Value) :
    GivesEach read field ((itemsOf field).map read) :=
  ⟨itemsOf field, gives_itemsOf field, rfl⟩

theorem gives_textField (v : Value) (key : String) :
    Gives .string "" (v.field? key) (v.textField key) :=
  (gives_iff_of_reader fun _ _ => string?_eq_some_iff).mpr rfl

/-- The words of a field are the texts in its list. -/
theorem mem_textsField?_iff {key word : String} : word ∈ (v.textsField? key).getD [] ↔
    ∃ items, v.field? key = some (.list items) ∧ .string word ∈ items := by
  simp only [textsField?, mem_getD_nil_iff, Option.map_eq_some_iff, Option.bind_eq_some_iff,
    list?_eq_some_iff, exists_eq_right]
  constructor
  · rintro ⟨words, ⟨items, hItems, rfl⟩, hWord⟩
    obtain ⟨item, hItem, hText⟩ := List.mem_filterMap.mp hWord
    obtain rfl := string?_eq_some_iff.mp hText
    exact ⟨items, hItems, hItem⟩
  · rintro ⟨items, hItems, hWord⟩
    exact ⟨_, ⟨items, hItems, rfl⟩, List.mem_filterMap.mpr ⟨_, hWord, rfl⟩⟩

end KubeInventory.Value
