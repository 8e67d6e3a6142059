import KubeInventory.Proofs.JsonText

/-! Values of JSON at the front of a text. What is read from a text is read from it in front of more
text too, with the rest made longer, unless the text ends in a number that is carried on; and more
fuel than enough changes nothing. -/

namespace KubeInventory.Json

open KubeInventory.Text

section Scalars

variable {cs rest more : List Char}

/-- Text with more after it starts with the same character. -/
theorem cons_append_ne {c d : Char} (h : ∀ tail, c :: cs = d :: tail → False) (tail : List Char)
    (hSame : c :: (cs ++ more) = d :: tail) : False :=
  h cs (by rw [(List.cons.inj hSame).1])

/-- White space ends where it ended before, if it does not reach the end of the text. -/
theorem skipSpace_append {c : Char} (h : skipSpace cs = c :: rest) :
    skipSpace (cs ++ more) = c :: (rest ++ more) := by
  rw [skipSpace] at h ⊢
  rw [List.dropWhile_append, h]
  rfl

/-- Digits end where they ended before, unless more of them follow. -/
theorem digits_append_more {ds : List Char} (h : digits cs = some (ds, rest))
    (hEnd : EndsNumber more) : digits (cs ++ more) = some (ds, rest ++ more) := by
  obtain ⟨rfl, hSome, hDigits, hStop⟩ := digits_eq_some_iff.mp h
  refine digits_eq_some_iff.mpr ⟨List.append_assoc _ _ _, hSome, hDigits, fun c hc => ?_⟩
  cases rest with
  | nil => exact (hEnd c hc).1
  | cons d rest => exact hStop c hc

/-- A whole part is a zero alone or a row of digits, and neither goes on behind the end. -/
theorem wholePart_append {ds : List Char} (h : wholePart cs = some (ds, rest))
    (hEnd : EndsNumber more) : wholePart (cs ++ more) = some (ds, rest ++ more) := by
  rw [wholePart.eq_def] at h
  split at h
  · obtain ⟨rfl, rfl⟩ := Prod.mk.inj (Option.some.inj h)
    rfl
  · rename_i hZero
    cases cs with
    | nil => cases h
    | cons c cs =>
        rw [List.cons_append, wholePart]
        · exact digits_append_more h hEnd
        · exact cons_append_ne hZero

/-- A part that is read behind a mark is read there in front of more text. -/
theorem map_append {α β : Type} {read : List Char → Option (α × List Char)} (f : α → β)
    (hRead : ∀ {a rest}, read cs = some (a, rest) → read (cs ++ more) = some (a, rest ++ more))
    {b : β} (h : (read cs).map (Prod.map f id) = some (b, rest)) :
    (read (cs ++ more)).map (Prod.map f id) = some (b, rest ++ more) := by
  obtain ⟨⟨a, after⟩, hPart, hPair⟩ := Option.map_eq_some_iff.mp h
  obtain ⟨rfl, rfl⟩ := Prod.mk.inj hPair
  rw [hRead hPart]
  rfl

/-- A fraction ends where it ended before, and where there was none, what follows starts none. -/
theorem fractionPart_append {fraction : Option (List Char)}
    (h : fractionPart cs = some (fraction, rest)) (hEnd : EndsNumber more) :
    fractionPart (cs ++ more) = some (fraction, rest ++ more) := by
  rw [fractionPart.eq_def] at h
  split at h
  · exact map_append some (digits_append_more · hEnd) h
  · rename_i hPoint
    obtain ⟨rfl, rfl⟩ := Prod.mk.inj (Option.some.inj h)
    cases cs with
    | nil => exact fractionPart_of_endsNumber hEnd
    | cons c cs =>
        rw [List.cons_append, fractionPart]
        exact cons_append_ne hPoint

theorem exponentDigits_append {e : Bool × List Char}
    (h : exponentDigits cs = some (e, rest)) (hEnd : EndsNumber more) :
    exponentDigits (cs ++ more) = some (e, rest ++ more) := by
  rw [exponentDigits.eq_def] at h
  split at h
  · exact map_append (Prod.mk false) (digits_append_more · hEnd) h
  · exact map_append (Prod.mk true) (digits_append_more · hEnd) h
  · rename_i hPlus hMinus
    cases cs with
    | nil => cases h
    | cons c cs =>
        rw [List.cons_append, exponentDigits]
        · exact map_append (Prod.mk false) (digits_append_more · hEnd) h
        · exact cons_append_ne hPlus
        · exact cons_append_ne hMinus

/-- The same of an exponent. -/
theorem exponentPart_append {exponent : Option (Bool × List Char)}
    (h : exponentPart cs = some (exponent, rest)) (hEnd : EndsNumber more) :
    exponentPart (cs ++ more) = some (exponent, rest ++ more) := by
  rw [exponentPart.eq_def] at h
  split at h
  · exact map_append some (exponentDigits_append · hEnd) h
  · exact map_append some (exponentDigits_append · hEnd) h
  · rename_i hSmall hCapital
    obtain ⟨rfl, rfl⟩ := Prod.mk.inj (Option.some.inj h)
    cases cs with
    | nil => exact exponentPart_of_endsNumber hEnd
    | cons c cs =>
        rw [List.cons_append, exponentPart]
        · exact cons_append_ne hSmall
        · exact cons_append_ne hCapital

theorem unsignedNumeral_append {negative : Bool} {n : Numeral}
    (h : unsignedNumeral negative cs = some (n, rest)) (hEnd : EndsNumber more) :
    unsignedNumeral negative (cs ++ more) = some (n, rest ++ more) := by
  simp only [unsignedNumeral, Option.bind_eq_bind, Option.bind_eq_some_iff] at h ⊢
  obtain ⟨⟨whole, afterWhole⟩, hWhole, ⟨fraction, afterFraction⟩, hFraction,
    ⟨exponent, after⟩, hExponent, hPair⟩ := h
  obtain ⟨rfl, rfl⟩ := Prod.mk.inj (Option.some.inj hPair)
  exact ⟨_, wholePart_append hWhole hEnd, _, fractionPart_append hFraction hEnd, _,
    exponentPart_append hExponent hEnd, rfl⟩

/-- The parts of a number end where they ended before, one after the other. -/
theorem numeral_append {n : Numeral} (h : numeral cs = some (n, rest)) (hEnd : EndsNumber more) :
    numeral (cs ++ more) = some (n, rest ++ more) := by
  rw [numeral.eq_def] at h
  split at h
  · exact unsignedNumeral_append h hEnd
  · rename_i hMinus
    cases cs with
    | nil => cases h
    | cons c cs =>
        rw [List.cons_append, numeral]
        · exact unsignedNumeral_append h hEnd
        · exact cons_append_ne hMinus

/-- A number starts with a digit or a minus sign. -/
theorem exists_cons_of_numeral {n : Numeral} (h : numeral cs = some (n, rest)) :
    ∃ c tail, cs = c :: tail ∧ (isDigit c = true ∨ c = '-') := by
  rw [numeral.eq_def] at h
  split at h
  · exact ⟨_, _, rfl, .inr rfl⟩
  · simp only [unsignedNumeral, Option.bind_eq_bind, Option.bind_eq_some_iff] at h
    obtain ⟨⟨whole, after⟩, hWhole, -⟩ := h
    rw [wholePart.eq_def] at hWhole
    split at hWhole
    · exact ⟨_, _, rfl, .inl (by decide)⟩
    · obtain ⟨rfl, hSome, hDigits, -⟩ := digits_eq_some_iff.mp hWhole
      obtain ⟨d, ds, rfl⟩ := List.exists_cons_of_ne_nil hSome
      exact ⟨d, _, rfl, .inl (hDigits d List.mem_cons_self)⟩

/-- A text is closed by its quotation mark, so nothing behind that mark belongs to it. -/
theorem stringUnits_append {units : List Nat} (h : stringUnits cs = some (units, rest)) :
    stringUnits (cs ++ more) = some (units, rest ++ more) := by
  fun_induction stringUnits cs generalizing units rest with
  | case1 => cases h
  | case2 after =>
      obtain ⟨rfl, rfl⟩ := Prod.mk.inj (Option.some.inj h)
      rfl
  | case3 a b c d after ih =>
      simp only [Option.bind_eq_bind, Option.bind_eq_some_iff] at h
      obtain ⟨unit, hUnit, ⟨others, tail⟩, hAfter, hPair⟩ := h
      obtain ⟨rfl, rfl⟩ := Prod.mk.inj (Option.some.inj hPair)
      simp only [List.cons_append]
      rw [stringUnits, hUnit, ih hAfter]
      rfl
  | case4 e after hEscape ih =>
      simp only [Option.bind_eq_bind, Option.bind_eq_some_iff] at h
      obtain ⟨c, hChar, ⟨others, tail⟩, hAfter, hPair⟩ := h
      obtain ⟨rfl, rfl⟩ := Prod.mk.inj (Option.some.inj hPair)
      have hLetter : e ≠ 'u' := by
        rintro rfl
        cases hChar
      rw [List.cons_append, List.cons_append, stringUnits_escape hLetter hChar, ih hAfter]
      rfl
  | case5 c after hQuote hUnicode hEscape ih =>
      simp only [Option.bind_eq_bind, Option.bind_eq_some_iff, Option.guard_eq_some',
        Bool.and_eq_true, bne_iff_ne, decide_eq_true_eq] at h
      obtain ⟨-, ⟨hPlain, hBackslash⟩, ⟨others, tail⟩, hAfter, hPair⟩ := h
      obtain ⟨rfl, rfl⟩ := Prod.mk.inj (Option.some.inj hPair)
      rw [List.cons_append, stringUnits_plain hQuote hBackslash hPlain, ih hAfter]
      rfl

theorem stringLiteral_append {text : Literal} (h : stringLiteral cs = some (text, rest)) :
    stringLiteral (cs ++ more) = some (text, rest ++ more) := by
  simp only [stringLiteral, Option.bind_eq_bind, Option.bind_eq_some_iff] at h ⊢
  obtain ⟨⟨units, after⟩, hUnits, hPair⟩ := h
  obtain ⟨rfl, rfl⟩ := Prod.mk.inj (Option.some.inj hPair)
  exact ⟨_, stringUnits_append hUnits, rfl⟩

end Scalars

section Values

variable {fuel : Nat} {cs rest more : List Char}

/-- Items are read in one of two ways: another follows a comma, or the list is closed. -/
theorem elements_eq_some_iff {items : List Syntax} :
    elements (fuel + 1) cs = some (items, rest) ↔
      ∃ item after, value fuel cs = some (item, after) ∧
        ((∃ next others, skipSpace after = ',' :: next ∧ elements fuel next = some (others, rest) ∧
            items = item :: others) ∨
          skipSpace after = ']' :: rest ∧ items = [item]) := by
  rw [elements, Option.bind_eq_bind, Option.bind_eq_some_iff]
  constructor
  · rintro ⟨⟨item, after⟩, hItem, h⟩
    refine ⟨item, after, hItem, ?_⟩
    dsimp only at h
    split at h
    · rename_i next hNext
      obtain ⟨⟨others, last⟩, hOthers, hPair⟩ := Option.map_eq_some_iff.mp h
      obtain ⟨rfl, rfl⟩ := Prod.mk.inj hPair
      exact .inl ⟨next, others, hNext, hOthers, rfl⟩
    · rename_i hEnd
      obtain ⟨rfl, rfl⟩ := Prod.mk.inj (Option.some.inj h)
      exact .inr ⟨hEnd, rfl⟩
    · cases h
  · rintro ⟨item, after, hItem, ⟨next, others, hNext, hOthers, rfl⟩ | ⟨hEnd, rfl⟩⟩
    · exact ⟨(item, after), hItem, by simp [hNext, hOthers]⟩
    · exact ⟨(item, after), hItem, by simp [hEnd]⟩

/-- Fields are read likewise, each with its key, a colon and a value. -/
theorem members_eq_some_iff {fields : List (Literal × Syntax)} :
    members (fuel + 1) cs = some (fields, rest) ↔
      ∃ keyText key afterKey body item after, skipSpace cs = '"' :: keyText ∧
        stringLiteral keyText = some (key, afterKey) ∧ skipSpace afterKey = ':' :: body ∧
        value fuel body = some (item, after) ∧
        ((∃ next others, skipSpace after = ',' :: next ∧ members fuel next = some (others, rest) ∧
            fields = (key, item) :: others) ∨
          skipSpace after = '\x7d' :: rest ∧ fields = [(key, item)]) := by
  rw [members]
  constructor
  · intro h
    split at h
    · rename_i keyText hKey
      rw [Option.bind_eq_bind, Option.bind_eq_some_iff] at h
      obtain ⟨⟨key, afterKey⟩, hName, h⟩ := h
      dsimp only at h
      split at h
      · rename_i body hColon
        rw [Option.bind_eq_bind, Option.bind_eq_some_iff] at h
        obtain ⟨⟨item, after⟩, hItem, h⟩ := h
        refine ⟨keyText, key, afterKey, body, item, after, hKey, hName, hColon, hItem, ?_⟩
        dsimp only at h
        split at h
        · rename_i next hNext
          obtain ⟨⟨others, last⟩, hOthers, hPair⟩ := Option.map_eq_some_iff.mp h
          obtain ⟨rfl, rfl⟩ := Prod.mk.inj hPair
          exact .inl ⟨next, others, hNext, hOthers, rfl⟩
        · rename_i hEnd
          obtain ⟨rfl, rfl⟩ := Prod.mk.inj (Option.some.inj h)
          exact .inr ⟨hEnd, rfl⟩
        · cases h
      · cases h
    · cases h
  · rintro ⟨keyText, key, afterKey, body, item, after, hKey, hName, hColon, hItem,
      ⟨next, others, hNext, hOthers, rfl⟩ | ⟨hEnd, rfl⟩⟩
    · simp [hKey, hName, hColon, hItem, hNext, hOthers]
    · simp [hKey, hName, hColon, hItem, hEnd]

/-- What a value starts with does not end a list. -/
theorem exists_cons_of_value {j : Syntax} (h : value fuel cs = some (j, rest)) :
    ∃ c tail, skipSpace cs = c :: tail ∧ c ≠ ']' := by
  cases fuel with
  | zero => cases h
  | succ fuel =>
      rw [value] at h
      split at h
      case h_7 =>
        obtain ⟨⟨n, after⟩, hNumeral, -⟩ := Option.map_eq_some_iff.mp h
        obtain ⟨c, tail, hText, hStart⟩ := exists_cons_of_numeral hNumeral
        exact ⟨c, tail, hText, ne_of_startsNumber hStart (by decide)⟩
      all_goals
        rename_i hSpace
        exact ⟨_, _, hSpace, by decide⟩

/-- Items do not start with the closing bracket, so no list with items is read as empty. -/
theorem exists_cons_of_elements {items : List Syntax} (h : elements fuel cs = some (items, rest)) :
    ∃ c tail, skipSpace cs = c :: tail ∧ c ≠ ']' := by
  cases fuel with
  | zero => cases h
  | succ fuel =>
      obtain ⟨item, after, hItem, -⟩ := elements_eq_some_iff.mp h
      exact exists_cons_of_value hItem

/-- Fields start with the quotation mark of a key. -/
theorem exists_cons_of_members {fields : List (Literal × Syntax)}
    (h : members fuel cs = some (fields, rest)) : ∃ tail, skipSpace cs = '"' :: tail := by
  cases fuel with
  | zero => cases h
  | succ fuel =>
      obtain ⟨keyText, _, _, _, _, _, hKey, -⟩ := members_eq_some_iff.mp h
      exact ⟨keyText, hKey⟩

/-- What is read with some fuel is read with more of it, and with more text behind it unless that
carries on a number. -/
structure Framed (fuel : Nat) : Prop where
  value : ∀ {cs rest more : List Char} {j : Syntax} {enough : Nat},
    value fuel cs = some (j, rest) → EndsNumber more → fuel ≤ enough →
    Json.value enough (cs ++ more) = some (j, rest ++ more)
  elements : ∀ {cs rest more : List Char} {items : List Syntax} {enough : Nat},
    elements fuel cs = some (items, rest) → EndsNumber more → fuel ≤ enough →
    Json.elements enough (cs ++ more) = some (items, rest ++ more)
  members : ∀ {cs rest more : List Char} {fields : List (Literal × Syntax)} {enough : Nat},
    members fuel cs = some (fields, rest) → EndsNumber more → fuel ≤ enough →
    Json.members enough (cs ++ more) = some (fields, rest ++ more)

/-- The step for the items of a list. -/
theorem Framed.elements_succ (h : Framed fuel) {items : List Syntax} {enough : Nat}
    (hRead : Json.elements (fuel + 1) cs = some (items, rest)) (hEnd : EndsNumber more)
    (hFuel : fuel ≤ enough) :
    Json.elements (enough + 1) (cs ++ more) = some (items, rest ++ more) := by
  obtain ⟨item, after, hItem, hRest⟩ := elements_eq_some_iff.mp hRead
  refine elements_eq_some_iff.mpr ⟨item, after ++ more, h.value hItem hEnd hFuel, ?_⟩
  rcases hRest with ⟨next, others, hNext, hOthers, rfl⟩ | ⟨hClose, rfl⟩
  · exact .inl ⟨next ++ more, others, skipSpace_append hNext, h.elements hOthers hEnd hFuel, rfl⟩
  · exact .inr ⟨skipSpace_append hClose, rfl⟩

/-- The step for the fields of an object. -/
theorem Framed.members_succ (h : Framed fuel) {fields : List (Literal × Syntax)} {enough : Nat}
    (hRead : Json.members (fuel + 1) cs = some (fields, rest)) (hEnd : EndsNumber more)
    (hFuel : fuel ≤ enough) :
    Json.members (enough + 1) (cs ++ more) = some (fields, rest ++ more) := by
  obtain ⟨keyText, key, afterKey, body, item, after, hKey, hName, hColon, hItem, hRest⟩ :=
    members_eq_some_iff.mp hRead
  refine members_eq_some_iff.mpr ⟨keyText ++ more, key, afterKey ++ more, body ++ more, item,
    after ++ more, skipSpace_append hKey, stringLiteral_append hName, skipSpace_append hColon,
    h.value hItem hEnd hFuel, ?_⟩
  rcases hRest with ⟨next, others, hNext, hOthers, rfl⟩ | ⟨hClose, rfl⟩
  · exact .inl ⟨next ++ more, others, skipSpace_append hNext, h.members hOthers hEnd hFuel, rfl⟩
  · exact .inr ⟨skipSpace_append hClose, rfl⟩

/-- The step for values. There is a case for each character that a value can start with; lists and
objects that are not empty rest on their items and fields with less fuel. -/
theorem Framed.value_succ (h : Framed fuel) {j : Syntax} {enough : Nat}
    (hRead : Json.value (fuel + 1) cs = some (j, rest)) (hEnd : EndsNumber more)
    (hFuel : fuel ≤ enough) :
    Json.value (enough + 1) (cs ++ more) = some (j, rest ++ more) := by
  rw [Json.value] at hRead
  rw [← value_skipSpace]
  split at hRead
  case h_1 | h_2 | h_3 =>
    rename_i hSpace
    obtain ⟨rfl, rfl⟩ := Prod.mk.inj (Option.some.inj hRead)
    rw [skipSpace_append hSpace, Json.value]
    rfl
  case h_4 literal hSpace =>
    obtain ⟨⟨text, last⟩, hText, hPair⟩ := Option.map_eq_some_iff.mp hRead
    obtain ⟨rfl, rfl⟩ := Prod.mk.inj hPair
    rw [skipSpace_append hSpace, value_string, stringLiteral_append hText]
    rfl
  case h_5 body hSpace =>
    -- A list is closed at once, or its items are read with less fuel.
    rw [skipSpace_append hSpace]
    split at hRead
    · rename_i hClose
      obtain ⟨rfl, rfl⟩ := Prod.mk.inj (Option.some.inj hRead)
      have hOpen : skipSpace ('[' :: (body ++ more)) = '[' :: (body ++ more) := rfl
      rw [Json.value, hOpen]
      simp only [skipSpace_append hClose]
    · rw [elements_skipSpace] at hRead
      obtain ⟨⟨items, last⟩, hItems, hPair⟩ := Option.map_eq_some_iff.mp hRead
      obtain ⟨rfl, rfl⟩ := Prod.mk.inj hPair
      obtain ⟨c, tail, hHead, hOther⟩ := exists_cons_of_elements hItems
      rw [value_array, h.elements hItems hEnd hFuel]
      · rfl
      · rw [skipSpace_append hHead, List.head?_cons]
        exact fun hSame => hOther (Option.some.inj hSame)
  case h_6 body hSpace =>
    -- So it is with an object and its fields.
    rw [skipSpace_append hSpace]
    split at hRead
    · rename_i hClose
      obtain ⟨rfl, rfl⟩ := Prod.mk.inj (Option.some.inj hRead)
      have hOpen : skipSpace ('\x7b' :: (body ++ more)) = '\x7b' :: (body ++ more) := rfl
      rw [Json.value, hOpen]
      simp only [skipSpace_append hClose]
    · rw [members_skipSpace] at hRead
      obtain ⟨⟨fields, last⟩, hFields, hPair⟩ := Option.map_eq_some_iff.mp hRead
      obtain ⟨rfl, rfl⟩ := Prod.mk.inj hPair
      obtain ⟨tail, hHead⟩ := exists_cons_of_members hFields
      rw [value_object, h.members hFields hEnd hFuel]
      · rfl
      · rw [skipSpace_append hHead, List.head?_cons]
        exact fun hSame => absurd (Option.some.inj hSame) (by decide)
  case h_7 =>
    obtain ⟨⟨n, last⟩, hNumeral, hPair⟩ := Option.map_eq_some_iff.mp hRead
    obtain ⟨rfl, rfl⟩ := Prod.mk.inj hPair
    obtain ⟨c, tail, hText, hStart⟩ := exists_cons_of_numeral hNumeral
    have hMore := numeral_append hNumeral hEnd
    rw [hText, List.cons_append] at hMore
    rw [skipSpace_append hText, value_number hStart, hMore]
    rfl

/-- By induction on the fuel, which each kind of production hands on to the others less one. -/
theorem framed (fuel : Nat) : Framed fuel := by
  induction fuel with
  | zero => exact ⟨nofun, nofun, nofun⟩
  | succ fuel ih =>
      have hSucc {enough : Nat} (hFuel : fuel + 1 ≤ enough) : ∃ k, enough = k + 1 ∧ fuel ≤ k :=
        ⟨enough - 1, by omega, by omega⟩
      constructor
      · intro cs rest more j enough hRead hEnd hFuel
        obtain ⟨enough, rfl, hLess⟩ := hSucc hFuel
        exact ih.value_succ hRead hEnd hLess
      · intro cs rest more items enough hRead hEnd hFuel
        obtain ⟨enough, rfl, hLess⟩ := hSucc hFuel
        exact ih.elements_succ hRead hEnd hLess
      · intro cs rest more fields enough hRead hEnd hFuel
        obtain ⟨enough, rfl, hLess⟩ := hSucc hFuel
        exact ih.members_succ hRead hEnd hLess

/-- A text is read as the value at its front if nothing but white space is left of it. -/
theorem read_eq_some_iff {text : String} {j : Syntax} : read text = some j ↔
    ∃ rest, value (text.toList.length + 1) text.toList = some (j, rest) ∧
      skipSpace rest = [] := by
  simp only [read, Option.bind_eq_bind, Option.bind_eq_some_iff, Option.guard_eq_some',
    exists_const, Option.pure_def, Option.some.injEq, List.isEmpty_iff]
  constructor
  · rintro ⟨⟨syn, rest⟩, hValue, hRest, rfl⟩
    exact ⟨rest, hValue, hRest⟩
  · rintro ⟨rest, hValue, hRest⟩
    exact ⟨(j, rest), hValue, hRest, rfl⟩

end Values

end KubeInventory.Json
