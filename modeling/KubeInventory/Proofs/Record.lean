import KubeInventory.Record
import Mathlib.Data.List.Forall2
import Mathlib.Data.List.Nodup

/-! Records read back. A record of distinct fields, of which some are left out, is taken apart into
just the parts that it was written from. -/

namespace KubeInventory

/-- A step over a list succeeds if it does on each element. -/
theorem mapM_eq_some_iff {α β : Type} {f : α → Option β} {xs : List α} {ys : List β} :
    xs.mapM f = some ys ↔ List.Forall₂ (fun x y => f x = some y) xs ys := by
  induction xs generalizing ys with
  | nil => simp [eq_comm]
  | cons x rest ih =>
      simp only [List.mapM_cons, Option.pure_def, Option.bind_eq_bind, Option.bind_eq_some_iff, ih,
        Option.some.injEq, List.forall₂_cons_left_iff]
      constructor
      · rintro ⟨y, hy, ys, hYs, rfl⟩
        exact ⟨y, ys, hy, hYs, rfl⟩
      · rintro ⟨y, ys, hy, hYs, rfl⟩
        exact ⟨y, hy, ys, hYs, rfl⟩

/-- What each element was made from comes back from all of them. -/
theorem mapM_map_eq_some {α β : Type} {f : β → Option α} {g : α → β} {xs : List α}
    (h : ∀ x ∈ xs, f (g x) = some x) : (xs.map g).mapM f = some xs := by
  rw [mapM_eq_some_iff, List.forall₂_map_left_iff]
  exact List.forall₂_same.mpr h

/-- Each result is that of some element. -/
theorem exists_of_mem_mapM {α β : Type} {f : α → Option β} {xs : List α} {ys : List β}
    (h : xs.mapM f = some ys) {y : β} (hMem : y ∈ ys) : ∃ x ∈ xs, f x = some y := by
  rw [mapM_eq_some_iff] at h
  induction h with
  | nil => cases hMem
  | cons hFirst hRest ih =>
      rcases List.mem_cons.mp hMem with rfl | hLater
      · exact ⟨_, List.mem_cons_self, hFirst⟩
      · obtain ⟨x, hx, hSome⟩ := ih hLater
        exact ⟨x, List.mem_cons_of_mem _ hx, hSome⟩

/-- A step over a list that succeeds does so on each element. -/
theorem isSome_of_mapM {α β : Type} {f : α → Option β} {xs : List α} {ys : List β}
    (h : xs.mapM f = some ys) {x : α} (hMem : x ∈ xs) : ∃ y, f x = some y := by
  rw [mapM_eq_some_iff] at h
  induction h with
  | nil => cases hMem
  | cons hFirst _ ih =>
      rcases List.mem_cons.mp hMem with rfl | hLater
      · exact ⟨_, hFirst⟩
      · exact ih hLater

theorem mapM_congr {α β : Type} {f g : α → Option β} {xs : List α} (h : ∀ x ∈ xs, f x = g x) :
    xs.mapM f = xs.mapM g := by
  induction xs with
  | nil => rfl
  | cons x rest ih =>
      obtain ⟨hFirst, hRest⟩ := List.forall_mem_cons.mp h
      rw [List.mapM_cons, List.mapM_cons, hFirst, ih hRest]

namespace Record

variable {α β : Type} {fields : List (String × α)} {name : String}

/-- What a field of a record reads as, with a default for one that is left out. -/
def Reads (fields : List (String × α)) (name : String) (default : β) (read : α → Option β)
    (x : β) : Prop :=
  ∃ part, single? fields name = some part ∧ orElse part default read = some x

/-- A record is taken apart name by name, and no part depends on another. -/
theorem parts?_eq_some_iff {names : List String} {parts : List (Option α)} :
    parts? names fields = some parts ↔
      List.Forall₂ (fun name part => single? fields name = some part) names parts :=
  mapM_eq_some_iff

/-- A field that is not there is no error. -/
theorem single?_of_absent (h : ∀ field ∈ fields, field.1 ≠ name) :
    single? fields name = some none := by
  have hNone : fields.filter (·.1 == name) = [] := by
    rw [List.filter_eq_nil_iff]
    intro field hField
    simpa using h field hField
  rw [single?, hNone]

theorem mem_of_single? {part : α} (h : single? fields name = some (some part)) :
    (name, part) ∈ fields := by
  rw [single?] at h
  split at h
  · cases h
  · rename_i field hOne
    have hMem : field ∈ fields.filter (·.1 == name) := by simp [hOne]
    obtain ⟨hField, hName⟩ := List.mem_filter.mp hMem
    obtain rfl : field.2 = part := by simpa using h
    rwa [← eq_of_beq hName]
  · cases h

/-- Where the field is missing the default is read. -/
theorem Reads.eq_of_absent {default : β} {read : α → Option β} {x : β}
    (hReads : Reads fields name default read x) (h : ∀ field ∈ fields, field.1 ≠ name) :
    x = default := by
  obtain ⟨part, hPart, hRead⟩ := hReads
  obtain rfl : none = part := Option.some.inj ((single?_of_absent h).symm.trans hPart)
  exact (Option.some.inj hRead).symm

/-- A part is left out, and then counts as the default, or it is there and reads as something. -/
theorem Reads.cases {default : β} {read : α → Option β} {x : β}
    (hReads : Reads fields name default read x) :
    x = default ∨ ∃ part, (name, part) ∈ fields ∧ read part = some x := by
  obtain ⟨part, hPart, hRead⟩ := hReads
  cases part with
  | none => exact .inl (Option.some.inj hRead).symm
  | some part => exact .inr ⟨part, mem_of_single? hPart, hRead⟩

/-- The fields of a record whose missing parts are left out. -/
def written (parts : List (String × Option α)) : List (String × α) :=
  parts.filterMap fun part => part.2.map (part.1, ·)

/-- Written are just the parts that are there. -/
theorem mem_written_iff {parts : List (String × Option α)} {field : String × α} :
    field ∈ written parts ↔ (field.1, some field.2) ∈ parts := by
  rw [written, List.mem_filterMap]
  constructor
  · rintro ⟨⟨other, part⟩, hPart, hField⟩
    obtain ⟨value, rfl, rfl⟩ := Option.map_eq_some_iff.mp hField
    exact hPart
  · intro hPart
    exact ⟨_, hPart, rfl⟩

theorem name_mem_of_mem_written {parts : List (String × Option α)} {field : String × α}
    (h : field ∈ written parts) : field.1 ∈ parts.map Prod.fst :=
  List.mem_map_of_mem (mem_written_iff.mp h)

theorem map_written (f : α → β) (parts : List (String × Option α)) :
    (written parts).map (fun field => (field.1, f field.2)) =
      written (parts.map fun part => (part.1, part.2.map f)) := by
  rw [written, written, List.map_filterMap, List.filterMap_map]
  refine List.filterMap_congr fun part _ => ?_
  obtain ⟨name, value⟩ := part
  cases value <;> rfl

theorem single?_cons_of_ne {other : String} {value : α} (h : other ≠ name) :
    single? ((other, value) :: fields) name = single? fields name := by
  rw [single?, single?, List.filter_cons_of_neg (by simpa using h)]

theorem single?_cons_self {value : α} (h : ∀ field ∈ fields, field.1 ≠ name) :
    single? ((name, value) :: fields) name = some (some value) := by
  have hNone : fields.filter (·.1 == name) = [] := by
    rw [List.filter_eq_nil_iff]
    intro field hField
    simpa using h field hField
  rw [single?, List.filter_cons_of_pos (by simp), hNone]

/-- Each part is found in what was written, also one that was left out: no other part has its name,
so nothing is mistaken for it. -/
theorem single?_written {parts : List (String × Option α)} (hNames : (parts.map Prod.fst).Nodup)
    {part : Option α} (h : (name, part) ∈ parts) : single? (written parts) name = some part := by
  induction parts with
  | nil => cases h
  | cons head rest ih =>
      obtain ⟨other, value?⟩ := head
      obtain ⟨hFresh, hRest⟩ := List.nodup_cons.mp hNames
      have hWritten : written ((other, value?) :: rest) =
          (value?.map (other, ·)).toList ++ written rest := by
        cases value? <;> rfl
      rw [hWritten]
      rcases List.mem_cons.mp h with hHead | hPart
      · obtain ⟨rfl, rfl⟩ := Prod.mk.inj hHead
        have hOthers : ∀ field ∈ written rest, field.1 ≠ name := fun field hField hSame =>
          hFresh (hSame ▸ name_mem_of_mem_written hField)
        cases part with
        | none => exact single?_of_absent hOthers
        | some value => exact single?_cons_self hOthers
      · have hOther : other ≠ name := fun hSame =>
          hFresh (hSame ▸ List.mem_map.mpr ⟨(name, part), hPart, rfl⟩)
        cases value? with
        | none => exact ih hRest hPart
        | some value =>
            rw [Option.map_some, Option.toList_some, List.singleton_append,
              single?_cons_of_ne hOther]
            exact ih hRest hPart

/-- What was written is taken apart into what it was written from. -/
theorem parts?_written {parts : List (String × Option α)} (hNames : (parts.map Prod.fst).Nodup) :
    parts? (parts.map Prod.fst) (written parts) = some (parts.map Prod.snd) := by
  rw [parts?_eq_some_iff, List.forall₂_map_left_iff, List.forall₂_map_right_iff]
  exact List.forall₂_same.mpr fun part hPart => single?_written hNames hPart

/-- The same after each field has been laid out. -/
theorem parts?_map_written {parts : List (String × Option α)} (hNames : (parts.map Prod.fst).Nodup)
    (f : α → β) :
    parts? (parts.map Prod.fst) ((written parts).map fun field => (field.1, f field.2)) =
      some (parts.map fun part => part.2.map f) := by
  have hNames' : ((parts.map fun part => (part.1, part.2.map f)).map Prod.fst).Nodup := by
    simpa only [List.map_map, Function.comp_def] using hNames
  have hParts := parts?_written hNames'
  simp only [List.map_map, Function.comp_def] at hParts
  rw [map_written]
  exact hParts

end Record

end KubeInventory
