import KubeInventory.Proofs.JsonText
import KubeInventory.Report.Text

/-! Report files in JSON, read back. What a report leaves out when it is written, because it is
empty, comes back as empty at every level. -/

namespace KubeInventory

open Json.Syntax (ofValue)

namespace Json.Syntax

/-- The keys of an object are texts, and they come back as they are. -/
theorem fields?_ofValue (fields : List (String × Value)) :
    (ofValue (.object fields)).fields? =
      some (fields.map fun field => (field.1, ofValue field.2)) := by
  rw [ofValue, ofFields_eq_map, fields?, mapM_eq_some_iff, List.forall₂_map_left_iff,
    List.forall₂_map_right_iff]
  exact List.forall₂_same.mpr fun field _ => rfl

/-- A record is taken apart into the parts that it was written from. -/
theorem record?_ofValue_written {parts : List (String × Option Value)}
    (hNames : (parts.map Prod.fst).Nodup) :
    (ofValue (.object (Record.written parts))).record? (parts.map Prod.fst) =
      some (parts.map fun part => part.2.map ofValue) := by
  have hFields := fields?_ofValue (Record.written parts)
  rw [ofValue] at hFields ⊢
  rw [record?, hFields]
  exact Record.parts?_map_written hNames ofValue

end Json.Syntax

namespace Report

/-- Reports whose details hold values that JSON keeps exactly. -/
inductive Exact : Report → Prop
  | intro {r : Report} (details_exact : ∀ e ∈ r.details.entries, e.2.Whole ∧ e.2.Ordered)
      (children_exact : ∀ child ∈ r.children, Exact child) : Exact r

theorem values_eq_map (reports : List Report) : values reports = reports.map value := by
  induction reports with
  | nil => rfl
  | cons r rest ih => rw [values, ih, List.map_cons]

/-- The parts of the record that a report is written as; those that are empty are left out. -/
def parts (r : Report) : List (String × Option Value) :=
  [("name", some (.string r.name)),
    ("status", if r.status.isEmpty then none else some (.string r.status)),
    ("meta", if r.metadata.isEmpty then none else some (.ofStringDict r.metadata)),
    ("details", if r.details.isEmpty then none else some (.ofDict r.details)),
    ("items", if r.children.isEmpty then none else some (.list (r.children.map value)))]

/-- A report is written as a record whose empty parts are left out. -/
theorem value_eq_written (r : Report) : r.value = .object (Record.written r.parts) := by
  obtain ⟨name, status, metadata, details, children⟩ := r
  rw [value, values_eq_map, parts]
  congr 1
  cases status.isEmpty <;> cases metadata.isEmpty <;> cases details.isEmpty <;>
    cases children.isEmpty <;> rfl

theorem names_parts (r : Report) : r.parts.map Prod.fst = fieldNames := rfl

/-- The record of a report is taken apart into the parts of that report. -/
theorem record?_value (r : Report) :
    (ofValue r.value).record? fieldNames = some (r.parts.map fun part => part.2.map ofValue) := by
  rw [value_eq_written, ← names_parts r]
  exact Json.Syntax.record?_ofValue_written (by rw [names_parts]; decide)

/-- Each part of a report is nested less deeply than the report. -/
theorem nesting_of_mem_parts {r : Report} {depth : Nat} (h : r.value.nesting ≤ depth + 1)
    {name : String} {v : Value} (hPart : (name, some v) ∈ r.parts) : v.nesting ≤ depth := by
  rw [value_eq_written, Value.nesting_object_le_iff] at h
  exact h (name, v) (Record.mem_written_iff.mpr hPart)

/-- What can stand in a part of a report. -/
theorem eq_of_mem_parts {r : Report} {name : String} {v : Value} (h : (name, some v) ∈ r.parts) :
    v = .string r.name ∨ v = .string r.status ∨ v = .ofStringDict r.metadata ∨
      v = .ofDict r.details ∨ v = .list (r.children.map value) := by
  simp only [parts, List.mem_cons, Prod.mk.injEq, Option.some.injEq, List.not_mem_nil, or_false,
    Option.ite_none_left_eq_some, eq_comm (a := some v)] at h
  tauto

/-- A report is written without fractions if its details have none. -/
theorem whole_value {r : Report} (h : r.Exact) : r.value.Whole := by
  induction h with
  | @intro r hDetails _ ih =>
      rw [value_eq_written]
      refine .object fun field hField => ?_
      rcases eq_of_mem_parts (Record.mem_written_iff.mp hField) with h | h | h | h | h <;> rw [h]
      · exact .string r.name
      · exact .string r.status
      · refine .object fun entry hEntry => ?_
        obtain ⟨_, -, rfl⟩ := List.mem_map.mp hEntry
        exact .string _
      · exact .object fun entry hEntry => (hDetails entry hEntry).1
      · refine .list fun v hMem => ?_
        obtain ⟨child, hChild, rfl⟩ := List.mem_map.mp hMem
        exact ih child hChild

/-- A part that is left out when it is empty reads as its default, and else as what it was written
from. -/
theorem orElse_written {α : Type} {empty : Bool} {v : Value} {default x : α}
    {read : Json.Syntax → Option α} (hEmpty : empty = true → x = default)
    (hRead : empty = false → read (ofValue v) = some x) :
    Record.orElse ((if empty then none else some v).map ofValue) default read = some x := by
  cases empty with
  | true => rw [hEmpty rfl]; rfl
  | false => exact hRead rfl

theorem metadataOfJson?_ofValue (metadata : Dict String String) (depth : Nat) :
    metadataOfJson? (depth + 1) (ofValue (.ofStringDict metadata)) = some metadata := by
  rw [metadataOfJson?, Value.ofStringDict, Value.ofDict, Json.Syntax.fields?_ofValue, Dict.map,
    List.map_map]
  rw [Option.bind_eq_bind, Option.bind_some]
  refine Option.bind_eq_some_iff.mpr ⟨metadata.entries, mapM_map_eq_some fun e _ => rfl, ?_⟩
  exact congrArg some (Dict.ext (Dict.entries_ofList_of_sorted metadata.sorted))

/-- Details come back one by one, each value by itself and all under their keys. -/
theorem detailsOfJson?_ofValue {details : Dict String Value} {depth : Nat}
    (hExact : ∀ e ∈ details.entries, e.2.Whole ∧ e.2.Ordered)
    (hDepth : ∀ e ∈ details.entries, e.2.nesting ≤ depth) :
    detailsOfJson? (depth + 1) (ofValue (.ofDict details)) = some details := by
  rw [detailsOfJson?, Value.ofDict, Json.Syntax.fields?_ofValue]
  rw [Option.bind_eq_bind, Option.bind_some]
  refine Option.bind_eq_some_iff.mpr ⟨details.entries, mapM_map_eq_some fun e hMem => ?_, ?_⟩
  · rw [Json.value?_ofValue (hExact e hMem).1 (hExact e hMem).2 (hDepth e hMem), Option.map_some]
  · exact congrArg some (Dict.ext (Dict.entries_ofList_of_sorted details.sorted))

/-- Reads the children of a report. -/
def childrenOfJson? (depth : Nat) (items : Json.Syntax) : Option (List Report) :=
  match depth with
  | 0 => none
  | depth + 1 => items.array?.bind fun items => items.mapM (ofJson? depth)

/-- Children come back in order if each of them does. -/
theorem childrenOfJson?_ofValue {children : List Report} {depth : Nat}
    (h : ∀ child ∈ children, ofJson? depth (ofValue child.value) = some child) :
    childrenOfJson? (depth + 1) (ofValue (.list (children.map value))) = some children := by
  rw [childrenOfJson?, ofValue, Json.Syntax.ofItems_eq_map, List.map_map]
  exact mapM_map_eq_some h

section Parts

variable {r : Report} {depth : Nat}

theorem orElse_status (r : Report) :
    Record.orElse ((if r.status.isEmpty then none else some (.string r.status)).map ofValue) ""
      Json.Syntax.string? = some r.status :=
  orElse_written String.isEmpty_iff.mp fun _ => rfl

theorem orElse_metadata (hDepth : r.value.nesting ≤ depth + 1) :
    Record.orElse
      ((if r.metadata.isEmpty then none else some (.ofStringDict r.metadata)).map ofValue) ∅
      (metadataOfJson? depth) = some r.metadata := by
  refine orElse_written Dict.eq_empty_of_isEmpty fun hSome => ?_
  have hPart : ("meta", some (.ofStringDict r.metadata)) ∈ r.parts := by simp [parts, hSome]
  have hFits := nesting_of_mem_parts hDepth hPart
  cases depth with
  | zero => simp [Value.ofStringDict, Value.ofDict, Value.nesting] at hFits
  | succ depth => exact metadataOfJson?_ofValue r.metadata depth

theorem orElse_details (hExact : ∀ e ∈ r.details.entries, e.2.Whole ∧ e.2.Ordered)
    (hDepth : r.value.nesting ≤ depth + 1) :
    Record.orElse ((if r.details.isEmpty then none else some (.ofDict r.details)).map ofValue) ∅
      (detailsOfJson? depth) = some r.details := by
  refine orElse_written Dict.eq_empty_of_isEmpty fun hSome => ?_
  have hPart : ("details", some (.ofDict r.details)) ∈ r.parts := by simp [parts, hSome]
  have hFits := nesting_of_mem_parts hDepth hPart
  cases depth with
  | zero => simp [Value.ofDict, Value.nesting] at hFits
  | succ depth => exact detailsOfJson?_ofValue hExact (Value.nesting_object_le_iff.mp hFits)

/-- Children left out were none. Those that are there are nested less deeply than the report. -/
theorem orElse_children (hDepth : r.value.nesting ≤ depth + 1)
    (h : ∀ child ∈ r.children, ∀ {depth : Nat}, child.value.nesting ≤ depth →
      ofJson? depth (ofValue child.value) = some child) :
    Record.orElse
      ((if r.children.isEmpty then none else some (.list (r.children.map value))).map ofValue) []
      (childrenOfJson? depth) = some r.children := by
  refine orElse_written List.isEmpty_iff.mp fun hSome => ?_
  have hPart : ("items", some (.list (r.children.map value))) ∈ r.parts := by simp [parts, hSome]
  have hFits := nesting_of_mem_parts hDepth hPart
  cases depth with
  | zero => simp [Value.nesting] at hFits
  | succ depth =>
      rw [Value.nesting_list_le_iff, List.forall_mem_map] at hFits
      exact childrenOfJson?_ofValue fun child hChild => h child hChild (hFits child hChild)

/-- A report is read back from the record that it is written as. -/
theorem ofJson?_ofValue (h : r.Exact) (hDepth : r.value.nesting ≤ depth) :
    ofJson? depth (ofValue r.value) = some r := by
  induction h generalizing depth with
  | @intro r hDetails _ ih =>
      cases depth with
      | zero => simp [value_eq_written, Value.nesting] at hDepth
      | succ depth =>
          have hName : (ofValue (.string r.name)).string? = some r.name := rfl
          rw [ofJson?, record?_value, parts]
          simp only [List.map_cons, List.map_nil, Option.map_some, Option.bind_eq_bind,
            Option.bind_some, hName, orElse_status, orElse_metadata hDepth,
            orElse_details hDetails hDepth]
          exact Option.bind_eq_some_iff.mpr
            ⟨r.children, orElse_children hDepth ih, by cases r; rfl⟩

end Parts

/-- The text of a report in JSON is read as the report, and is no other report's, if its details are
exact and it is not nested more deeply than the reader goes. -/
theorem read?_write_json {r : Report} (hExact : r.Exact)
    (hDepth : r.value.nesting ≤ Json.depthLimit) :
    read? .json (r.write .json) = some r ∧
      ∀ r' : Report, r'.Exact → r'.value.nesting ≤ Json.depthLimit →
        r'.write .json = r.write .json → r' = r := by
  have hRead {r : Report} (hExact : r.Exact) (hDepth : r.value.nesting ≤ Json.depthLimit) :
      read? .json (r.write .json) = some r := by
    simp only [read?, write, Json.read_write (whole_value hExact), Option.bind_some]
    exact ofJson?_ofValue hExact hDepth
  refine ⟨hRead hExact hDepth, fun r' hExact' hDepth' hSame => ?_⟩
  have hOther := hRead hExact' hDepth'
  rw [hSame, hRead hExact hDepth] at hOther
  exact (Option.some.inj hOther).symm

/-- A report with texts that need escapes, an explicit null and an empty object among its details,
and parts that say nothing. -/
def quotedReport : Report :=
  ((new "say \"hi\"\n" "").withDetail "spec"
    (.object [("empty", .object []), ("port", .null)])).push
    ((new "" complete).withMetadata "a\\b" "\x07")

theorem read?_write_json_quotedReport :
    read? .json (quotedReport.write .json) = some quotedReport := by
  have hChild : ((new "" complete).withMetadata "a\\b" "\x07").Exact := .intro nofun nofun
  have hExact : quotedReport.Exact := by
    refine .intro (fun e hMem => ?_) fun child hMem => ?_
    · obtain rfl := List.mem_singleton.mp hMem
      exact ⟨.object (by simp [Value.Whole.null, Value.Whole.object]),
        .object (by decide) (by simp [Value.Ordered.null, Value.Ordered.object])⟩
    · obtain rfl := List.mem_singleton.mp hMem
      exact hChild
  exact (read?_write_json hExact (by decide)).1

end Report

end KubeInventory
