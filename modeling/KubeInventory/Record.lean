/-! Records as they are written: fields with names, of which each declared one may be left out but
not written twice. -/

namespace KubeInventory.Record

variable {α β : Type}

/-- The one occurrence of a field, if any: `none` outside if it is repeated. -/
def single? (fields : List (String × α)) (name : String) : Option (Option α) :=
  match fields.filter (·.1 == name) with
  | [] => some none
  | [field] => some (some field.2)
  | _ => none

/-- The parts of a record by the order of its declared fields, each absent or written once. Fields
of other names are passed over. -/
def parts? (names : List String) (fields : List (String × α)) : Option (List (Option α)) :=
  names.mapM (single? fields)

/-- The default for a part that is left out, or what the part reads as. -/
def orElse (part : Option α) (default : β) (read : α → Option β) : Option β :=
  match part with
  | none => some default
  | some part => read part

end KubeInventory.Record
