/-! Texts within texts. -/

namespace KubeInventory.Text

/-- Whether characters stand somewhere in a row among others. -/
def occurIn (part : List Char) : List Char → Bool
  | [] => part.isEmpty
  | c :: rest => part.isPrefixOf (c :: rest) || occurIn part rest

theorem occurIn_iff {part cs : List Char} : occurIn part cs = true ↔ part <:+: cs := by
  induction cs with
  | nil => simp [occurIn]
  | cons c rest ih => simp [occurIn, ih, List.infix_cons_iff]

/-- Whether a text holds another. -/
def holds (text part : String) : Bool := occurIn part.toList text.toList

theorem holds_iff {text part : String} :
    holds text part = true ↔ part.toList <:+: text.toList :=
  occurIn_iff

end KubeInventory.Text
