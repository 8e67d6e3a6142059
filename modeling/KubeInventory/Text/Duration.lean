/-! Spans of time in the unit that suits their size. -/

namespace KubeInventory

/-- A span of time in whole milliseconds. -/
structure Duration where
  milliseconds : Nat
  deriving DecidableEq, Repr

namespace Duration

def ofSeconds (n : Nat) : Duration := ⟨n * 1000⟩

/-- A fraction of a second in thousandths: a point and the digits up to the last that is not zero.
-/
def fraction (thousandths : Nat) : String :=
  let digits := [thousandths / 100 % 10, thousandths / 10 % 10, thousandths % 10]
  match (digits.reverse.dropWhile (· == 0)).reverse with
  | [] => ""
  | kept => "." ++ String.join (kept.map toString)

/-- From one second on the span is shown in seconds, below that in milliseconds, and no time at all
in the smallest unit. -/
def text (d : Duration) : String :=
  if d.milliseconds == 0 then "0ns"
  else if d.milliseconds < 1000 then s!"{d.milliseconds}ms"
  else toString (d.milliseconds / 1000) ++ fraction (d.milliseconds % 1000) ++ "s"

end Duration

end KubeInventory
