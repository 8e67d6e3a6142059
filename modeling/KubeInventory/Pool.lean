/-! Work on many parts in a pool. Parts are begun in the order in which they are given, never more
of them at a time than the pool has places, and any part under way may be the next to be done. -/

namespace KubeInventory

/-- The number of places in a pool. There is at least one, or else nothing would ever be done. -/
structure Places where
  count : Nat
  pos : 0 < count

/-- The places for a wanted number of parts at a time; a wish for none counts as one. -/
def Places.ofWanted (wanted : Nat) : Places := ⟨max wanted 1, Nat.le_max_right wanted 1⟩

/-- Which of the parts under way is done next, told for each turn by a number that counts them in
the order in which they were begun, and starts over past the last. -/
structure Completion where
  next : Nat → Nat

/-- Of the parts under way the one begun first is always done next. -/
def Completion.inOrder : Completion := ⟨fun _ => 0⟩

instance : Inhabited Completion := ⟨.inOrder⟩

/-- The parts that wait, those under way in the order in which they were begun, and those done in
the order in which they were. -/
structure Pool (α : Type) where
  waiting : List α
  underWay : List α
  done : List α

namespace Pool

variable {α : Type}

def ofParts (parts : List α) : Pool α := ⟨parts, [], []⟩

/-- Begins parts until no place is free or none waits. -/
def fill (places : Places) (p : Pool α) : Pool α :=
  let free := places.count - p.underWay.length
  { p with
    waiting := p.waiting.drop free
    underWay := p.underWay ++ p.waiting.take free }

/-- Has the part under way done that the number tells. -/
def finish (number : Nat) (p : Pool α) : Pool α :=
  let place := number % p.underWay.length
  { p with
    underWay := p.underWay.eraseIdx place
    done := p.done ++ p.underWay[place]?.toList }

/-- The pool after some turns, in each of which it fills up and one part is done. -/
def run (places : Places) (c : Completion) (parts : List α) : (turns : Nat) → Pool α
  | 0 => ofParts parts
  | turns + 1 => ((run places c parts turns).fill places).finish (c.next turns)

end Pool

/-- The parts in the order in which they are done. There are as many turns as parts. -/
def Completion.order {α : Type} (c : Completion) (places : Places) (parts : List α) : List α :=
  (Pool.run places c parts parts.length).done

end KubeInventory
