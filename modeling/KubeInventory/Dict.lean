/-! Dictionaries kept in key order. The entries are a list whose keys strictly increase, so two
dictionaries with the same associations are the same value, and every listing of one comes out in
key order whatever order it was filled in. -/

namespace KubeInventory

/-- A finite map from `κ` to `α`, held as its entries in strictly increasing key order. -/
structure Dict (κ α : Type) [Ord κ] where
  entries : List (κ × α)
  sorted : entries.Pairwise fun a b => compare a.1 b.1 = .lt

namespace Dict

variable {κ α β : Type} [Ord κ]

instance [BEq κ] [BEq α] : BEq (Dict κ α) := ⟨fun a b => a.entries == b.entries⟩

theorem ext {a b : Dict κ α} (h : a.entries = b.entries) : a = b := by
  cases a; cases b; simp_all

def empty : Dict κ α := ⟨[], .nil⟩

instance : Inhabited (Dict κ α) := ⟨empty⟩
instance : EmptyCollection (Dict κ α) := ⟨empty⟩

def isEmpty (d : Dict κ α) : Bool := d.entries.isEmpty

def size (d : Dict κ α) : Nat := d.entries.length

def keys (d : Dict κ α) : List κ := d.entries.map Prod.fst

def values (d : Dict κ α) : List α := d.entries.map Prod.snd

/-- The first value filed under the key. -/
def lookup (key : κ) : List (κ × α) → Option α
  | [] => none
  | (k, v) :: rest => if compare key k = .eq then some v else lookup key rest

def get? (d : Dict κ α) (key : κ) : Option α := lookup key d.entries

def contains (d : Dict κ α) (key : κ) : Bool := (d.get? key).isSome

/-- Files a value at its place in the order, over an entry of the same key. -/
def place (key : κ) (value : α) : List (κ × α) → List (κ × α)
  | [] => [(key, value)]
  | (k, v) :: rest =>
    match compare key k with
    | .lt => (key, value) :: (k, v) :: rest
    | .eq => (key, value) :: rest
    | .gt => (k, v) :: place key value rest

theorem mem_place {key : κ} {value : α} {entries : List (κ × α)} {e : κ × α}
    (h : e ∈ place key value entries) : e = (key, value) ∨ e ∈ entries := by
  induction entries with
  | nil => simpa [place] using h
  | cons head rest ih =>
    simp only [place] at h
    split at h
    · simpa using h
    · simp only [List.mem_cons] at h ⊢
      exact h.imp_right .inr
    · simp only [List.mem_cons] at h ⊢
      rcases h with h | h
      · exact .inr (.inl h)
      · exact (ih h).imp_right .inr

variable [Std.TransOrd κ] [Std.LawfulEqOrd κ]

theorem sorted_place (key : κ) (value : α) {entries : List (κ × α)}
    (h : entries.Pairwise fun a b => compare a.1 b.1 = .lt) :
    (place key value entries).Pairwise fun a b => compare a.1 b.1 = .lt := by
  induction entries with
  | nil => simp [place]
  | cons head rest ih =>
    obtain ⟨k, v⟩ := head
    have hhead : ∀ e ∈ rest, compare k e.1 = .lt := fun e he => List.rel_of_pairwise_cons h he
    simp only [place]
    split
    · rename_i hlt
      refine List.Pairwise.cons (fun e he => ?_) h
      rcases List.mem_cons.mp he with rfl | he
      · exact hlt
      · exact Std.TransCmp.lt_trans hlt (hhead e he)
    · rename_i heq
      obtain rfl : key = k := Std.LawfulEqCmp.eq_of_compare heq
      exact List.Pairwise.cons (fun e he => hhead e he) h.of_cons
    · rename_i hgt
      refine List.Pairwise.cons (fun e he => ?_) (ih h.of_cons)
      rcases mem_place he with rfl | he
      · exact Std.OrientedCmp.gt_iff_lt.mp hgt
      · exact hhead e he

/-- Files the value under the key, in place of what was there. -/
def insert (d : Dict κ α) (key : κ) (value : α) : Dict κ α :=
  ⟨place key value d.entries, sorted_place key value d.sorted⟩

/-- Files the value unless the key is already taken. -/
def insertNew (d : Dict κ α) (key : κ) (value : α) : Dict κ α :=
  if d.contains key then d else d.insert key value

/-- Collects pairs in order: of a repeated key the last value stays. -/
def ofList (pairs : List (κ × α)) : Dict κ α :=
  pairs.foldl (fun d e => d.insert e.1 e.2) ∅

omit [Std.TransOrd κ] [Std.LawfulEqOrd κ] in
theorem sorted_filter (p : κ × α → Bool) (d : Dict κ α) :
    (d.entries.filter p).Pairwise fun a b => compare a.1 b.1 = .lt :=
  d.sorted.sublist List.filter_sublist

def erase (d : Dict κ α) (key : κ) : Dict κ α :=
  ⟨d.entries.filter fun e => compare key e.1 != .eq, sorted_filter _ d⟩

omit [Std.TransOrd κ] [Std.LawfulEqOrd κ] in
theorem sorted_map (f : α → β) (d : Dict κ α) :
    (d.entries.map fun e => (e.1, f e.2)).Pairwise fun a b => compare a.1 b.1 = .lt := by
  rw [List.pairwise_map]
  exact d.sorted

/-- Applies a function to every value and keeps the keys. -/
def map (d : Dict κ α) (f : α → β) : Dict κ β :=
  ⟨d.entries.map fun e => (e.1, f e.2), sorted_map f d⟩

end Dict

end KubeInventory
