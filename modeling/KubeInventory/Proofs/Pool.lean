import KubeInventory.Pool
import Mathlib.Data.List.Perm.Basic

/-! A pool has every part done exactly once, in as many turns as there are parts, whatever is done
next at each turn. With places for all parts at once it can have them done in any order. -/

namespace KubeInventory

namespace Pool

variable {α : Type} {places : Places}

/-- All parts of the pool, whatever has become of them. -/
def parts (p : Pool α) : List α := p.done ++ p.underWay ++ p.waiting

@[simp] theorem parts_ofParts (given : List α) : (ofParts given).parts = given := rfl

theorem parts_fill (p : Pool α) : (p.fill places).parts = p.parts := by
  simp [parts, fill]

theorem parts_finish_perm (number : Nat) (p : Pool α) : (p.finish number).parts.Perm p.parts := by
  rw [parts, parts, finish]
  refine List.Perm.append_right _ ?_
  dsimp only
  rw [List.append_assoc]
  refine List.Perm.append_left _ ?_
  cases hPlace : p.underWay[number % p.underWay.length]? with
  | none =>
      have hLong := List.getElem?_eq_none_iff.mp hPlace
      rw [List.eraseIdx_of_length_le hLong]
      rfl
  | some x =>
      obtain ⟨hLt, rfl⟩ := List.getElem?_eq_some_iff.mp hPlace
      exact List.getElem_cons_eraseIdx_perm hLt

/-- No part is lost, and none is done twice. -/
theorem parts_run_perm (places : Places) (c : Completion) (given : List α) (turns : Nat) :
    (run places c given turns).parts.Perm given := by
  induction turns with
  | zero => rfl
  | succ turns ih =>
      have hTurn := parts_finish_perm (c.next turns) ((run places c given turns).fill places)
      rw [parts_fill] at hTurn
      exact hTurn.trans ih

/-- As there is a place, a pool with parts left has one of them under way. -/
theorem underWay_fill_ne_nil {p : Pool α} (h : p.underWay ++ p.waiting ≠ []) :
    (p.fill places).underWay ≠ [] := by
  have hPos := places.pos
  intro hNone
  obtain ⟨hIdle, hBegun⟩ := List.append_eq_nil_iff.mp hNone
  rw [hIdle, List.length_nil, Nat.sub_zero, List.take_eq_nil_iff] at hBegun
  rcases hBegun with hZero | hEmpty
  · omega
  · exact h (by rw [hIdle, hEmpty]; rfl)

theorem length_done_finish {p : Pool α} (h : p.underWay ≠ []) (number : Nat) :
    (p.finish number).done.length = p.done.length + 1 := by
  have hLt := Nat.mod_lt number (List.length_pos_iff.mpr h)
  simp [finish, List.getElem?_eq_getElem hLt]

/-- Each turn has one part done, as long as some are left. -/
theorem length_done_run (places : Places) (c : Completion) {given : List α} {turns : Nat}
    (h : turns ≤ given.length) : (run places c given turns).done.length = turns := by
  induction turns with
  | zero => rfl
  | succ turns ih =>
      have hDone := ih (by omega)
      have hAll := (parts_run_perm places c given turns).length_eq
      rw [parts, List.append_assoc, List.length_append, hDone] at hAll
      have hLeft :
          (run places c given turns).underWay ++ (run places c given turns).waiting ≠ [] := by
        rw [← List.length_pos_iff]
        omega
      rw [run, length_done_finish (underWay_fill_ne_nil hLeft)]
      exact congrArg (· + 1) hDone

theorem length_underWay_run_le (c : Completion) (given : List α) (turns : Nat) :
    (run places c given turns).underWay.length ≤ places.count := by
  induction turns with
  | zero => exact Nat.zero_le _
  | succ turns ih =>
      have hErase := List.length_eraseIdx_le ((run places c given turns).fill places).underWay
        (c.next turns % ((run places c given turns).fill places).underWay.length)
      refine Nat.le_trans hErase ?_
      rw [fill, List.length_append, List.length_take]
      omega

/-- What is done up to a turn does not depend on later turns. -/
theorem run_congr {c d : Completion} {given : List α} {turns : Nat}
    (h : ∀ turn < turns, c.next turn = d.next turn) :
    run places c given turns = run places d given turns := by
  induction turns with
  | zero => rfl
  | succ turns ih =>
      rw [run, run, ih fun turn hTurn => h turn (by omega), h turns (by omega)]

theorem fill_of_waiting_nil {p : Pool α} (h : p.waiting = []) : p.fill places = p := by
  obtain ⟨waiting, underWay, done⟩ := p
  obtain rfl : waiting = [] := h
  simp [fill]

/-- With all parts under way at once, each turn can have the part done that is next in any order
that is wanted. -/
theorem exists_run_fill_done {given wanted : List α} (hPlaces : given.length ≤ places.count)
    (hPerm : wanted.Perm given) {turns : Nat} (hTurns : turns ≤ given.length) :
    ∃ c : Completion, ((run places c given turns).fill places).waiting = [] ∧
      ((run places c given turns).fill places).underWay.Perm (wanted.drop turns) ∧
      ((run places c given turns).fill places).done = wanted.take turns := by
  induction turns with
  | zero =>
      refine ⟨.inOrder, List.drop_eq_nil_iff.mpr hPlaces, ?_, rfl⟩
      change (given.take places.count).Perm wanted
      rw [List.take_of_length_le hPlaces]
      exact hPerm.symm
  | succ turns ih =>
      obtain ⟨c, hWaiting, hUnderWay, hDone⟩ := ih (by omega)
      have hLt : turns < wanted.length := by
        rw [hPerm.length_eq]
        omega
      rw [List.drop_eq_getElem_cons hLt] at hUnderWay
      obtain ⟨place, hPlace, hNext⟩ :=
        List.mem_iff_getElem.mp (hUnderWay.mem_iff.mpr List.mem_cons_self)
      -- This turn takes the place at which the wanted part stands; earlier turns stay as they were.
      let d : Completion := ⟨fun turn => if turn = turns then place else c.next turn⟩
      have hSame : run places d given turns = run places c given turns :=
        run_congr fun turn hTurn => if_neg (Nat.ne_of_lt hTurn)
      have hPick : d.next turns = place := if_pos rfl
      have hFill : (run places d given (turns + 1)).fill places = run places d given (turns + 1) :=
        fill_of_waiting_nil (by rw [run, hSame]; exact hWaiting)
      refine ⟨d, ?_⟩
      rw [hFill, run, hSame, hPick]
      simp only [finish, Nat.mod_eq_of_lt hPlace, List.getElem?_eq_getElem hPlace, hNext, hDone]
      refine ⟨hWaiting, ?_, (List.take_succ_eq_append_getElem hLt).symm⟩
      have hRest := List.getElem_cons_eraseIdx_perm hPlace
      rw [hNext] at hRest
      exact (hRest.trans hUnderWay).cons_inv

end Pool

/-- Whatever is done next at each turn, in the end every part is done once. -/
theorem Completion.order_perm {α : Type} (c : Completion) (places : Places) (parts : List α) :
    (c.order places parts).Perm parts := by
  have hAll := Pool.parts_run_perm places c parts parts.length
  have hDone := Pool.length_done_run places c (Nat.le_refl parts.length)
  have hLength := hAll.length_eq
  rw [Pool.parts, List.append_assoc, List.length_append, hDone] at hLength
  have hNone : (Pool.run places c parts parts.length).underWay ++
      (Pool.run places c parts parts.length).waiting = [] := by
    rw [← List.length_eq_zero_iff]
    omega
  rw [Pool.parts, List.append_assoc, hNone, List.append_nil] at hAll
  exact hAll

/-- A pool with places for all parts can have them done in any order. -/
theorem Completion.exists_order_eq {α : Type} {places : Places} {parts wanted : List α}
    (hPlaces : parts.length ≤ places.count) (hPerm : wanted.Perm parts) :
    ∃ c : Completion, c.order places parts = wanted := by
  obtain ⟨c, -, -, hDone⟩ := Pool.exists_run_fill_done hPlaces hPerm (Nat.le_refl parts.length)
  refine ⟨c, hDone.trans ?_⟩
  rw [← hPerm.length_eq, List.take_length]

end KubeInventory
