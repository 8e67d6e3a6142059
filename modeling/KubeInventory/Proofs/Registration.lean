import KubeInventory.Check.Run
import KubeInventory.Proofs.Dict
import Mathlib.Data.List.Forall2
import Mathlib.Data.String.Basic
import Mathlib.Order.Compare

/-! Registering and building checks. Whatever was registered, and in whatever order, a registry has
each kind once, with the factory that was registered for it last. The checks of configurations are
built all together or not at all. -/

namespace KubeInventory

section Steps

variable {ε α β : Type} {f : α → Except ε β} {xs : List α}

/-- A step over a list succeeds if it does on each element. -/
theorem mapM_eq_ok_iff {ys : List β} :
    xs.mapM f = .ok ys ↔ List.Forall₂ (fun x y => f x = .ok y) xs ys := by
  induction xs generalizing ys with
  | nil => simp [pure, Except.pure, eq_comm]
  | cons x rest ih =>
      rw [List.mapM_cons, List.forall₂_cons_left_iff]
      cases hFirst : f x with
      | error e => simp [bind, Except.bind]
      | ok y =>
          cases hRest : rest.mapM f with
          | error e =>
              have hNone : ∀ ys, ¬List.Forall₂ (fun x y => f x = .ok y) rest ys := by
                simp [← ih, hRest]
              simp [bind, Except.bind, hNone]
          | ok others =>
              have hEach : ∀ ys, List.Forall₂ (fun x y => f x = .ok y) rest ys ↔ others = ys := by
                simp [← ih, hRest]
              simp [bind, Except.bind, pure, Except.pure, hEach, eq_comm]

/-- A step over a list fails as it does on the first element on which it fails. -/
theorem mapM_eq_error_iff {e : ε} :
    xs.mapM f = .error e ↔ ∃ before x after, xs = before ++ x :: after ∧
      (∀ earlier ∈ before, ∃ y, f earlier = .ok y) ∧ f x = .error e := by
  induction xs with
  | nil => simp [pure, Except.pure]
  | cons x rest ih =>
      rw [List.mapM_cons]
      constructor
      · intro hError
        cases hFirst : f x with
        | error e' =>
            obtain rfl : e' = e := by simpa [hFirst, bind, Except.bind] using hError
            exact ⟨[], x, rest, rfl, by simp, hFirst⟩
        | ok y =>
            have hRest : rest.mapM f = .error e := by
              cases hRest : rest.mapM f <;> simp_all [bind, Except.bind, pure, Except.pure]
            obtain ⟨before, z, after, rfl, hBefore, hFails⟩ := ih.mp hRest
            exact ⟨x :: before, z, after, rfl, List.forall_mem_cons.mpr ⟨⟨y, hFirst⟩, hBefore⟩,
              hFails⟩
      · rintro ⟨before, z, after, hSplit, hBefore, hFails⟩
        cases before with
        | nil =>
            obtain ⟨rfl, rfl⟩ := List.cons.inj hSplit
            rw [hFails]
            rfl
        | cons first before =>
            obtain ⟨rfl, rfl⟩ := List.cons.inj hSplit
            obtain ⟨⟨y, hFirst⟩, hOthers⟩ := List.forall_mem_cons.mp hBefore
            rw [hFirst, ih.mpr ⟨before, z, after, rfl, hOthers, hFails⟩]
            rfl

end Steps

namespace CheckRegistry

/-- Registers factories one after the other. -/
def registerAll (r : CheckRegistry) (calls : List (String × CheckFactory)) : CheckRegistry :=
  calls.foldl (fun r call => r.register call.1 call.2) r

/-- The registry has come about by registrations, of which the first in the list was made first. -/
def CameBy (r : CheckRegistry) (history : List (String × CheckFactory)) : Prop :=
  r.factories = Dict.ofList history

variable {r : CheckRegistry} {history : List (String × CheckFactory)}

theorem cameBy_empty : empty.CameBy [] := rfl

/-- One more call is one more entry of the history, the last. -/
theorem CameBy.register (h : r.CameBy history) (kind : String) (factory : CheckFactory) :
    (r.register kind factory).CameBy (history ++ [(kind, factory)]) := by
  rw [CameBy, Dict.ofList_concat, ← h]
  rfl

theorem cameBy_builtin (c : Cluster) :
    (builtin c).CameBy [(LabelPolicy.checkKind, LabelPolicy.factory c)] :=
  cameBy_empty.register _ _

/-- By induction on the calls. -/
theorem CameBy.registerAll (h : r.CameBy history) (calls : List (String × CheckFactory)) :
    (r.registerAll calls).CameBy (history ++ calls) := by
  induction calls generalizing r history with
  | nil => rwa [List.append_nil]
  | cons call rest ih =>
      have hRest := ih (h.register call.1 call.2)
      rwa [List.append_assoc] at hRest

/-- What a registry shows of the registrations by which it came about. -/
structure Shows (r : CheckRegistry) (history : List (String × CheckFactory)) : Prop where
  kinds_ordered : r.kinds.Pairwise (· < ·)
  mem_kinds_iff : ∀ kind, kind ∈ r.kinds ↔ ∃ factory, (kind, factory) ∈ history
  contains_iff : ∀ kind, r.contains kind = true ↔ kind ∈ r.kinds
  size_eq : r.size = r.kinds.length
  isEmpty_iff : r.isEmpty = true ↔ r.kinds = []
  /-- What was registered last for the kind is run, and what it answers stands. -/
  build_of_registered : ∀ config : Config.Check, config.kind ∈ r.kinds →
    ∃ factory, IsLast Prod.fst history (config.kind, factory) ∧ r.build config = factory config
  build_of_absent : ∀ config : Config.Check, config.kind ∉ r.kinds →
    r.build config = .error (.unknownKind config.kind)
  /-- A kind is refused as unknown if it was never registered, or by its own factory. -/
  build_eq_unknown_iff : ∀ config : Config.Check,
    r.build config = .error (.unknownKind config.kind) ↔
      (∀ factory, (config.kind, factory) ∉ history) ∨
        ∃ factory, IsLast Prod.fst history (config.kind, factory) ∧
          factory config = .error (.unknownKind config.kind)

theorem kinds_ordered (r : CheckRegistry) : r.kinds.Pairwise (· < ·) := by
  rw [kinds, Dict.keys, List.pairwise_map]
  exact r.factories.sorted.imp compare_lt_iff_lt.mp

/-- Known are the kinds that were registered at some time. -/
theorem CameBy.mem_kinds_iff (h : r.CameBy history) (kind : String) :
    kind ∈ r.kinds ↔ ∃ factory, (kind, factory) ∈ history := by
  rw [kinds, h, Dict.mem_keys_ofList_iff]
  constructor
  · rintro ⟨⟨_, factory⟩, hMem, rfl⟩
    exact ⟨factory, hMem⟩
  · rintro ⟨factory, hMem⟩
    exact ⟨_, hMem, rfl⟩

/-- What was registered last for a kind builds the checks of that kind. -/
theorem CameBy.build_of_last (h : r.CameBy history) {config : Config.Check}
    {factory : CheckFactory} (hLast : IsLast Prod.fst history (config.kind, factory)) :
    r.build config = factory config := by
  rw [build, h, Dict.get?_ofList_eq_some_iff.mpr hLast]

/-- A kind that was never registered is unknown. -/
theorem CameBy.build_of_absent (h : r.CameBy history) {config : Config.Check}
    (hAbsent : ∀ factory, (config.kind, factory) ∉ history) :
    r.build config = .error (.unknownKind config.kind) := by
  have hNone : (Dict.ofList history).get? config.kind = none := by
    refine Dict.get?_ofList_eq_none_iff.mpr fun e he hKind => hAbsent e.2 ?_
    rwa [← hKind]
  rw [build, h, hNone]

/-- Either the kind was never registered, or there is a factory that was registered for it last. -/
theorem absent_or_exists_isLast (history : List (String × CheckFactory)) (kind : String) :
    (∀ factory, (kind, factory) ∉ history) ∨
      ∃ factory, IsLast Prod.fst history (kind, factory) := by
  cases hGet : (Dict.ofList history).get? kind with
  | none =>
      exact .inl fun factory hMem => Dict.get?_ofList_eq_none_iff.mp hGet _ hMem rfl
  | some factory => exact .inr ⟨factory, Dict.get?_ofList_eq_some_iff.mp hGet⟩

theorem CameBy.shows (h : r.CameBy history) : r.Shows history where
  kinds_ordered := r.kinds_ordered
  mem_kinds_iff := h.mem_kinds_iff
  contains_iff kind := Dict.mem_keys_iff.symm
  size_eq := (List.length_map _).symm
  isEmpty_iff := by
    rw [isEmpty, Dict.isEmpty, List.isEmpty_iff, kinds, Dict.keys, List.map_eq_nil_iff]
  build_of_registered config hKind := by
    obtain ⟨factory, hMem⟩ := (h.mem_kinds_iff _).mp hKind
    rcases absent_or_exists_isLast history config.kind with hAbsent | ⟨last, hLast⟩
    · exact absurd hMem (hAbsent factory)
    · exact ⟨last, hLast, h.build_of_last hLast⟩
  build_of_absent config hKind :=
    h.build_of_absent fun factory hMem => hKind ((h.mem_kinds_iff _).mpr ⟨factory, hMem⟩)
  build_eq_unknown_iff config := by
    constructor
    · intro hUnknown
      refine (absent_or_exists_isLast history config.kind).imp_right ?_
      rintro ⟨last, hLast⟩
      exact ⟨last, hLast, (h.build_of_last hLast).symm.trans hUnknown⟩
    · rintro (hAbsent | ⟨last, hLast, hAnswer⟩)
      · exact h.build_of_absent hAbsent
      · rw [h.build_of_last hLast, hAnswer]

end CheckRegistry

namespace Check.Runner

variable {r : CheckRegistry} {configs : List Config.Check} {concurrency : Nat}

/-- All checks are built, in the order of their configurations. -/
theorem ofConfigs_eq_ok_iff {runner : Runner} :
    ofConfigs r configs concurrency = .ok runner ↔
      ∃ checks, List.Forall₂ (fun config check => r.build config = .ok check) configs checks ∧
        new checks concurrency = runner := by
  simp only [← mapM_eq_ok_iff]
  rw [ofConfigs, CheckRegistry.buildAll]
  cases configs.mapM r.build <;> simp [Except.map]

/-- The first configuration that cannot be built gives the error, whatever comes after it. -/
theorem ofConfigs_eq_error_iff {e : CheckError} :
    ofConfigs r configs concurrency = .error e ↔ ∃ before config after,
      configs = before ++ config :: after ∧
      (∀ earlier ∈ before, ∃ check, r.build earlier = .ok check) ∧ r.build config = .error e := by
  rw [← mapM_eq_error_iff, ofConfigs, CheckRegistry.buildAll]
  cases configs.mapM r.build <;> simp [Except.map]

theorem ofConfigs_fails_iff :
    (∃ e, ofConfigs r configs concurrency = .error e) ↔
      ∃ config ∈ configs, ∃ e, r.build config = .error e := by
  constructor
  · rintro ⟨e, hError⟩
    obtain ⟨before, config, after, rfl, -, hFails⟩ := ofConfigs_eq_error_iff.mp hError
    exact ⟨config, by simp, e, hFails⟩
  · rintro ⟨config, hMem, e, hFails⟩
    cases hBuilt : ofConfigs r configs concurrency with
    | error e' => exact ⟨e', rfl⟩
    | ok runner =>
        obtain ⟨checks, hChecks, -⟩ := ofConfigs_eq_ok_iff.mp hBuilt
        have hEach : ∀ config ∈ configs, ∃ check, r.build config = .ok check :=
          ((List.forall₂_and_left _ _).mp (hChecks.imp fun _ check h => ⟨⟨check, h⟩, h⟩)).1
        obtain ⟨check, hOk⟩ := hEach config hMem
        rw [hFails] at hOk
        cases hOk

end Check.Runner

/-- Whatever is registered with an empty registry or with the one that is always there, it has each
registered kind once, and builds by the factory that was registered last. The checks of
configurations are built one for each and in order, or there is no runner for the reason for which
the first of those that cannot be built is refused. -/
theorem CheckRegistry.builds_last_registered :
    (∀ calls, (empty.registerAll calls).Shows calls) ∧
    (∀ c calls, ((builtin c).registerAll calls).Shows
      (("namespace-labels", LabelPolicy.factory c) :: calls)) ∧
    ∀ (r : CheckRegistry) (configs : List Config.Check) (concurrency : Nat),
      ((∃ e, Check.Runner.ofConfigs r configs concurrency = .error e) ↔
        ∃ config ∈ configs, ∃ e, r.build config = .error e) ∧
      (∀ e, Check.Runner.ofConfigs r configs concurrency = .error e ↔ ∃ before config after,
        configs = before ++ config :: after ∧
        (∀ earlier ∈ before, ∃ check, r.build earlier = .ok check) ∧ r.build config = .error e) ∧
      ∀ runner, Check.Runner.ofConfigs r configs concurrency = .ok runner →
        List.Forall₂ (fun config check => r.build config = .ok check) configs runner.checks ∧
        runner.checks.length = configs.length := by
  refine ⟨fun calls => ?_, fun c calls => ?_, fun r configs concurrency => ⟨?_, fun e => ?_, ?_⟩⟩
  · exact (cameBy_empty.registerAll calls).shows
  · exact ((cameBy_builtin c).registerAll calls).shows
  · exact Check.Runner.ofConfigs_fails_iff
  · exact Check.Runner.ofConfigs_eq_error_iff
  · intro runner hBuilt
    obtain ⟨checks, hChecks, rfl⟩ := Check.Runner.ofConfigs_eq_ok_iff.mp hBuilt
    exact ⟨hChecks, hChecks.length_eq.symm⟩

end KubeInventory
