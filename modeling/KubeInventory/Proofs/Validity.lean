import KubeInventory.Config.Validity
import Mathlib.Data.List.Basic

/-! Which settings can be run. The checks are gone through once, with the names of those before;
they are accepted if and only if each has a name and a kind and no two have one name, and else the
first that stands in the way of this is reported. -/

namespace KubeInventory

/-- Whether a text holds nothing but white space, if anything. -/
def Text.Blank (text : String) : Prop := ∀ c ∈ text.toList, isBlank c = true

theorem Text.isAllBlank_iff {text : String} : isAllBlank text = true ↔ Blank text :=
  List.all_eq_true

namespace Config

open Text (Blank isAllBlank_iff)

/-- What a check must have that comes after checks of the given names. Names are compared as they
are, white space included. -/
structure Check.Fits (taken : List String) (check : Check) : Prop where
  named : ¬Blank check.name
  kind_given : ¬Blank check.kind
  name_free : check.name ∉ taken

/-- What is wrong with a check that comes after checks of the given names. Of several reasons only
the first counts. -/
inductive Check.Fails (taken : List String) (check : Check) : ConfigError → Prop where
  | nameless (hName : Blank check.name) : Fails taken check .namelessCheck
  | kindless (hName : ¬Blank check.name) (hKind : Blank check.kind) :
      Fails taken check (.kindlessCheck check.name)
  | duplicate (hName : ¬Blank check.name) (hKind : ¬Blank check.kind)
      (hTaken : check.name ∈ taken) : Fails taken check (.duplicateCheck check.name)

/-- Whether checks can be run beside each other. -/
structure RunnableChecks (checks : List Check) : Prop where
  named : ∀ check ∈ checks, ¬Blank check.name
  kind_given : ∀ check ∈ checks, ¬Blank check.kind
  names_distinct : checks.Pairwise fun a b => a.name ≠ b.name

/-- Whether settings can be run. -/
structure Runnable (c : Config) : Prop where
  concurrency_pos : 1 ≤ c.collector.concurrency
  timeout_pos : 1 ≤ c.collector.requestTimeoutSeconds
  checks_runnable : RunnableChecks c.checks

/-- The first thing that keeps settings from being run: the numbers come before the checks, and the
checks before the one in question are in order. -/
inductive FirstFault (c : Config) : ConfigError → Prop where
  | concurrency (hZero : c.collector.concurrency = 0) : FirstFault c .noConcurrency
  | timeout (hConcurrency : 1 ≤ c.collector.concurrency)
      (hZero : c.collector.requestTimeoutSeconds = 0) : FirstFault c .noTimeout
  | check {before after : List Check} {check : Check} {e : ConfigError}
      (hConcurrency : 1 ≤ c.collector.concurrency)
      (hTimeout : 1 ≤ c.collector.requestTimeoutSeconds)
      (hChecks : c.checks = before ++ check :: after) (hBefore : RunnableChecks before)
      (hFails : check.Fails (before.map Check.name) e) : FirstFault c e

section Checks

variable {taken : List String} {check : Check} {rest checks : List Check} {e : ConfigError}

/-- A check that does not fit fails for a reason that can be told. -/
theorem Check.fits_or_fails (taken : List String) (check : Check) :
    check.Fits taken ∨ ∃ e, check.Fails taken e := by
  by_cases hName : Blank check.name
  · exact .inr ⟨_, .nameless hName⟩
  · by_cases hKind : Blank check.kind
    · exact .inr ⟨_, .kindless hName hKind⟩
    · by_cases hTaken : check.name ∈ taken
      · exact .inr ⟨_, .duplicate hName hKind hTaken⟩
      · exact .inl ⟨hName, hKind, hTaken⟩

theorem Check.Fails.not_fits (h : check.Fails taken e) : ¬check.Fits taken := by
  intro hFits
  cases h with
  | nameless hName => exact hFits.named hName
  | kindless _ hKind => exact hFits.kind_given hKind
  | duplicate _ _ hTaken => exact hFits.name_free hTaken

/-- Names that are taken as well do not make a check fit. -/
theorem Check.Fails.mono {more : List String} (h : check.Fails taken e) (hMore : taken ⊆ more) :
    check.Fails more e := by
  cases h with
  | nameless hName => exact .nameless hName
  | kindless hName hKind => exact .kindless hName hKind
  | duplicate hName hKind hTaken => exact .duplicate hName hKind (hMore hTaken)

theorem Check.fits_cons_iff {name : String} :
    check.Fits (name :: taken) ↔ name ≠ check.name ∧ check.Fits taken := by
  constructor
  · intro h
    obtain ⟨hOther, hFree⟩ := not_or.mp (List.mem_cons.not.mp h.name_free)
    exact ⟨Ne.symm hOther, h.named, h.kind_given, hFree⟩
  · rintro ⟨hOther, h⟩
    exact ⟨h.named, h.kind_given, by simp [Ne.symm hOther, h.name_free]⟩

/-- A check that fits takes its name, and the others are gone through after it. -/
theorem validateChecks_of_fits (h : check.Fits taken) :
    validateChecks taken (check :: rest) = validateChecks (check.name :: taken) rest := by
  rw [validateChecks, if_neg (isAllBlank_iff.not.mpr h.named),
    if_neg (isAllBlank_iff.not.mpr h.kind_given), if_neg (by simpa using h.name_free)]

/-- One that does not ends the run with its error. -/
theorem validateChecks_of_fails (h : check.Fails taken e) :
    validateChecks taken (check :: rest) = .error e := by
  cases h with
  | nameless hName => rw [validateChecks, if_pos (isAllBlank_iff.mpr hName)]
  | kindless hName hKind =>
      rw [validateChecks, if_neg (isAllBlank_iff.not.mpr hName),
        if_pos (isAllBlank_iff.mpr hKind)]
  | duplicate hName hKind hTaken =>
      rw [validateChecks, if_neg (isAllBlank_iff.not.mpr hName),
        if_neg (isAllBlank_iff.not.mpr hKind), if_pos (by simpa using hTaken)]

/-- Only the first reason is told. -/
theorem Check.Fails.unique {e' : ConfigError} (h : check.Fails taken e)
    (h' : check.Fails taken e') : e = e' := by
  have hReported : validateChecks taken [check] = .error e := validateChecks_of_fails h
  rw [validateChecks_of_fails h'] at hReported
  exact (Except.error.inj hReported).symm

/-- The checks are accepted if each of them fits among the names taken before the run and no two
share one. By induction on the checks, of which each adds its name to those taken. -/
theorem validateChecks_eq_ok_iff : validateChecks taken checks = .ok () ↔
    (∀ check ∈ checks, check.Fits taken) ∧ checks.Pairwise fun a b => a.name ≠ b.name := by
  induction checks generalizing taken with
  | nil => simp [validateChecks]
  | cons check rest ih =>
      rw [List.forall_mem_cons, List.pairwise_cons]
      rcases check.fits_or_fails taken with hFits | ⟨e, hFails⟩
      · rw [validateChecks_of_fits hFits, ih]
        simp only [Check.fits_cons_iff, forall_and]
        tauto
      · simp [validateChecks_of_fails hFails, hFails.not_fits]

theorem validateChecks_nil_eq_ok_iff :
    validateChecks [] checks = .ok () ↔ RunnableChecks checks := by
  rw [validateChecks_eq_ok_iff]
  constructor
  · rintro ⟨hFits, hNames⟩
    exact ⟨fun check hCheck => (hFits check hCheck).named,
      fun check hCheck => (hFits check hCheck).kind_given, hNames⟩
  · intro h
    exact ⟨fun check hCheck => ⟨h.named check hCheck, h.kind_given check hCheck, List.not_mem_nil⟩,
      h.names_distinct⟩

/-- An error is that of the first check that does not fit, with the names before it taken. -/
theorem validateChecks_eq_error_iff : validateChecks taken checks = .error e ↔
    ∃ before check after, checks = before ++ check :: after ∧
      validateChecks taken before = .ok () ∧ check.Fails (before.map Check.name ++ taken) e := by
  -- Names are taken at the front, while those of the checks before come last: `Fails` depends on
  -- which names are taken only.
  induction checks generalizing taken with
  | nil => simp [validateChecks]
  | cons head rest ih =>
      rcases head.fits_or_fails taken with hFits | ⟨e', hFails⟩
      · rw [validateChecks_of_fits hFits, ih]
        have hTaken (before : List Check) : (before.map Check.name ++ head.name :: taken).Perm
            ((head :: before).map Check.name ++ taken) := List.perm_middle
        constructor
        · rintro ⟨before, check, after, rfl, hBefore, hCheck⟩
          exact ⟨head :: before, check, after, rfl, (validateChecks_of_fits hFits).trans hBefore,
            hCheck.mono (hTaken before).subset⟩
        · rintro ⟨before, check, after, hSplit, hBefore, hCheck⟩
          cases before with
          | nil =>
              obtain ⟨rfl, -⟩ := List.cons.inj hSplit
              exact absurd hFits hCheck.not_fits
          | cons first before =>
              obtain ⟨rfl, rfl⟩ := List.cons.inj hSplit
              rw [validateChecks_of_fits hFits] at hBefore
              exact ⟨before, check, after, rfl, hBefore,
                hCheck.mono (hTaken before).symm.subset⟩
      · rw [validateChecks_of_fails hFails, Except.error.injEq]
        constructor
        · rintro rfl
          exact ⟨[], head, rest, rfl, rfl, hFails⟩
        · rintro ⟨before, check, after, hSplit, hBefore, hCheck⟩
          cases before with
          | nil =>
              obtain ⟨rfl, -⟩ := List.cons.inj hSplit
              exact hFails.unique hCheck
          | cons first before =>
              obtain ⟨rfl, -⟩ := List.cons.inj hSplit
              rw [validateChecks_of_fails hFails] at hBefore
              cases hBefore

end Checks

theorem validate_of_pos {c : Config} (hConcurrency : 1 ≤ c.collector.concurrency)
    (hTimeout : 1 ≤ c.collector.requestTimeoutSeconds) :
    c.validate = validateChecks [] c.checks := by
  rw [validate, if_neg (by simpa using Nat.ne_of_gt hConcurrency),
    if_neg (by simpa using Nat.ne_of_gt hTimeout)]

theorem validate_eq_ok_iff {c : Config} : c.validate = .ok () ↔ c.Runnable := by
  constructor
  · intro h
    have hConcurrency : 1 ≤ c.collector.concurrency := by
      rw [Nat.one_le_iff_ne_zero]
      intro hZero
      simp [validate, hZero] at h
    have hTimeout : 1 ≤ c.collector.requestTimeoutSeconds := by
      rw [Nat.one_le_iff_ne_zero]
      intro hZero
      simp [validate, Nat.ne_of_gt hConcurrency, hZero] at h
    rw [validate_of_pos hConcurrency hTimeout, validateChecks_nil_eq_ok_iff] at h
    exact ⟨hConcurrency, hTimeout, h⟩
  · intro h
    rw [validate_of_pos h.concurrency_pos h.timeout_pos]
    exact validateChecks_nil_eq_ok_iff.mpr h.checks_runnable

/-- Of several faults the first is told, in the order in which they are looked for. -/
theorem validate_eq_error_of_firstFault {c : Config} {e : ConfigError} (h : c.FirstFault e) :
    c.validate = .error e := by
  cases h with
  | concurrency hZero => simp [validate, hZero]
  | timeout hConcurrency hZero => simp [validate, Nat.ne_of_gt hConcurrency, hZero]
  | check hConcurrency hTimeout hChecks hBefore hFails =>
      rw [validate_of_pos hConcurrency hTimeout, validateChecks_eq_error_iff]
      exact ⟨_, _, _, hChecks, validateChecks_nil_eq_ok_iff.mpr hBefore, by simpa using hFails⟩

theorem runnable_or_firstFault (c : Config) : c.Runnable ∨ ∃ e, c.FirstFault e := by
  rcases Nat.eq_zero_or_pos c.collector.concurrency with hZero | hConcurrency
  · exact .inr ⟨_, .concurrency hZero⟩
  rcases Nat.eq_zero_or_pos c.collector.requestTimeoutSeconds with hZero | hTimeout
  · exact .inr ⟨_, .timeout hConcurrency hZero⟩
  cases hChecks : validateChecks [] c.checks with
  | ok _ => exact .inl ⟨hConcurrency, hTimeout, validateChecks_nil_eq_ok_iff.mp hChecks⟩
  | error e =>
      obtain ⟨before, check, after, hSplit, hBefore, hFails⟩ :=
        validateChecks_eq_error_iff.mp hChecks
      rw [List.append_nil] at hFails
      exact .inr ⟨e, .check hConcurrency hTimeout hSplit (validateChecks_nil_eq_ok_iff.mp hBefore)
        hFails⟩

/-- Settings are accepted if and only if they can be run, and otherwise what is reported is the
first fault that they have. -/
theorem validate_decides_runnable (c : Config) :
    (c.validate = .ok () ↔ c.Runnable) ∧ ∀ e, c.validate = .error e ↔ c.FirstFault e := by
  refine ⟨validate_eq_ok_iff, fun e => ⟨fun h => ?_, validate_eq_error_of_firstFault⟩⟩
  rcases c.runnable_or_firstFault with hRunnable | ⟨e', hFault⟩
  · rw [validate_eq_ok_iff.mpr hRunnable] at h
    cases h
  · rw [validate_eq_error_of_firstFault hFault] at h
    obtain rfl := Except.error.inj h
    exact hFault

end Config

end KubeInventory
