import KubeInventory.Check.Run
import KubeInventory.Proofs.Keys
import KubeInventory.Proofs.Pool

/-! The report over checks. Whatever becomes of the checks and in whatever order they are done,
there is a report; it has one part for each check, and passes if and only if every check does. The
order shows in nothing but the order of parts of one name. -/

namespace KubeInventory

namespace Report

/-- A verdict passes if and only if each part does. -/
theorem verdict_eq_passed_iff {reports : List Report} :
    verdict reports = passed ↔ ∀ r ∈ reports, r.status = passed := by
  rw [verdict]
  split
  · rename_i hAll
    simpa using hAll
  · rename_i hAll
    have hFailed : failed ≠ passed := by decide
    simpa [hFailed] using hAll

/-- A part of any other status fails it. -/
theorem verdict_eq_failed_iff {reports : List Report} :
    verdict reports = failed ↔ ∃ r ∈ reports, r.status ≠ passed := by
  rw [verdict]
  split
  · rename_i hAll
    have hPassed : passed ≠ failed := by decide
    simpa [hPassed] using hAll
  · rename_i hAll
    simpa using hAll

theorem sortByName_perm (reports : List Report) : (sortByName reports).Perm reports :=
  List.mergeSort_perm reports _

end Report

namespace Check

/-- What a check passes by: an answer whose parts all passed, or one without parts that passed
itself. The status of an answer with parts does not count. -/
def Passes (c : Check) : Prop :=
  ∃ answer, c.outcome = .ok answer ∧
    (answer.children = [] ∧ answer.status = "passed" ∨
      answer.children ≠ [] ∧ ∀ part ∈ answer.children, part.status = "passed")

/-- The part that a check has in the report over all. Beyond the status of an answer with parts no
answer is changed. -/
inductive Contributes (c : Check) : Report → Prop where
  | ofError {e : CheckError} (h : c.outcome = .error e) :
      Contributes c ⟨c.name, "failed", ∅, Dict.ofList [("error", .string e.message)], []⟩
  | whole {answer : Report} (h : c.outcome = .ok answer) (hNone : answer.children = []) :
      Contributes c answer
  | passing {answer : Report} (h : c.outcome = .ok answer) (hSome : answer.children ≠ [])
      (hParts : ∀ part ∈ answer.children, part.status = "passed") :
      Contributes c { answer with status := "passed" }
  | failing {answer : Report} (h : c.outcome = .ok answer)
      (hParts : ∃ part ∈ answer.children, part.status ≠ "passed") :
      Contributes c { answer with status := "failed" }

theorem report_of_error {c : Check} {e : CheckError} (h : c.outcome = .error e) :
    c.report = (Report.new c.name Report.failed).withDetail "error" (.string e.message) := by
  rw [report, h]

/-- An answer with parts is judged by them, and one without by its own status. -/
theorem report_of_ok {c : Check} {answer : Report} (h : c.outcome = .ok answer) :
    c.report = if answer.children.isEmpty then answer else answer.rollUp := by
  rw [report, h]

/-- Each check contributes a part, whatever becomes of it. -/
theorem contributes_report (c : Check) : Contributes c c.report := by
  cases hOutcome : c.outcome with
  | error e =>
      rw [report_of_error hOutcome]
      exact .ofError hOutcome
  | ok answer =>
      rw [report_of_ok hOutcome]
      cases hNone : answer.children.isEmpty with
      | true => exact .whole hOutcome (List.isEmpty_iff.mp hNone)
      | false =>
          have hSome := List.isEmpty_eq_false_iff.mp hNone
          rw [if_neg Bool.false_ne_true]
          by_cases hParts : ∀ part ∈ answer.children, part.status = Report.passed
          · rw [Report.rollUp, Report.verdict_eq_passed_iff.mpr hParts]
            exact .passing hOutcome hSome hParts
          · push Not at hParts
            rw [Report.rollUp, Report.verdict_eq_failed_iff.mpr hParts]
            exact .failing hOutcome hParts

theorem status_report_eq_passed_iff (c : Check) : c.report.status = Report.passed ↔ c.Passes := by
  rw [Passes]
  cases hOutcome : c.outcome with
  | error e =>
      have hFailed : Report.failed ≠ Report.passed := by decide
      simpa [report_of_error hOutcome, Report.withDetail, Report.new] using hFailed
  | ok answer =>
      rw [report_of_ok hOutcome]
      by_cases hNone : answer.children = []
      · simp [hNone, Report.passed]
      · have hVerdict := @Report.verdict_eq_passed_iff answer.children
        simpa [hNone, Report.rollUp, Report.passed] using hVerdict

/-- What the report over checks shows of them, given in the order in which they were done. -/
structure Summarises (name : String) (done : List Check) (root : Report) : Prop where
  name_eq : root.name = name
  metadata_eq : root.metadata = ∅
  details_eq : root.details = ∅
  status_eq : root.status = "passed" ∨ root.status = "failed"
  status_eq_passed_iff : root.status = "passed" ↔ ∀ c ∈ done, c.Passes
  sorted : root.children.Pairwise fun a b => (compare a.name b.name).isLE = true
  /-- There is one part for each check, and the parts of a name stand as their checks were done. -/
  parts : ∃ contributed, List.Forall₂ Contributes done contributed ∧
    root.children.Perm contributed ∧
    ∀ name, root.children.filter (·.name == name) = contributed.filter (·.name == name)

theorem forall₂_contributes (done : List Check) :
    List.Forall₂ Contributes done (done.map report) := by
  rw [List.forall₂_map_right_iff]
  exact List.forall₂_same.mpr fun c _ => contributes_report c

/-- There is a report whenever as many checks are done as there are, and in whatever order. -/
theorem summarise_eq_ok (name : String) (done : List Check) :
    ∃ root, summarise name done.length (done.map report) = .ok root ∧
      root.children = Report.sortByName (done.map report) ∧ Summarises name done root := by
  rw [summarise, List.length_map, beq_self_eq_true, if_pos rfl]
  refine ⟨_, rfl, rfl, ?_⟩
  have hPerm := Report.sortByName_perm (done.map report)
  have hStatus : Report.verdict (Report.sortByName (done.map report)) = Report.passed ↔
      ∀ c ∈ done, c.Passes := by
    rw [Report.verdict_eq_passed_iff]
    simp only [hPerm.mem_iff, List.forall_mem_map, status_report_eq_passed_iff]
  exact {
    name_eq := rfl
    metadata_eq := rfl
    details_eq := rfl
    status_eq := by
      simp only [Report.rollUp, Report.verdict]
      split
      · exact .inl rfl
      · exact .inr rfl
    status_eq_passed_iff := hStatus
    sorted := pairwise_mergeSort_key Report.name _
    parts := ⟨_, forall₂_contributes done, hPerm, filter_mergeSort_key Report.name _⟩ }

variable {checks : List Check}

/-- The pool does each check once, so none is missing at the end. -/
theorem Runner.run_new (hSome : checks ≠ []) (completion : Completion) (concurrency : Nat)
    (name : String) :
    ∃ root, (Runner.new checks concurrency).run completion name = .ok root ∧
      root.children =
        Report.sortByName ((completion.order (.ofWanted concurrency) checks).map report) ∧
      Summarises name (completion.order (.ofWanted concurrency) checks) root := by
  have hPerm := completion.order_perm (.ofWanted concurrency) checks
  have hRun := summarise_eq_ok name (completion.order (.ofWanted concurrency) checks)
  rw [hPerm.length_eq] at hRun
  rw [Runner.run, Runner.new, List.isEmpty_eq_false_iff.mpr hSome]
  exact hRun

/-- Running checks gives a report on them all, however many are run at a time and in whatever order
they are done. Two runs have the same verdict and the same parts, and if no two parts have one name
these stand in the same order. -/
theorem run_summarises_checks (hSome : checks ≠ []) (name : String) :
    (∀ (completion : Completion) (concurrency : Nat), ∃ root,
      (Runner.new checks concurrency).run completion name = .ok root ∧
      (completion.order (.ofWanted concurrency) checks).Perm checks ∧
      Summarises name (completion.order (.ofWanted concurrency) checks) root) ∧
    ∀ (completion completion' : Completion) (concurrency concurrency' : Nat) (root root' : Report),
      (Runner.new checks concurrency).run completion name = .ok root →
      (Runner.new checks concurrency').run completion' name = .ok root' →
      root.status = root'.status ∧ root.children.Perm root'.children ∧
      ((root.children.map Report.name).Nodup → root.children = root'.children) := by
  constructor
  · intro completion concurrency
    obtain ⟨root, hRun, -, hSummary⟩ := Runner.run_new hSome completion concurrency name
    exact ⟨root, hRun, completion.order_perm _ _, hSummary⟩
  · intro completion completion' concurrency concurrency' root root' hRun hRun'
    obtain ⟨r, hOk, hChildren, hSummary⟩ := Runner.run_new hSome completion concurrency name
    obtain ⟨r', hOk', hChildren', hSummary'⟩ := Runner.run_new hSome completion' concurrency' name
    obtain rfl : r = root := Except.ok.inj (hOk.symm.trans hRun)
    obtain rfl : r' = root' := Except.ok.inj (hOk'.symm.trans hRun')
    have hOrders := (completion.order_perm (.ofWanted concurrency) checks).trans
      (completion'.order_perm (.ofWanted concurrency') checks).symm
    have hParts := hOrders.map report
    refine ⟨?_, ?_, ?_⟩
    · have hPassed : r.status = "passed" ↔ r'.status = "passed" := by
        rw [hSummary.status_eq_passed_iff, hSummary'.status_eq_passed_iff]
        exact forall_congr' fun c => by rw [hOrders.mem_iff]
      rcases hSummary.status_eq with h | h <;> rcases hSummary'.status_eq with h' | h' <;>
        simp_all
    · rw [hChildren, hChildren']
      exact (Report.sortByName_perm _).trans (hParts.trans (Report.sortByName_perm _).symm)
    · intro hNames
      rw [hChildren] at hNames
      rw [hChildren, hChildren']
      have hDistinct := ((Report.sortByName_perm _).map Report.name).nodup_iff.mp hNames
      exact mergeSort_key_eq_of_perm hParts hDistinct

/-- A check that fails to run, and one whose part passed although its own status says otherwise. -/
def brokenProbe : List Check :=
  [⟨"probe", .error (.failed "boom")⟩,
    ⟨"labels", .ok ((Report.new "labels" "failed").push (Report.new "default" "passed"))⟩]

/-- With places for none both checks are run all the same, and the one that fails to run decides. -/
theorem run_summarises_checks_brokenProbe :
    brokenProbe ≠ [] ∧ ∃ root,
      (Runner.new brokenProbe 0).run .inOrder "Checks" = .ok root ∧ root.children.length = 2 ∧
        root.status = "failed" := by
  have hSome : brokenProbe ≠ [] := List.cons_ne_nil _ _
  obtain ⟨root, hRun, hOrder, hSummary⟩ := (run_summarises_checks hSome "Checks").1 .inOrder 0
  obtain ⟨contributed, hContributed, hParts, -⟩ := hSummary.parts
  refine ⟨hSome, root, hRun, ?_, hSummary.status_eq.resolve_left fun hPassed => ?_⟩
  · exact hParts.length_eq.trans (hContributed.length_eq.symm.trans hOrder.length_eq)
  · obtain ⟨answer, hAnswer, -⟩ :=
      hSummary.status_eq_passed_iff.mp hPassed _ (hOrder.mem_iff.mpr List.mem_cons_self)
    cases hAnswer

end Check

end KubeInventory
