import KubeInventory.Check.Registry
import KubeInventory.Proofs.Dict
import KubeInventory.Proofs.Record
import KubeInventory.Proofs.Verdict

/-! The check that namespaces carry required labels, from its configuration to its part in the
report over all checks. It fails if and only if the namespaces cannot be listed or one that the
policy covers lacks a label; what it shows of a namespace does not depend on the values of labels.
-/

namespace KubeInventory

/-- Whether an object has a label, with whatever value. -/
def Resource.Carries {k : Kind} (r : Resource k) (label : String) : Prop :=
  ∃ value, r.metadata.labels.get? label = some value

theorem Resource.carries_iff {k : Kind} {r : Resource k} {label : String} :
    r.Carries label ↔ r.metadata.labels.contains label = true :=
  Option.isSome_iff_exists.symm

instance {k : Kind} (r : Resource k) (label : String) : Decidable (r.Carries label) :=
  decidable_of_iff _ Resource.carries_iff.symm

/-- Listings of namespaces that differ in the values of labels, or in nothing that is looked at. -/
inductive Listing.SameLabels :
    Listing (Resource .namespace) → Listing (Resource .namespace) → Prop where
  | failed (e : FetchError) : SameLabels (.error e) (.error e)
  | listed {xs ys : List (Resource .namespace)}
      (labels_same : List.Forall₂ (fun x y => x.metadata.anyName = y.metadata.anyName ∧
        ∀ label, x.Carries label ↔ y.Carries label) xs ys) :
      SameLabels (.ok xs) (.ok ys)

namespace LabelPolicy

/-- Whether a policy is about a namespace; one that names no namespaces is about all. -/
def Covers (p : LabelPolicy) (r : Resource .namespace) : Prop :=
  p.namespaces = [] ∨ r.metadata.anyName ∈ p.namespaces

instance (p : LabelPolicy) (r : Resource .namespace) : Decidable (p.Covers r) :=
  inferInstanceAs (Decidable (_ ∨ _))

/-- The part of a namespace in the report. The labels that are missing are listed as they are
required, in that order and that often. -/
inductive Judges (p : LabelPolicy) (r : Resource .namespace) : Report → Prop where
  | compliant (hAll : ∀ label ∈ p.requiredLabels, r.Carries label) :
      Judges p r ⟨r.metadata.anyName, "passed", Dict.ofList [("kind", "Namespace")], ∅, []⟩
  | lacking {missing : List String} (hSome : missing ≠ [])
      (hOrder : missing.Sublist p.requiredLabels)
      (hAbsent : ∀ label ∈ missing, ¬r.Carries label)
      (hCount : ∀ label, ¬r.Carries label →
        missing.count label = p.requiredLabels.count label) :
      Judges p r ⟨r.metadata.anyName, "failed", Dict.ofList [("kind", "Namespace")],
        Dict.ofList [("missingLabels", .strings missing)], []⟩

/-- What the check shows of a cluster. -/
structure Shows (p : LabelPolicy) (name : String) (c : Cluster) (node : Report) : Prop where
  name_eq : node.name = name
  status_eq : node.status = "passed" ∨ node.status = "failed"
  status_eq_failed_iff : node.status = "failed" ↔
    (∃ e, c.list .namespace "" = .error e) ∨
      ∃ namespaces, c.list .namespace "" = .ok namespaces ∧ ∃ r ∈ namespaces, p.Covers r ∧
        ∃ label ∈ p.requiredLabels, ¬r.Carries label
  of_error : ∀ e, c.list .namespace "" = .error e →
    node = ⟨name, "failed", ∅, Dict.ofList [("error", .string e.message)], []⟩
  /-- There is one part for each namespace that the policy is about, and parts of one name stand as
  the namespaces were listed. -/
  of_ok : ∀ namespaces, c.list .namespace "" = .ok namespaces →
    node.metadata = ∅ ∧ node.details = ∅ ∧
    (node.children.Pairwise fun a b => (compare a.name b.name).isLE = true) ∧
    ∃ judged, List.Forall₂ p.Judges (namespaces.filter fun r => p.Covers r) judged ∧
      node.children.Perm judged ∧
      ∀ name, node.children.filter (·.name == name) = judged.filter (·.name == name)

section Namespaces

variable {p : LabelPolicy} {r : Resource .namespace}

theorem inspects_eq_decide (p : LabelPolicy) (r : Resource .namespace) :
    p.inspects r.metadata.anyName = decide (p.Covers r) := by
  rw [Bool.eq_iff_iff, decide_eq_true_iff, inspects, Covers, Bool.or_eq_true, List.isEmpty_iff,
    List.contains_iff_mem]

/-- Missing are the required labels that the namespace does not carry. -/
theorem mem_missing_iff {label : String} :
    label ∈ p.missing r ↔ label ∈ p.requiredLabels ∧ ¬r.Carries label := by
  rw [missing, List.mem_filter, Resource.carries_iff, Bool.not_eq_true, Bool.not_eq_true']

/-- A namespace complies if it carries all of them. -/
theorem missing_eq_nil_iff :
    p.missing r = [] ↔ ∀ label ∈ p.requiredLabels, r.Carries label := by
  simp only [List.eq_nil_iff_forall_not_mem, mem_missing_iff, not_and, not_not]

/-- The verdict on a namespace passes or tells what is missing. -/
theorem judges_verdictOn (p : LabelPolicy) (r : Resource .namespace) :
    p.Judges r (p.verdictOn r) := by
  rw [verdictOn]
  split
  · rename_i hNone
    exact .compliant (missing_eq_nil_iff.mp hNone)
  · rename_i hSome
    refine .lacking hSome List.filter_sublist (fun label h => (mem_missing_iff.mp h).2)
      fun label hAbsent => List.count_filter ?_
    rwa [Bool.not_eq_true', ← Bool.not_eq_true, ← Resource.carries_iff]

/-- A part has passed unless some label is missing. -/
theorem Judges.status_ne_passed_iff {node : Report} (h : p.Judges r node) :
    node.status ≠ Report.passed ↔ ∃ label ∈ p.requiredLabels, ¬r.Carries label := by
  cases h with
  | compliant hAll => simpa [Report.passed] using hAll
  | lacking hSome hOrder hAbsent _ =>
      obtain ⟨label, hMissing⟩ := List.exists_mem_of_ne_nil _ hSome
      have hFailed : ("failed" : String) ≠ Report.passed := by decide
      exact iff_of_true hFailed ⟨label, hOrder.subset hMissing, hAbsent label hMissing⟩

/-- The parts of a report on namespaces, before they are sorted. -/
def verdicts (p : LabelPolicy) (namespaces : List (Resource .namespace)) : List Report :=
  (namespaces.filter fun r => p.inspects r.metadata.anyName).map p.verdictOn

/-- One verdict for each namespace that is covered, in order. -/
theorem forall₂_judges_verdicts (p : LabelPolicy) (namespaces : List (Resource .namespace)) :
    List.Forall₂ p.Judges (namespaces.filter fun r => p.Covers r) (p.verdicts namespaces) := by
  simp only [verdicts, inspects_eq_decide, List.forall₂_map_right_iff]
  exact List.forall₂_same.mpr fun r _ => p.judges_verdictOn r

/-- Some verdict does not pass if and only if some namespace that is covered lacks a label. -/
theorem exists_not_passed_iff {namespaces : List (Resource .namespace)} :
    (∃ part ∈ p.verdicts namespaces, part.status ≠ Report.passed) ↔
      ∃ r ∈ namespaces, p.Covers r ∧ ∃ label ∈ p.requiredLabels, ¬r.Carries label := by
  simp only [verdicts, inspects_eq_decide]
  constructor
  · rintro ⟨_, hPart, hStatus⟩
    obtain ⟨r, hKept, rfl⟩ := List.mem_map.mp hPart
    obtain ⟨hListed, hCovers⟩ := List.mem_filter.mp hKept
    exact ⟨r, hListed, of_decide_eq_true hCovers,
      (p.judges_verdictOn r).status_ne_passed_iff.mp hStatus⟩
  · rintro ⟨r, hListed, hCovers, hLacks⟩
    have hKept : r ∈ namespaces.filter fun r => p.Covers r :=
      List.mem_filter.mpr ⟨hListed, decide_eq_true hCovers⟩
    exact ⟨_, List.mem_map_of_mem hKept,
      (p.judges_verdictOn r).status_ne_passed_iff.mpr hLacks⟩

/-- A verdict looks at the name of a namespace and at which labels it carries, and at nothing else.
-/
theorem verdictOn_congr {x y : Resource .namespace}
    (hName : x.metadata.anyName = y.metadata.anyName)
    (hLabels : ∀ label, x.Carries label ↔ y.Carries label) : p.verdictOn x = p.verdictOn y := by
  have hMissing : p.missing x = p.missing y := by
    refine List.filter_congr fun label _ => ?_
    rw [Bool.eq_iff_iff, Bool.not_eq_true', Bool.not_eq_true', ← Bool.not_eq_true,
      ← Bool.not_eq_true, ← Resource.carries_iff, ← Resource.carries_iff, hLabels]
  rw [verdictOn, verdictOn, hName, hMissing]

theorem verdicts_congr {xs ys : List (Resource .namespace)}
    (h : List.Forall₂ (fun x y => x.metadata.anyName = y.metadata.anyName ∧
      ∀ label, x.Carries label ↔ y.Carries label) xs ys) : p.verdicts xs = p.verdicts ys := by
  induction h with
  | nil => rfl
  | @cons x y xs ys hHead _ ih =>
      obtain ⟨hName, hLabels⟩ := hHead
      have hVerdict := verdictOn_congr (p := p) hName hLabels
      simp only [verdicts, List.filter_cons, hName] at ih ⊢
      split
      · rw [List.map_cons, List.map_cons, hVerdict, ih]
      · exact ih

end Namespaces

section Node

variable {p : LabelPolicy} {c : Cluster} {name : String}

/-- A failed listing fails the check. -/
theorem report_check_of_error {e : FetchError} (h : c.list .namespace "" = .error e) :
    (p.check c name).report =
      ⟨name, "failed", ∅, Dict.ofList [("error", .string e.message)], []⟩ := by
  rw [Check.report, check, h]
  rfl

/-- The verdict over the parts is the status, also if there are none. -/
theorem report_check_of_ok {namespaces : List (Resource .namespace)}
    (h : c.list .namespace "" = .ok namespaces) :
    (p.check c name).report =
      { name, status := Report.verdict (Report.sortByName (p.verdicts namespaces))
        metadata := ∅, details := ∅, children := Report.sortByName (p.verdicts namespaces) } := by
  have hOutcome : (p.check c name).outcome = .ok ⟨name, Report.passed, ∅, ∅,
      Report.sortByName (p.verdicts namespaces)⟩ := by
    rw [check, h]
    rfl
  rw [Check.report_of_ok hOutcome]
  split
  · rename_i hNone
    have hParts : Report.sortByName (p.verdicts namespaces) = [] := List.isEmpty_iff.mp hNone
    rw [hParts]
    rfl
  · rfl

/-- Whatever the cluster answers, the report of the check is as it should be. -/
theorem shows_report_check (p : LabelPolicy) (c : Cluster) (name : String) :
    p.Shows name c (p.check c name).report := by
  cases hList : c.list .namespace "" with
  | error e =>
      rw [report_check_of_error hList]
      refine ⟨rfl, .inr rfl, iff_of_true rfl (.inl ⟨e, hList⟩), fun e' hError => ?_,
        fun _ hOk => ?_⟩
      · rw [← Except.error.inj (hList.symm.trans hError)]
      · cases hList.symm.trans hOk
  | ok namespaces =>
      rw [report_check_of_ok hList]
      have hPerm := Report.sortByName_perm (p.verdicts namespaces)
      refine ⟨rfl, ?_, ?_, fun _ hError => ?_, fun others hOk => ?_⟩
      · rw [Report.verdict]
        split
        · exact .inl rfl
        · exact .inr rfl
      · have hFailed : Report.verdict (Report.sortByName (p.verdicts namespaces)) = "failed" ↔
            ∃ r ∈ namespaces, p.Covers r ∧ ∃ label ∈ p.requiredLabels, ¬r.Carries label := by
          rw [← exists_not_passed_iff]
          refine Report.verdict_eq_failed_iff.trans ?_
          simp only [hPerm.mem_iff]
        simp [hFailed, hList]
      · cases hList.symm.trans hError
      · obtain rfl := Except.ok.inj (hList.symm.trans hOk)
        exact ⟨rfl, rfl, pairwise_mergeSort_key Report.name _, _, forall₂_judges_verdicts p _,
          hPerm, filter_mergeSort_key Report.name _⟩

/-- So clusters that differ in the values of labels have the same report. -/
theorem report_check_congr {d : Cluster}
    (h : Listing.SameLabels (c.list .namespace "") (d.list .namespace "")) :
    (p.check c name).report = (p.check d name).report := by
  generalize hList : c.list .namespace "" = l at h
  generalize hList' : d.list .namespace "" = m at h
  cases h with
  | failed e => rw [report_check_of_error hList, report_check_of_error hList']
  | listed hSame =>
      rw [report_check_of_ok hList, report_check_of_ok hList', verdicts_congr hSame]

end Node

section Building

variable {config : Config.Check}

theorem build_builtin (c : Cluster) (hKind : config.kind = checkKind) :
    (CheckRegistry.builtin c).build config = factory c config := by
  have hFactory : (CheckRegistry.builtin c).factories.get? config.kind = some (factory c) := by
    rw [hKind, CheckRegistry.builtin, CheckRegistry.register, Dict.get?_insert, if_pos rfl]
  rw [CheckRegistry.build, hFactory]

theorem strings?_strings (texts : List String) :
    (Yaml.Value.strings texts).strings? = some texts :=
  mapM_map_eq_some fun _ _ => rfl

/-- A specification that says no more than a policy is read as it. -/
theorem ofSpec?_record (p : LabelPolicy) :
    ofSpec? (.record [("requiredLabels", .strings p.requiredLabels),
      ("namespaces", .strings p.namespaces)]) = some p := by
  have hFields : Yaml.Value.fields? (.record [("requiredLabels", .strings p.requiredLabels),
      ("namespaces", .strings p.namespaces)]) =
      some [("requiredLabels", Yaml.Value.strings p.requiredLabels),
        ("namespaces", Yaml.Value.strings p.namespaces)] := rfl
  rw [ofSpec?, hFields]
  simp [Record.parts?, Record.single?, Record.orElse, strings?_strings]

/-- A specification that names some label makes a check. -/
theorem build_eq_ok (c : Cluster) (hKind : config.kind = checkKind) {p : LabelPolicy}
    (hSpec : ofSpec? config.spec = some p) (hSome : p.requiredLabels ≠ []) :
    (CheckRegistry.builtin c).build config = .ok (p.check c config.name) := by
  rw [build_builtin c hKind, factory, hSpec]
  exact if_neg (by simpa using hSome)

/-- One that does not is rejected with the reason. -/
theorem build_eq_error (c : Cluster) (hKind : config.kind = checkKind) :
    (ofSpec? config.spec = none →
      (CheckRegistry.builtin c).build config = .error (.invalidSpec config.name .malformed)) ∧
    ∀ p, ofSpec? config.spec = some p → p.requiredLabels = [] →
      (CheckRegistry.builtin c).build config =
        .error (.invalidSpec config.name .noRequiredLabels) := by
  rw [build_builtin c hKind, factory]
  refine ⟨fun hSpec => by rw [hSpec], fun p hSpec hNone => ?_⟩
  rw [hSpec]
  exact if_pos (List.isEmpty_iff.mpr hNone)

end Building

/-- Run among any others, a check has its own report as one part of the report over all. -/
theorem exists_run_of_mem (before after : List Check) (check : Check) (completion : Completion)
    (concurrency : Nat) (title : String) : ∃ root,
      (Check.Runner.new (before ++ check :: after) concurrency).run completion title = .ok root ∧
      root.children.Perm (check.report :: (before ++ after).map Check.report) := by
  have hSome : before ++ check :: after ≠ [] := by simp
  obtain ⟨root, hRun, hChildren, -⟩ := Check.Runner.run_new hSome completion concurrency title
  refine ⟨root, hRun, ?_⟩
  rw [hChildren]
  have hOrder : (completion.order (.ofWanted concurrency) (before ++ check :: after)).Perm
      (check :: (before ++ after)) :=
    (completion.order_perm _ _).trans List.perm_middle
  exact (Report.sortByName_perm _).trans (hOrder.map Check.report)

/-- The check of a configuration that requires labels is built and run on every cluster, alone or
among others, and what it shows in the report over all is what the policy says of the cluster, the
values of labels aside. It is refused if its specification is malformed or requires none. -/
theorem builtin_checks_labels {config : Config.Check} (hKind : config.kind = "namespace-labels") :
    (∀ p, ofSpec? config.spec = some p → p.requiredLabels ≠ [] → ∃ node : Cluster → Report,
      (∀ c, p.Shows config.name c (node c)) ∧
      (∀ c d, Listing.SameLabels (c.list .namespace "") (d.list .namespace "") →
        node c = node d) ∧
      ∀ c, ∃ check, (CheckRegistry.builtin c).build config = .ok check ∧
        ∀ before after completion concurrency title, ∃ root,
          (Check.Runner.new (before ++ check :: after) concurrency).run completion title =
            .ok root ∧
          root.children.Perm (node c :: (before ++ after).map Check.report)) ∧
    (ofSpec? config.spec = none → ∀ c, (CheckRegistry.builtin c).build config =
      .error (.invalidSpec config.name .malformed)) ∧
    ∀ p, ofSpec? config.spec = some p → p.requiredLabels = [] → ∀ c,
      (CheckRegistry.builtin c).build config =
        .error (.invalidSpec config.name .noRequiredLabels) := by
  refine ⟨fun p hSpec hSome => ?_, fun hSpec c => (build_eq_error c hKind).1 hSpec,
    fun p hSpec hNone c => (build_eq_error c hKind).2 p hSpec hNone⟩
  refine ⟨fun c => (p.check c config.name).report, fun c => p.shows_report_check c config.name,
    fun c d hSame => report_check_congr hSame, fun c => ?_⟩
  exact ⟨_, build_eq_ok c hKind hSpec hSome, fun before after => exists_run_of_mem before after _⟩

/-- Two of three namespaces are asked for two labels. -/
def ownership : LabelPolicy := ⟨["owner", "cost-center"], ["team-a", "team-b"]⟩

def ownershipCheck : Config.Check :=
  ⟨"ownership", none, "namespace-labels",
    .record [("requiredLabels", .strings ownership.requiredLabels),
      ("namespaces", .strings ownership.namespaces)]⟩

def labelledNamespace (name : String) (labels : List (String × String)) : Resource .namespace :=
  ⟨{ Metadata.empty with name := some name, labels := Dict.ofList labels }, none, none⟩

def teams : List (Resource .namespace) :=
  [labelledNamespace "team-b" [("owner", "b")],
    labelledNamespace "team-a" [("owner", "a"), ("cost-center", "")],
    labelledNamespace "kube-system" []]

def teamCluster : Cluster :=
  Snapshot.cluster ⟨fun | .namespace => teams | _ => [], []⟩

/-- One team has all labels, of which one is empty, the other lacks one; the third namespace, that
has none, is not asked. -/
theorem builtin_checks_labels_ownership :
    ownershipCheck.kind = "namespace-labels" ∧ ofSpec? ownershipCheck.spec = some ownership ∧
    ownership.requiredLabels ≠ [] ∧ ∃ check root node,
      (CheckRegistry.builtin teamCluster).build ownershipCheck = .ok check ∧
      (Check.Runner.new [check] 8).run .inOrder "Checks" = .ok root ∧ root.children = [node] ∧
      node.status = "failed" ∧ node.children.length = 2 := by
  have hKind : ownershipCheck.kind = "namespace-labels" := rfl
  have hSpec : ofSpec? ownershipCheck.spec = some ownership := ofSpec?_record ownership
  have hSome : ownership.requiredLabels ≠ [] := by decide
  have hList : teamCluster.list .namespace "" = .ok teams := rfl
  obtain ⟨node, hShows, -, hBuilt⟩ := (builtin_checks_labels hKind).1 ownership hSpec hSome
  obtain ⟨check, hBuild, hRun⟩ := hBuilt teamCluster
  obtain ⟨root, hRoot, hParts⟩ := hRun [] [] .inOrder 8 "Checks"
  refine ⟨hKind, hSpec, hSome, check, root, node teamCluster, hBuild, hRoot,
    List.perm_singleton.mp hParts, ?_, ?_⟩
  · refine (hShows teamCluster).status_eq_failed_iff.mpr (.inr ⟨teams, hList, ?_⟩)
    have hLacks : ¬(labelledNamespace "team-b" [("owner", "b")]).Carries "cost-center" := by
      rw [Resource.carries_iff]
      decide
    exact ⟨_, List.mem_cons_self, by decide, "cost-center", by decide, hLacks⟩
  · obtain ⟨-, -, -, judged, hJudged, hPerm, -⟩ := (hShows teamCluster).of_ok teams hList
    rw [hPerm.length_eq, ← hJudged.length_eq]
    decide

end LabelPolicy

end KubeInventory
