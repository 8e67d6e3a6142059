import KubeInventory.Proofs.Fields
import KubeInventory.Proofs.Isolation

/-! What is shown of a namespace and its policies. Each of the three listings of policies shows in a
detail of its own, under the names of the objects, and fails on its own: the errors stand beside
what the other listings gave. A quota joins what is granted of a resource and what is used of it. -/

namespace KubeInventory

namespace PolicedNamespace

variable {k : Kind}

/-- An object goes by its name, or else by what its name was to be generated from. One that has
neither goes by the empty name. -/
def GoesBy (r : Resource k) (name : String) : Prop :=
  r.metadata.name = some name ∨
    r.metadata.name = none ∧
      (r.metadata.generateName = some name ∨ r.metadata.generateName = none ∧ name = "")

/-- What stands under a name: what is told of the last object that goes by it. -/
inductive ShowsLast (Tells : Resource k → Value → Prop) (objects : List (Resource k))
    (name : String) : Option Value → Prop where
  | absent (hNone : ∀ r ∈ objects, ¬GoesBy r name) : ShowsLast Tells objects name none
  | last {before after : List (Resource k)} {r : Resource k} {v : Value}
      (hSplit : objects = before ++ r :: after) (hName : GoesBy r name)
      (hLast : ∀ later ∈ after, ¬GoesBy later name) (hTells : Tells r v) :
      ShowsLast Tells objects name (some v)

/-- How a listing shows: not at all unless it gave some object. -/
inductive ShowsListing (Tells : Resource k → Value → Prop) :
    Listing (Resource k) → Option Value → Prop where
  | failed (e : FetchError) : ShowsListing Tells (.error e) none
  | empty : ShowsListing Tells (.ok []) none
  | listed {objects : List (Resource k)} {v : Value} (hSome : objects ≠ [])
      (hFields : v.HasFields (ShowsLast Tells objects)) : ShowsListing Tells (.ok objects) (some v)

/-- A resource stands in the entry of a quota if it is granted or used. -/
inductive ShowsQuantities (granted used : Option Value) : Option Value → Prop where
  | absent (hGranted : granted = none) (hUsed : used = none) : ShowsQuantities granted used none
  | present {v : Value} (hSome : granted ≠ none ∨ used ≠ none)
      (hFields : v.HasFields fun key fact => fact =
        if key = "limit" then granted else if key = "used" then used else none) :
      ShowsQuantities granted used (some v)

/-- What is granted by a quota and what of it is used stand in two fields, by resource. -/
def TellsQuota (r : Resource .resourceQuota) (v : Value) : Prop :=
  ∃ granted used : List (String × Value),
    Value.Gives .object [] (r.statusField? "hard") granted ∧
    Value.Gives .object [] (r.statusField? "used") used ∧
    v.HasFields fun resource =>
      ShowsQuantities ((Dict.ofList granted).get? resource) ((Dict.ofList used).get? resource)

/-- What one item of a limit range bounds, and those of the bounds that name some resource. -/
def TellsLimit (item v : Value) : Prop :=
  v.HasFields fun key field =>
    (key = "type" → ∃ text, Value.Gives .string "" (item.field? "type") text ∧
      field = some (.string text)) ∧
    (key ∈ ["default", "defaultRequest", "min", "max", "maxLimitRequestRatio"] →
      (item.field? key = none → field = none) ∧
      ∀ bound, item.field? key = some (.object bound) →
        field = if bound = [] then none else some (.object bound)) ∧
    (key ∉ ["type", "default", "defaultRequest", "min", "max", "maxLimitRequestRatio"] →
      field = none)

/-- The items of a limit range in order. -/
def TellsLimits (r : Resource .limitRange) (v : Value) : Prop :=
  ∃ limits items, Value.Gives .list [] (r.specField? "limits") limits ∧ v = .list items ∧
    List.Forall₂ TellsLimit limits items

/-- What a disruption budget asks for and what is seen of its pods. What is missing is null. -/
def TellsBudget (r : Resource .podDisruptionBudget) (v : Value) : Prop :=
  v.HasFields fun key field =>
    (key ∈ ["minAvailable", "maxUnavailable"] → field = some ((r.specField? key).getD .null)) ∧
    (key ∈ ["disruptionsAllowed", "currentHealthy", "desiredHealthy", "expectedPods"] →
      field = some ((r.statusField? key).getD .null)) ∧
    (key ∉ ["minAvailable", "maxUnavailable", "disruptionsAllowed", "currentHealthy",
        "desiredHealthy", "expectedPods"] → field = none)

end PolicedNamespace

/-- What is shown of a namespace, whichever of the listings of its policies fail. -/
structure ShowsPolicies (c : Cluster) (r : Resource .namespace) (node : Report) : Prop where
  name_eq : node.name = r.metadata.name.getD ""
  phase : ∀ phase, r.statusField? "phase" = some (.string phase) → node.status = phase
  no_phase : r.statusField? "phase" = none → node.status = "Unknown"
  quotas : PolicedNamespace.ShowsListing PolicedNamespace.TellsQuota
    (c.list .resourceQuota r.metadata.ownName) (node.details.get? "resourceQuotas")
  limits : PolicedNamespace.ShowsListing PolicedNamespace.TellsLimits
    (c.list .limitRange r.metadata.ownName) (node.details.get? "limitRanges")
  budgets : PolicedNamespace.ShowsListing PolicedNamespace.TellsBudget
    (c.list .podDisruptionBudget r.metadata.ownName) (node.details.get? "podDisruptionBudgets")
  /-- There are errors if and only if some listing failed. -/
  errors_iff : node.details.get? "errors" ≠ none ↔
    ∃ kind ∈ Kind.policies, ∃ e, c.list kind r.metadata.ownName = .error e
  errors : ∀ v, node.details.get? "errors" = some v → v.HasFields fun key error => ∀ shown,
    error = some shown ↔ ∃ kind ∈ Kind.policies, key = kind.name ∧
      ∃ e, c.list kind r.metadata.ownName = .error e ∧ shown = .string e.message
  others : ∀ key, key ∉ ["resourceQuotas", "limitRanges", "podDisruptionBudgets", "errors"] →
    node.details.get? key = none

namespace PolicedNamespace

variable {k : Kind}

section Named

/-- An object goes by its name, or else by the prefix that its name is made from. -/
theorem goesBy_iff {r : Resource k} {name : String} :
    GoesBy r name ↔ r.metadata.anyName = name := by
  rw [GoesBy, Metadata.anyName]
  cases r.metadata.name <;> cases r.metadata.generateName <;> simp [eq_comm]

variable {Tells : Resource k → Value → Prop} {detail : Resource k → Value}
  {objects : List (Resource k)} {listing : Listing (Resource k)}

/-- Under each name stands what is told of the last object that goes by it. -/
theorem hasFields_detailsByName (hTells : ∀ r, Tells r (detail r)) :
    (detailsByName detail objects).HasFields (ShowsLast Tells objects) := by
  refine ⟨_, rfl, fun name => ?_⟩
  cases hGet : (Dict.ofList (objects.map fun r => (r.metadata.anyName, detail r))).get? name with
  | none =>
      refine .absent fun r hr hName => ?_
      exact Dict.get?_ofList_eq_none_iff.mp hGet _ (List.mem_map_of_mem hr) (goesBy_iff.mp hName)
  | some v =>
      obtain ⟨r, ⟨before, after, hSplit, hLast⟩, rfl, rfl⟩ :=
        Dict.get?_ofList_map_eq_some_iff.mp hGet
      refine .last hSplit (goesBy_iff.mpr rfl) (fun later hLater hName => ?_) (hTells r)
      exact hLast later hLater (goesBy_iff.mp hName)

theorem get?_details_withObjects (report : Report) (key other : String) :
    (withObjects key detail objects report).details.get? other =
      if other = key ∧ objects ≠ [] then some (detailsByName detail objects)
      else report.details.get? other := by
  rw [withObjects]
  by_cases hNone : objects = []
  · simp [hNone]
  · simp [hNone, Report.get?_details_withDetail]

/-- Each of the three listings shows in the same way, with details of its own. -/
theorem showsListing_of (hTells : ∀ r, Tells r (detail r)) :
    ShowsListing Tells listing (if objectsOf listing ≠ [] then
      some (detailsByName detail (objectsOf listing)) else none) := by
  cases listing with
  | error e => exact .failed e
  | ok objects =>
      by_cases hNone : objects = []
      · subst hNone
        exact .empty
      · rw [objectsOf, if_pos hNone]
        exact .listed hNone (hasFields_detailsByName hTells)

end Named

section Quota

/-- Each resource of the entries gets the fact beside those that were known of it. -/
theorem get?_foldl_addFact (fact : String) (entries : List (String × Value))
    (known : Dict String (Dict String Value)) (resource : String) :
    (entries.foldl (addFact fact) known).get? resource =
      ((Dict.ofList entries).get? resource).elim (known.get? resource) fun quantity =>
        some (((known.get? resource).getD ∅).insert fact quantity) := by
  -- From the right: the last entry of a resource takes the place of the fact told before it.
  induction entries using List.reverseRecOn with
  | nil => rfl
  | append_singleton prior last ih =>
      rw [List.foldl_append, Dict.ofList_concat, Dict.get?_insert]
      change ((prior.foldl (addFact fact) known).insert last.1 _).get? resource = _
      rw [Dict.get?_insert]
      by_cases hLast : resource = last.1
      · subst hLast
        rw [if_pos rfl, if_pos rfl, ih]
        cases (Dict.ofList prior).get? last.1 with
        | none => rfl
        | some earlier => simp [Dict.insert_insert]
      · rw [if_neg hLast, if_neg hLast, ih]

theorem gives_quantities (field : Option Value) : Value.Gives .object [] field (quantities field) :=
  (Value.gives_iff_of_reader fun _ _ => Value.fields?_eq_some_iff).mpr rfl

/-- The two passes over a quota, first what is granted and then what is used, leave both facts of a
resource beside each other. -/
theorem tellsQuota_quotaDetail (r : Resource .resourceQuota) : TellsQuota r (quotaDetail r) := by
  refine ⟨_, _, gives_quantities _, gives_quantities _, _, rfl, fun resource => ?_⟩
  rw [Dict.get?_map, get?_foldl_addFact, get?_foldl_addFact, Dict.get?_empty]
  generalize Dict.ofList (quantities (r.statusField? "hard")) = granted
  generalize Dict.ofList (quantities (r.statusField? "used")) = used
  cases granted.get? resource with
  | none =>
      cases used.get? resource with
      | none => exact .absent rfl rfl
      | some used =>
          refine .present (.inr nofun) ⟨_, rfl, fun key => ?_⟩
          by_cases hKey : key = "limit" <;> simp [hKey, Dict.get?_insert]
  | some quantity =>
      cases used.get? resource with
      | none =>
          refine .present (.inl nofun) ⟨_, rfl, fun key => ?_⟩
          simp [Dict.get?_insert]
      | some used =>
          refine .present (.inl nofun) ⟨_, rfl, fun key => ?_⟩
          by_cases hKey : key = "limit" <;> simp [hKey, Dict.get?_insert]

/-- A resource may be granted, used, or both. -/
example : quotaDetail ⟨.empty, none, some (.object
      [("hard", .object [("cpu", .string "4"), ("pods", .string "9")]),
        ("used", .object [("cpu", .string "1"), ("disk", .string "3")])])⟩ =
    .object [("cpu", .object [("limit", .string "4"), ("used", .string "1")]),
      ("disk", .object [("used", .string "3")]), ("pods", .object [("limit", .string "9")])] := by
  rfl

end Quota

section Limits

theorem get?_limitDetail (item : Value) : ∃ d : Dict String Value, limitDetail item = .ofDict d ∧
    ∀ key, d.get? key = if key = "type" then some (.string (item.textField "type"))
      else if key ∈ Schema.bounds then Resource.nonempty? (item.field? key) else none := by
  refine ⟨.ofList ([("type", .string (item.textField "type"))] ++
    Schema.bounds.filterMap fun bound => (Resource.nonempty? (item.field? bound)).map (bound, ·)),
    rfl, fun key => ?_⟩
  rw [Dict.get?_ofList_append_filterMap]
  change Option.or _ ((Dict.insert ∅ "type" _).get? key) = _
  rw [Dict.get?_insert, Dict.get?_empty]
  by_cases hType : key = "type"
  · subst hType
    rw [if_neg (by decide), if_pos rfl, Option.none_or]
  · rw [if_neg hType, if_neg hType, Option.or_none]

theorem tellsLimit_limitDetail (item : Value) : TellsLimit item (limitDetail item) := by
  obtain ⟨d, hDetail, hGet⟩ := get?_limitDetail item
  refine ⟨d, hDetail, fun key => ?_⟩
  rw [hGet]
  change _ ∧ (key ∈ Schema.bounds → _) ∧ (key ∉ "type" :: Schema.bounds → _)
  refine ⟨fun hType => ⟨_, Value.gives_textField item "type", if_pos hType⟩, fun hBound => ?_,
    fun hOther => ?_⟩
  · have hType : key ≠ "type" := by
      rintro rfl
      revert hBound
      decide
    rw [if_neg hType, if_pos hBound]
    refine ⟨fun hNone => by rw [hNone]; rfl, fun bound hSome => ?_⟩
    rw [hSome]
    cases bound <;> rfl
  · obtain ⟨hType, hBound⟩ := not_or.mp (mt List.mem_cons.mpr hOther)
    rw [if_neg hType, if_neg hBound]

/-- The items of a limit range are told one by one, in order. -/
theorem tellsLimits_limitsDetail (r : Resource .limitRange) : TellsLimits r (limitsDetail r) := by
  refine ⟨_, _, Value.gives_itemsOf _, rfl, ?_⟩
  rw [List.forall₂_map_right_iff]
  exact List.forall₂_same.mpr fun item _ => tellsLimit_limitDetail item

end Limits

section Budget

/-- A budget tells six fields, each as null where it is missing. -/
theorem get?_budgetDetail (r : Resource .podDisruptionBudget) :
    ∃ d : Dict String Value, budgetDetail r = .ofDict d ∧ ∀ key, d.get? key =
      if key ∈ ["disruptionsAllowed", "currentHealthy", "desiredHealthy", "expectedPods"] then
        some ((r.statusField? key).getD .null)
      else if key ∈ ["minAvailable", "maxUnavailable"] then some ((r.specField? key).getD .null)
      else none := by
  refine ⟨.ofList (([] ++ ["minAvailable", "maxUnavailable"].filterMap fun key =>
    (some ((r.specField? key).getD .null)).map (key, ·)) ++
    ["disruptionsAllowed", "currentHealthy", "desiredHealthy", "expectedPods"].filterMap fun key =>
      (some ((r.statusField? key).getD .null)).map (key, ·)), rfl, fun key => ?_⟩
  rw [Dict.get?_ofList_append_filterMap, Dict.get?_ofList_append_filterMap]
  split
  · rw [Option.some_or]
  · rw [Option.none_or]
    exact Option.or_none

theorem tellsBudget_budgetDetail (r : Resource .podDisruptionBudget) :
    TellsBudget r (budgetDetail r) := by
  obtain ⟨d, hDetail, hGet⟩ := get?_budgetDetail r
  refine ⟨d, hDetail, fun key => ?_⟩
  rw [hGet]
  refine ⟨fun hWanted => ?_, fun hSeen => if_pos hSeen, fun hOther => ?_⟩
  · have hSeen : key ∉
        ["disruptionsAllowed", "currentHealthy", "desiredHealthy", "expectedPods"] := by
      simp only [List.mem_cons, List.not_mem_nil, or_false] at hWanted
      rcases hWanted with rfl | rfl <;> decide
    rw [if_neg hSeen, if_pos hWanted]
  · obtain ⟨hWanted, hSeen⟩ : key ∉ ["minAvailable", "maxUnavailable"] ∧
        key ∉ ["disruptionsAllowed", "currentHealthy", "desiredHealthy", "expectedPods"] :=
      not_or.mp (mt List.mem_append.mpr hOther)
    rw [if_neg hSeen, if_neg hWanted]

end Budget

section Errors

variable {c : Cluster} {r : Resource .namespace}

/-- Only a listing that failed leaves an error. -/
theorem get?_noteError {α : Type} (kind other : Kind) (listing : Listing α)
    (errors : Dict Kind String) {text : String} :
    (noteError kind listing errors).get? other = some text ↔
      (other = kind ∧ ∃ e, listing = .error e ∧ e.message = text) ∨
        ((other = kind → ∃ objects, listing = .ok objects) ∧ errors.get? other = some text) := by
  cases listing with
  | ok objects => simp [noteError]
  | error e => by_cases hKind : other = kind <;> simp [noteError, Dict.get?_insert, hKind]

/-- The errors are those of the listings that failed. -/
theorem get?_errors_collect_eq_some_iff {kind : Kind} {text : String} :
    (collect c r).errors.get? kind = some text ↔
      kind ∈ Kind.policies ∧
        ∃ e, c.list kind r.metadata.ownName = .error e ∧ e.message = text := by
  simp only [collect, get?_noteError, Dict.get?_empty]
  cases kind <;> simp [Kind.policies]

/-- The errors stand under the names of the kinds whose listings failed. -/
theorem hasFields_errorsDetail (c : Cluster) (r : Resource .namespace) :
    (errorsDetail (collect c r).errors).HasFields fun key error => ∀ shown,
      error = some shown ↔ ∃ kind ∈ Kind.policies, key = kind.name ∧
        ∃ e, c.list kind r.metadata.ownName = .error e ∧ shown = .string e.message := by
  refine ⟨_, rfl, fun key shown => ?_⟩
  -- No two kinds have one name, so no error is lost when they are filed under the names.
  have hNames : ((collect c r).errors.entries.map fun e => e.1.name).Nodup := by
    have hKinds := (collect c r).errors.keys_nodup.map fun _ _ => Kind.name_injective
    rwa [List.map_map] at hKinds
  rw [Dict.get?_ofList_map_eq_some_iff]
  simp only [isLast_iff_mem hNames, Prod.exists, Dict.mem_entries_iff,
    get?_errors_collect_eq_some_iff]
  constructor
  · rintro ⟨kind, _, ⟨hKind, e, hError, rfl⟩, rfl, rfl⟩
    exact ⟨kind, hKind, rfl, e, hError, rfl⟩
  · rintro ⟨kind, hKind, rfl, e, hError, rfl⟩
    exact ⟨kind, _, ⟨hKind, e, hError, rfl⟩, rfl, rfl⟩

end Errors

section Report

theorem status_withObjects (key : String) (detail : Resource k → Value)
    (objects : List (Resource k)) (report : Report) :
    (withObjects key detail objects report).status = report.status := by
  rw [withObjects]
  split <;> rfl

theorem status_report (n : PolicedNamespace) : n.report.status = n.phase := by
  rw [report]
  split <;> simp [status_withObjects, Report.new]

/-- The details of a namespace by their keys, of which each part of the report writes one. -/
theorem get?_details_report (n : PolicedNamespace) (key : String) :
    n.report.details.get? key =
      if key = "errors" ∧ n.errors.isEmpty = false then some (errorsDetail n.errors)
      else if key = "podDisruptionBudgets" ∧ n.budgets ≠ [] then
        some (detailsByName budgetDetail n.budgets)
      else if key = "limitRanges" ∧ n.limits ≠ [] then some (detailsByName limitsDetail n.limits)
      else if key = "resourceQuotas" ∧ n.quotas ≠ [] then
        some (detailsByName quotaDetail n.quotas)
      else none := by
  have hNew : (Report.new n.name n.phase).details.get? key = none := rfl
  rw [report]
  cases n.errors.isEmpty with
  | true => simp [get?_details_withObjects, hNew]
  | false => simp [get?_details_withObjects, Report.get?_details_withDetail, hNew]

variable (c : Cluster) (r : Resource .namespace)

theorem errors_isEmpty_eq_false_iff : (collect c r).errors.isEmpty = false ↔
    ∃ kind ∈ Kind.policies, ∃ e, c.list kind r.metadata.ownName = .error e := by
  rw [← Bool.not_eq_true, Dict.isEmpty_iff, not_forall]
  constructor
  · rintro ⟨kind, hSome⟩
    obtain ⟨text, hText⟩ := Option.ne_none_iff_exists'.mp hSome
    obtain ⟨hKind, e, hError, -⟩ := get?_errors_collect_eq_some_iff.mp hText
    exact ⟨kind, hKind, e, hError⟩
  · rintro ⟨kind, hKind, e, hError⟩
    have hText := get?_errors_collect_eq_some_iff.mpr ⟨hKind, e, hError, rfl⟩
    exact ⟨kind, hText ▸ Option.some_ne_none _⟩

theorem status_report_collect : (collect c r).report.status =
    ((r.statusField? "phase").bind Value.string?).getD Report.unknown :=
  status_report _

/-- A namespace is shown with its own name and phase, and with what each of the listings of its
policies gave, whichever of them fail. -/
theorem collect_report_shows_policies : ShowsPolicies c r (collect c r).report where
  name_eq := name_report _
  phase phase hPhase := by
    rw [status_report_collect, hPhase]
    rfl
  no_phase hNone := by
    rw [status_report_collect, hNone]
    rfl
  quotas := by
    simp only [get?_details_report, String.reduceEq, false_and, true_and, if_false]
    exact showsListing_of tellsQuota_quotaDetail
  limits := by
    simp only [get?_details_report, String.reduceEq, false_and, true_and, if_false]
    exact showsListing_of tellsLimits_limitsDetail
  budgets := by
    simp only [get?_details_report, String.reduceEq, false_and, true_and, if_false]
    exact showsListing_of tellsBudget_budgetDetail
  errors_iff := by
    rw [get?_details_report, ← errors_isEmpty_eq_false_iff]
    simp
  errors v hErrors := by
    obtain ⟨-, rfl⟩ : (collect c r).errors.isEmpty = false ∧
        errorsDetail (collect c r).errors = v := by
      simpa [get?_details_report] using hErrors
    exact hasFields_errorsDetail c r
  others key hKey := by
    rw [get?_details_report]
    simp only [List.mem_cons, List.not_mem_nil, or_false, not_or] at hKey
    simp [hKey]

end Report

end PolicedNamespace

end KubeInventory
