import AuditScanner.Scanner.Audit

/-!
# Scanning namespaces and cluster-wide resources

`ScanNamespace` and `ScanClusterWideResources` fetch the policies that apply, then walk the
catalog's Go map from resource type to policies, in the order `Cluster.rangeOrder` gives,
listing each type's resources and auditing them; both loops are `Cluster.scanGvrs`.
`ScanAllNamespaces` scans every namespace `GetAuditedNamespaces` returns.  The main results
are `scans_audit_matching_pairs`, `scanNamespace_stops_at_first_failure`,
`scanAllNamespaces_panics_of_enumeration_error` and `scanAllNamespaces_scans_each`.
-/

namespace AuditScanner

/-- The callback that `ScanNamespace` and `ScanClusterWideResources` hand to
`EachListItem`: audit the object against the type's policies if it is an
`*unstructured.Unstructured`, and fail otherwise. -/
def auditObject (audit : List ServedPolicy → Unstructured → ScanM Unit)
    (policies : List ServedPolicy) (obj : Object) : ScanM (Option GoError) :=
  match obj.asUnstructured with
  | none => pure (some (.new "failed to convert runtime.Object to *unstructured.Unstructured"))
  | some resource => do
    audit policies resource
    pure none

/-- The walk of `EachListItem` over the objects of the pages listed, stopping at the first
error of the callback; a page that fails to list ends the walk with its error. -/
def eachItem (fn : Object → ScanM (Option GoError)) (listErr : Option GoError) :
    List Object → ScanM (Option GoError)
  | [] => pure listErr
  | obj :: objs => do
    match ← fn obj with
    | some err => pure (some err)
    | none => eachItem fn listErr objs

/-- `pager.EachListItem(ctx, opts, fn)`. -/
def Pager.eachListItem (pager : Pager) (fn : Object → ScanM (Option GoError)) :
    ScanM (Option GoError) :=
  eachItem fn pager.err pager.items

namespace Cluster

variable (c : Cluster)

/-- The `for gvr, policies := range policies.PoliciesByGVR` loop of `ScanNamespace` and
`ScanClusterWideResources`, over the map's entries in the order the loop visits them. -/
def scanGvrs (audit : List ServedPolicy → Unstructured → ScanM Unit) (nsName : String) :
    List (Σ _ : Gvr, List ServedPolicy) → ScanM (Option GoError)
  | [] => pure none
  | ⟨gvr, policies⟩ :: entries => do
    match ← ask (.getResources gvr nsName) (c.getResources gvr nsName) with
    | .error err => pure (some err)
    | .ok pager =>
      match ← pager.eachListItem (auditObject audit policies) with
      | some err => pure (some err)
      | none => scanGvrs audit nsName entries

/-- `ScanNamespace`. -/
def scanNamespace (nsName : String) : ScanM (Option GoError) := do
  logLine .info "namespace scan started" none
  match ← ask (.getNamespace nsName) (c.getNamespace nsName) with
  | .error err => pure (some err)
  | .ok () =>
    match ← ask (.getPoliciesForANamespace nsName) (c.getPoliciesForANamespace nsName) with
    | .error err => pure (some err)
    | .ok policies =>
      logLine .info "policy count" none
      -- `err` is nil here: `errors.Is(err, constants.ErrResourceNotFound)` is false, and
      -- neither line about a pre-existing PolicyReport is written.
      let t ← get
      c.scanGvrs c.auditResource nsName (c.rangeOrder t policies.policiesByGVR)

/-- `ScanClusterWideResources`. -/
def scanClusterWideResources : ScanM (Option GoError) := do
  logLine .info "clusterwide resources scan started" none
  match ← ask .getClusterWidePolicies c.getClusterWidePolicies with
  | .error err => pure (some err)
  | .ok policies =>
    logLine .info "cluster admission policies count" none
    let t ← get
    match ← c.scanGvrs c.auditClusterResource "" (c.rangeOrder t policies.policiesByGVR) with
    | some err => pure (some err)
    | none =>
      logLine .info "clusterwide resources scan finished" none
      pure none

end Cluster

/-- The `for _, ns := range nsList.Items` loop of `ScanAllNamespaces`, with `scan` for
`ScanNamespace`: every namespace is scanned, and the errors are joined. -/
def scanEachNamespace (scan : String → ScanM (Option GoError)) :
    List Namespace → Option GoError → ScanM (Option GoError)
  | [], err => pure err
  | ns :: nss, err => do
    match ← scan ns.name with
    | some e =>
      logLine .error "error scanning namespace" (some e)
      scanEachNamespace scan nss (errorsJoin err (some e))
    | none => scanEachNamespace scan nss err

namespace Cluster

variable (c : Cluster)

/-- `ScanAllNamespaces`: `GetAuditedNamespaces` returns a nil list with its error. -/
def scanAllNamespaces : ScanM (Option GoError) := do
  logLine .info "all-namespaces scan started" none
  let listing ← ask .getAuditedNamespaces c.getAuditedNamespaces
  let nsList := listing.toOption
  let err := errOf listing
  if let some err := err then
    logLine .error "error scanning all namespaces" (some err)
  -- `nsList.Items`
  let nsList ← deref nsList
  let err ← scanEachNamespace c.scanNamespace nsList.items err
  logLine .info "all-namespaces scan finished" none
  pure err

/-- `startScanner` of the command: the named namespace, or all of them. -/
def startScanner (ns : String) : ScanM (Option GoError) := do
  if ns ≠ "" then
    if let some err ← c.scanNamespace ns then
      return some err
  else
    if let some err ← c.scanAllNamespaces then
      return some err
  return none

end Cluster

/-! ## Specifications of the scans -/

/-- Whether walking a pager with the scanners' callback succeeds: no page fails to list,
and every object is an `*unstructured.Unstructured`. -/
def Pager.walkable (pager : Pager) : Bool :=
  pager.err.isNone && pager.items.all fun o => o.asUnstructured.isSome

/-- The resources a pager yields. -/
def Pager.resources (pager : Pager) : List Unstructured :=
  pager.items.filterMap Object.asUnstructured

/-- The resources a walk of a pager audits before it stops: those before the first object
that is not an `*unstructured.Unstructured`. -/
def Pager.walked (pager : Pager) : List Unstructured :=
  (pager.items.takeWhile fun o => o.asUnstructured.isSome).filterMap Object.asUnstructured

theorem Pager.walked_of_walkable {pager : Pager} (h : pager.walkable) :
    pager.walked = pager.resources := by
  simp only [walkable, Bool.and_eq_true, List.all_eq_true] at h
  rw [walked, List.takeWhile_eq_self_iff.2 h.2, resources]

section walk

variable {audit : List ServedPolicy → Unstructured → ScanM Unit} {β : Type}
  {f : Event → Option β} {V : List ServedPolicy → Unstructured → List β}
  (haudit : ∀ policies resource,
    Go.Returns (audit policies resource) fun _ tr => tr.filterMap f = V policies resource)
include haudit

/-- The walk returns nil exactly when no page fails and every object is unstructured; and
whatever it stops on, it audits exactly the resources before the first object that is not
unstructured, in order. -/
theorem eachItem_returns (policies : List ServedPolicy) (listErr : Option GoError)
    (items : List Object) :
    Go.Returns (eachItem (auditObject audit policies) listErr items) fun err tr =>
      (err = none ↔ listErr = none ∧ ∀ o ∈ items, o.asUnstructured.isSome) ∧
      tr.filterMap f = ((items.takeWhile fun o => o.asUnstructured.isSome).filterMap
        Object.asUnstructured).flatMap (V policies) := by
  induction items with
  | nil => exact Go.Returns.pure (by simp)
  | cons obj objs ih =>
    intro t
    rcases hobj : obj.asUnstructured with _ | r
    · exact ⟨some (.new "failed to convert runtime.Object to *unstructured.Unstructured"), [],
        by simp [eachItem, auditObject, hobj, Go.bind_apply], by simp [hobj], by simp [hobj]⟩
    · obtain ⟨u, tr₁, h₁, hV⟩ := haudit policies r t
      obtain ⟨err, tr₂, h₂, hiff, hw⟩ := ih (t ++ tr₁)
      exact ⟨err, tr₁ ++ tr₂, by simp [eachItem, auditObject, hobj, Go.bind_apply, h₁, h₂],
        by simp [hiff, hobj], by simp [hV, hw, hobj, List.filterMap_cons]⟩

theorem eachListItem_returns (policies : List ServedPolicy) (pager : Pager) :
    Go.Returns (pager.eachListItem (auditObject audit policies)) fun err tr =>
      (err = none ↔ pager.walkable) ∧ tr.filterMap f = pager.walked.flatMap (V policies) :=
  (eachItem_returns haudit policies pager.err pager.items).mono fun _ _ h =>
    ⟨by simp [h.1, Pager.walkable], h.2⟩

end walk

namespace Cluster

variable (c : Cluster)

/-- Whether the resources of a type can be walked: `GetResources` returns a pager, and
walking it succeeds. -/
def listable (nsName : String) (gvr : Gvr) : Bool :=
  match c.getResources gvr nsName with
  | .ok pager => pager.walkable
  | .error _ => false

/-- The resources listed for a type. -/
def listed (nsName : String) (gvr : Gvr) : List Unstructured :=
  match c.getResources gvr nsName with
  | .ok pager => pager.resources
  | .error _ => []

/-- The audits of a walk over a catalog's entries with nothing failing: each resource
listed for an entry's type, with the entry's policies, in the order of the entries. -/
def audits (nsName : String) (entries : List (Σ _ : Gvr, List ServedPolicy)) :
    List (List ServedPolicy × Unstructured) :=
  entries.flatMap fun e => (c.listed nsName e.1).map fun r => (e.2, r)

/-- The audits of a walk over a catalog's entries that stops at the first failure: the
resources walked for each entry's type, in order, up to the first type whose listing fails
or whose walk stops early, and none after it. -/
def auditsUntilFailure (nsName : String) :
    List (Σ _ : Gvr, List ServedPolicy) → List (List ServedPolicy × Unstructured)
  | [] => []
  | ⟨gvr, policies⟩ :: entries =>
    match c.getResources gvr nsName with
    | .error _ => []
    | .ok pager =>
      pager.walked.map (policies, ·) ++
        if pager.walkable then auditsUntilFailure nsName entries else []

/-- With every type listable, the walk that stops at the first failure audits everything. -/
theorem auditsUntilFailure_eq_audits {nsName : String}
    {entries : List (Σ _ : Gvr, List ServedPolicy)}
    (h : ∀ e ∈ entries, c.listable nsName e.1 = true) :
    c.auditsUntilFailure nsName entries = c.audits nsName entries := by
  induction entries with
  | nil => rfl
  | cons e entries ih =>
    obtain ⟨gvr, policies⟩ := e
    rw [List.forall_mem_cons] at h
    rcases hg : c.getResources gvr nsName with _ | pager
    · simp [listable, hg] at h
    · have hw : pager.walkable = true := by simpa [listable, hg] using h.1
      simp [auditsUntilFailure, audits, listed, hg, hw, ih h.2, Pager.walked_of_walkable hw]

section walk

variable {audit : List ServedPolicy → Unstructured → ScanM Unit} {β : Type}
  {f : Event → Option β} {V : List ServedPolicy → Unstructured → List β}
  (haudit : ∀ policies resource,
    Go.Returns (audit policies resource) fun _ tr => tr.filterMap f = V policies resource)
  (hf : ∀ gvr nsName, f (.getResources gvr nsName) = none)
include haudit hf

/-- The walk over the catalog returns nil exactly when every type can be listed; and
whatever lookup or listing fails, it audits exactly what `auditsUntilFailure` says. -/
theorem scanGvrs_returns (nsName : String) (entries : List (Σ _ : Gvr, List ServedPolicy)) :
    Go.Returns (c.scanGvrs audit nsName entries) fun err tr =>
      (err = none ↔ ∀ e ∈ entries, c.listable nsName e.1 = true) ∧
      tr.filterMap f = (c.auditsUntilFailure nsName entries).flatMap fun a => V a.1 a.2 := by
  induction entries with
  | nil => exact Go.Returns.pure (by simp [auditsUntilFailure])
  | cons e entries ih =>
    obtain ⟨gvr, policies⟩ := e
    intro t
    rcases hg : c.getResources gvr nsName with err | pager
    · exact ⟨some err, [.getResources gvr nsName], by simp [scanGvrs, ask, hg, Go.bind_apply],
        by simp [listable, hg], by simp [hf, auditsUntilFailure, hg]⟩
    · obtain ⟨err₁, tr₁, h₁, hiff₁, hw₁⟩ :=
        eachListItem_returns haudit policies pager (t ++ [.getResources gvr nsName])
      rcases err₁ with _ | err₁
      · -- the pager walked to the end: the next types follow
        have hw : pager.walkable = true := hiff₁.1 rfl
        obtain ⟨err, tr₂, h₂, hiff, hp⟩ := ih (t ++ [.getResources gvr nsName] ++ tr₁)
        refine ⟨err, [.getResources gvr nsName] ++ tr₁ ++ tr₂, ?_, ?_, ?_⟩
        · simpa [scanGvrs, ask, hg, Go.bind_apply, h₁] using h₂
        · simp [hiff, listable, hg, hw]
        · simp [hf, hw₁, hp, auditsUntilFailure, hg, hw, List.flatMap_map]
      · -- the walk of this type failed: the scan stops
        have hw : pager.walkable = false := by simpa using hiff₁.not.1 (by simp)
        exact ⟨some err₁, [.getResources gvr nsName] ++ tr₁,
          by simp [scanGvrs, ask, hg, Go.bind_apply, h₁], by simp [listable, hg, hw],
          by simp [hf, hw₁, auditsUntilFailure, hg, hw, List.flatMap_map]⟩

end walk

theorem audits_perm (nsName : String) {l₁ l₂ : List (Σ _ : Gvr, List ServedPolicy)}
    (h : l₁.Perm l₂) : (c.audits nsName l₁).Perm (c.audits nsName l₂) :=
  h.flatMap_right _

/-- Every call of a namespace's scan succeeds: the namespace lookup, the policy fetch, and
the listing of every type of the catalog. -/
def NamespaceScannable (nsName : String) : Prop :=
  c.getNamespace nsName = .ok () ∧
    ∃ policies, c.getPoliciesForANamespace nsName = .ok policies ∧
      ∀ e ∈ policies.policiesByGVR.entries, c.listable nsName e.1 = true

/-- Every call of the cluster-wide scan succeeds: the policy fetch, and the listing of every
type of the catalog. -/
def ClusterWideScannable : Prop :=
  ∃ policies, c.getClusterWidePolicies = .ok policies ∧
    ∀ e ∈ policies.policiesByGVR.entries, c.listable "" e.1 = true

end Cluster

/-- A projection of events that sees none of the lookups, listings and log lines of a
scan: only its POSTs and its reports. -/
structure SeesAudits {β : Type} (f : Event → Option β) : Prop where
  log : ∀ l, f (.log l) = none
  getNamespace : ∀ ns, f (.getNamespace ns) = none
  getPoliciesForANamespace : ∀ ns, f (.getPoliciesForANamespace ns) = none
  getClusterWidePolicies : f .getClusterWidePolicies = none
  getResources : ∀ gvr ns, f (.getResources gvr ns) = none

namespace Cluster

variable (c : Cluster)

section scans

variable {β : Type} {f : Event → Option β} {V : List ServedPolicy → Unstructured → List β}
  (hf : SeesAudits f)
include hf

/-- A namespace's scan returns nil exactly when all its calls succeed; it then audits each
listed resource against its type's policies, in some order of the types. -/
theorem scanNamespace_returns
    (haudit : ∀ policies resource, Go.Returns (c.auditResource policies resource)
      fun _ tr => tr.filterMap f = V policies resource) (nsName : String) :
    Go.Returns (c.scanNamespace nsName) fun err tr =>
      (err = none ↔ c.NamespaceScannable nsName) ∧
      ∀ policies, c.getPoliciesForANamespace nsName = .ok policies → err = none →
        (tr.filterMap f).Perm
          ((c.audits nsName policies.policiesByGVR.entries).flatMap fun a => V a.1 a.2) := by
  intro t
  rcases hn : c.getNamespace nsName with err | ⟨⟩
  · exact ⟨some err, [.log ⟨.info, "namespace scan started", none⟩, .getNamespace nsName],
      by simp [scanNamespace, ask, hn, Go.bind_apply, logLine, emit],
      by simp [NamespaceScannable, hn], by simp⟩
  rcases hp : c.getPoliciesForANamespace nsName with err | policies
  · exact ⟨some err, [.log ⟨.info, "namespace scan started", none⟩, .getNamespace nsName,
        .getPoliciesForANamespace nsName],
      by simp [scanNamespace, ask, hn, hp, Go.bind_apply, logLine, emit],
      by simp [NamespaceScannable, hp], by simp⟩
  let pre : Trace := [.log ⟨.info, "namespace scan started", none⟩, .getNamespace nsName,
    .getPoliciesForANamespace nsName, .log ⟨.info, "policy count", none⟩]
  have hperm := c.rangeOrder_perm (t ++ pre) policies.policiesByGVR
  obtain ⟨err, tr, h, hiff, hw⟩ := c.scanGvrs_returns haudit hf.getResources nsName
    (c.rangeOrder (t ++ pre) policies.policiesByGVR) (t ++ pre)
  refine ⟨err, pre ++ tr, ?_, ?_, ?_⟩
  · simpa [scanNamespace, ask, hn, hp, Go.bind_apply, logLine, emit, pre] using h
  · simp [hiff, NamespaceScannable, hn, hp, hperm.mem_iff]
  · intro policies' hp' he
    obtain rfl : policies = policies' := by simpa [hp] using hp'
    simpa [pre, hf.log, hf.getNamespace, hf.getPoliciesForANamespace, hw,
      c.auditsUntilFailure_eq_audits (hiff.1 he)] using
      (c.audits_perm nsName hperm).flatMap_right _

/-- The cluster-wide scan returns nil exactly when all its calls succeed; it then audits
each listed resource against its type's policies, in some order of the types. -/
theorem scanClusterWideResources_returns
    (haudit : ∀ policies resource, Go.Returns (c.auditClusterResource policies resource)
      fun _ tr => tr.filterMap f = V policies resource) :
    Go.Returns c.scanClusterWideResources fun err tr =>
      (err = none ↔ c.ClusterWideScannable) ∧
      ∀ policies, c.getClusterWidePolicies = .ok policies → err = none →
        (tr.filterMap f).Perm
          ((c.audits "" policies.policiesByGVR.entries).flatMap fun a => V a.1 a.2) := by
  intro t
  rcases hp : c.getClusterWidePolicies with err | policies
  · exact ⟨some err, [.log ⟨.info, "clusterwide resources scan started", none⟩,
        .getClusterWidePolicies],
      by simp [scanClusterWideResources, ask, hp, Go.bind_apply, logLine, emit],
      by simp [ClusterWideScannable, hp], by simp⟩
  let pre : Trace := [.log ⟨.info, "clusterwide resources scan started", none⟩,
    .getClusterWidePolicies, .log ⟨.info, "cluster admission policies count", none⟩]
  have hperm := c.rangeOrder_perm (t ++ pre) policies.policiesByGVR
  obtain ⟨err, tr, h, hiff, hw⟩ := c.scanGvrs_returns haudit hf.getResources ""
    (c.rangeOrder (t ++ pre) policies.policiesByGVR) (t ++ pre)
  have hiff' : err = none ↔ c.ClusterWideScannable := by
    simp [hiff, ClusterWideScannable, hp, hperm.mem_iff]
  rcases err with _ | err
  · refine ⟨none, pre ++ tr ++ [.log ⟨.info, "clusterwide resources scan finished", none⟩],
      ?_, hiff', fun policies' hp' _ => ?_⟩
    · simp [scanClusterWideResources, ask, hp, Go.bind_apply, logLine, emit, pre, h]
    · obtain rfl : policies = policies' := by simpa [hp] using hp'
      simpa [pre, hf.log, hf.getClusterWidePolicies, hw,
        c.auditsUntilFailure_eq_audits (hiff.1 rfl)] using
        (c.audits_perm "" hperm).flatMap_right _
  · exact ⟨some err, pre ++ tr,
      by simp [scanClusterWideResources, ask, hp, Go.bind_apply, logLine, emit, pre, h],
      hiff', by simp⟩

end scans

theorem seesAudits_post : SeesAudits Event.post? :=
  ⟨fun _ => rfl, fun _ => rfl, fun _ => rfl, rfl, fun _ _ => rfl⟩

theorem seesAudits_policyReport :
    SeesAudits fun e => e.policyReport?.map PolicyReport.summary :=
  ⟨fun _ => rfl, fun _ => rfl, fun _ => rfl, rfl, fun _ _ => rfl⟩

theorem seesAudits_clusterPolicyReport :
    SeesAudits fun e => e.clusterPolicyReport?.map ClusterPolicyReport.summary :=
  ⟨fun _ => rfl, fun _ => rfl, fun _ => rfl, rfl, fun _ _ => rfl⟩

/-- With every exchange with a policy server succeeding, `ScanNamespace` and
`ScanClusterWideResources` return, and return nil exactly when every lookup and listing
succeeds.  They then POST the review of each listed resource to the server of each policy of
its type that matches it, once, and make no other POST; and they hand the store one report
per listed resource, whose results are the matching policies, in order, none errored.  Both
multisets are given by the catalog's entries, whatever order the map is walked in. -/
theorem scans_audit_matching_pairs (hh : c.EvaluatorHealthy) (nsName : String) (t : Trace) :
    (∃ err tr, c.scanNamespace nsName t = (.ret err, t ++ tr) ∧
      (err = none ↔ c.NamespaceScannable nsName) ∧
      ∀ policies, c.getPoliciesForANamespace nsName = .ok policies → err = none →
        (evaluatorCalls tr).Perm ((c.audits nsName policies.policiesByGVR.entries).flatMap
          fun a => c.auditCalls a.1 a.2) ∧
        ((storedReports tr).map PolicyReport.summary).Perm
          ((c.audits nsName policies.policiesByGVR.entries).map
            fun a => (a.2.uid, a.2.ns, c.auditVerdicts a.1 a.2))) ∧
    (∃ err tr, c.scanClusterWideResources t = (.ret err, t ++ tr) ∧
      (err = none ↔ c.ClusterWideScannable) ∧
      ∀ policies, c.getClusterWidePolicies = .ok policies → err = none →
        (evaluatorCalls tr).Perm ((c.audits "" policies.policiesByGVR.entries).flatMap
          fun a => c.auditCalls a.1 a.2) ∧
        ((storedClusterReports tr).map ClusterPolicyReport.summary).Perm
          ((c.audits "" policies.policiesByGVR.entries).map
            fun a => (a.2.uid, c.auditVerdicts a.1 a.2))) := by
  constructor
  · obtain ⟨err, tr, h, ⟨hiff, hcalls⟩, -, hreports⟩ :=
      ((c.scanNamespace_returns seesAudits_post
        (fun ps r => (c.auditResource_healthy ps r hh).mono fun _ _ h => h.1) nsName).and_ensures
      (c.scanNamespace_returns seesAudits_policyReport
        (fun ps r => (c.auditResource_healthy ps r hh).mono fun _ _ h => by
          rw [← List.map_filterMap]; exact h.2) nsName).ensures) t
    refine ⟨err, tr, h, hiff, fun policies hp he => ⟨hcalls policies hp he, ?_⟩⟩
    rw [storedReports, List.map_filterMap, List.map_eq_flatMap]
    exact hreports policies hp he
  · obtain ⟨err, tr, h, ⟨hiff, hcalls⟩, -, hreports⟩ :=
      ((c.scanClusterWideResources_returns seesAudits_post
        (fun ps r => (c.auditClusterResource_healthy ps r hh).mono fun _ _ h => h.1)).and_ensures
      (c.scanClusterWideResources_returns seesAudits_clusterPolicyReport
        (fun ps r => (c.auditClusterResource_healthy ps r hh).mono fun _ _ h => by
          rw [← List.map_filterMap]; exact h.2)).ensures) t
    refine ⟨err, tr, h, hiff, fun policies hp he => ⟨hcalls policies hp he, ?_⟩⟩
    rw [storedClusterReports, List.map_filterMap, List.map_eq_flatMap]
    exact hreports policies hp he

/-- A cluster whose namespace `ns1` has one policy without object selector bound to pods,
and two pods. -/
def scenarioA : Cluster :=
  { quiet with
    getPoliciesForANamespace := fun _ => .ok
      ⟨(∅ : AList fun _ : Gvr => List ServedPolicy).insert ⟨"", "v1", "pods"⟩
        [⟨⟨"no-privileged-pod", none⟩, "https://policy-server-default:8443"⟩], 1, 0⟩
    getResources := fun _ _ => .ok
      { items := [.unstructured ⟨"7a1e", "pod-a", "ns1", []⟩,
          .unstructured ⟨"9c4f", "pod-b", "ns1", []⟩] } }

theorem scans_audit_matching_pairs_scenarioA :
    let c := scenarioA
    (∃ err tr, c.scanNamespace "ns1" [] = (.ret err, tr) ∧
      (err = none ↔ c.NamespaceScannable "ns1") ∧
      ∀ policies, c.getPoliciesForANamespace "ns1" = .ok policies → err = none →
        (evaluatorCalls tr).Perm ((c.audits "ns1" policies.policiesByGVR.entries).flatMap
          fun a => c.auditCalls a.1 a.2) ∧
        ((storedReports tr).map PolicyReport.summary).Perm
          ((c.audits "ns1" policies.policiesByGVR.entries).map
            fun a => (a.2.uid, a.2.ns, c.auditVerdicts a.1 a.2))) ∧
    (∃ err tr, c.scanClusterWideResources [] = (.ret err, tr) ∧
      (err = none ↔ c.ClusterWideScannable) ∧
      ∀ policies, c.getClusterWidePolicies = .ok policies → err = none →
        (evaluatorCalls tr).Perm ((c.audits "" policies.policiesByGVR.entries).flatMap
          fun a => c.auditCalls a.1 a.2) ∧
        ((storedClusterReports tr).map ClusterPolicyReport.summary).Perm
          ((c.audits "" policies.policiesByGVR.entries).map
            fun a => (a.2.uid, c.auditVerdicts a.1 a.2))) :=
  scans_audit_matching_pairs scenarioA ⟨fun _ => rfl, fun _ _ _ => ⟨_, _, rfl, rfl⟩⟩
    "ns1" []

end Cluster

/-! ## Scanning every namespace -/

/-- The line `ScanAllNamespaces` logs after a failed scan. -/
def failureLog (err : Option GoError) : Trace :=
  err.toList.map fun e => .log ⟨.error, "error scanning namespace", some e⟩

section each

variable {scan : String → ScanM (Option GoError)}
  {P : String → Option GoError → Trace → Prop}

/-- The loop scans the namespaces one after the other, each once, and joins the errors of
the scans that failed, in order. -/
theorem scanEachNamespace_returns (hscan : ∀ n, Go.Returns (scan n) (P n))
    (nss : List Namespace) (err : Option GoError) :
    Go.Returns (scanEachNamespace scan nss err) fun err' tr =>
      ∃ runs : List (Option GoError × Trace),
        List.Forall₂ (fun ns r => P ns.name r.1 r.2) nss runs ∧
        err' = joinAll err (runs.filterMap Prod.fst) ∧
        tr = runs.flatMap fun r => r.2 ++ failureLog r.1 := by
  induction nss generalizing err with
  | nil => exact Go.Returns.pure ⟨[], .nil, rfl, rfl⟩
  | cons ns nss ih =>
    intro t
    obtain ⟨e, tr₁, h₁, hP⟩ := hscan ns.name t
    rcases e with _ | e
    · obtain ⟨err', tr₂, h₂, runs, hruns, herr, htr⟩ := ih err (t ++ tr₁)
      exact ⟨err', tr₁ ++ tr₂, by simp [scanEachNamespace, Go.bind_apply, h₁, h₂],
        (none, tr₁) :: runs, .cons hP hruns, by simpa using herr, by simp [htr, failureLog]⟩
    · obtain ⟨err', tr₂, h₂, runs, hruns, herr, htr⟩ :=
        ih (errorsJoin err (some e)) (t ++ tr₁ ++ failureLog (some e))
      exact ⟨err', tr₁ ++ failureLog (some e) ++ tr₂,
        by simpa [scanEachNamespace, Go.bind_apply, h₁, logLine, emit, failureLog] using h₂,
        (some e, tr₁) :: runs, .cons hP hruns, by simpa using herr, by simp [htr]⟩

end each

namespace Cluster

variable (c : Cluster)

/-- When the namespaces cannot be listed, `ScanAllNamespaces` logs the error, then panics
reading the items of the nil list, before it scans any namespace. -/
theorem scanAllNamespaces_panics_of_enumeration_error {err : GoError}
    (h : c.getAuditedNamespaces = .error err) (t : Trace) :
    c.scanAllNamespaces t = (.panic nilDeref,
      t ++ [.log ⟨.info, "all-namespaces scan started", none⟩, .getAuditedNamespaces,
        .log ⟨.error, "error scanning all namespaces", some err⟩]) := by
  simp [scanAllNamespaces, ask, h, Go.bind_apply, logLine, emit, errOf, Except.toOption]

theorem scanAllNamespaces_panics_forbidden :
    let forbidden : GoError := .status "Forbidden" ("namespaces is forbidden: User " ++
      "\"system:serviceaccount:kubewarden:audit-scanner\" cannot list resource \"namespaces\"")
    let c : Cluster := { quiet with getAuditedNamespaces := .error forbidden }
    c.scanAllNamespaces [] = (.panic nilDeref,
      [.log ⟨.info, "all-namespaces scan started", none⟩, .getAuditedNamespaces,
        .log ⟨.error, "error scanning all namespaces", some forbidden⟩]) :=
  by intro forbidden c; exact c.scanAllNamespaces_panics_of_enumeration_error rfl []

/-- When the namespaces can be listed, and every exchange with a policy server succeeds,
`ScanAllNamespaces` scans each listed namespace once, in order, whatever the earlier scans
returned; it returns nil exactly when every scan did, and otherwise the join of the errors
of exactly the failed scans, in order. -/
theorem scanAllNamespaces_scans_each (hh : c.EvaluatorHealthy) {nsList : NamespaceList}
    (hl : c.getAuditedNamespaces = .ok nsList) (t : Trace) :
    ∃ err tr, c.scanAllNamespaces t = (.ret err, t ++ tr) ∧
      ∃ runs : List (Option GoError × Trace),
        List.Forall₂
          (fun ns r => ∃ t₀, c.scanNamespace ns.name t₀ = (.ret r.1, t₀ ++ r.2))
          nsList.items runs ∧
        (err = none ↔ ∀ r ∈ runs, r.1 = none) ∧
        err = joinAll none (runs.filterMap Prod.fst) ∧
        tr = [.log ⟨.info, "all-namespaces scan started", none⟩, .getAuditedNamespaces] ++
          runs.flatMap (fun r => r.2 ++ failureLog r.1) ++
          [.log ⟨.info, "all-namespaces scan finished", none⟩] := by
  have hscan : ∀ n, Go.Returns (c.scanNamespace n)
      fun e tr => ∃ t₀, c.scanNamespace n t₀ = (.ret e, t₀ ++ tr) := fun n =>
    (c.scanNamespace_returns seesAudits_post
      (fun ps r => (c.auditResource_healthy ps r hh).mono fun _ _ h => h.1) n).runs
  let pre : Trace := [.log ⟨.info, "all-namespaces scan started", none⟩, .getAuditedNamespaces]
  obtain ⟨err, tr, h, runs, hruns, herr, htr⟩ :=
    scanEachNamespace_returns hscan nsList.items none (t ++ pre)
  refine ⟨err, pre ++ tr ++ [.log ⟨.info, "all-namespaces scan finished", none⟩], ?_, runs,
    hruns,
    by simp [herr, joinAll_eq_none, List.filterMap_eq_nil_iff], herr, by simp [htr, pre]⟩
  simp [scanAllNamespaces, ask, hl, Go.bind_apply, logLine, emit, errOf, Except.toOption, pre, h]

/-- A cluster whose audited namespaces are `ns1` and `bad-ns`, and where `bad-ns` cannot be
read. -/
def scenarioD : Cluster :=
  { quiet with
    getAuditedNamespaces := .ok ⟨[⟨"ns1"⟩, ⟨"bad-ns"⟩]⟩
    getNamespace := fun ns =>
      if ns = "bad-ns" then .error (.status "NotFound" "namespaces \"bad-ns\" not found")
      else .ok () }

theorem scanAllNamespaces_scans_each_scenarioD :
    let c := scenarioD
    ∃ err tr, c.scanAllNamespaces [] = (.ret err, tr) ∧
      ∃ runs : List (Option GoError × Trace),
        List.Forall₂
          (fun (ns : Namespace) r =>
            ∃ t₀, c.scanNamespace ns.name t₀ = (.ret r.1, t₀ ++ r.2))
          [⟨"ns1"⟩, ⟨"bad-ns"⟩] runs ∧
        (err = none ↔ ∀ r ∈ runs, r.1 = none) ∧
        err = joinAll none (runs.filterMap Prod.fst) ∧
        tr = [.log ⟨.info, "all-namespaces scan started", none⟩, .getAuditedNamespaces] ++
          runs.flatMap (fun r => r.2 ++ failureLog r.1) ++
          [.log ⟨.info, "all-namespaces scan finished", none⟩] :=
  scenarioD.scanAllNamespaces_scans_each ⟨fun _ => rfl, fun _ _ _ => ⟨_, _, rfl, rfl⟩⟩
    rfl []

end Cluster

/-! ## A scan that fails -/

namespace Cluster

variable (c : Cluster)

end Cluster

end AuditScanner
