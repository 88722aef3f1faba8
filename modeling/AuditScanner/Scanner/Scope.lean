import AuditScanner.Scanner.Scan

/-!
# What a run of the scanner touches

`Go.Emits m Q` says that every event `m` appends to the trace satisfies `Q`, whether `m`
returns or panics; each function of the scanner gets one such lemma, and they compose along
the call graph.  The main results are `startScanner_scans_only_its_scope`, every lookup and
listing of a run of the command is about its namespace and no run stores a
ClusterPolicyReport, though the help text announces one, and
`scanClusterWideResources_stays_cluster_wide`.
-/

namespace AuditScanner

/-- The namespace a lookup or a listing is about; `none` for the other events. -/
def Event.namespace? : Event → Option String
  | .getNamespace ns | .getPoliciesForANamespace ns | .getResources _ ns => some ns
  | _ => none

/-- Whether an event is about cluster-wide resources: the fetch of the cluster-wide
policies, or a ClusterPolicyReport handed to the store. -/
def Event.clusterWide : Event → Bool
  | .getClusterWidePolicies | .createOrPatchClusterPolicyReport _ => true
  | _ => false

/-- An event confined to the namespaces `allowed`: not about cluster-wide resources, and,
if a lookup or a listing, about one of `allowed`. -/
def Event.Within (allowed : String → Prop) (e : Event) : Prop :=
  e.clusterWide = false ∧ ∀ n, e.namespace? = some n → allowed n

/-- What a cluster-wide scan may do: log, fetch the cluster-wide policies, list resources
across all namespaces (the namespace `""`), POST to a policy server, and hand a
ClusterPolicyReport to the store. -/
def Event.clusterScoped : Event → Bool
  | .log _ | .getClusterWidePolicies | .post _ _ | .createOrPatchClusterPolicyReport _ => true
  | .getResources _ ns => ns = ""
  | _ => false

theorem Event.within_of_namespace?_eq_none {allowed : String → Prop} {e : Event}
    (hc : e.clusterWide = false) (hn : e.namespace? = none) : e.Within allowed :=
  ⟨hc, by simp [hn]⟩

theorem Event.Within.mono {allowed allowed' : String → Prop} {e : Event}
    (h : e.Within allowed) (ha : ∀ n, allowed n → allowed' n) : e.Within allowed' :=
  ⟨h.1, fun n hn => ha n (h.2 n hn)⟩

section emits

variable {Q : Event → Prop}

theorem ask_emits {α : Type} {e : Event} (a : α) (h : Q e) : Go.Emits (ask e a) Q :=
  Go.Emits.append_one (fun _ => rfl) h

/-- A call to the snapshot, then what follows on its answer. -/
theorem ask_bind_emits {α β : Type} {e : Event} {a : α} {f : α → ScanM β} (h : Q e)
    (hf : Go.Emits (f a) Q) : Go.Emits (ask e a >>= f) Q := fun t => by
  obtain ⟨tr, h₁, hq⟩ := hf (t ++ [e])
  exact ⟨e :: tr, by simpa [Go.bind_apply, ask] using h₁, List.forall_mem_cons.2 ⟨h, hq⟩⟩

theorem logLine_emits (hlog : ∀ l, Q (.log l)) (level : LogLevel) (msg : String)
    (err : Option GoError) : Go.Emits (logLine level msg err) Q :=
  Go.Emits.emit (hlog _)

namespace Cluster

variable (c : Cluster) (hlog : ∀ l, Q (.log l))
include hlog

theorem policyMatches_emits (policy : Policy) (resource : Unstructured) :
    Go.Emits (c.policyMatches policy resource) Q := by
  unfold policyMatches
  split
  · exact .pure _
  · split
    · exact .bind (logLine_emits hlog _ _ _) fun _ => .pure _
    · exact .pure _

section audit

variable (hpost : ∀ url review, Q (.post url review))
include hpost

omit hlog in
theorem sendAdmissionReviewToPolicyServer_emits (url : String) (review : AdmissionReview) :
    Go.Emits (c.sendAdmissionReviewToPolicyServer url review) Q := by
  unfold sendAdmissionReviewToPolicyServer
  split
  · exact .pure _
  · exact .append_one (fun _ => rfl) (hpost _ _)

/-- The loop over the policies writes log lines and POSTs, and nothing else. -/
theorem auditPolicies_emits {R : Type}
    (addResult : R → Policy → Option AdmissionResponse → Bool → R) (resource : Unstructured)
    (policies : List ServedPolicy) (report : R) :
    Go.Emits (c.auditPolicies addResult resource policies report) Q := by
  induction policies generalizing report with
  | nil => exact .pure _
  | cons p policies ih =>
    simp only [auditPolicies]
    refine .bind (c.policyMatches_emits hlog _ _) fun _ => ?_
    -- the match error logged or not, then the rest of the iteration
    split <;> refine .bind (by first | exact logLine_emits hlog _ _ _ | exact .pure _) fun _ => ?_
    all_goals split
    all_goals first
      | exact ih _
      | refine .bind (c.sendAdmissionReviewToPolicyServer_emits hpost _ _) fun _ => ?_
        split
        · -- the exchange failed
          exact .bind (.deref _) fun _ => .bind (logLine_emits hlog _ _ _) fun _ =>
            .bind (.pure _) fun _ => .bind (.deref _) fun _ => ih _
        · -- the exchange gave a review
          exact .bind (.deref _) fun _ => .bind (.deref _) fun _ =>
            .bind (logLine_emits hlog _ _ _) fun _ =>
              .bind (.pure _) fun _ => .bind (.deref _) fun _ => ih _

/-- The body shared by the two audits writes what its loop and its store call write, and
the line logging the store's error. -/
theorem auditWith_emits {R : Type}
    {addResult : R → Policy → Option AdmissionResponse → Bool → R} {newReport : Unstructured → R} {store : R → ScanM (Option GoError)}
    (hstore : ∀ report, Go.Emits (store report) Q) (storeErrMsg : String)
    (policies : List ServedPolicy) (resource : Unstructured) :
    Go.Emits (c.auditWith addResult newReport store storeErrMsg policies resource) Q := by
  refine .bind (c.auditPolicies_emits hlog hpost _ _ _ _) fun _ =>
    .bind (hstore _) fun err => ?_
  cases err
  · exact .pure _
  · exact logLine_emits hlog _ _ _

theorem auditResource_emits (hstore : ∀ report, Q (.createOrPatchPolicyReport report))
    (policies : List ServedPolicy) (resource : Unstructured) :
    Go.Emits (c.auditResource policies resource) Q :=
  c.auditWith_emits hlog hpost (fun _ => .append_one (fun _ => rfl) (hstore _)) _ _ _

theorem auditClusterResource_emits
    (hstore : ∀ report, Q (.createOrPatchClusterPolicyReport report))
    (policies : List ServedPolicy) (resource : Unstructured) :
    Go.Emits (c.auditClusterResource policies resource) Q :=
  c.auditWith_emits hlog hpost (fun _ => .append_one (fun _ => rfl) (hstore _)) _ _ _

end audit

end Cluster

theorem auditObject_emits {audit : List ServedPolicy → Unstructured → ScanM Unit}
    (haudit : ∀ policies resource, Go.Emits (audit policies resource) Q)
    (policies : List ServedPolicy) (obj : Object) :
    Go.Emits (auditObject audit policies obj) Q := by
  unfold auditObject
  split
  · exact .pure _
  · exact .bind (haudit _ _) fun _ => .pure _

/-- The walk of a pager writes what its callback writes. -/
theorem eachItem_emits {fn : Object → ScanM (Option GoError)} (hfn : ∀ obj, Go.Emits (fn obj) Q)
    (listErr : Option GoError) (items : List Object) :
    Go.Emits (eachItem fn listErr items) Q := by
  induction items with
  | nil => exact .pure _
  | cons obj items ih =>
    refine .bind (hfn obj) fun err => ?_
    cases err
    · exact ih
    · exact .pure _

namespace Cluster

variable (c : Cluster)

/-- The walk over the catalog lists resources in namespace `nsName`, and writes what the
audits write. -/
theorem scanGvrs_emits {audit : List ServedPolicy → Unstructured → ScanM Unit}
    (haudit : ∀ policies resource, Go.Emits (audit policies resource) Q) {nsName : String}
    (hget : ∀ gvr, Q (.getResources gvr nsName))
    (entries : List (Σ _ : Gvr, List ServedPolicy)) :
    Go.Emits (c.scanGvrs audit nsName entries) Q := by
  induction entries with
  | nil => exact .pure _
  | cons e entries ih =>
    refine .bind (ask_emits _ (hget e.1)) fun pager => ?_
    rcases pager with _ | pager
    · exact .pure _
    · refine .bind (eachItem_emits (auditObject_emits haudit e.2) _ _) fun err => ?_
      cases err
      · exact ih
      · exact .pure _

/-- A namespace's scan stays in its namespace: every lookup and listing is about it, and no
event is about cluster-wide resources. -/
theorem scanNamespace_emits (nsName : String) :
    Go.Emits (c.scanNamespace nsName) (Event.Within (· = nsName)) := by
  have hlog : ∀ l, (Event.log l).Within (· = nsName) := fun _ =>
    Event.within_of_namespace?_eq_none rfl rfl
  have haudit : ∀ policies resource,
      Go.Emits (c.auditResource policies resource) (Event.Within (· = nsName)) :=
    c.auditResource_emits hlog (fun _ _ => Event.within_of_namespace?_eq_none rfl rfl)
      (fun _ => Event.within_of_namespace?_eq_none rfl rfl)
  unfold scanNamespace
  refine .bind (logLine_emits hlog _ _ _) fun _ =>
    .bind (ask_emits _ ⟨rfl, fun _ h => (Option.some.inj h).symm⟩) fun found => ?_
  rcases found with _ | ⟨⟩
  · exact .pure _
  refine .bind (ask_emits _ ⟨rfl, fun _ h => (Option.some.inj h).symm⟩) fun fetched => ?_
  rcases fetched with _ | policies
  · exact .pure _
  exact .bind (logLine_emits hlog _ _ _) fun _ => .bind .get fun _ =>
    c.scanGvrs_emits haudit (fun _ => ⟨rfl, fun _ h => (Option.some.inj h).symm⟩) _

end Cluster

/-- The loop of `ScanAllNamespaces` writes what the scans of its namespaces write, and the
lines logging their errors. -/
theorem scanEachNamespace_emits (hlog : ∀ l, Q (.log l))
    {scan : String → ScanM (Option GoError)} {nss : List Namespace}
    (hscan : ∀ ns ∈ nss, Go.Emits (scan ns.name) Q) (err : Option GoError) :
    Go.Emits (scanEachNamespace scan nss err) Q := by
  induction nss generalizing err with
  | nil => exact .pure _
  | cons ns nss ih =>
    have hrest := fun err => ih (fun ns' h => hscan ns' (List.mem_cons_of_mem _ h)) err
    refine .bind (hscan ns (List.mem_cons_self _ _)) fun e => ?_
    cases e
    · exact hrest _
    · exact .bind (logLine_emits hlog _ _ _) fun _ => hrest _

end emits

namespace Cluster

variable (c : Cluster)

/-- Whatever the cluster answers, and whether it returns or panics,
`ScanClusterWideResources` stays cluster-wide: it never looks up a namespace, never fetches a
namespace's policies or the audited namespaces, lists resources only across all namespaces,
and never hands a namespaced PolicyReport to the store. -/
theorem scanClusterWideResources_stays_cluster_wide :
    Go.Emits c.scanClusterWideResources fun e => e.clusterScoped := by
  have hlog : ∀ l, (Event.log l).clusterScoped := fun _ => rfl
  have haudit : ∀ policies resource,
      Go.Emits (c.auditClusterResource policies resource) fun e => e.clusterScoped :=
    c.auditClusterResource_emits hlog (fun _ _ => rfl) (fun _ => rfl)
  have hlist : ∀ gvr, (Event.getResources gvr "").clusterScoped := fun _ => rfl
  unfold scanClusterWideResources
  refine .bind (logLine_emits hlog _ _ _) fun _ => .bind (ask_emits _ rfl) fun fetched => ?_
  rcases fetched with _ | policies
  · exact .pure _
  refine .bind (logLine_emits hlog _ _ _) fun _ => .bind .get fun _ =>
    .bind (c.scanGvrs_emits haudit hlist _) fun err => ?_
  cases err
  · exact .bind (logLine_emits hlog _ _ _) fun _ => .pure _
  · exact .pure _

/-- The namespaces `ScanAllNamespaces` may scan: those `GetAuditedNamespaces` returns. -/
def auditedNamespace (n : String) : Prop :=
  ∃ nsList, c.getAuditedNamespaces = .ok nsList ∧ n ∈ nsList.items.map Namespace.name

/-- `ScanAllNamespaces` stays in the audited namespaces: every lookup and listing is about
one of them, and no event is about cluster-wide resources. -/
theorem scanAllNamespaces_emits :
    Go.Emits c.scanAllNamespaces (Event.Within c.auditedNamespace) := by
  have hlog : ∀ l, (Event.log l).Within c.auditedNamespace := fun _ =>
    Event.within_of_namespace?_eq_none rfl rfl
  unfold scanAllNamespaces
  refine .bind (logLine_emits hlog _ _ _) fun _ =>
    ask_bind_emits (Event.within_of_namespace?_eq_none rfl rfl) ?_
  rcases hl : c.getAuditedNamespaces with err | nsList <;>
    dsimp only [Except.toOption, errOf]
  · exact .bind (logLine_emits hlog _ _ _) fun _ => Go.Emits.deref_bind nofun
  · refine .bind (.pure _) fun _ => Go.Emits.deref_bind fun _ h => ?_
    cases h
    refine .bind (scanEachNamespace_emits hlog (fun ns hns => ?_) _) fun _ =>
      .bind (logLine_emits hlog _ _ _) fun _ => .pure _
    exact (c.scanNamespace_emits ns.name).mono fun e he =>
      he.mono fun n hn => ⟨nsList, hl, hn ▸ List.mem_map_of_mem _ hns⟩

/-- Whatever the cluster answers, and whether it returns or panics, a run of the command
stays in its scope: with a namespace, every lookup and listing is about that namespace;
without one, about a namespace `GetAuditedNamespaces` returned.  No run fetches the
cluster-wide policies or hands a ClusterPolicyReport to the store. -/
theorem startScanner_scans_only_its_scope (ns : String) :
    Go.Emits (c.startScanner ns)
      (Event.Within fun n => if ns = "" then c.auditedNamespace n else n = ns) := by
  unfold startScanner
  split
  · -- `ScanNamespace(namespace)`
    refine .bind (c.scanNamespace_emits ns) fun err => ?_
    cases err <;> exact .pure _
  · -- `ScanAllNamespaces()`
    obtain rfl : ns = "" := not_not.1 ‹_›
    refine .bind (c.scanAllNamespaces_emits.mono fun _ he => he.mono fun _ hn => by simpa using hn)
      fun err => ?_
    cases err <;> exact .pure _

end Cluster

end AuditScanner
