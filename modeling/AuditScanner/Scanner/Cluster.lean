import AuditScanner.Kube

/-!
# The scanner's collaborators, and its calls to them

A scan is a Go computation over a trace of events: the lines it logs and the calls it makes
to the Kubernetes client, the policy catalog, the policy servers and the report store.  The
namespace lookups, the catalog and the resource listings are functions of their arguments;
the answers of policy servers and of the store, and the order in which Go iterates a map,
may depend on everything that happened before.  This file also models `policyMatches` and
`sendAdmissionReviewToPolicyServer`.
-/

namespace AuditScanner

/-- What a scan does that can be observed: a log line, or a call to a collaborator. -/
inductive Event where
  | log (line : LogLine)
  | getNamespace (ns : String)
  | getPoliciesForANamespace (ns : String)
  | getClusterWidePolicies
  | getAuditedNamespaces
  | getResources (gvr : Gvr) (ns : String)
  /-- The JSON encoding of `review` is POSTed to `url`. -/
  | post (url : String) (review : AdmissionReview)
  | createOrPatchPolicyReport (report : PolicyReport)
  | createOrPatchClusterPolicyReport (report : ClusterPolicyReport)
deriving DecidableEq, Repr

/-- The events of a scan so far, oldest first. -/
abbrev Trace := List Event

/-- A computation of the scanner. -/
abbrev ScanM := Go Trace

/-- What `httpClient.Do` and `io.ReadAll` give: the request failed (connection, TLS,
the client's 10 s timeout), or the response's body could not be read, or a response with
its status code and its body. -/
inductive RoundTrip where
  | failed (err : GoError)
  | unreadable (statusCode : Nat) (err : GoError)
  | response (statusCode : Nat) (body : String)
deriving DecidableEq, Repr

/-- The world a scan runs in. -/
structure Cluster where
  /-- `k8sClient.GetNamespace`; the namespace object itself is not used. -/
  getNamespace : String → Except GoError Unit
  /-- `policiesClient.GetPoliciesForANamespace`. -/
  getPoliciesForANamespace : String → Except GoError Policies
  /-- `policiesClient.GetClusterWidePolicies`. -/
  getClusterWidePolicies : Except GoError Policies
  /-- `k8sClient.GetAuditedNamespaces`. -/
  getAuditedNamespaces : Except GoError NamespaceList
  /-- `k8sClient.GetResources(gvr, namespace)`: the pager of the resources of a type. -/
  getResources : Gvr → String → Except GoError Pager
  /-- The order in which `range` visits a map of policies. -/
  rangeOrder : Trace → AList (fun _ : Gvr => List ServedPolicy) →
    List (Σ _ : Gvr, List ServedPolicy)
  rangeOrder_perm : ∀ t m, (rangeOrder t m).Perm m.entries
  /-- A policy server's answer to a POST. -/
  post : Trace → String → AdmissionReview → RoundTrip
  /-- What `policyReportStore.CreateOrPatchPolicyReport` returns. -/
  storeAnswer : Trace → PolicyReport → Option GoError
  /-- What `policyReportStore.CreateOrPatchClusterPolicyReport` returns. -/
  clusterStoreAnswer : Trace → ClusterPolicyReport → Option GoError
  /-- `metav1.LabelSelectorAsSelector`, and the compiled selector's `Matches`. -/
  labelSelectorAsSelector : LabelSelector → Except GoError (List (String × String) → Bool)
  /-- The error `json.Marshal` returns on a review, if any. -/
  jsonMarshal : AdmissionReview → Option GoError
  /-- `json.Unmarshal` of a body into a zero `AdmissionReview`. -/
  jsonUnmarshal : String → Except GoError AdmissionReview

/-- Whether an event is a log line. -/
def Event.isLog : Event → Bool
  | .log _ => true
  | _ => false

/-- The calls of a trace: its events other than log lines. -/
def calls (tr : Trace) : Trace := tr.filter fun e => !e.isLog

@[simp] theorem calls_nil : calls [] = [] := rfl

@[simp] theorem calls_append (tr₁ tr₂ : Trace) :
    calls (tr₁ ++ tr₂) = calls tr₁ ++ calls tr₂ :=
  List.filter_append _ _

@[simp] theorem calls_cons (e : Event) (tr : Trace) :
    calls (e :: tr) = if e.isLog then calls tr else e :: calls tr := by
  cases h : e.isLog <;> simp [calls, List.filter_cons, h]

/-- A projection of a trace that ignores log lines sees the same in its calls. -/
theorem filterMap_calls {β : Type} {f : Event → Option β} (hf : ∀ l, f (.log l) = none)
    (tr : Trace) : (calls tr).filterMap f = tr.filterMap f := by
  induction tr with
  | nil => rfl
  | cons e tr ih => cases e <;> simp [Event.isLog, hf, ih, List.filterMap_cons]

/-- The POST of an event, if it is one. -/
def Event.post? : Event → Option (String × AdmissionReview)
  | .post url review => some (url, review)
  | _ => none

@[simp] theorem Event.post?_post (url : String) (review : AdmissionReview) :
    (Event.post url review).post? = some (url, review) := rfl

/-- The calls a trace makes to policy servers: the URL and the review of each POST. -/
def evaluatorCalls (tr : Trace) : List (String × AdmissionReview) := tr.filterMap Event.post?

/-- The namespaced report an event hands to the store, if it does. -/
def Event.policyReport? : Event → Option PolicyReport
  | .createOrPatchPolicyReport report => some report
  | _ => none

/-- The cluster-wide report an event hands to the store, if it does. -/
def Event.clusterPolicyReport? : Event → Option ClusterPolicyReport
  | .createOrPatchClusterPolicyReport report => some report
  | _ => none

@[simp] theorem Event.policyReport?_createOrPatchPolicyReport (report : PolicyReport) :
    (Event.createOrPatchPolicyReport report).policyReport? = some report := rfl

@[simp] theorem Event.clusterPolicyReport?_createOrPatchClusterPolicyReport
    (report : ClusterPolicyReport) :
    (Event.createOrPatchClusterPolicyReport report).clusterPolicyReport? = some report := rfl

/-- The namespaced reports a trace hands to the store. -/
def storedReports (tr : Trace) : List PolicyReport := tr.filterMap Event.policyReport?

/-- The cluster-wide reports a trace hands to the store. -/
def storedClusterReports (tr : Trace) : List ClusterPolicyReport :=
  tr.filterMap Event.clusterPolicyReport?

/-- Write a log line. -/
def logLine (level : LogLevel) (msg : String) (err : Option GoError) : ScanM Unit :=
  emit (.log ⟨level, msg, err⟩)

/-- Make a call to the snapshot: record it, and answer it. -/
def ask {α : Type} (e : Event) (answer : α) : ScanM α := fun t => (.ret answer, t ++ [e])

namespace Cluster

variable (c : Cluster)

/-- POST a review to a policy server. -/
def httpDo (url : String) (review : AdmissionReview) : ScanM RoundTrip := fun t =>
  (.ret (c.post t url review), t ++ [.post url review])

/-- `policyReportStore.CreateOrPatchPolicyReport`. -/
def createOrPatchPolicyReport (report : PolicyReport) : ScanM (Option GoError) := fun t =>
  (.ret (c.storeAnswer t report), t ++ [.createOrPatchPolicyReport report])

/-- `policyReportStore.CreateOrPatchClusterPolicyReport`. -/
def createOrPatchClusterPolicyReport (report : ClusterPolicyReport) :
    ScanM (Option GoError) := fun t =>
  (.ret (c.clusterStoreAnswer t report), t ++ [.createOrPatchClusterPolicyReport report])

/-! ## The leaves of the scanner -/

/-- `policyMatches`: a policy without object selector matches every resource; otherwise
its selector is compiled, and a selector that does not compile matches nothing. -/
def policyMatches (policy : Policy) (resource : Unstructured) : ScanM (Bool × Option GoError) :=
  match policy.objectSelector with
  | none => pure (true, none)
  | some objectSelector =>
    match c.labelSelectorAsSelector objectSelector with
    | .error err => do
      logLine .error "error creating label selector from policy" (some err)
      pure (false, some err)
    | .ok selector => pure (selector resource.labels, none)

/-- What `sendAdmissionReviewToPolicyServer` makes of a round trip: the request must have
gone through, the body must have been read, the status must be 200, and the body must
decode. -/
def readAuditResponse : RoundTrip → Option AdmissionReview × Option GoError
  | .failed err => (none, some err)
  | .unreadable _ err => (none, some (.wrap "cannot read body of response: " err))
  | .response statusCode body =>
    if statusCode ≠ 200 then
      (none, some (.new ("unexpected status code: " ++ toString statusCode ++ " body: " ++ body)))
    else
      match c.jsonUnmarshal body with
      | .error err => (none, some (.wrap "cannot deserialize the audit review response: " err))
      | .ok admissionReview => (some admissionReview, none)

/-- `sendAdmissionReviewToPolicyServer`: a nil review and an error, or a review and no
error. -/
def sendAdmissionReviewToPolicyServer (url : String) (admissionRequest : AdmissionReview) :
    ScanM (Option AdmissionReview × Option GoError) :=
  match c.jsonMarshal admissionRequest with
  | some err => pure (none, some err)
  | none => c.readAuditResponse <$> c.httpDo url admissionRequest

/-! ## Specifications of the leaves -/

/-- Whether a policy matches a resource: it has no object selector, or its selector compiles
and selects the resource's labels. -/
def selects (policy : Policy) (resource : Unstructured) : Bool :=
  match policy.objectSelector with
  | none => true
  | some objectSelector =>
    match c.labelSelectorAsSelector objectSelector with
    | .ok selector => selector resource.labels
    | .error _ => false

/-- The error of compiling a policy's object selector, if it has one that fails. -/
def selectorError (policy : Policy) : Option GoError :=
  policy.objectSelector.bind fun s => errOf (c.labelSelectorAsSelector s)

theorem selectorError_of_selects {policy : Policy} {resource : Unstructured}
    (h : c.selects policy resource = true) : c.selectorError policy = none := by
  unfold selects at h; unfold selectorError
  rcases ho : policy.objectSelector with _ | s
  · rfl
  · rcases hs : c.labelSelectorAsSelector s with e | sel <;> simp_all [errOf]

/-- `policyMatches` decides `selects`, and logs the selector's error. -/
theorem policyMatches_apply (policy : Policy) (resource : Unstructured) (t : Trace) :
    c.policyMatches policy resource t =
      (.ret (c.selects policy resource, c.selectorError policy),
        t ++ (c.selectorError policy).toList.map fun e =>
          .log ⟨.error, "error creating label selector from policy", some e⟩) := by
  unfold policyMatches selects selectorError
  rcases policy.objectSelector with _ | s
  · simp
  · rcases h : c.labelSelectorAsSelector s with e | sel <;>
      simp [h, errOf, Go.bind_apply, logLine, emit]

/-- `sendAdmissionReviewToPolicyServer` returns a nil review with an error, or a review
with no error after POSTing the request. -/
theorem sendAdmissionReviewToPolicyServer_cases (url : String) (review : AdmissionReview)
    (t : Trace) :
    (∃ err t', c.sendAdmissionReviewToPolicyServer url review t = (.ret (none, some err), t')) ∨
      ∃ decoded, c.sendAdmissionReviewToPolicyServer url review t =
        (.ret (some decoded, none), t ++ [.post url review]) := by
  unfold sendAdmissionReviewToPolicyServer
  rcases c.jsonMarshal review with _ | e
  · simp only [Go.map_apply, httpDo]
    unfold readAuditResponse
    split
    · exact .inl ⟨_, _, rfl⟩ -- the request failed
    · exact .inl ⟨_, _, rfl⟩ -- the body could not be read
    · split
      · exact .inl ⟨_, _, rfl⟩ -- a status other than 200
      · split
        · exact .inl ⟨_, _, rfl⟩ -- the body does not decode
        · exact .inr ⟨_, rfl⟩
  · exact .inl ⟨e, t, rfl⟩ -- the review does not encode

/-- Every exchange with a policy server succeeds: each request encodes, and each answer is
a 200 response whose body decodes to a review carrying a response. -/
structure EvaluatorHealthy : Prop where
  marshal : ∀ review, c.jsonMarshal review = none
  answer : ∀ t url review, ∃ decoded response,
    c.readAuditResponse (c.post t url review) = (some decoded, none) ∧
      decoded.response = some response

theorem sendAdmissionReviewToPolicyServer_healthy (h : c.EvaluatorHealthy) (url : String)
    (review : AdmissionReview) (t : Trace) :
    ∃ decoded response, c.sendAdmissionReviewToPolicyServer url review t =
      (.ret (some decoded, none), t ++ [.post url review]) ∧
        decoded.response = some response := by
  obtain ⟨decoded, response, hr, hresp⟩ := h.answer t url review
  exact ⟨decoded, response,
    by simp [sendAdmissionReviewToPolicyServer, h.marshal, httpDo, hr], hresp⟩

/-! ## A cluster to run the scanner on -/

/-- An empty cluster whose policy servers allow everything: every namespace exists and has
no policy, every listing is empty, maps are ranged over in insertion order, a selector
selects the resources that carry all its `matchLabels`, and the store takes every report.
Concrete runs change the fields they need. -/
def quiet : Cluster where
  getNamespace _ := .ok ()
  getPoliciesForANamespace _ := .ok ⟨∅, 0, 0⟩
  getClusterWidePolicies := .ok ⟨∅, 0, 0⟩
  getAuditedNamespaces := .ok ⟨[]⟩
  getResources _ _ := .ok { items := [] }
  rangeOrder _ m := m.entries
  rangeOrder_perm _ _ := List.Perm.refl _
  post _ _ _ := .response 200 "allowed"
  storeAnswer _ _ := none
  clusterStoreAnswer _ _ := none
  labelSelectorAsSelector s := .ok fun labels => s.matchLabels.all labels.contains
  jsonMarshal _ := none
  jsonUnmarshal _ := .ok { response := some { uid := "", allowed := true } }

end Cluster

end AuditScanner
