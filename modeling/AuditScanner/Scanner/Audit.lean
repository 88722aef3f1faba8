import AuditScanner.Scanner.Cluster

/-!
# Auditing one resource

`auditResource` and `auditClusterResource` are `Cluster.auditWith` with their own report type
and store call: the loop `Cluster.auditPolicies` sends the resource to the server of every
policy whose selector matches it and adds each verdict to a fresh report.  The main results
are `audits_that_return_record_no_error`, every returning run stored one report with one
non-errored result per matching policy, and `audit_panics_iff_unanswered`, both members
panic exactly when a matching policy's server gives no response.
-/

namespace AuditScanner

namespace Cluster

variable (c : Cluster) {R : Type}
  (addResult : R → Policy → Option AdmissionResponse → Bool → R)

/-- The loop of `auditResource` and `auditClusterResource` over the policies bound to the
resource's type, adding each verdict to the report with `addResult`. -/
def auditPolicies (resource : Unstructured) : List ServedPolicy → R → ScanM R
  | [], report => pure report
  | p :: policies, report => do
    let url := p.policyServer
    let policy := p.policy
    let (matched, err) ← c.policyMatches policy resource
    if let some err := err then
      logLine .error "error matching policy to resource" (some err)
    if !matched then
      auditPolicies resource policies report
    else
      let admissionRequest := newAdmissionReview resource
      let (auditResponse, responseErr) ←
        c.sendAdmissionReviewToPolicyServer url admissionRequest
      let errored ← match responseErr with
        | some responseErr => do
          -- `admissionRequest.Request.Name`
          let _ ← deref admissionRequest.request
          logLine .error "error sending AdmissionReview to PolicyServer" (some responseErr)
          pure true
        | none => do
          -- `auditResponse.Response.UID`, `auditResponse.Response.Allowed`
          let review ← deref auditResponse
          let _ ← deref review.response
          logLine .debug "audit review response" none
          pure false
      -- `auditResponse.Response`
      let review ← deref auditResponse
      auditPolicies resource policies (addResult report policy review.response errored)

/-- The body shared by `auditResource` and `auditClusterResource`: audit the resource
against the policies into a fresh report, and hand it to the store with `store`. -/
def auditWith (newReport : Unstructured → R) (store : R → ScanM (Option GoError))
    (storeErrMsg : String) (policies : List ServedPolicy) (resource : Unstructured) :
    ScanM Unit := do
  let report ← c.auditPolicies addResult resource policies (newReport resource)
  let err ← store report
  if let some err := err then
    logLine .error storeErrMsg (some err)

/-- `auditResource`. -/
def auditResource (policies : List ServedPolicy) (resource : Unstructured) : ScanM Unit :=
  c.auditWith addResultToPolicyReport newPolicyReport c.createOrPatchPolicyReport
    "error adding PolicyReport to store" policies resource

/-- `auditClusterResource`; its fresh report is named after the resource. -/
def auditClusterResource (policies : List ServedPolicy) (resource : Unstructured) :
    ScanM Unit :=
  c.auditWith addResultToClusterPolicyReport (fun r => newClusterPolicyReport r.uid)
    c.createOrPatchClusterPolicyReport "error adding ClusterPolicyReport to store"
    policies resource

/-! ## The loop, policy by policy -/

/-- The log lines of a policy that does not match: two error lines when its selector does
not compile. -/
def skipLogs (policy : Policy) : Trace :=
  (c.selectorError policy).toList.flatMap fun e =>
    [.log ⟨.error, "error creating label selector from policy", some e⟩,
      .log ⟨.error, "error matching policy to resource", some e⟩]

@[simp] theorem calls_skipLogs (policy : Policy) : calls (c.skipLogs policy) = [] := by
  unfold skipLogs; rcases c.selectorError policy <;> simp [Event.isLog]

/-- The policies of a list whose selector selects a resource. -/
def matching (resource : Unstructured) (policies : List ServedPolicy) : List ServedPolicy :=
  policies.filter fun p => c.selects p.policy resource

/-- The report after adding one answered, non-errored result per entry. -/
def addAnswered (report : R) (entries : List (Policy × AdmissionResponse)) : R :=
  entries.foldl (fun rep e => addResult rep e.1 (some e.2) false) report

theorem addAnswered_cons (report : R) (e : Policy × AdmissionResponse)
    (entries : List (Policy × AdmissionResponse)) :
    addAnswered addResult report (e :: entries) =
      addAnswered addResult (addResult report e.1 (some e.2) false) entries := rfl

variable {resource : Unstructured} {p : ServedPolicy} {policies : List ServedPolicy}
  {report : R} {t : Trace}

/-- The two lines written after an exchange that gave a response. -/
abbrev answered (p : ServedPolicy) (resource : Unstructured) : Trace :=
  [.post p.policyServer (newAdmissionReview resource),
    .log ⟨.debug, "audit review response", none⟩]

theorem auditPolicies_cons_of_not_selects (h : c.selects p.policy resource = false) :
    c.auditPolicies addResult resource (p :: policies) report t =
      c.auditPolicies addResult resource policies report (t ++ c.skipLogs p.policy) := by
  rw [auditPolicies, Go.bind_apply, policyMatches_apply]
  rcases he : c.selectorError p.policy with _ | e <;>
    simp [h, he, skipLogs, Go.bind_apply, logLine, emit]

section exchange

variable {t' : Trace}

/-- A failed exchange: the loop logs the error, then panics reading the nil review's
`Response`. -/
theorem auditPolicies_cons_of_send_error (h : c.selects p.policy resource = true)
    {err : GoError}
    (hs : c.sendAdmissionReviewToPolicyServer p.policyServer (newAdmissionReview resource) t =
      (.ret (none, some err), t')) :
    c.auditPolicies addResult resource (p :: policies) report t = (.panic nilDeref,
      t' ++ [.log ⟨.error, "error sending AdmissionReview to PolicyServer", some err⟩]) := by
  rw [auditPolicies, Go.bind_apply, policyMatches_apply]
  simp [h, c.selectorError_of_selects h, Go.bind_apply, hs, logLine, emit]

/-- A decoded review without a response: the loop panics reading its `UID`. -/
theorem auditPolicies_cons_of_missing_response (h : c.selects p.policy resource = true)
    {review : AdmissionReview}
    (hs : c.sendAdmissionReviewToPolicyServer p.policyServer (newAdmissionReview resource) t =
      (.ret (some review, none), t')) (hr : review.response = none) :
    c.auditPolicies addResult resource (p :: policies) report t = (.panic nilDeref, t') := by
  rw [auditPolicies, Go.bind_apply, policyMatches_apply]
  simp [h, c.selectorError_of_selects h, Go.bind_apply, hs, hr]

/-- An answered exchange: the loop logs the verdict and adds it, not errored. -/
theorem auditPolicies_cons_of_response (h : c.selects p.policy resource = true)
    {review : AdmissionReview} {resp : AdmissionResponse}
    (hs : c.sendAdmissionReviewToPolicyServer p.policyServer (newAdmissionReview resource) t =
      (.ret (some review, none), t')) (hr : review.response = some resp) :
    c.auditPolicies addResult resource (p :: policies) report t =
      c.auditPolicies addResult resource policies (addResult report p.policy (some resp) false)
        (t' ++ [.log ⟨.debug, "audit review response", none⟩]) := by
  rw [auditPolicies, Go.bind_apply, policyMatches_apply]
  simp [h, c.selectorError_of_selects h, Go.bind_apply, hs, hr, logLine, emit]

/-- Inversion at a matching policy: a run that returns got a response from the policy's
server, and went on from there. -/
theorem auditPolicies_cons_eq_ret (h : c.selects p.policy resource = true) {rep : R}
    (hrun : c.auditPolicies addResult resource (p :: policies) report t = (.ret rep, t')) :
    ∃ resp, c.auditPolicies addResult resource policies
      (addResult report p.policy (some resp) false) (t ++ answered p resource) =
        (.ret rep, t') := by
  rcases c.sendAdmissionReviewToPolicyServer_cases p.policyServer (newAdmissionReview resource) t
    with ⟨err, t₁, hs⟩ | ⟨review, hs⟩
  · rw [c.auditPolicies_cons_of_send_error addResult h hs] at hrun; cases hrun
  · rcases hr : review.response with _ | resp
    · rw [c.auditPolicies_cons_of_missing_response addResult h hs hr] at hrun; cases hrun
    · rw [c.auditPolicies_cons_of_response addResult h hs hr, List.append_assoc] at hrun
      exact ⟨resp, hrun⟩

end exchange

/-- What a completed run of the loop did: each matching policy, in order, got a response
that was added as a non-errored result, after one POST and no other call. -/
def AuditedAll (resource : Unstructured) (policies : List ServedPolicy) (report rep : R)
    (tr : Trace) : Prop :=
  ∃ entries : List (Policy × AdmissionResponse), rep = addAnswered addResult report entries ∧
    entries.map Prod.fst = (c.matching resource policies).map ServedPolicy.policy ∧
    calls tr = (c.matching resource policies).map fun p =>
      .post p.policyServer (newAdmissionReview resource)

theorem auditedAll_nil (report : R) : c.AuditedAll addResult resource [] report report [] :=
  ⟨[], rfl, rfl, rfl⟩

theorem AuditedAll.skip {rep : R} {tr : Trace} (h : c.selects p.policy resource = false)
    (ha : c.AuditedAll addResult resource policies report rep tr) :
    c.AuditedAll addResult resource (p :: policies) report rep (c.skipLogs p.policy ++ tr) := by
  obtain ⟨entries, hrep, hent, hcalls⟩ := ha
  exact ⟨entries, hrep, by simpa [matching, h] using hent, by simpa [matching, h] using hcalls⟩

theorem AuditedAll.answer {rep : R} {tr : Trace} {resp : AdmissionResponse}
    (h : c.selects p.policy resource = true)
    (ha : c.AuditedAll addResult resource policies (addResult report p.policy (some resp) false)
      rep tr) :
    c.AuditedAll addResult resource (p :: policies) report rep (answered p resource ++ tr) := by
  obtain ⟨entries, hrep, hent, hcalls⟩ := ha
  exact ⟨(p.policy, resp) :: entries, hrep, by simpa [matching, h] using hent,
    by simpa [matching, h, Event.isLog] using hcalls⟩

/-! ## Whole runs of the loop -/

/-- Every run of the loop that returns, whatever the policy servers answered, audited
every matching policy: no result it added is errored. -/
theorem auditPolicies_ensures (resource : Unstructured) (policies : List ServedPolicy)
    (report : R) :
    Go.Ensures (c.auditPolicies addResult resource policies report)
      (c.AuditedAll addResult resource policies report) := by
  intro t rep t' hrun
  induction policies generalizing report t with
  | nil =>
    cases hrun
    exact ⟨[], by simp, c.auditedAll_nil addResult _⟩
  | cons p policies ih =>
    cases h : c.selects p.policy resource
    · rw [c.auditPolicies_cons_of_not_selects addResult h] at hrun
      obtain ⟨tr, rfl, ha⟩ := ih _ _ hrun
      exact ⟨_, by simp, ha.skip c addResult h⟩
    · obtain ⟨resp, hrun⟩ := c.auditPolicies_cons_eq_ret addResult h hrun
      obtain ⟨tr, rfl, ha⟩ := ih _ _ hrun
      exact ⟨_, by simp, ha.answer c addResult h⟩

/-- With every exchange succeeding, the loop returns. -/
theorem auditPolicies_returns (hh : c.EvaluatorHealthy) (resource : Unstructured)
    (policies : List ServedPolicy) (report : R) (t : Trace) :
    ∃ rep t', c.auditPolicies addResult resource policies report t = (.ret rep, t') := by
  induction policies generalizing report t with
  | nil => exact ⟨report, t, rfl⟩
  | cons p policies ih =>
    cases h : c.selects p.policy resource
    · rw [c.auditPolicies_cons_of_not_selects addResult h]
      exact ih report _
    · obtain ⟨review, resp, hs, hr⟩ := c.sendAdmissionReviewToPolicyServer_healthy hh
        p.policyServer (newAdmissionReview resource) t
      rw [c.auditPolicies_cons_of_response addResult h hs hr]
      exact ih _ _

/-! ## Where the loop panics -/

/-- Whether the server at `url`, sent `review` after the events `t`, answers with a review
that has a response. -/
def Answers (t : Trace) (url : String) (review : AdmissionReview) : Prop :=
  ∃ decoded resp t', c.sendAdmissionReviewToPolicyServer url review t =
    (.ret (some decoded, none), t') ∧ decoded.response = some resp

/-- The loop, run from `report` after the events `t`, reaches a matching policy whose server
gives no response, the policies before it having run to completion. -/
def ReachesUnanswered (resource : Unstructured) (policies : List ServedPolicy) (report : R)
    (t : Trace) : Prop :=
  ∃ pre p post rep t₁, policies = pre ++ p :: post ∧
    c.auditPolicies addResult resource pre report t = (.ret rep, t₁) ∧
    c.selects p.policy resource = true ∧ ¬ c.Answers t₁ p.policyServer (newAdmissionReview resource)

/-- At a matching policy the loop goes on with the verdict added when the server answers,
and panics when it does not. -/
theorem auditPolicies_cons_of_selects (h : c.selects p.policy resource = true) :
    (c.Answers t p.policyServer (newAdmissionReview resource) ∧ ∃ resp t₁,
      ∀ policies (report : R), c.auditPolicies addResult resource (p :: policies) report t =
        c.auditPolicies addResult resource policies (addResult report p.policy (some resp) false)
          t₁) ∨
    (¬ c.Answers t p.policyServer (newAdmissionReview resource) ∧ ∀ policies (report : R),
      ∃ t', c.auditPolicies addResult resource (p :: policies) report t = (.panic nilDeref, t')) := by
  rcases c.sendAdmissionReviewToPolicyServer_cases p.policyServer (newAdmissionReview resource) t
    with ⟨err, t₁, hs⟩ | ⟨review, hs⟩
  · -- the exchange failed
    refine .inr ⟨fun ⟨_, _, _, hs', _⟩ => ?_, fun _ _ =>
      ⟨_, c.auditPolicies_cons_of_send_error addResult h hs⟩⟩
    simp [hs] at hs'
  · rcases hr : review.response with _ | resp
    · -- the review has no response
      refine .inr ⟨fun ⟨_, _, _, hs', hr'⟩ => ?_, fun _ _ =>
        ⟨_, c.auditPolicies_cons_of_missing_response addResult h hs hr⟩⟩
      simp_all
    · exact .inl ⟨⟨review, resp, _, hs, hr⟩, resp, _, fun _ _ =>
        c.auditPolicies_cons_of_response addResult h hs hr⟩

/-- A policy the loop gets past, without a panic, reaches an unanswered policy exactly when
the rest of the loop does. -/
theorem reachesUnanswered_cons {q : ServedPolicy} {qs : List ServedPolicy} {report' : R}
    {t' : Trace}
    (hrun : ∀ pre, c.auditPolicies addResult resource (q :: pre) report t =
      c.auditPolicies addResult resource pre report' t')
    (hq : c.selects q.policy resource = true →
      c.Answers t q.policyServer (newAdmissionReview resource)) :
    c.ReachesUnanswered addResult resource (q :: qs) report t ↔
      c.ReachesUnanswered addResult resource qs report' t' := by
  constructor
  · rintro ⟨pre, p, post, rep, t₁, heq, hpre, hs, hn⟩
    rcases List.cons_eq_append_iff.1 heq with ⟨rfl, hpq⟩ | ⟨pre', rfl, rfl⟩
    · -- the unanswered policy would be `q` itself
      obtain ⟨rfl, -⟩ := List.cons.inj hpq
      obtain ⟨⟩ := hpre
      exact absurd (hq hs) hn
    · exact ⟨pre', p, post, rep, t₁, rfl, by rwa [hrun] at hpre, hs, hn⟩
  · rintro ⟨pre, p, post, rep, t₁, rfl, hpre, hs, hn⟩
    exact ⟨q :: pre, p, post, rep, t₁, rfl, by rwa [hrun], hs, hn⟩

/-- The loop panics exactly when it reaches a matching policy whose server gives no
response, and every panic of the loop is that nil dereference. -/
theorem auditPolicies_panics_iff (resource : Unstructured) (policies : List ServedPolicy)
    (report : R) (t : Trace) :
    (∀ msg t', c.auditPolicies addResult resource policies report t = (.panic msg, t') →
      msg = nilDeref) ∧
    ((∃ t', c.auditPolicies addResult resource policies report t = (.panic nilDeref, t')) ↔
      c.ReachesUnanswered addResult resource policies report t) := by
  induction policies generalizing report t with
  | nil =>
    refine ⟨fun _ _ h => (nomatch h), iff_of_false (fun ⟨_, h⟩ => (nomatch h)) ?_⟩
    rintro ⟨pre, p, post, -, -, heq, -⟩
    simp at heq
  | cons q qs ih =>
    cases hq : c.selects q.policy resource
    · -- a policy that does not match is skipped
      rw [c.reachesUnanswered_cons addResult
        (fun _ => c.auditPolicies_cons_of_not_selects addResult hq) (by simp [hq]),
        c.auditPolicies_cons_of_not_selects addResult hq]
      exact ih _ _
    · rcases c.auditPolicies_cons_of_selects addResult hq with ⟨ha, resp, t₁, hrun⟩ | ⟨hn, hpanic⟩
      · -- the server answered
        rw [c.reachesUnanswered_cons addResult (hrun · report) fun _ => ha, hrun]
        exact ih _ _
      · -- it did not: the loop panics here
        obtain ⟨t', ht'⟩ := hpanic qs report
        rw [ht']
        exact ⟨fun _ _ h => by cases h; rfl, iff_of_true ⟨t', rfl⟩
          ⟨[], q, qs, report, t, rfl, rfl, hq, hn⟩⟩

/-! ## Auditing a resource -/

/-- What a completed audit of a resource did: one POST per matching policy, in order, then
one call handing the store the fresh report with one answered, non-errored result per
matching policy. -/
def Audited (newReport : Unstructured → R) (stored : R → Event) (policies : List ServedPolicy)
    (resource : Unstructured) (tr : Trace) : Prop :=
  ∃ entries : List (Policy × AdmissionResponse),
    entries.map Prod.fst = (c.matching resource policies).map ServedPolicy.policy ∧
    calls tr = (c.matching resource policies).map (fun p =>
        .post p.policyServer (newAdmissionReview resource)) ++
      [stored (addAnswered addResult (newReport resource) entries)]

/-- Logging an error, if there is one, makes no call. -/
theorem returns_logError (msg : String) (err : Option GoError) :
    Go.Returns (do if let some err := err then logLine .error msg (some err) : ScanM Unit)
      fun _ tr => calls tr = [] := by
  cases err
  · exact Go.Returns.pure rfl
  · exact Go.Returns.emit.mono fun _ _ h => by simp [h, Event.isLog]

section auditWith

variable (newReport : Unstructured → R) {store : R → ScanM (Option GoError)}
  {stored : R → Event}
  (hstore : ∀ rep, Go.Returns (store rep) fun _ tr => calls tr = [stored rep])
  (storeErrMsg : String) (policies : List ServedPolicy) (resource : Unstructured)

include hstore

/-- Every audit of a resource that returns made one POST per matching policy and handed
the store one report, with no errored result. -/
theorem auditWith_ensures :
    Go.Ensures (c.auditWith addResult newReport store storeErrMsg policies resource)
      fun _ => c.Audited addResult newReport stored policies resource := by
  refine Go.Ensures.bind (c.auditPolicies_ensures addResult resource policies _) ?_
  rintro rep tr₁ ⟨entries, rfl, hent, hcalls⟩
  refine Go.Ensures.bind (hstore _).ensures ?_
  rintro err tr₂ h₂
  refine Go.Ensures.mono (returns_logError storeErrMsg err).ensures ?_
  rintro _ tr₃ h₃
  exact ⟨entries, hent, by simp [hcalls, h₂, h₃]⟩

/-- With every exchange succeeding, auditing a resource returns. -/
theorem auditWith_healthy (hh : c.EvaluatorHealthy) :
    Go.Returns (c.auditWith addResult newReport store storeErrMsg policies resource)
      fun _ => c.Audited addResult newReport stored policies resource := by
  refine Go.Returns.of_ensures (c.auditWith_ensures addResult newReport hstore storeErrMsg
    policies resource) fun t => ?_
  obtain ⟨rep, t₁, h₁⟩ :=
    c.auditPolicies_returns addResult hh resource policies (newReport resource) t
  obtain ⟨err, tr₂, h₂, -⟩ := hstore rep t₁
  obtain ⟨u, tr₃, h₃, -⟩ := returns_logError storeErrMsg err (t₁ ++ tr₂)
  exact ⟨u, _, by rw [auditWith, Go.bind_of_ret h₁, Go.bind_of_ret h₂, h₃]⟩

/-- Auditing a resource panics exactly as its loop does: the store call and the log line
after it return. -/
theorem auditWith_panic_iff (msg : String) (t t' : Trace) :
    c.auditWith addResult newReport store storeErrMsg policies resource t = (.panic msg, t') ↔
      c.auditPolicies addResult resource policies (newReport resource) t = (.panic msg, t') := by
  rcases h₁ : c.auditPolicies addResult resource policies (newReport resource) t with
    ⟨rep | m, t₁⟩
  · obtain ⟨err, tr₂, h₂, -⟩ := hstore rep t₁
    obtain ⟨u, tr₃, h₃, -⟩ := returns_logError storeErrMsg err (t₁ ++ tr₂)
    rw [auditWith, Go.bind_of_ret h₁, Go.bind_of_ret h₂, h₃]
    simp
  · rw [auditWith, Go.bind_of_panic h₁]
    simp

end auditWith

/-! ## The two members -/

/-- A namespaced report's name and namespace, and the policy of each result with whether it
errored. -/
def PolicyReport.summary (report : PolicyReport) : String × String × List (Policy × Bool) :=
  (report.name, report.ns, report.results.map fun e => (e.policy, e.errored))

/-- A cluster-wide report's name, and the policy of each result with whether it errored. -/
def ClusterPolicyReport.summary (report : ClusterPolicyReport) :
    String × List (Policy × Bool) :=
  (report.name, report.results.map fun e => (e.policy, e.errored))

@[simp] theorem addAnswered_policyReport (report : PolicyReport)
    (entries : List (Policy × AdmissionResponse)) :
    addAnswered addResultToPolicyReport report entries = { report with
      results := report.results ++ entries.map fun e => ⟨e.1, some e.2, false⟩ } := by
  induction entries generalizing report with
  | nil => simp [addAnswered]
  | cons e entries ih => simp [addAnswered_cons, ih, addResultToPolicyReport]

@[simp] theorem addAnswered_clusterPolicyReport (report : ClusterPolicyReport)
    (entries : List (Policy × AdmissionResponse)) :
    addAnswered addResultToClusterPolicyReport report entries = { report with
      results := report.results ++ entries.map fun e => ⟨e.1, some e.2, false⟩ } := by
  induction entries generalizing report with
  | nil => simp [addAnswered]
  | cons e entries ih => simp [addAnswered_cons, ih, addResultToClusterPolicyReport]

/-- The POSTs of a completed audit of a resource. -/
def auditCalls (policies : List ServedPolicy) (resource : Unstructured) :
    List (String × AdmissionReview) :=
  (c.matching resource policies).map fun p => (p.policyServer, newAdmissionReview resource)

/-- The results a completed audit records for a resource: each matching policy, in order,
not errored. -/
def auditVerdicts (policies : List ServedPolicy) (resource : Unstructured) :
    List (Policy × Bool) :=
  (c.matching resource policies).map fun p => (p.policy, false)

theorem evaluatorCalls_of_audited {newReport : Unstructured → R} {stored : R → Event}
    {policies : List ServedPolicy} {resource : Unstructured} {tr : Trace}
    (ha : c.Audited addResult newReport stored policies resource tr)
    (hs : ∀ rep, (stored rep).post? = none) :
    evaluatorCalls tr = c.auditCalls policies resource := by
  obtain ⟨entries, -, hcalls⟩ := ha
  rw [evaluatorCalls, ← filterMap_calls (fun _ => rfl), hcalls]
  simp [hs, auditCalls, List.filterMap_map, Function.comp_def,
    List.filterMap_eq_map_iff_forall_eq_some, List.filterMap_cons]

theorem auditVerdicts_of_entries {policies : List ServedPolicy} {resource : Unstructured}
    {entries : List (Policy × AdmissionResponse)}
    (hent : entries.map Prod.fst = (c.matching resource policies).map ServedPolicy.policy) :
    entries.map (fun e => (e.1, false)) = c.auditVerdicts policies resource := by
  simpa [auditVerdicts, Function.comp_def] using congrArg (List.map fun q => (q, false)) hent

/-- What a completed `auditResource` did: one POST per matching policy, in order, and one
namespaced report for the resource, with one non-errored result per matching policy, in
order. -/
def ResourceAudited (policies : List ServedPolicy) (resource : Unstructured) (tr : Trace) :
    Prop :=
  evaluatorCalls tr = c.auditCalls policies resource ∧
    (storedReports tr).map PolicyReport.summary =
      [(resource.uid, resource.ns, c.auditVerdicts policies resource)]

/-- What a completed `auditClusterResource` did: as `ResourceAudited`, with one
cluster-wide report. -/
def ClusterResourceAudited (policies : List ServedPolicy) (resource : Unstructured)
    (tr : Trace) : Prop :=
  evaluatorCalls tr = c.auditCalls policies resource ∧
    (storedClusterReports tr).map ClusterPolicyReport.summary =
      [(resource.uid, c.auditVerdicts policies resource)]

section members

variable (policies : List ServedPolicy) (resource : Unstructured)

theorem createOrPatchPolicyReport_returns (report : PolicyReport) :
    Go.Returns (c.createOrPatchPolicyReport report)
      fun _ tr => calls tr = [.createOrPatchPolicyReport report] := fun _ => ⟨_, _, rfl, rfl⟩

theorem createOrPatchClusterPolicyReport_returns (report : ClusterPolicyReport) :
    Go.Returns (c.createOrPatchClusterPolicyReport report)
      fun _ tr => calls tr = [.createOrPatchClusterPolicyReport report] :=
  fun _ => ⟨_, _, rfl, rfl⟩

theorem resourceAudited_of_audited {tr : Trace}
    (ha : c.Audited addResultToPolicyReport newPolicyReport .createOrPatchPolicyReport
      policies resource tr) : c.ResourceAudited policies resource tr := by
  refine ⟨c.evaluatorCalls_of_audited _ ha fun _ => rfl, ?_⟩
  obtain ⟨entries, hent, hcalls⟩ := ha
  rw [storedReports, ← filterMap_calls (fun _ => rfl), hcalls, List.filterMap_append,
    List.filterMap_eq_nil_iff.mpr (by simp [Event.policyReport?])]
  simp [PolicyReport.summary, newPolicyReport, Function.comp_def,
    ← c.auditVerdicts_of_entries hent]

theorem clusterResourceAudited_of_audited {tr : Trace}
    (ha : c.Audited addResultToClusterPolicyReport (fun r => newClusterPolicyReport r.uid)
      .createOrPatchClusterPolicyReport policies resource tr) :
    c.ClusterResourceAudited policies resource tr := by
  refine ⟨c.evaluatorCalls_of_audited _ ha fun _ => rfl, ?_⟩
  obtain ⟨entries, hent, hcalls⟩ := ha
  rw [storedClusterReports, ← filterMap_calls (fun _ => rfl), hcalls, List.filterMap_append,
    List.filterMap_eq_nil_iff.mpr (by simp [Event.clusterPolicyReport?])]
  simp [ClusterPolicyReport.summary, newClusterPolicyReport, Function.comp_def,
    ← c.auditVerdicts_of_entries hent]

theorem auditResource_ensures :
    Go.Ensures (c.auditResource policies resource)
      fun _ => c.ResourceAudited policies resource :=
  (c.auditWith_ensures _ _ c.createOrPatchPolicyReport_returns _ _ _).mono
    fun _ _ => c.resourceAudited_of_audited policies resource

theorem auditClusterResource_ensures :
    Go.Ensures (c.auditClusterResource policies resource)
      fun _ => c.ClusterResourceAudited policies resource :=
  (c.auditWith_ensures _ _ c.createOrPatchClusterPolicyReport_returns _ _ _).mono
    fun _ _ => c.clusterResourceAudited_of_audited policies resource

theorem auditResource_healthy (hh : c.EvaluatorHealthy) :
    Go.Returns (c.auditResource policies resource)
      fun _ => c.ResourceAudited policies resource :=
  (c.auditWith_healthy _ _ c.createOrPatchPolicyReport_returns _ _ _ hh).mono
    fun _ _ => c.resourceAudited_of_audited policies resource

theorem auditClusterResource_healthy (hh : c.EvaluatorHealthy) :
    Go.Returns (c.auditClusterResource policies resource)
      fun _ => c.ClusterResourceAudited policies resource :=
  (c.auditWith_healthy _ _ c.createOrPatchClusterPolicyReport_returns _ _ _ hh).mono
    fun _ _ => c.clusterResourceAudited_of_audited policies resource

end members

/-! ## Whole audits -/

/-- Both members panic exactly when their loop reaches a matching policy whose server gives
no response, every matching policy before it having been answered: the exchange failed, or
the review it decoded has no response.  Every panic of either member is that nil
dereference. -/
theorem audit_panics_iff_unanswered (policies : List ServedPolicy) (resource : Unstructured)
    (t : Trace) :
    ((∃ t', c.auditResource policies resource t = (.panic nilDeref, t')) ↔
      c.ReachesUnanswered addResultToPolicyReport resource policies
        (newPolicyReport resource) t) ∧
    ((∃ t', c.auditClusterResource policies resource t = (.panic nilDeref, t')) ↔
      c.ReachesUnanswered addResultToClusterPolicyReport resource policies
        (newClusterPolicyReport resource.uid) t) ∧
    ∀ msg t', c.auditResource policies resource t = (.panic msg, t') ∨
      c.auditClusterResource policies resource t = (.panic msg, t') → msg = nilDeref := by
  have hr := c.auditWith_panic_iff addResultToPolicyReport newPolicyReport
    c.createOrPatchPolicyReport_returns "error adding PolicyReport to store" policies resource
  have hc := c.auditWith_panic_iff addResultToClusterPolicyReport
    (fun r => newClusterPolicyReport r.uid) c.createOrPatchClusterPolicyReport_returns
    "error adding ClusterPolicyReport to store" policies resource
  have lr := c.auditPolicies_panics_iff addResultToPolicyReport resource policies
    (newPolicyReport resource) t
  have lc := c.auditPolicies_panics_iff addResultToClusterPolicyReport resource policies
    (newClusterPolicyReport resource.uid) t
  simp only [auditResource, auditClusterResource, hr, hc]
  exact ⟨lr.2, lc.2, fun msg t' h => h.elim (lr.1 msg t') (lc.1 msg t')⟩

/-- Every run of either member that returns, whatever the policy servers answered, POSTed
once per matching policy and handed the store one report whose results are the matching
policies, in order, none of them errored: no errored result ever reaches the store. -/
theorem audits_that_return_record_no_error (policies : List ServedPolicy)
    (resource : Unstructured) :
    Go.Ensures (c.auditResource policies resource)
        (fun _ => c.ResourceAudited policies resource) ∧
      Go.Ensures (c.auditClusterResource policies resource)
        (fun _ => c.ClusterResourceAudited policies resource) :=
  ⟨c.auditResource_ensures policies resource, c.auditClusterResource_ensures policies resource⟩

/-- A matching policy whose server cannot be reached makes `auditResource` panic after it
logs the error, and one whose server answers `null` makes `auditClusterResource` panic
before it logs the verdict; neither hands a report to the store. -/
theorem audit_panics_when_policy_server_fails :
    let resource : Unstructured := ⟨"6f1c", "nginx", "default", []⟩
    let policy : ServedPolicy := ⟨⟨"no-privileged-pod", none⟩,
      "https://policy-server-default:8443/audit/no-privileged-pod"⟩
    let timeout := GoError.new "context deadline exceeded (Client.Timeout exceeded)"
    let unreachable : Cluster := { quiet with post := fun _ _ _ => .failed timeout }
    let nullBody : Cluster :=
      { quiet with post := fun _ _ _ => .response 200 "null", jsonUnmarshal := fun _ => .ok {} }
    unreachable.auditResource [policy] resource [] =
        (.panic nilDeref, [.post policy.policyServer (newAdmissionReview resource),
          .log ⟨.error, "error sending AdmissionReview to PolicyServer", some timeout⟩]) ∧
      nullBody.auditClusterResource [policy] resource [] =
        (.panic nilDeref, [.post policy.policyServer (newAdmissionReview resource)]) := by
  decide

end Cluster

end AuditScanner
