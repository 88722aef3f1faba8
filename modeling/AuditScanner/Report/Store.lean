import AuditScanner.Kube

/-!
# The in-memory policy report store

`PolicyReportStore` caches the latest namespaced reports, in a Go map keyed by namespace,
and the sole cluster-wide report.  Its operations are Go computations over the store, and a
run is a sequence of them.  The store is compared with a specification that keeps no map:
the entry of a namespace is what the most recent operation touching it wrote.  The main
result is `policyReportStore_follows_history`: from the store `MockNewPolicyReportStore`
builds, the store answers what the history says, and each operation leaves alone what it
does not touch.
-/

namespace AuditScanner

/-- `PolicyReportStore`.  The two mutexes and the API client are not modelled. -/
structure PolicyReportStore where
  /-- The namespaced reports, keyed by namespace. -/
  namespacedPolicyReports : AList fun _ : String => PolicyReport
  /-- The sole cluster-wide report. -/
  clusterPolicyReport : ClusterPolicyReport

/-- `MockNewPolicyReportStore`: no namespaced report, and the cluster-wide report
`clusterwide`. -/
def mockNewPolicyReportStore : PolicyReportStore where
  namespacedPolicyReports := ∅
  clusterPolicyReport := newClusterPolicyReport "clusterwide"

/-- What `GetPolicyReport` answers for a namespace whose entry is `entry`: the report, or
the zero report `PolicyReport{}` and the error `report not found`. -/
def getReply (entry : Option PolicyReport) : PolicyReport × Option GoError :=
  match entry with
  | some report => (report, none)
  | none => ({ name := "", ns := "" }, some (.new "report not found"))

namespace PolicyReportStore

variable (s : PolicyReportStore)

/-- `AddPolicyReport`: store the report under its own namespace. -/
def addPolicyReport (report : PolicyReport) : Go PolicyReportStore (Option GoError) := do
  modify fun s => { s with
    namespacedPolicyReports := s.namespacedPolicyReports.insert report.ns report }
  pure none

@[simp] theorem addPolicyReport_apply (report : PolicyReport) :
    addPolicyReport report s = (.ret none, { s with
      namespacedPolicyReports := s.namespacedPolicyReports.insert report.ns report }) := rfl

/-- `UpdatePolicyReport`, whose body is that of `AddPolicyReport`. -/
def updatePolicyReport (report : PolicyReport) : Go PolicyReportStore (Option GoError) :=
  addPolicyReport report

@[simp] theorem updatePolicyReport_apply (report : PolicyReport) :
    updatePolicyReport report s = addPolicyReport report s := rfl

/-- `AddClusterPolicyReport`: replace the cluster-wide report. -/
def addClusterPolicyReport (report : ClusterPolicyReport) :
    Go PolicyReportStore (Option GoError) := do
  modify fun s => { s with clusterPolicyReport := report }
  pure none

@[simp] theorem addClusterPolicyReport_apply (report : ClusterPolicyReport) :
    addClusterPolicyReport report s = (.ret none, { s with clusterPolicyReport := report }) :=
  rfl

/-- `UpdateClusterPolicyReport`, whose body is that of `AddClusterPolicyReport`. -/
def updateClusterPolicyReport (report : ClusterPolicyReport) :
    Go PolicyReportStore (Option GoError) :=
  addClusterPolicyReport report

@[simp] theorem updateClusterPolicyReport_apply (report : ClusterPolicyReport) :
    updateClusterPolicyReport report s = addClusterPolicyReport report s := rfl

/-- `GetPolicyReport`: the report of a namespace, or the zero report and an error. -/
def getPolicyReport (ns : String) :
    Go PolicyReportStore (PolicyReport × Option GoError) := do
  let s ← get
  match s.namespacedPolicyReports.lookup ns with
  | some report => pure (report, none)
  | none => pure ({ name := "", ns := "" }, some (.new "report not found"))

@[simp] theorem getPolicyReport_apply (ns : String) :
    getPolicyReport ns s = (.ret (getReply (s.namespacedPolicyReports.lookup ns)), s) := by
  cases h : s.namespacedPolicyReports.lookup ns <;>
    simp [getPolicyReport, getReply, Go.bind_apply, h]

/-- `GetClusterPolicyReport`. -/
def getClusterPolicyReport : Go PolicyReportStore (ClusterPolicyReport × Option GoError) := do
  let s ← get
  pure (s.clusterPolicyReport, none)

@[simp] theorem getClusterPolicyReport_apply :
    getClusterPolicyReport s = (.ret (s.clusterPolicyReport, none), s) := rfl

/-- `RemovePolicyReport`: look the namespace up, and delete its entry if it is there. -/
def removePolicyReport (ns : String) : Go PolicyReportStore (Option GoError) := do
  let (_, err) ← getPolicyReport ns
  if err.isNone then
    modify fun s => { s with
      namespacedPolicyReports := s.namespacedPolicyReports.erase ns }
  pure none

@[simp] theorem removePolicyReport_apply (ns : String) :
    removePolicyReport ns s = (.ret none,
      match s.namespacedPolicyReports.lookup ns with
      | some _ => { s with namespacedPolicyReports := s.namespacedPolicyReports.erase ns }
      | none => s) := by
  cases h : s.namespacedPolicyReports.lookup ns <;>
    simp [removePolicyReport, getReply, Go.bind_apply, h]

/-- `RemoveAllNamespacedPolicyReports`: a fresh empty map. -/
def removeAllNamespacedPolicyReports : Go PolicyReportStore (Option GoError) := do
  modify fun s => { s with namespacedPolicyReports := ∅ }
  pure none

@[simp] theorem removeAllNamespacedPolicyReports_apply :
    removeAllNamespacedPolicyReports s = (.ret none, { s with namespacedPolicyReports := ∅ }) :=
  rfl

end PolicyReportStore

/-! ## Runs of the store -/

/-- A call of one of the store's operations. -/
inductive StoreOp where
  | addPolicyReport (report : PolicyReport)
  | updatePolicyReport (report : PolicyReport)
  | removePolicyReport (ns : String)
  | removeAllNamespacedPolicyReports
  | addClusterPolicyReport (report : ClusterPolicyReport)
  | updateClusterPolicyReport (report : ClusterPolicyReport)
  | getPolicyReport (ns : String)
  | getClusterPolicyReport
deriving DecidableEq, Repr

/-- What an operation returns. -/
inductive StoreReply where
  | err (e : Option GoError)
  | policyReport (report : PolicyReport) (e : Option GoError)
  | clusterPolicyReport (report : ClusterPolicyReport) (e : Option GoError)
deriving DecidableEq, Repr

namespace StoreOp

/-- Run one operation on the store. -/
def exec : StoreOp → Go PolicyReportStore StoreReply
  | .addPolicyReport r => .err <$> PolicyReportStore.addPolicyReport r
  | .updatePolicyReport r => .err <$> PolicyReportStore.updatePolicyReport r
  | .removePolicyReport n => .err <$> PolicyReportStore.removePolicyReport n
  | .removeAllNamespacedPolicyReports =>
      .err <$> PolicyReportStore.removeAllNamespacedPolicyReports
  | .addClusterPolicyReport r => .err <$> PolicyReportStore.addClusterPolicyReport r
  | .updateClusterPolicyReport r => .err <$> PolicyReportStore.updateClusterPolicyReport r
  | .getPolicyReport n =>
      (fun p => .policyReport p.1 p.2) <$> PolicyReportStore.getPolicyReport n
  | .getClusterPolicyReport =>
      (fun p => .clusterPolicyReport p.1 p.2) <$> PolicyReportStore.getClusterPolicyReport

/-- Whether the operation writes the entry of namespace `ns`. -/
def touches (ns : String) : StoreOp → Bool
  | .addPolicyReport r | .updatePolicyReport r => r.ns == ns
  | .removePolicyReport n => n == ns
  | .removeAllNamespacedPolicyReports => true
  | _ => false

/-- The namespaced report an operation writes, if it writes one. -/
def written : StoreOp → Option PolicyReport
  | .addPolicyReport r | .updatePolicyReport r => some r
  | _ => none

/-- Whether the operation writes the cluster-wide report. -/
def writesCluster : StoreOp → Bool
  | .addClusterPolicyReport _ | .updateClusterPolicyReport _ => true
  | _ => false

/-- The cluster-wide report an operation writes, if it writes one. -/
def writtenCluster : StoreOp → Option ClusterPolicyReport
  | .addClusterPolicyReport r | .updateClusterPolicyReport r => some r
  | _ => none

end StoreOp

/-- The store after the operations `ops`, run in order from `s`. -/
def after (ops : List StoreOp) (s : PolicyReportStore) : PolicyReportStore :=
  ops.foldl (fun s op => (op.exec s).2) s

@[simp] theorem after_nil (s : PolicyReportStore) : after [] s = s := rfl

theorem after_append_singleton (ops : List StoreOp) (op : StoreOp) (s : PolicyReportStore) :
    after (ops ++ [op]) s = (op.exec (after ops s)).2 := by
  simp [after]

/-! ## The specification -/

/-- The entry the history `ops` leaves for namespace `ns`: the report most recently
added or updated for `ns`, unless a removal of `ns`, or of every namespace, came after it. -/
def specPolicyReport (ns : String) (ops : List StoreOp) : Option PolicyReport :=
  (ops.reverse.find? (·.touches ns)).bind StoreOp.written

/-- The cluster-wide report the history `ops` leaves: the one most recently added or
updated, or the initial `clusterwide` report. -/
def specClusterPolicyReport (ops : List StoreOp) : ClusterPolicyReport :=
  ((ops.reverse.find? StoreOp.writesCluster).bind StoreOp.writtenCluster).getD
    (newClusterPolicyReport "clusterwide")

/-- Every entry of the namespaced map is stored under its own report's namespace. -/
def WellKeyed (s : PolicyReportStore) : Prop :=
  ∀ ns r, s.namespacedPolicyReports.lookup ns = some r → r.ns = ns

/-! ## Steps and runs -/

namespace StoreOp

variable (s : PolicyReportStore)

/-- Every operation returns: the store never panics. -/
theorem exec_ret (op : StoreOp) : ∃ r, op.exec s = (.ret r, (op.exec s).2) := by
  cases op <;> simp [exec]

/-- One step on the namespaced map: an operation touching `ns` leaves there what it writes
(nothing, for a removal); any other leaves the entry of `ns` as it was. -/
theorem exec_lookup (op : StoreOp) (ns : String) :
    (op.exec s).2.namespacedPolicyReports.lookup ns =
      if op.touches ns then op.written else s.namespacedPolicyReports.lookup ns := by
  cases op with
  | addPolicyReport r | updatePolicyReport r =>
    by_cases h : r.ns = ns
    · subst h; simp [exec, touches, written]
    · simp [exec, touches, written, h, AList.lookup_insert_ne (Ne.symm h)]
  | removePolicyReport n =>
    by_cases h : n = ns
    · subst h
      cases hl : s.namespacedPolicyReports.lookup n <;> simp [exec, touches, written, hl]
    · cases hl : s.namespacedPolicyReports.lookup n <;>
        simp [exec, touches, h, hl, AList.lookup_erase_ne (Ne.symm h)]
  | removeAllNamespacedPolicyReports => simp [exec, touches, written]
  | _ => simp [exec, touches]

/-- One step on the cluster-wide report. -/
theorem exec_cluster (op : StoreOp) :
    (op.exec s).2.clusterPolicyReport =
      if op.writesCluster then (op.writtenCluster.getD s.clusterPolicyReport)
      else s.clusterPolicyReport := by
  cases op with
  | removePolicyReport n =>
    cases hl : s.namespacedPolicyReports.lookup n <;> simp [exec, writesCluster, hl]
  | _ => simp [exec, writesCluster, writtenCluster]

end StoreOp

theorem specPolicyReport_append (ns : String) (ops : List StoreOp) (op : StoreOp) :
    specPolicyReport ns (ops ++ [op]) =
      if op.touches ns then op.written else specPolicyReport ns ops := by
  cases h : op.touches ns <;> simp [specPolicyReport, h]

theorem specClusterPolicyReport_append (ops : List StoreOp) (op : StoreOp) :
    specClusterPolicyReport (ops ++ [op]) =
      if op.writesCluster then op.writtenCluster.getD (specClusterPolicyReport ops)
      else specClusterPolicyReport ops := by
  cases op <;> simp [specClusterPolicyReport, StoreOp.writesCluster, StoreOp.writtenCluster]

theorem after_lookup (ops : List StoreOp) (ns : String) :
    (after ops mockNewPolicyReportStore).namespacedPolicyReports.lookup ns =
      specPolicyReport ns ops := by
  induction ops using List.reverseRecOn with
  | nil => rfl
  | append_singleton ops op ih =>
    rw [after_append_singleton, StoreOp.exec_lookup, specPolicyReport_append, ih]

theorem after_cluster (ops : List StoreOp) :
    (after ops mockNewPolicyReportStore).clusterPolicyReport = specClusterPolicyReport ops := by
  induction ops using List.reverseRecOn with
  | nil => rfl
  | append_singleton ops op ih =>
    rw [after_append_singleton, StoreOp.exec_cluster, specClusterPolicyReport_append, ih]

theorem written_ns {op : StoreOp} {ns : String} {r : PolicyReport} (ht : op.touches ns)
    (hw : op.written = some r) : r.ns = ns := by
  cases op <;> simp_all [StoreOp.touches, StoreOp.written]

theorem specPolicyReport_ns {ns : String} {ops : List StoreOp} {r : PolicyReport}
    (h : specPolicyReport ns ops = some r) : r.ns = ns := by
  obtain ⟨op, hop, hw⟩ := Option.bind_eq_some.mp h
  exact written_ns (by simpa using List.find?_some hop) hw

/-- A namespaced operation leaves the cluster-wide report as it was. -/
theorem StoreOp.exec_cluster_of_touches (op : StoreOp) (s : PolicyReportStore) {ns : String}
    (h : op.touches ns) : (op.exec s).2.clusterPolicyReport = s.clusterPolicyReport := by
  rw [exec_cluster]
  cases op <;> simp_all [touches, writesCluster]

/-- A cluster-wide operation leaves the namespaced map as it was. -/
theorem StoreOp.exec_namespaced_of_writesCluster (op : StoreOp) (s : PolicyReportStore)
    (h : op.writesCluster) : (op.exec s).2.namespacedPolicyReports = s.namespacedPolicyReports := by
  cases op <;> simp_all [writesCluster, exec]

/-- From the store `MockNewPolicyReportStore` builds, after any sequence of operations,
every entry is stored under its own report's namespace, and `GetPolicyReport` and
`GetClusterPolicyReport` answer what the history says; an operation leaves every namespace
it does not touch as it was, a namespaced one leaves the cluster-wide report, and a
cluster-wide one the namespaced map. -/
theorem policyReportStore_follows_history (ops : List StoreOp) :
    WellKeyed (after ops mockNewPolicyReportStore) ∧
    (∀ ns, PolicyReportStore.getPolicyReport ns (after ops mockNewPolicyReportStore) =
      (.ret (getReply (specPolicyReport ns ops)), after ops mockNewPolicyReportStore)) ∧
    PolicyReportStore.getClusterPolicyReport (after ops mockNewPolicyReportStore) =
      (.ret (specClusterPolicyReport ops, none), after ops mockNewPolicyReportStore) ∧
    (∀ (op : StoreOp) (s : PolicyReportStore) (ns : String), op.touches ns = false →
      (op.exec s).2.namespacedPolicyReports.lookup ns = s.namespacedPolicyReports.lookup ns) ∧
    (∀ (op : StoreOp) (s : PolicyReportStore) (ns : String), op.touches ns = true →
      (op.exec s).2.clusterPolicyReport = s.clusterPolicyReport) ∧
    (∀ (op : StoreOp) (s : PolicyReportStore), op.writesCluster = true →
      (op.exec s).2.namespacedPolicyReports = s.namespacedPolicyReports) :=
  ⟨fun ns r h => specPolicyReport_ns (after_lookup ops ns ▸ h),
    fun ns => by rw [PolicyReportStore.getPolicyReport_apply, after_lookup],
    by rw [PolicyReportStore.getClusterPolicyReport_apply, after_cluster],
    fun op s ns h => by rw [StoreOp.exec_lookup, h, if_neg Bool.false_ne_true],
    fun op s _ h => op.exec_cluster_of_touches s h,
    fun op s h => op.exec_namespaced_of_writesCluster s h⟩

end AuditScanner
