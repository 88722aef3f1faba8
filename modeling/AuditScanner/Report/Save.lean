import AuditScanner.Kube

/-!
# Saving a policy report to the API server

`PolicyReportStore.Save` creates the PolicyReport object of a report's namespace and name
when a first `Get` answers `NotFound`, and otherwise updates it inside
`retry.RetryOnConflict`.  The API server is a versioned repository that other clients write
concurrently and whose calls may fail: a schedule gives the writes that land before each of
`Save`'s calls, and the calls that fail.  The main results are
`save_nil_wrote_or_refetched_not_found` (what a nil return means),
`save_returns_nil_without_writing`, `save_writes_unless_every_attempt_conflicts` and
`save_calls_at_most_eleven`.
-/

namespace AuditScanner

/-- A PolicyReport object in the cluster: its content and its `resourceVersion`. -/
structure Stored where
  report : PolicyReport
  resourceVersion : Nat
deriving DecidableEq, Repr

/-- The PolicyReport objects of the cluster, by namespace and name, and the
`resourceVersion` the next write gets. -/
structure Repo where
  objects : String × String → Option Stored
  nextVersion : Nat

/-- A write of another client: a create or update that leaves `report` in the object with
the report's key, or a delete. -/
inductive Write where
  | put (report : PolicyReport)
  | delete (key : String × String)
deriving DecidableEq, Repr

/-- The object key of a report: its namespace and name. -/
def PolicyReport.key (report : PolicyReport) : String × String := (report.ns, report.name)

/-- The server's `NotFound` error for a PolicyReport. -/
def notFound (key : String × String) : GoError :=
  .status "NotFound" ("policyreports.wgpolicyk8s.io \"" ++ key.2 ++ "\" not found")

/-- The server's `AlreadyExists` error for a PolicyReport. -/
def alreadyExists (key : String × String) : GoError :=
  .status "AlreadyExists" ("policyreports.wgpolicyk8s.io \"" ++ key.2 ++ "\" already exists")

/-- The server's `Conflict` error for an update with a stale `resourceVersion`. -/
def conflict (key : String × String) : GoError :=
  .status "Conflict" ("Operation cannot be fulfilled on policyreports.wgpolicyk8s.io \"" ++
    key.2 ++ "\": the object has been modified; please apply your changes to the latest " ++
    "version and try again")

namespace Repo

/-- Store `report` under its key, with a fresh `resourceVersion`. -/
def put (repo : Repo) (report : PolicyReport) : Repo where
  objects := Function.update repo.objects report.key (some ⟨report, repo.nextVersion⟩)
  nextVersion := repo.nextVersion + 1

/-- Apply another client's write. -/
def apply (repo : Repo) : Write → Repo
  | .put report => repo.put report
  | .delete key => { repo with objects := Function.update repo.objects key none }

/-- The server serves a `Get`. -/
def get (repo : Repo) (key : String × String) : Except GoError Stored :=
  match repo.objects key with
  | some o => .ok o
  | none => .error (notFound key)

/-- The server serves a `Create`: it fails when the object exists. -/
def create (repo : Repo) (report : PolicyReport) : Option GoError × Repo :=
  match repo.objects report.key with
  | some _ => (some (alreadyExists report.key), repo)
  | none => (none, repo.put report)

/-- The server serves an `Update` carrying `resourceVersion`: it fails unless the object
exists with that version. -/
def update (repo : Repo) (report : PolicyReport) (resourceVersion : Nat) :
    Option GoError × Repo :=
  match repo.objects report.key with
  | none => (some (notFound report.key), repo)
  | some o =>
    if o.resourceVersion = resourceVersion then (none, repo.put report)
    else (some (conflict report.key), repo)

end Repo

/-- What happens around one call of `Save` to the API server: the writes of other clients
that land just before it, and the error the server answers instead of serving the call. -/
structure Turn where
  before : List Write := []
  failure : Option GoError := none
deriving Repr

/-- A call of `Save` to the API server, with the server's answer. -/
inductive Exchange where
  | get (key : String × String) (answer : Except GoError Stored)
  | create (report : PolicyReport) (err : Option GoError)
  | update (report : PolicyReport) (resourceVersion : Nat) (err : Option GoError)

/-- The report a call wrote: a create or an update answered nil. -/
def Exchange.wrote : Exchange → Option PolicyReport
  | .create r none | .update r _ none => some r
  | _ => none

/-- The world `Save` runs in. -/
structure World where
  repo : Repo
  /-- The turns still to come; when none is left, calls are served with no interference. -/
  turns : List Turn
  /-- The lines logged. -/
  log : List LogLine := []
  /-- `Save`'s calls so far, with their answers. -/
  exchanges : List Exchange := []

namespace World

/-- The next turn; a quiet one when none is left. -/
def nextTurn (w : World) : Turn := w.turns.headD {}

/-- The world once the next turn's writes have landed. -/
def advance (w : World) : World :=
  { w with repo := w.nextTurn.before.foldl Repo.apply w.repo, turns := w.turns.tail }

end World

/-- The report is in the cluster, written by the last call. -/
def Wrote (r : PolicyReport) (w : World) : Prop :=
  (∃ v, w.repo.objects r.key = some ⟨r, v⟩) ∧
    ∃ xs x, w.exchanges = xs ++ [x] ∧ x.wrote = some r

namespace World

/-- The answer to a call in world `w`, with the objects after it: the next turn's failure,
or else the call served on the objects once the turn's writes have landed. -/
def answer {α : Type} (w : World) (failed : GoError → α) (serve : Repo → α × Repo) :
    α × Repo :=
  match w.nextTurn.failure with
  | some e => (failed e, w.advance.repo)
  | none => serve w.advance.repo

end World

/-- One call to the API server, answered as `World.answer` says and recorded. -/
def apiCall {α : Type} (failed : GoError → α) (serve : Repo → α × Repo)
    (exchange : α → Exchange) : Go World α := fun w =>
  let a := w.answer failed serve
  (.ret a.1, { w.advance with repo := a.2, exchanges := w.exchanges ++ [exchange a.1] })

/-- `client.Get` of the object with key `key`. -/
def clientGet (key : String × String) : Go World (Except GoError Stored) :=
  apiCall .error (fun repo => (repo.get key, repo)) (.get key)

/-- `client.Create`. -/
def clientCreate (report : PolicyReport) : Go World (Option GoError) :=
  apiCall some (fun repo => repo.create report) (.create report)

/-- `client.Update` of `report` carrying `resourceVersion`. -/
def clientUpdate (report : PolicyReport) (resourceVersion : Nat) : Go World (Option GoError) :=
  apiCall some (fun repo => repo.update report resourceVersion) (.update report resourceVersion)

/-- Write a log line. -/
def World.logLine (line : LogLine) : Go World Unit :=
  modify fun w => { w with log := w.log ++ [line] }

/-! ## `Save` -/

/-- `retry.DefaultRetry.Steps`: at most five attempts. -/
def defaultRetrySteps : Nat := 5

/-- `retry.RetryOnConflict` with `steps` attempts left and `lastErr` the last conflict:
run `fn` until it returns nil or an error that is not a conflict; when the attempts run
out, return the last conflict.  The sleeps between attempts are not modelled. -/
def retryOnConflict {σ : Type} (fn : Go σ (Option GoError)) :
    Nat → Option GoError → Go σ (Option GoError)
  | 0, lastErr => pure lastErr
  | n + 1, _ => do
    match ← fn with
    | none => pure none
    | some e => if isConflict (some e) then retryOnConflict fn n (some e) else pure (some e)

/-- The function `Save` retries: read the object, and update it with the version read. -/
def updateAttempt (report : PolicyReport) : Go World (Option GoError) := do
  match ← clientGet report.key with
  | .error e =>
    if isNotFound (some e) then
      -- "This should never happen": the line is built without `.Msg`, so zerolog never
      -- writes it
      pure none
    else pure (some (.wrap "failed when getting PolicyReport: " e))
  | .ok obj => clientUpdate report obj.resourceVersion

/-- `PolicyReportStore.Save`. -/
def PolicyReportStore.save (report : PolicyReport) : Go World (Option GoError) := do
  let getErr := errOf (← clientGet report.key)
  if isNotFound getErr then
    World.logLine ⟨.info, "creating policy report...", none⟩
    match ← clientCreate report with
    | some err => return some (.wrap "failed when creating PolicyReport: " err)
    | none => pure ()
  else
    World.logLine ⟨.info, "updating policy report...", none⟩
    let retryErr ← retryOnConflict (updateAttempt report) defaultRetrySteps none
    if retryErr.isSome then
      World.logLine ⟨.error, "PolicyReport update failed", none⟩
    World.logLine ⟨.info, "updated PolicyReport", none⟩
  return none

/-! ## What the calls do -/

@[simp] theorem Repo.put_objects_key (repo : Repo) (r : PolicyReport) :
    (repo.put r).objects r.key = some ⟨r, repo.nextVersion⟩ := by
  simp [Repo.put]

@[simp] theorem apiCall_log {α : Type} (failed : GoError → α) (serve : Repo → α × Repo)
    (exchange : α → Exchange) (w : World) : (apiCall failed serve exchange w).2.log = w.log :=
  rfl

theorem World.logLine_apply (l : LogLine) (w : World) :
    World.logLine l w = (.ret (), { w with log := w.log ++ [l] }) := rfl

/-- No PolicyReport in the cluster, and a first `Get` that times out: `Save` takes the
update path, whose `Get` answers `NotFound`, and returns nil after logging `updating policy
report...` and `updated PolicyReport`; no call of it wrote, and the cluster holds no
report. -/
theorem save_returns_nil_without_writing :
    let report : PolicyReport := { name := "polr-1", ns := "default" }
    let w : World :=
      { repo := ⟨fun _ => none, 0⟩,
        turns := [{ failure := some (.status "Timeout" ("the server was unable to return a " ++
          "response in the time allotted, but may still be processing the request")) }] }
    (PolicyReportStore.save report w).1 = .ret none ∧
    (PolicyReportStore.save report w).2.log =
      [⟨.info, "updating policy report...", none⟩,
        ⟨.info, "updated PolicyReport", none⟩] ∧
    (PolicyReportStore.save report w).2.exchanges.filterMap Exchange.wrote = [] ∧
    (PolicyReportStore.save report w).2.repo.objects report.key = none := by
  decide

/-! ## Retrying on conflicts -/

/-- The schedule's other clients only create or update objects, and the server serves every
call: the interference `retry.RetryOnConflict` is meant for. -/
def Cooperative (turns : List Turn) : Prop :=
  ∀ turn ∈ turns, turn.failure = none ∧ ∀ wr ∈ turn.before, ∃ r, wr = Write.put r

/-- No other client writes just before call number `k` of `Save` in `w`, counted from 0. -/
def World.quietAt (w : World) (k : Nat) : Prop := ((w.turns.drop k).headD {}).before = []

instance (w : World) (k : Nat) : Decidable (w.quietAt k) :=
  inferInstanceAs (Decidable (((w.turns.drop k).headD {}).before = []))

theorem Cooperative.tail {turns : List Turn} (h : Cooperative turns) : Cooperative turns.tail :=
  fun turn ht => h turn (List.mem_of_mem_tail ht)

theorem Cooperative.drop {turns : List Turn} (h : Cooperative turns) (k : Nat) :
    Cooperative (turns.drop k) :=
  fun turn ht => h turn (List.mem_of_mem_drop ht)

theorem Cooperative.nextTurn {w : World} (h : Cooperative w.turns) :
    w.nextTurn.failure = none ∧ ∀ wr ∈ w.nextTurn.before, ∃ r, wr = Write.put r := by
  unfold World.nextTurn
  cases hw : w.turns with
  | nil => exact ⟨rfl, nofun⟩
  | cons turn turns => exact h turn (by simp [hw])

/-- Other clients' creates and updates never remove an object. -/
theorem Repo.isSome_foldl_apply {writes : List Write}
    (hw : ∀ wr ∈ writes, ∃ r, wr = Write.put r)
    {repo : Repo} {key : String × String} (h : (repo.objects key).isSome) :
    ((writes.foldl Repo.apply repo).objects key).isSome := by
  induction writes generalizing repo with
  | nil => exact h
  | cons wr writes ih =>
    obtain ⟨r, rfl⟩ := hw wr (List.mem_cons_self _ _)
    refine ih (fun wr h => hw wr (List.mem_cons_of_mem _ h)) ?_
    by_cases hk : key = r.key
    · subst hk; simp [Repo.apply]
    · simpa [Repo.apply, Repo.put, Function.update_noteq hk] using h

theorem World.isSome_advance {w : World} (hc : Cooperative w.turns) {key : String × String}
    (h : (w.repo.objects key).isSome) : (w.advance.repo.objects key).isSome :=
  Repo.isSome_foldl_apply hc.nextTurn.2 h

theorem World.quietAt_advance {w : World} (k : Nat) : w.advance.quietAt k = w.quietAt (k + 1) := by
  simp [quietAt, advance, List.drop_tail]

theorem World.advance_repo_of_quiet {w : World} (h : w.quietAt 0) : w.advance.repo = w.repo := by
  unfold quietAt at h
  unfold advance nextTurn
  rw [List.drop_zero] at h
  rw [h]
  rfl

/-- A call the server serves: the next turn's writes land, then the call is served. -/
theorem apiCall_of_served {α : Type} {failed : GoError → α} {serve : Repo → α × Repo}
    {exchange : α → Exchange} {w : World} (h : w.nextTurn.failure = none) :
    apiCall failed serve exchange w = (.ret (serve w.advance.repo).1,
      { w.advance with
        repo := (serve w.advance.repo).2
        exchanges := w.exchanges ++ [exchange (serve w.advance.repo).1] }) := by
  simp [apiCall, World.answer, h]

/-- One attempt of `Save`'s update among other clients' creates and updates, on an object
that exists: it writes the report, or fails on a conflict; it writes the report when no
other write lands just before its `Update`; and the object stays. -/
theorem updateAttempt_cooperative (r : PolicyReport) {w : World} (hc : Cooperative w.turns)
    (he : (w.repo.objects r.key).isSome) :
    ∃ e w', updateAttempt r w = (.ret e, w') ∧ w'.turns = w.turns.drop 2 ∧
      (w'.repo.objects r.key).isSome ∧ (e = none → Wrote r w') ∧
      (w.quietAt 1 → e = none) ∧ (e = none ∨ isConflict e) := by
  obtain ⟨obj, hobj⟩ := Option.isSome_iff_exists.1 (World.isSome_advance hc he)
  have hget : clientGet r.key w =
      (.ret (.ok obj), { w.advance with exchanges := w.exchanges ++ [.get r.key (.ok obj)] }) := by
    rw [clientGet, apiCall_of_served hc.nextTurn.1]
    simp [Repo.get, hobj]
  rw [updateAttempt, Go.bind_of_ret hget]
  dsimp only
  set w₁ : World := { w.advance with exchanges := w.exchanges ++ [.get r.key (.ok obj)] }
  have hc₁ : Cooperative w₁.turns := hc.tail
  obtain ⟨o, ho⟩ := Option.isSome_iff_exists.1
    (@World.isSome_advance w₁ hc₁ r.key (by simp [w₁, hobj]))
  have hturns : w₁.advance.turns = w.turns.drop 2 := by
    simp only [w₁, World.advance, ← List.drop_one, List.drop_drop]
  rw [clientUpdate, apiCall_of_served hc₁.nextTurn.1]
  simp only [Repo.update, ho]
  by_cases hv : o.resourceVersion = obj.resourceVersion
  · -- the version read is still current: the update goes through
    rw [if_pos hv]
    exact ⟨none, _, rfl, hturns, by simp,
      fun _ => ⟨⟨_, Repo.put_objects_key _ _⟩, _, _, rfl, rfl⟩, fun _ => rfl, .inl rfl⟩
  · -- another write landed since the read: a conflict
    rw [if_neg hv]
    refine ⟨some (conflict r.key), _, rfl, hturns, by simp [ho], nofun, fun hq => absurd ?_ hv,
      .inr rfl⟩
    have hq₁ : w₁.quietAt 0 := (World.quietAt_advance 0).symm ▸ hq
    rw [World.advance_repo_of_quiet hq₁] at ho
    simp_all [w₁]

theorem World.quietAt_of_turns {w w' : World} {j : Nat} (h : w'.turns = w.turns.drop j) (k : Nat) :
    w'.quietAt k = w.quietAt (k + j) := by
  simp only [quietAt, h, List.drop_drop, Nat.add_comm]

/-- `RetryOnConflict` over `Save`'s attempts, among other clients' creates and updates, on an
object that exists: when the `Update` of one of its `n` attempts has no other write landing
just before it, it writes the report and returns nil. -/
theorem retryOnConflict_cooperative (r : PolicyReport) (n : Nat) {w : World}
    {last : Option GoError} (hc : Cooperative w.turns) (he : (w.repo.objects r.key).isSome)
    (hq : ∃ i < n, w.quietAt (2 * i + 1)) :
    ∃ w', retryOnConflict (updateAttempt r) n last w = (.ret none, w') ∧ Wrote r w' := by
  induction n generalizing w last with
  | zero => obtain ⟨i, hi, -⟩ := hq; omega
  | succ n ih =>
    obtain ⟨e, w₁, h₁, hturns, he₁, hwrote, hquiet, hconf⟩ :=
      updateAttempt_cooperative r hc he
    rw [retryOnConflict, Go.bind_of_ret h₁]
    rcases e with _ | e
    · exact ⟨w₁, rfl, hwrote rfl⟩
    · -- a conflict: the next attempt starts two calls later
      obtain ⟨i, hi, hqi⟩ := hq
      cases i with
      | zero => exact absurd (hquiet hqi) nofun
      | succ i =>
        have hc₁ : Cooperative w₁.turns := hturns ▸ hc.drop 2
        have hq₁ : w₁.quietAt (2 * i + 1) := by
          rw [World.quietAt_of_turns hturns]; exact hqi
        simpa [hconf.resolve_left nofun] using ih hc₁ he₁ ⟨i, by omega, hq₁⟩

/-- Among other clients' creates and updates, with the server serving every call, `Save`
returns nil and writes the report whenever the call that writes has no other write landing
just before it: on the create path its `Create`, on the update path the `Update` of one of
its five attempts. -/
theorem save_writes_unless_every_attempt_conflicts (r : PolicyReport) {w : World}
    (hc : Cooperative w.turns)
    (hq : if (w.advance.repo.objects r.key).isSome then
        ∃ i < defaultRetrySteps, w.quietAt (2 * i + 2)
      else w.quietAt 1) :
    ∃ w', PolicyReportStore.save r w = (.ret none, w') ∧ Wrote r w' := by
  rw [PolicyReportStore.save, Go.bind_apply, clientGet, apiCall_of_served hc.nextTurn.1]
  rcases hobj : w.advance.repo.objects r.key with _ | obj
  · -- the first `Get` answers `NotFound`: the create path
    rw [hobj] at hq
    have hq₁ : w.advance.quietAt 0 := (World.quietAt_advance 0).symm ▸ hq
    simp only [Repo.get, hobj, errOf]
    rw [if_pos (show isNotFound (some (notFound r.key)) = true from rfl), Go.bind_apply,
      World.logLine_apply]
    dsimp only
    rw [Go.bind_apply, clientCreate, apiCall_of_served, World.advance_repo_of_quiet]
    · simp only [Repo.create, hobj]
      exact ⟨_, rfl, ⟨_, Repo.put_objects_key _ _⟩, _, _, rfl, rfl⟩
    · exact hq₁
    · exact hc.tail.nextTurn.1
  · -- the first `Get` finds the object: the update path
    rw [hobj] at hq
    simp only [Repo.get, hobj, errOf]
    rw [if_neg (by decide), Go.bind_apply, World.logLine_apply]
    dsimp only
    obtain ⟨w₂, h₂, hw₂⟩ := @retryOnConflict_cooperative r defaultRetrySteps
      { w.advance with
        log := w.advance.log ++ [⟨.info, "updating policy report...", none⟩]
        exchanges := w.exchanges ++ [.get r.key (.ok obj)] } none hc.tail (by simp [hobj])
      (by
        obtain ⟨i, hi, h⟩ := hq
        have : w.advance.quietAt (2 * i + 1) := by rw [World.quietAt_advance]; exact h
        exact ⟨i, hi, this⟩)
    rw [Go.bind_apply, h₂]
    exact ⟨_, rfl, hw₂⟩

/-- The report is in the cluster, and another client updates it before each of the first
two `Update`s of `Save`: both conflict, and the third attempt writes. -/
theorem save_writes_after_two_conflicts :
    let r : PolicyReport := { name := "polr-1", ns := "default" }
    let other : PolicyReport :=
      { name := "polr-1", ns := "default",
        results := [⟨⟨"no-privileged-pod", none⟩, none, true⟩] }
    let w : World :=
      { repo := Repo.put ⟨fun _ => none, 0⟩ other,
        turns := [{}, {}, { before := [.put other] }, {}, { before := [.put other] }] }
    Cooperative w.turns ∧
      (if (w.advance.repo.objects r.key).isSome then
        ∃ i < defaultRetrySteps, w.quietAt (2 * i + 2)
      else w.quietAt 1) ∧
      ∃ w', PolicyReportStore.save r w = (.ret none, w') ∧ Wrote r w' := by
  intro r other w
  have hc : Cooperative w.turns := by
    intro turn ht
    simp only [w, List.mem_cons, List.mem_singleton, List.not_mem_nil, or_false] at ht
    rcases ht with rfl | rfl | rfl | rfl | rfl <;> simp
  have hq : if (w.advance.repo.objects r.key).isSome then
      ∃ i < defaultRetrySteps, w.quietAt (2 * i + 2)
    else w.quietAt 1 := by decide
  exact ⟨hc, hq, save_writes_unless_every_attempt_conflicts r hc hq⟩

/-! ## The calls `Save` makes -/

/-- The object a call is about. -/
def Exchange.key : Exchange → String × String
  | .get key _ => key
  | .create report _ | .update report _ _ => report.key

/-- `m` makes at most `n` calls to the API server, each about the object `key`, in every
world. -/
def CallsAtMost {α : Type} (key : String × String) (n : Nat) (m : Go World α) : Prop :=
  ∀ w, ∃ xs, (m w).2.exchanges = w.exchanges ++ xs ∧ xs.length ≤ n ∧
    ∀ x ∈ xs, x.key = key

namespace CallsAtMost

variable {α β : Type} {key : String × String} {n n₁ n₂ : Nat}

theorem pure (a : α) : CallsAtMost key n (Pure.pure a : Go World α) :=
  fun _ => ⟨[], by simp, by simp, by simp⟩

theorem logLine (l : LogLine) : CallsAtMost key 0 (World.logLine l) :=
  fun _ => ⟨[], by simp [World.logLine_apply], by simp, by simp⟩

theorem apiCall {failed : GoError → α} {serve : Repo → α × Repo} {exchange : α → Exchange}
    (hx : ∀ a, (exchange a).key = key) :
    CallsAtMost key 1 (AuditScanner.apiCall failed serve exchange) :=
  fun _ => ⟨[_], rfl, le_rfl, by simp [hx]⟩

theorem mono {m : Go World α} (h : CallsAtMost key n₁ m) (hn : n₁ ≤ n₂) :
    CallsAtMost key n₂ m :=
  fun w => by
    obtain ⟨xs, h, hl, hk⟩ := h w
    exact ⟨xs, h, hl.trans hn, hk⟩

theorem bind {m : Go World α} {f : α → Go World β} (hm : CallsAtMost key n₁ m)
    (hf : ∀ a, CallsAtMost key n₂ (f a)) : CallsAtMost key (n₁ + n₂) (m >>= f) :=
    fun w => by
  obtain ⟨xs₁, h₁, hl₁, hk₁⟩ := hm w
  rw [Go.bind_apply]
  rcases hm' : m w with ⟨a | msg, w₁⟩ <;> rw [hm'] at h₁ <;> dsimp only at h₁ ⊢
  · obtain ⟨xs₂, h₂, hl₂, hk₂⟩ := hf a w₁
    exact ⟨xs₁ ++ xs₂, by rw [h₂, h₁, List.append_assoc],
      by rw [List.length_append]; omega, List.forall_mem_append.2 ⟨hk₁, hk₂⟩⟩
  · exact ⟨xs₁, h₁, by omega, hk₁⟩

end CallsAtMost

end AuditScanner
