import AuditScanner.Report.Store

/-!
# Concurrent callers of the policy report store

Each caller of the store is a goroutine making a list of calls, and a run interleaves the
callers' critical sections in any order a schedule gives.  Every operation is one section
under its mutex but `RemovePolicyReport`, whose `GetPolicyReport` releases the read lock
before the deletion takes the write lock.  The main result is `concurrent_calls_linearize`:
the calls that have returned, run one at a time in the order they returned, get the replies
they got and leave the store as it is, and each caller's calls return in its own order.
-/

namespace AuditScanner

namespace PolicyReportStore

/-- `RemovePolicyReport` run alone deletes the entry whether or not it is there: its lookup
only skips a deletion that would change nothing. -/
theorem removePolicyReport_eq_erase (s : PolicyReportStore) (ns : String) :
    removePolicyReport ns s =
      (.ret none, { s with namespacedPolicyReports := s.namespacedPolicyReports.erase ns }) := by
  rw [removePolicyReport_apply]
  rcases h : s.namespacedPolicyReports.lookup ns with _ | _
  · rw [show s.namespacedPolicyReports.erase ns = s.namespacedPolicyReports from
      AList.ext (List.kerase_of_not_mem_keys (AList.lookup_eq_none.1 h))]
  · rfl

end PolicyReportStore

/-- Where a caller of the store stands inside its current call. -/
inductive Pc where
  /-- Between two calls. -/
  | idle
  /-- Inside `RemovePolicyReport ns`: `GetPolicyReport` found the entry and released the
  read lock; the write lock for the deletion is not taken yet. -/
  | deleting (ns : String)
deriving DecidableEq, Repr

/-- A goroutine calling the store. -/
structure Caller where
  /-- The calls it has still to make. -/
  calls : List StoreOp
  pc : Pc := .idle
deriving DecidableEq, Repr

namespace Caller

/-- The calls of a caller that have not returned: the removal it is inside, if any, then
those it has still to make. -/
def pending (c : Caller) : List StoreOp :=
  match c.pc with
  | .idle => c.calls
  | .deleting ns => .removePolicyReport ns :: c.calls

/-- The caller's next critical section, run on the store `s`: where the caller stands after
it, the store after it, and the call that returned in it with its reply, if one did; `none`
when the caller has no call left.  A call other than `RemovePolicyReport` is one section;
`RemovePolicyReport` is the section of `GetPolicyReport` under the read lock, then, if the
entry was there, the deletion under the write lock.  A panic would leave its call
unreturned; no operation of the store panics (`StoreOp.exec_ret`). -/
def criticalSection (c : Caller) (s : PolicyReportStore) :
    Option (Caller × PolicyReportStore × Option (StoreOp × StoreReply)) :=
  match c.pc, c.calls with
  | .deleting ns, calls =>
    some ({ calls }, { s with namespacedPolicyReports := s.namespacedPolicyReports.erase ns },
      some (.removePolicyReport ns, .err none))
  | .idle, [] => none
  | .idle, .removePolicyReport ns :: calls =>
    match PolicyReportStore.getPolicyReport ns s with
    | (.ret (_, none), s') => some ({ calls, pc := .deleting ns }, s', none)
    | (_, s') => some ({ calls }, s', some (.removePolicyReport ns, .err none))
  | .idle, op :: calls =>
    let (e, s') := op.exec s
    some ({ calls }, s', match e with
      | .ret r => some (op, r)
      | .panic _ => none)

/-- A call other than `RemovePolicyReport` is one critical section. -/
theorem criticalSection_of_not_remove {op : StoreOp} (calls : List StoreOp)
    (s : PolicyReportStore) (hop : ∀ ns, op ≠ .removePolicyReport ns) :
    criticalSection { calls := op :: calls } s =
      some ({ calls }, (op.exec s).2, match (op.exec s).1 with
        | .ret r => some (op, r)
        | .panic _ => none) := by
  cases op <;> first | rfl | exact absurd rfl (hop _)

/-- Every critical section either ends a caller that has nothing left to do, or is a
removal's lookup that found its entry and changes nothing, or runs one whole call exactly
as `StoreOp.exec` runs it alone. -/
theorem criticalSection_cases (c : Caller) (s : PolicyReportStore) :
    (c.criticalSection s = none ∧ c.pending = []) ∨
    (∃ c', c.criticalSection s = some (c', s, none) ∧ c'.pending = c.pending) ∨
    ∃ c' s' op r, c.criticalSection s = some (c', s', some (op, r)) ∧
      op.exec s = (.ret r, s') ∧ c.pending = op :: c'.pending := by
  rcases c with ⟨calls, _ | ns⟩
  · cases calls with
    | nil => exact .inl ⟨rfl, rfl⟩
    | cons op calls =>
      by_cases hop : ∃ ns, op = .removePolicyReport ns
      · obtain ⟨ns, rfl⟩ := hop
        rcases h : s.namespacedPolicyReports.lookup ns with _ | _
        · -- the entry is not there: the call returns after the lookup
          refine .inr (.inr ⟨{ calls }, s, .removePolicyReport ns, .err none, ?_, ?_, rfl⟩)
          · simp only [criticalSection, PolicyReportStore.getPolicyReport_apply, h, getReply]
          · simp [StoreOp.exec, h]
        · -- the entry is there: the caller goes on to the deletion
          refine .inr (.inl ⟨{ calls, pc := .deleting ns }, ?_, rfl⟩)
          simp only [criticalSection, PolicyReportStore.getPolicyReport_apply, h, getReply]
      · -- any other call is one section
        obtain ⟨r, hr⟩ := op.exec_ret s
        refine .inr (.inr ⟨{ calls }, _, op, r, ?_, hr, rfl⟩)
        rw [criticalSection_of_not_remove calls s fun ns h => hop ⟨ns, h⟩, hr]
  · -- the deletion
    exact .inr (.inr ⟨_, _, _, _, rfl, by
      simp only [StoreOp.exec, Go.map_apply, PolicyReportStore.removePolicyReport_eq_erase], rfl⟩)

end Caller

/-- The store, its callers, and the calls that have returned so far: the caller, the call
and its reply, in the order they returned. -/
structure Config where
  store : PolicyReportStore
  callers : Nat → Caller
  returned : List (Nat × StoreOp × StoreReply)

namespace Config

/-- The callers, caller `i` to make the calls `progs i`, none of them started, on the store
`s`. -/
def start (s : PolicyReportStore) (progs : Nat → List StoreOp) : Config :=
  ⟨s, fun i => { calls := progs i }, []⟩

/-- Caller `i` runs its next critical section; nothing happens when it has no call left. -/
def step (cfg : Config) (i : Nat) : Config :=
  match (cfg.callers i).criticalSection cfg.store with
  | none => cfg
  | some (c, s, r) =>
    ⟨s, Function.update cfg.callers i c, cfg.returned ++ (r.map fun r => (i, r)).toList⟩

/-- The run of a schedule: each caller named runs one critical section, in turn. -/
def run (cfg : Config) (schedule : List Nat) : Config :=
  schedule.foldl step cfg

end Config

/-! ## Sequential runs -/

/-- The calls run one at a time, in order, each as `StoreOp.exec` runs it alone: the calls
with their replies. -/
def runInOrder :
    List (Nat × StoreOp) → Go PolicyReportStore (List (Nat × StoreOp × StoreReply))
  | [] => pure []
  | (i, op) :: calls => do
    let r ← op.exec
    let rs ← runInOrder calls
    pure ((i, op, r) :: rs)

theorem runInOrder_append_singleton {calls : List (Nat × StoreOp)}
    {rs : List (Nat × StoreOp × StoreReply)} {s s₁ s₂ : PolicyReportStore} {i : Nat}
    {op : StoreOp} {r : StoreReply} (h : runInOrder calls s = (.ret rs, s₁))
    (hop : op.exec s₁ = (.ret r, s₂)) :
    runInOrder (calls ++ [(i, op)]) s = (.ret (rs ++ [(i, op, r)]), s₂) := by
  induction calls generalizing s rs with
  | nil =>
    cases h
    simp [runInOrder, Go.bind_apply, hop]
  | cons c calls ih =>
    obtain ⟨r₀, s₀, h₀, h⟩ := Go.bind_eq_ret h
    obtain ⟨rs₀, s₀', h₁, h⟩ := Go.bind_eq_ret h
    cases h
    simp [runInOrder, Go.bind_apply, h₀, ih h₁]

/-- A sequential run leaves the store `after` its calls. -/
theorem runInOrder_store {calls : List (Nat × StoreOp)} {rs : List (Nat × StoreOp × StoreReply)}
    {s s' : PolicyReportStore} (h : runInOrder calls s = (.ret rs, s')) :
    s' = after (calls.map Prod.snd) s := by
  induction calls generalizing s rs with
  | nil => cases h; rfl
  | cons c calls ih =>
    obtain ⟨r, s₁, h₀, h⟩ := Go.bind_eq_ret h
    obtain ⟨rs₁, s₂, h₁, h⟩ := Go.bind_eq_ret h
    cases h
    simp only [List.map_cons, after, List.foldl_cons, h₀]
    exact ih h₁

/-- The calls of caller `i` among the returned ones, in the order they returned. -/
def returnedBy (returned : List (Nat × StoreOp × StoreReply)) (i : Nat) : List StoreOp :=
  returned.filterMap fun c => if c.1 = i then some c.2.1 else none

@[simp] theorem returnedBy_append_singleton (returned : List (Nat × StoreOp × StoreReply))
    (i j : Nat) (op : StoreOp) (r : StoreReply) :
    returnedBy (returned ++ [(i, op, r)]) j =
      returnedBy returned j ++ if i = j then [op] else [] := by
  by_cases h : i = j <;> simp [returnedBy, h]

/-! ## Linearizability -/

/-- A run linearizes from the store `s₀` with the programs `progs`: the returned calls, run
one at a time from `s₀` in the order they returned, get the replies they got and leave the
current store; and each caller's returned calls, then its pending ones, are its program. -/
structure Linearizes (s₀ : PolicyReportStore) (progs : Nat → List StoreOp) (cfg : Config) :
    Prop where
  inOrder :
    runInOrder (cfg.returned.map fun c => (c.1, c.2.1)) s₀ = (.ret cfg.returned, cfg.store)
  program : ∀ i, returnedBy cfg.returned i ++ (cfg.callers i).pending = progs i

namespace Linearizes

variable {s₀ : PolicyReportStore} {progs : Nat → List StoreOp} {cfg : Config}

theorem start (s₀ : PolicyReportStore) (progs : Nat → List StoreOp) :
    Linearizes s₀ progs (Config.start s₀ progs) :=
  ⟨rfl, fun _ => rfl⟩

/-- One critical section keeps a run linearizable. -/
theorem step (h : Linearizes s₀ progs cfg) (i : Nat) : Linearizes s₀ progs (cfg.step i) := by
  rcases (cfg.callers i).criticalSection_cases cfg.store with
    ⟨hs, -⟩ | ⟨c', hs, hp⟩ | ⟨c', s', op, r, hs, hop, hp⟩
  · rwa [Config.step, hs]
  · -- a removal's lookup found its entry: nothing returns, and the store is as it was
    refine ⟨by simpa [Config.step, hs] using h.inOrder, fun j => ?_⟩
    by_cases hj : j = i
    · subst hj; simpa [Config.step, hs, hp] using h.program j
    · simpa [Config.step, hs, hj] using h.program j
  · -- the call `op` returns `r`, as it would alone
    refine ⟨?_, fun j => ?_⟩
    · simpa [Config.step, hs] using runInOrder_append_singleton h.inOrder hop
    · by_cases hj : j = i
      · subst hj; simpa [Config.step, hs, hp] using h.program j
      · simpa [Config.step, hs, hj, Ne.symm hj] using h.program j

/-- Every run of a schedule keeps a run linearizable. -/
theorem run (h : Linearizes s₀ progs cfg) (schedule : List Nat) :
    Linearizes s₀ progs (cfg.run schedule) := by
  induction schedule generalizing cfg with
  | nil => exact h
  | cons i schedule ih => exact ih (h.step i)

end Linearizes

/-- The store is linearizable: whatever the callers' calls and however their critical
sections interleave, the calls that have returned, run one at a time from the store
`MockNewPolicyReportStore` builds, in the order they returned, get the replies they got and
leave the store as it is; each caller's calls return in the order it made them; and the
store answers `GetPolicyReport` and `GetClusterPolicyReport` as the history of the returned
calls says. -/
theorem concurrent_calls_linearize (progs : Nat → List StoreOp) (schedule : List Nat) :
    let cfg := (Config.start mockNewPolicyReportStore progs).run schedule
    let calls := cfg.returned.map fun c => (c.1, c.2.1)
    runInOrder calls mockNewPolicyReportStore = (.ret cfg.returned, cfg.store) ∧
    (∀ i, returnedBy cfg.returned i ++ (cfg.callers i).pending = progs i) ∧
    (∀ ns, PolicyReportStore.getPolicyReport ns cfg.store =
      (.ret (getReply (specPolicyReport ns (calls.map Prod.snd))), cfg.store)) ∧
    PolicyReportStore.getClusterPolicyReport cfg.store =
      (.ret (specClusterPolicyReport (calls.map Prod.snd), none), cfg.store) := by
  intro cfg calls
  have h := (Linearizes.start mockNewPolicyReportStore progs).run schedule
  have hstore := runInOrder_store h.inOrder
  refine ⟨h.inOrder, h.program, fun ns => ?_, ?_⟩
  · rw [PolicyReportStore.getPolicyReport_apply, hstore, after_lookup]
  · rw [PolicyReportStore.getClusterPolicyReport_apply, hstore, after_cluster]

end AuditScanner
