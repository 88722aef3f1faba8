import AuditScanner.Report.Concurrent
import AuditScanner.Report.Locks

/-!
# The store under its mutexes, with its data

The critical sections of `AuditScanner.Report.Concurrent` run whole.  Here goroutines run
them action by action under the mutexes of `AuditScanner.Report.Locks`, and an access is not
atomic: it reads its field when it begins and writes it back when it ends, so two writers
of one field that overlapped would lose an update.  The main result is
`locked_calls_linearize`: every such run is a run of whole critical sections, so its
returned calls linearize.
-/

namespace AuditScanner

open Locking (Field Mode Goroutine Exclusive locked allows)

/-- The field an operation's first critical section accesses, and the mode of the mutex it
takes: a removal starts with its `GetPolicyReport`. -/
def StoreOp.access : StoreOp → Field × Mode
  | .addPolicyReport _ | .updatePolicyReport _ | .removeAllNamespacedPolicyReports =>
    (.namespaced, .write)
  | .removePolicyReport _ | .getPolicyReport _ => (.namespaced, .read)
  | .addClusterPolicyReport _ | .updateClusterPolicyReport _ => (.cluster, .write)
  | .getClusterPolicyReport => (.cluster, .read)

namespace PolicyReportStore

/-- Whether two stores hold the same value in field `f`. -/
def Agree : Field → PolicyReportStore → PolicyReportStore → Prop
  | .namespaced, s, t => s.namespacedPolicyReports = t.namespacedPolicyReports
  | .cluster, s, t => s.clusterPolicyReport = t.clusterPolicyReport

theorem Agree.refl (f : Field) (s : PolicyReportStore) : Agree f s s := by
  cases f <;> rfl

theorem Agree.trans {f : Field} {s t u : PolicyReportStore} (h : Agree f s t)
    (h' : Agree f t u) : Agree f s u := by
  cases f <;> exact Eq.trans h h'

/-- The store `t` once an access to field `f` in mode `m`, which computed the store `s`,
has ended: a write stores the field as `s` has it; a read leaves `t` as it was. -/
def writeBack : Field → Mode → PolicyReportStore → PolicyReportStore → PolicyReportStore
  | _, .read, _, t => t
  | .namespaced, .write, s, t => { t with namespacedPolicyReports := s.namespacedPolicyReports }
  | .cluster, .write, s, t => { t with clusterPolicyReport := s.clusterPolicyReport }

/-- An access leaves as it was every field whose mutex may be held while the access holds
its own. -/
theorem agree_writeBack {f f' : Field} {m m' : Mode} (h : allows (some (f', m')) f m)
    (s t : PolicyReportStore) : Agree f' t (writeBack f m s t) := by
  cases m <;> cases f <;> cases f' <;> first | rfl | simp [allows] at h

end PolicyReportStore

open PolicyReportStore (Agree writeBack)

/-- An operation other than a removal reads only the field it accesses, and writes only that
field and only in write mode. -/
theorem StoreOp.exec_of_agree {op : StoreOp} (hop : ∀ ns, op ≠ .removePolicyReport ns)
    {s t : PolicyReportStore} (hst : Agree op.access.1 s t) :
    op.exec t = ((op.exec s).1, writeBack op.access.1 op.access.2 (op.exec s).2 t) := by
  cases op <;> first | exact absurd rfl (hop _) | simp_all [access, Agree, exec, writeBack]

namespace Caller

/-- The field and mode of the caller's next critical section; `none` when it has no call
left. -/
def nextAccess (c : Caller) : Option (Field × Mode) :=
  match c.pc, c.calls with
  | .deleting _, _ => some (.namespaced, .write)
  | .idle, [] => none
  | .idle, op :: _ => some op.access

/-- A caller with a section left has a section to run, whatever the store holds. -/
theorem criticalSection_ne_none {c : Caller} {a : Field × Mode} (ha : c.nextAccess = some a)
    (s : PolicyReportStore) : c.criticalSection s ≠ none := by
  intro hn
  rcases c.criticalSection_cases s with ⟨-, hp⟩ | ⟨_, hs, -⟩ | ⟨_, _, _, _, hs, -⟩
  · rcases c with ⟨_ | _, _ | _⟩ <;> simp_all [nextAccess, pending]
  all_goals simp [hn] at hs

/-- A critical section reads only the field it accesses, and writes only that field and only
in write mode: run on a store that agrees with `s` on the field, it returns what it returns
on `s` and leaves the write-back of what it computed on `s`. -/
theorem criticalSection_of_agree {c c' : Caller} {f : Field} {m : Mode}
    {s s' t : PolicyReportStore} {r : Option (StoreOp × StoreReply)}
    (ha : c.nextAccess = some (f, m)) (hst : Agree f s t)
    (h : c.criticalSection s = some (c', s', r)) :
    c.criticalSection t = some (c', writeBack f m s' t, r) := by
  rcases c with ⟨calls, _ | ns⟩
  · rcases calls with _ | ⟨op, calls⟩
    · cases ha
    by_cases hop : ∃ ns, op = .removePolicyReport ns
    · -- the removal's lookup, a read of the namespaced map
      obtain ⟨ns, rfl⟩ := hop
      obtain ⟨rfl, rfl⟩ : f = .namespaced ∧ m = .read := by
        simpa [nextAccess, StoreOp.access, eq_comm] using ha
      rcases hl : t.namespacedPolicyReports.lookup ns with _ | _ <;>
        simp_all [criticalSection, getReply, Agree, writeBack]
    · -- any other call is one section
      have hop' : ∀ ns, op ≠ .removePolicyReport ns := fun ns h => hop ⟨ns, h⟩
      have hacc : op.access = (f, m) := by simpa [nextAccess] using ha
      rw [criticalSection_of_not_remove calls s hop'] at h
      rw [criticalSection_of_not_remove calls t hop',
        StoreOp.exec_of_agree hop' (by rwa [hacc]), hacc]
      simp_all
  · -- the deletion, a write of the namespaced map
    obtain ⟨rfl, rfl⟩ : f = .namespaced ∧ m = .write := by simpa [nextAccess, eq_comm] using ha
    simp only [criticalSection, Option.some.injEq, Prod.mk.injEq] at h
    obtain ⟨rfl, rfl, rfl⟩ := h
    simp_all [criticalSection, Agree, writeBack]

end Caller

/-- Goroutines calling the store at the level of their mutex actions: the configuration of
the section model, what each goroutine has left of its current critical section with the
mutex it holds, and the store as each read it when its current access began. -/
structure LockedConfig (n : Nat) where
  /-- The store, where each caller stands in its calls, and the calls that have returned;
  goroutine `i` is caller `i`. -/
  config : Config
  goroutines : Fin n → Goroutine
  snapshots : Fin n → PolicyReportStore

namespace LockedConfig

variable {n : Nat}

/-- Goroutine `i` runs its next action.  Between sections it takes up its caller's next one;
when an access begins it reads the store; when it ends it runs the section on what it read,
writes the result back and returns the call that ended, if one did.  Its lock and unlock
are `Locking.step`: a lock not granted waits. -/
def step (lc : LockedConfig n) (i : Fin n) : LockedConfig n :=
  match (lc.goroutines i).todo with
  | [] =>
    match (lc.config.callers i).nextAccess with
    | none => lc
    | some (f, m) =>
      { lc with
        goroutines := Function.update lc.goroutines i { lc.goroutines i with todo := locked f m } }
  | .enter _ _ :: _ =>
    { lc with
      goroutines := Locking.step lc.goroutines i
      snapshots := Function.update lc.snapshots i lc.config.store }
  | .leave f m :: _ =>
    match (lc.config.callers i).criticalSection (lc.snapshots i) with
    | none => { lc with goroutines := Locking.step lc.goroutines i }
    | some (c, s, r) =>
      { lc with
        config := ⟨writeBack f m s lc.config.store, Function.update lc.config.callers i c,
          lc.config.returned ++ (r.map fun r => (i.val, r)).toList⟩
        goroutines := Locking.step lc.goroutines i }
  | _ => { lc with goroutines := Locking.step lc.goroutines i }

/-- The run of a schedule: each goroutine named runs its next action, in turn. -/
def run (lc : LockedConfig n) (schedule : List (Fin n)) : LockedConfig n :=
  schedule.foldl step lc

/-- Goroutine `i` to make the calls `progs i`, none of them started, on the store `s`. -/
def start (s : PolicyReportStore) (progs : Nat → List StoreOp) : LockedConfig n :=
  ⟨Config.start s progs, fun _ => { todo := [] }, fun _ => s⟩

/-- Where a goroutine stands in its current critical section, in step with its caller `c`,
its snapshot `snap` and the store `t`: between sections; about to take the mutex of the
caller's next section; holding it; in the access, having read what the store still holds in
the field; past the access, whose call has returned. -/
inductive Consistent (c : Caller) (snap t : PolicyReportStore) : Goroutine → Prop
  | between : Consistent c snap t { todo := [] }
  | ready {f m} : c.nextAccess = some (f, m) → Consistent c snap t { todo := locked f m }
  | taken {f m} : c.nextAccess = some (f, m) →
      Consistent c snap t ⟨[.enter f m, .leave f m, .unlock f m], some (f, m)⟩
  | inside {f m} : c.nextAccess = some (f, m) → Agree f snap t →
      Consistent c snap t ⟨[.leave f m, .unlock f m], some (f, m)⟩
  | accessed {f m} : Consistent c snap t ⟨[.unlock f m], some (f, m)⟩

/-- A write to the store that leaves the field of the mutex a goroutine holds keeps it in
step. -/
theorem Consistent.of_agree {c : Caller} {snap t t' : PolicyReportStore} {g : Goroutine}
    (h : Consistent c snap t g) (ht : ∀ f m, g.holds = some (f, m) → Agree f t t') :
    Consistent c snap t' g := by
  cases h with
  | between => exact .between
  | @ready f m ha => exact .ready ha
  | taken ha => exact .taken ha
  | @inside f m ha hs => exact .inside ha (hs.trans (ht _ _ rfl))
  | accessed => exact .accessed

/-- What every run keeps: the mutexes are held exclusively, and every goroutine is in step
with its caller. -/
structure Inv (lc : LockedConfig n) : Prop where
  exclusive : Exclusive lc.goroutines
  consistent : ∀ i : Fin n, Consistent (lc.config.callers i) (lc.snapshots i) lc.config.store
    (lc.goroutines i)

variable {lc : LockedConfig n}

/-- A move of goroutine `i` alone that leaves the section model where it was keeps the
invariant, when it keeps the mutexes exclusive and `i` in step. -/
theorem Inv.of_local (h : lc.Inv) {i : Fin n} {gs : Fin n → Goroutine}
    {snaps : Fin n → PolicyReportStore} (hex : Exclusive gs)
    (hi : Consistent (lc.config.callers i) (snaps i) lc.config.store (gs i))
    (hj : ∀ j, j ≠ i → gs j = lc.goroutines j ∧ snaps j = lc.snapshots j) :
    Inv ⟨lc.config, gs, snaps⟩ := by
  refine ⟨hex, fun j => ?_⟩
  by_cases hji : j = i
  · subst hji; exact hi
  · obtain ⟨hg, hs⟩ := hj j hji
    simpa only [hg, hs] using h.consistent j

/-- Every move keeps the invariant, and is either no move of the section model or, at the
end of an access, one critical section of the goroutine's caller. -/
theorem inv_step (h : lc.Inv) (i : Fin n) :
    (lc.step i).Inv ∧ ((lc.step i).config = lc.config ∨ (lc.step i).config = lc.config.step i) := by
  have hex := Locking.exclusive_step h.exclusive i
  have hi := h.consistent i
  generalize hg : lc.goroutines i = g at hi
  cases hi with
  | between =>
    -- taking up the caller's next section, if any
    rcases ha : (lc.config.callers i).nextAccess with _ | ⟨f, m⟩
    · have hs : lc.step i = lc := by simp [step, hg, ha]
      rw [hs]
      exact ⟨h, .inl rfl⟩
    · have hs : lc.step i =
          ⟨lc.config, Function.update lc.goroutines i { todo := locked f m }, lc.snapshots⟩ := by
        simp [step, hg, ha]
      rw [hs]
      refine ⟨h.of_local (h.exclusive.update fun _ _ _ _ hh => (nomatch hh))
        (by simpa using Consistent.ready ha)
        fun j hj => ⟨Function.update_noteq hj _ _, rfl⟩, .inl rfl⟩
  | @ready f m ha =>
    -- the lock, granted or not
    have hs : lc.step i = ⟨lc.config, Locking.step lc.goroutines i, lc.snapshots⟩ := by
      simp [step, hg, locked]
    rw [hs]
    refine ⟨h.of_local hex ?_ fun j hj => ⟨Locking.step_of_ne _ hj, rfl⟩, .inl rfl⟩
    by_cases hgr : Locking.granted lc.goroutines f m
    · simpa [Locking.step, hg, hgr, locked] using Consistent.taken ha
    · simpa [Locking.step, hg, hgr, locked] using Consistent.ready ha
  | @taken f m ha =>
    -- the access begins: the goroutine reads the store
    have hs : lc.step i = ⟨lc.config, Locking.step lc.goroutines i,
        Function.update lc.snapshots i lc.config.store⟩ := by
      simp [step, hg]
    rw [hs]
    refine ⟨h.of_local hex ?_ fun j hj => ⟨Locking.step_of_ne _ hj,
      Function.update_noteq hj _ _⟩, .inl rfl⟩
    simpa [Locking.step, hg] using Consistent.inside ha (Agree.refl _ _)
  | @inside f m ha hs =>
    -- the access ends: the section runs on what was read, and is written back
    obtain ⟨⟨c', s', r⟩, hcs⟩ := Option.ne_none_iff_exists'.1
      (Caller.criticalSection_ne_none ha (lc.snapshots i))
    have hcfg : lc.config.step i = ⟨writeBack f m s' lc.config.store,
        Function.update lc.config.callers i c',
        lc.config.returned ++ (r.map fun r => (i.val, r)).toList⟩ := by
      simp only [Config.step, Caller.criticalSection_of_agree ha hs hcs]
    have hstep : lc.step i = ⟨lc.config.step i, Locking.step lc.goroutines i, lc.snapshots⟩ := by
      rw [hcfg]
      simp [step, hg, hcs]
    rw [hstep]
    refine ⟨⟨hex, fun j => ?_⟩, .inr rfl⟩
    show Consistent ((lc.config.step i).callers j) (lc.snapshots j) (lc.config.step i).store
      (Locking.step lc.goroutines i j)
    by_cases hji : j = i
    · subst hji
      rw [show Locking.step lc.goroutines j j = ⟨[.unlock f m], some (f, m)⟩ by
        simp [Locking.step, hg]]
      exact .accessed
    · -- another goroutine's field is not the one written, or the write is a read
      rw [Locking.step_of_ne _ hji, hcfg]
      simp only [Function.update_noteq (Fin.val_ne_of_ne hji)]
      refine (h.consistent j).of_agree fun f' m' hh => ?_
      have hallows := h.exclusive i j (Ne.symm hji) f m (by rw [hg])
      rw [hh] at hallows
      exact PolicyReportStore.agree_writeBack hallows _ _
  | @accessed f m =>
    -- the unlock
    have hs : lc.step i = ⟨lc.config, Locking.step lc.goroutines i, lc.snapshots⟩ := by
      simp [step, hg]
    rw [hs]
    refine ⟨h.of_local hex ?_ fun j hj => ⟨Locking.step_of_ne _ hj, rfl⟩, .inl rfl⟩
    simpa [Locking.step, hg] using Consistent.between

/-- Every run keeps the invariant and is a run of the section model. -/
theorem inv_run (h : lc.Inv) (schedule : List (Fin n)) :
    (lc.run schedule).Inv ∧ ∃ sections : List Nat, (lc.run schedule).config = lc.config.run sections := by
  induction schedule generalizing lc with
  | nil => exact ⟨h, [], rfl⟩
  | cons i schedule ih =>
    obtain ⟨hstep, hcfg⟩ := inv_step h i
    obtain ⟨hrun, sections, hsections⟩ := ih hstep
    refine ⟨hrun, ?_⟩
    rcases hcfg with hcfg | hcfg
    · exact ⟨sections, by rw [← hcfg]; exact hsections⟩
    · exact ⟨i :: sections, by rw [Config.run, List.foldl_cons, ← hcfg]; exact hsections⟩

theorem inv_start (s : PolicyReportStore) (progs : Nat → List StoreOp) :
    (start s progs : LockedConfig n).Inv :=
  ⟨fun _ _ _ _ _ h => (nomatch h), fun _ => .between⟩

end LockedConfig

/-- The store's locked methods are linearizable at the level of their mutex actions: however
the goroutines' locks, accesses and unlocks interleave, with each access reading its field
when it begins and writing it back when it ends, the run is a run of whole critical
sections; so the calls that have returned, run one at a time from the initial store in the
order they returned, get the replies they got and leave the store as it is, and each
goroutine's calls return in the order it made them. -/
theorem locked_calls_linearize {n : Nat} (s₀ : PolicyReportStore) (progs : Nat → List StoreOp)
    (schedule : List (Fin n)) :
    let lc := (LockedConfig.start s₀ progs).run schedule
    (∃ sections, lc.config = (Config.start s₀ progs).run sections) ∧
    runInOrder (lc.config.returned.map fun c => (c.1, c.2.1)) s₀ =
      (.ret lc.config.returned, lc.config.store) ∧
    ∀ i, returnedBy lc.config.returned i ++ (lc.config.callers i).pending = progs i := by
  intro lc
  obtain ⟨-, sections, hsections⟩ := LockedConfig.inv_run (LockedConfig.inv_start s₀ progs) schedule
  have h := (Linearizes.start s₀ progs).run sections
  rw [← show (LockedConfig.start s₀ progs : LockedConfig n).config = Config.start s₀ progs
    from rfl, ← hsections] at h
  exact ⟨⟨sections, hsections⟩, h.inOrder, h.program⟩

end AuditScanner
