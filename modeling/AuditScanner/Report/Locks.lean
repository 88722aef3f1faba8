import Mathlib.Data.Fintype.Basic

/-!
# The store's mutexes

Each method of `PolicyReportStore` is what another goroutine can observe of it: taking one
of the two `sync.RWMutex`es, accessing the field it guards, releasing it.  Goroutines run
their calls one action at a time in the order a schedule gives, and a mutex is granted as
an `RWMutex` grants it.  The main results are `store_methods_never_race`, two goroutines
accessing one field at once are both reading it, and `store_methods_never_deadlock`, some
goroutine can always step while one has work left.  `ToJSON` takes no mutex and is left
out of both.
-/

namespace AuditScanner

namespace Locking

/-- The two fields of the store. -/
inductive Field where
  /-- `namespacedPolicyReports`, guarded by `namespacedPolicyReportsMutex`. -/
  | namespaced
  /-- `clusterPolicyReport`, guarded by `clusterPolicyReportMutex`. -/
  | cluster
deriving DecidableEq, Repr

/-- A read or a write of a field, and the mode of the mutex taken for it: `RLock` for a
read, `Lock` for a write. -/
inductive Mode where
  | read
  | write
deriving DecidableEq, Repr

/-- What a goroutine running a method of the store does that another can observe. -/
inductive Action where
  /-- `Lock()` or `RLock()` of the field's mutex. -/
  | lock (f : Field) (m : Mode)
  /-- The deferred `Unlock()` or `RUnlock()`. -/
  | unlock (f : Field) (m : Mode)
  /-- The start of an access to the field. -/
  | enter (f : Field) (m : Mode)
  /-- Its end. -/
  | leave (f : Field) (m : Mode)
deriving DecidableEq, Repr

/-- A section: take the field's mutex, access the field in the mutex's mode, release it. -/
def locked (f : Field) (m : Mode) : List Action :=
  [.lock f m, .enter f m, .leave f m, .unlock f m]

/-- The methods of `PolicyReportStore` that access its fields. -/
inductive Method where
  | addPolicyReport
  | addClusterPolicyReport
  | getPolicyReport
  | getClusterPolicyReport
  | updatePolicyReport
  | updateClusterPolicyReport
  /-- `RemovePolicyReport`, whose `GetPolicyReport` found the entry or not. -/
  | removePolicyReport (found : Bool)
  | removeAllNamespacedPolicyReports
  | toJSON
deriving DecidableEq, Repr

/-- What each method does with the mutexes and the fields, in order. -/
def Method.actions : Method → List Action
  | .addPolicyReport | .updatePolicyReport | .removeAllNamespacedPolicyReports =>
    locked .namespaced .write
  | .addClusterPolicyReport | .updateClusterPolicyReport => locked .cluster .write
  | .getPolicyReport => locked .namespaced .read
  | .getClusterPolicyReport => locked .cluster .read
  | .removePolicyReport found =>
    -- `GetPolicyReport`, then, when it found the entry, the deletion under the write lock
    locked .namespaced .read ++ if found then locked .namespaced .write else []
  | .toJSON =>
    -- `s.clusterPolicyReport`, then `s.namespacedPolicyReports`, which `json.Marshal`
    -- iterates; no mutex is taken
    [.enter .cluster .read, .leave .cluster .read,
      .enter .namespaced .read, .leave .namespaced .read]

/-- A goroutine calling the store. -/
structure Goroutine where
  /-- What it has still to do. -/
  todo : List Action
  /-- The mutex it holds, with the mode it took it in. -/
  holds : Option (Field × Mode) := none
deriving DecidableEq, Repr

/-- The access a goroutine is in the middle of, if any. -/
def Goroutine.accessing (g : Goroutine) : Option (Field × Mode) :=
  match g.todo with
  | .leave f m :: _ => some (f, m)
  | _ => none

/-- Whether a goroutine holding `held` lets field `f`'s mutex be taken in mode `m`: readers
share a mutex, and a writer holds it alone. -/
def allows : Option (Field × Mode) → Field → Mode → Bool
  | some (f', m'), f, m => f' ≠ f || (m' = .read && m = .read)
  | none, _, _ => true

theorem allows_comm (f f' : Field) (m m' : Mode) :
    allows (some (f, m)) f' m' = allows (some (f', m')) f m := by
  cases m <;> cases m' <;> simp [allows, eq_comm]

variable {n : Nat}

/-- Whether field `f`'s mutex can be taken in mode `m`: nobody, the goroutine taking it
included, holds it in a way that excludes `m`.  Go's `RWMutex` also makes a new reader wait
behind a waiting writer; leaving that out only adds runs. -/
def granted (gs : Fin n → Goroutine) (f : Field) (m : Mode) : Prop :=
  ∀ j, allows (gs j).holds f m

instance (gs : Fin n → Goroutine) (f : Field) (m : Mode) : Decidable (granted gs f m) :=
  inferInstanceAs (Decidable (∀ j, allows (gs j).holds f m))

/-- Goroutine `i` runs its next action; when that is a lock not granted, it waits and
nothing happens. -/
def step (gs : Fin n → Goroutine) (i : Fin n) : Fin n → Goroutine :=
  match (gs i).todo with
  | [] => gs
  | .lock f m :: todo =>
    if granted gs f m then Function.update gs i ⟨todo, some (f, m)⟩ else gs
  | .unlock _ _ :: todo => Function.update gs i ⟨todo, none⟩
  | _ :: todo => Function.update gs i { gs i with todo }

/-- A step of goroutine `i` leaves every other goroutine as it was. -/
theorem step_of_ne (gs : Fin n → Goroutine) {i j : Fin n} (h : j ≠ i) : step gs i j = gs j := by
  have hs : step gs i = gs ∨ ∃ g, step gs i = Function.update gs i g := by
    unfold step
    split
    · exact .inl rfl
    · split
      · exact .inr ⟨_, rfl⟩
      · exact .inl rfl
    all_goals exact .inr ⟨_, rfl⟩
  rcases hs with hs | ⟨g, hs⟩ <;> simp [hs, Function.update_noteq h]

/-- The run of a schedule: each goroutine named runs its next action, in turn. -/
def run (gs : Fin n → Goroutine) (schedule : List (Fin n)) : Fin n → Goroutine :=
  schedule.foldl step gs

/-- The goroutines about to make the calls `progs`, holding no mutex. -/
def start (progs : Fin n → List Method) : Fin n → Goroutine :=
  fun i => { todo := (progs i).flatMap Method.actions }

/-! ## Mutual exclusion -/

/-- No goroutine holds a mutex in a way another goroutine's hold of it excludes. -/
def Exclusive (gs : Fin n → Goroutine) : Prop :=
  ∀ i j, i ≠ j → ∀ f m, (gs i).holds = some (f, m) → allows (gs j).holds f m

/-- Replacing a goroutine by one whose hold every other goroutine's hold allows keeps the
mutexes exclusive. -/
theorem Exclusive.update {gs : Fin n → Goroutine} (h : Exclusive gs) {i : Fin n}
    {g : Goroutine}
    (hg : ∀ j, j ≠ i → ∀ f m, g.holds = some (f, m) → allows (gs j).holds f m) :
    Exclusive (Function.update gs i g) := by
  intro a b hab f m ha
  by_cases hai : a = i
  · subst hai
    rw [Function.update_same] at ha
    rw [Function.update_noteq (Ne.symm hab)]
    exact hg b (Ne.symm hab) f m ha
  · rw [Function.update_noteq hai] at ha
    by_cases hbi : b = i
    · -- the other goroutine is the new one: its hold must allow `a`'s
      subst hbi
      rw [Function.update_same]
      rcases hgb : g.holds with _ | ⟨f', m'⟩
      · rfl
      · rw [allows_comm, ← ha]
        exact hg a hai f' m' hgb
    · rw [Function.update_noteq hbi]
      exact h a b hab f m ha

/-- Every step keeps the mutexes exclusive, whatever the goroutines run: a mutex is only
taken when granted. -/
theorem exclusive_step {gs : Fin n → Goroutine} (h : Exclusive gs) (i : Fin n) :
    Exclusive (step gs i) := by
  unfold step
  split
  · exact h
  · next f m _ _ =>
    split
    · next hgr => exact h.update fun j _ _ _ hg => by cases hg; exact hgr j
    · exact h
  · exact h.update fun _ _ _ _ hg => nomatch hg
  · exact h.update fun j hj f m hg => h i j (Ne.symm hj) f m hg

/-! ## The discipline of the locked methods -/

/-- Whole sections, one after the other. -/
inductive Sections : List Action → Prop
  | nil : Sections []
  | cons (f : Field) (m : Mode) {rest : List Action} :
      Sections rest → Sections (locked f m ++ rest)

theorem Sections.append {l l' : List Action} (h : Sections l) (h' : Sections l') :
    Sections (l ++ l') := by
  induction h with
  | nil => exact h'
  | cons f m _ ih => simpa only [List.append_assoc] using Sections.cons f m ih

/-- Every method but `ToJSON` is whole sections. -/
theorem Method.sections_actions {method : Method} (h : method ≠ .toJSON) :
    Sections method.actions := by
  have one : ∀ f m, Sections (locked f m) := fun f m => by
    simpa using Sections.cons f m .nil
  cases method with
  | removePolicyReport found =>
    cases found
    · simpa [actions] using one .namespaced .read
    · exact (one _ _).append (one _ _)
  | toJSON => exact absurd rfl h
  | _ => exact one _ _

theorem sections_flatMap {methods : List Method} (h : Method.toJSON ∉ methods) :
    Sections (methods.flatMap Method.actions) := by
  induction methods with
  | nil => exact .nil
  | cons method methods ih =>
    simp only [List.mem_cons, not_or] at h
    simpa only [List.flatMap_cons] using
      (Method.sections_actions (Ne.symm h.1)).append (ih h.2)

/-- Where a goroutine that keeps the discipline stands: between sections, holding nothing;
or inside a section, holding the mutex it took, before its access, in it, or after it. -/
inductive Goroutine.Disciplined : Goroutine → Prop
  | between {todo : List Action} : Sections todo → Disciplined ⟨todo, none⟩
  | taken (f : Field) (m : Mode) {rest : List Action} : Sections rest →
      Disciplined ⟨.enter f m :: .leave f m :: .unlock f m :: rest, some (f, m)⟩
  | inside (f : Field) (m : Mode) {rest : List Action} : Sections rest →
      Disciplined ⟨.leave f m :: .unlock f m :: rest, some (f, m)⟩
  | accessed (f : Field) (m : Mode) {rest : List Action} : Sections rest →
      Disciplined ⟨.unlock f m :: rest, some (f, m)⟩

/-- A goroutine that keeps the discipline accesses a field only under its mutex, taken in
the access's mode. -/
theorem Goroutine.Disciplined.holds_of_accessing {g : Goroutine} (h : g.Disciplined)
    {a : Field × Mode} (ha : g.accessing = some a) : g.holds = some a := by
  cases h with
  | between hs => cases hs <;> simp [accessing, locked] at ha
  | inside f m _ => simpa [accessing] using ha
  | _ => simp [accessing] at ha

theorem disciplined_update {gs : Fin n → Goroutine} (h : ∀ j, (gs j).Disciplined) {i : Fin n}
    {g : Goroutine} (hg : g.Disciplined) (j : Fin n) : (Function.update gs i g j).Disciplined := by
  by_cases hj : j = i
  · subst hj; simpa using hg
  · simpa [Function.update_noteq hj] using h j

/-- Every step keeps every goroutine in the discipline. -/
theorem disciplined_step {gs : Fin n → Goroutine} (h : ∀ j, (gs j).Disciplined) (i : Fin n) :
    ∀ j, (step gs i j).Disciplined := by
  have hi := h i
  generalize hg : gs i = g at hi
  cases hi with
  | between hs =>
    cases hs with
    | nil => simpa [step, hg] using h
    | cons f m hs =>
      simp only [step, hg, locked, List.cons_append, List.nil_append]
      split
      · exact disciplined_update h (.taken f m hs)
      · exact h
  | taken f m hs => simpa [step, hg] using disciplined_update h (.inside f m hs)
  | inside f m hs => simpa [step, hg] using disciplined_update h (.accessed f m hs)
  | accessed f m hs => simpa [step, hg] using disciplined_update h (.between hs)

/-- What every run of the locked methods keeps. -/
structure Safe (gs : Fin n → Goroutine) : Prop where
  exclusive : Exclusive gs
  disciplined : ∀ i, (gs i).Disciplined

theorem safe_run {gs : Fin n → Goroutine} (h : Safe gs) (schedule : List (Fin n)) :
    Safe (run gs schedule) := by
  induction schedule generalizing gs with
  | nil => exact h
  | cons i schedule ih =>
    exact ih ⟨exclusive_step h.exclusive i, disciplined_step h.disciplined i⟩

theorem safe_start {progs : Fin n → List Method} (hlocked : ∀ i, Method.toJSON ∉ progs i) :
    Safe (start progs) :=
  ⟨fun _ _ _ _ _ h => (nomatch h), fun i => .between (sections_flatMap (hlocked i))⟩

/-- The store's locked methods never race: in every run of any number of goroutines calling
any methods but `ToJSON`, in any order, two goroutines accessing the same field at once are
both reading it. -/
theorem store_methods_never_race (progs : Fin n → List Method)
    (hlocked : ∀ i, Method.toJSON ∉ progs i) (schedule : List (Fin n)) {i j : Fin n}
    (hij : i ≠ j) {f : Field} {mi mj : Mode}
    (hi : (run (start progs) schedule i).accessing = some (f, mi))
    (hj : (run (start progs) schedule j).accessing = some (f, mj)) :
    mi = .read ∧ mj = .read := by
  have h := safe_run (safe_start hlocked) schedule
  have hallows := h.exclusive j i (Ne.symm hij) f mj ((h.disciplined j).holds_of_accessing hj)
  rw [(h.disciplined i).holds_of_accessing hi] at hallows
  simpa [allows] using hallows

/-- Two goroutines reading the namespaced map at once. -/
theorem two_readers_share_the_namespaced_map :
    let progs : Fin 2 → List Method := fun _ => [.getPolicyReport]
    (∀ i, Method.toJSON ∉ progs i) ∧ (0 : Fin 2) ≠ 1 ∧
      (run (start progs) [0, 0, 1, 1] 0).accessing = some (.namespaced, .read) ∧
      (run (start progs) [0, 0, 1, 1] 1).accessing = some (.namespaced, .read) ∧
      (Mode.read = .read ∧ Mode.read = .read) := by
  intro progs
  exact ⟨by decide, by decide, by decide, by decide,
    @store_methods_never_race 2 progs (by decide) [0, 0, 1, 1] 0 1 (by decide) .namespaced .read
      .read (by decide) (by decide)⟩

/-! ## Progress -/

/-- A step that changes what goroutine `i` has left to do changes the goroutines. -/
theorem step_ne_of_todo {gs : Fin n → Goroutine} {i : Fin n}
    (h : (step gs i i).todo ≠ (gs i).todo) : step gs i ≠ gs :=
  fun hs => h (by rw [hs])

/-- A goroutine that keeps the discipline and holds a mutex can always take its next step:
its access and its unlock never wait. -/
theorem moves_of_holds {gs : Fin n → Goroutine} {i : Fin n} (hd : (gs i).Disciplined)
    (hh : (gs i).holds ≠ none) : step gs i ≠ gs := by
  apply step_ne_of_todo
  generalize hg : gs i = g at hd hh
  cases hd with
  | between => exact absurd rfl hh
  | _ => simp [step, hg]

/-- When no goroutine holds a mutex, a goroutine that keeps the discipline and has something
left to do can take its next step: the mutex it asks for is free. -/
theorem moves_of_free {gs : Fin n → Goroutine} {i : Fin n} (hd : (gs i).Disciplined)
    (hi : (gs i).todo ≠ []) (hfree : ∀ j, (gs j).holds = none) : step gs i ≠ gs := by
  apply step_ne_of_todo
  generalize hg : gs i = g at hd hi
  cases hd with
  | between hs =>
    cases hs with
    | nil => exact absurd rfl hi
    | cons f m hs =>
      have hgr : granted gs f m := fun j => by simp [hfree j, allows]
      simp [step, hg, locked, hgr]
  | _ => simpa [hg] using hfree i

/-- The store's locked methods never deadlock: in every run of any number of goroutines
calling any methods but `ToJSON`, while a goroutine has something left to do, some goroutine
can take a step.  A goroutine holding a mutex can always go on, because no method takes a
mutex while it holds one: `RemovePolicyReport` releases the read lock of its
`GetPolicyReport` before it takes the write lock. -/
theorem store_methods_never_deadlock (progs : Fin n → List Method)
    (hlocked : ∀ i, Method.toJSON ∉ progs i) (schedule : List (Fin n)) {i : Fin n}
    (hi : (run (start progs) schedule i).todo ≠ []) :
    ∃ j, step (run (start progs) schedule) j ≠ run (start progs) schedule := by
  have h := safe_run (safe_start hlocked) schedule
  by_cases hheld : ∃ j, (run (start progs) schedule j).holds ≠ none
  · obtain ⟨j, hj⟩ := hheld
    exact ⟨j, moves_of_holds (h.disciplined j) hj⟩
  · simp only [not_exists, not_not] at hheld
    exact ⟨i, moves_of_free (h.disciplined i) hi hheld⟩

/-- An `AddPolicyReport` holds the write lock while a `RemovePolicyReport` waits for the
read lock: the adder can go on. -/
theorem removal_waits_for_an_adder :
    let progs : Fin 2 → List Method := fun i =>
      if i = 0 then [.addPolicyReport] else [.removePolicyReport true]
    (∀ i, Method.toJSON ∉ progs i) ∧ (run (start progs) [0, 1] 1).todo ≠ [] ∧
      ∃ j, step (run (start progs) [0, 1]) j ≠ run (start progs) [0, 1] := by
  intro progs
  exact ⟨by decide, by decide,
    @store_methods_never_deadlock 2 progs (by decide) [0, 1] 1 (by decide)⟩

end Locking

end AuditScanner
