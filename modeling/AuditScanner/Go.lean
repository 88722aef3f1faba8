import Mathlib.Data.List.Basic

/-!
# The Go runtime, as far as the scanner uses it

Error values, zerolog lines, and computations that run on a state and either return or
panic, keeping the state they reached.  Over a trace of events, `Go.Returns` (total),
`Go.Ensures` (partial) and `Go.Emits` (what every appended event satisfies) give the
scanner's functions their specifications, with `pure`, `bind` and `emit` rules.
-/

namespace AuditScanner

/-- A Go `error` value, as far as the scanner and the libraries it calls look at it. -/
inductive GoError where
  /-- `errors.New(text)`, or `fmt.Errorf` without `%w`. -/
  | new (text : String)
  /-- `fmt.Errorf(format, cause)` whose format ends in `%w`; `format` is the text before. -/
  | wrap (format : String) (cause : GoError)
  /-- An `*apierrors.StatusError` of the API server, with its `metav1.StatusReason`. -/
  | status (reason : String) (text : String)
  /-- The `*joinError` that `errors.Join` builds from one non-nil error. -/
  | join₁ (e : GoError)
  /-- The `*joinError` that `errors.Join` builds from two non-nil errors. -/
  | join₂ (e₁ e₂ : GoError)
deriving DecidableEq, Repr

namespace GoError

/-- The reason of the first `*StatusError` found in the error's tree by `errors.As`,
which is what `apierrors.ReasonForError` reads. -/
def reason? : GoError → Option String
  | new _ => none
  | wrap _ c => c.reason?
  | status r _ => some r
  | join₁ e => e.reason?
  | join₂ e₁ e₂ => e₁.reason? <|> e₂.reason?

end GoError

/-- `apierrors.ReasonForError(err) == reason`; a nil error has the reason `Unknown`.
`IsNotFound` and `IsConflict` also accept a status of unknown reason whose HTTP code is 404
or 409; a `GoError.status` carries no code, so such an error is not modelled. -/
def hasReason (reason : String) (err : Option GoError) : Bool :=
  (err.bind GoError.reason?) == some reason

/-- `apierrors.IsNotFound`. -/
def isNotFound : Option GoError → Bool := hasReason "NotFound"

/-- `apierrors.IsConflict`. -/
def isConflict : Option GoError → Bool := hasReason "Conflict"

/-- `errors.Join(err, e)`: nil when both are nil, otherwise the join of the non-nil ones. -/
def errorsJoin : Option GoError → Option GoError → Option GoError
  | none, none => none
  | some a, none => some (.join₁ a)
  | none, some b => some (.join₁ b)
  | some a, some b => some (.join₂ a b)

@[simp] theorem errorsJoin_eq_none {a b : Option GoError} :
    errorsJoin a b = none ↔ a = none ∧ b = none := by
  cases a <;> cases b <;> simp [errorsJoin]

/-- `err = errors.Join(err, e)` for each `e` of `errs`, in order. -/
def joinAll (err : Option GoError) (errs : List GoError) : Option GoError :=
  errs.foldl (fun acc e => errorsJoin acc (some e)) err

@[simp] theorem joinAll_nil (err : Option GoError) : joinAll err [] = err := rfl

@[simp] theorem joinAll_cons (err : Option GoError) (e : GoError) (errs : List GoError) :
    joinAll err (e :: errs) = joinAll (errorsJoin err (some e)) errs := rfl

theorem joinAll_eq_none {err : Option GoError} {errs : List GoError} :
    joinAll err errs = none ↔ err = none ∧ errs = [] := by
  induction errs generalizing err with
  | nil => simp
  | cons e errs ih => simp [ih]

/-- The error of a call that returns a value or an error: nil when it returned a value. -/
def errOf {α : Type} : Except GoError α → Option GoError
  | .ok _ => none
  | .error e => some e

/-- zerolog's levels. -/
inductive LogLevel where
  | trace | debug | info | warn | error | fatal
deriving DecidableEq, Repr

/-- A line written by zerolog: its level, its message and the error attached with
`.Err(err)`.  The other fields of a line are not modelled. -/
structure LogLine where
  level : LogLevel
  msg : String
  err : Option GoError := none
deriving DecidableEq, Repr

/-! ## Computations -/

/-- How a Go call ends: it returns a value, or it panics with the runtime's message. -/
inductive Exit (α : Type) where
  | ret (a : α)
  | panic (msg : String)
deriving DecidableEq, Repr

/-- A Go computation over a state `σ`: it ends in an `Exit` and in the state it reached. -/
def Go (σ α : Type) : Type := σ → Exit α × σ

namespace Go

variable {σ α β : Type}

/-- Return `a`, leaving the state as it is. -/
protected def pure (a : α) : Go σ α := fun s => (.ret a, s)

/-- Run `x`, then `f` on its value; a panic of `x` skips `f`. -/
protected def bind (x : Go σ α) (f : α → Go σ β) : Go σ β := fun s =>
  match x s with
  | (.ret a, s') => f a s'
  | (.panic m, s') => (.panic m, s')

instance : Monad (Go σ) where
  pure := Go.pure
  bind := Go.bind

@[simp] theorem pure_apply (a : α) (s : σ) : (pure a : Go σ α) s = (.ret a, s) := rfl

theorem bind_apply (x : Go σ α) (f : α → Go σ β) (s : σ) :
    (x >>= f) s = match x s with
      | (.ret a, s') => f a s'
      | (.panic m, s') => (.panic m, s') := rfl

@[simp] theorem map_apply (f : α → β) (x : Go σ α) (s : σ) :
    (f <$> x) s = match x s with
      | (.ret a, s') => (.ret (f a), s')
      | (.panic m, s') => (.panic m, s') := rfl

theorem bind_of_ret {x : Go σ α} {f : α → Go σ β} {s s' : σ} {a : α}
    (h : x s = (.ret a, s')) : (x >>= f) s = f a s' := by
  rw [bind_apply, h]

theorem bind_of_panic {x : Go σ α} {f : α → Go σ β} {s s' : σ} {m : String}
    (h : x s = (.panic m, s')) : (x >>= f) s = (.panic m, s') := by
  rw [bind_apply, h]

/-- Inversion of a bind that returns: its first part returned. -/
theorem bind_eq_ret {x : Go σ α} {f : α → Go σ β} {s s' : σ} {b : β}
    (h : (x >>= f) s = (.ret b, s')) :
    ∃ a s₁, x s = (.ret a, s₁) ∧ f a s₁ = (.ret b, s') := by
  rw [bind_apply] at h
  rcases hx : x s with ⟨a | m, s₁⟩ <;> rw [hx] at h
  · exact ⟨a, s₁, rfl, h⟩
  · cases h

instance : MonadStateOf σ (Go σ) where
  get := fun s => (.ret s, s)
  set s' := fun _ => (.ret (), s')
  modifyGet f := fun s => (.ret (f s).1, (f s).2)

@[simp] theorem get_apply (s : σ) : (get : Go σ σ) s = (.ret s, s) := rfl

@[simp] theorem modify_apply (f : σ → σ) (s : σ) :
    (modify f : Go σ Unit) s = (.ret (), f s) := rfl

end Go

/-- The runtime's message for a nil pointer dereference. -/
def nilDeref : String := "runtime error: invalid memory address or nil pointer dereference"

/-- Read through a pointer: a nil pointer panics. -/
def deref {σ α : Type} : Option α → Go σ α
  | some a => pure a
  | none => fun s => (.panic nilDeref, s)

@[simp] theorem deref_some {σ α : Type} (a : α) : (deref (some a) : Go σ α) = pure a := rfl

@[simp] theorem deref_none_apply {σ α : Type} (s : σ) :
    (deref none : Go σ α) s = (.panic nilDeref, s) := rfl

/-! ## Computations over a trace -/

/-- Append one event to the trace. -/
def emit {ε : Type} (e : ε) : Go (List ε) Unit := fun t => (.ret (), t ++ [e])

namespace Go

variable {ε α β : Type}

/-- `m` returns from every trace `t`, leaving `t ++ tr` with a value `a` such that
`P a tr`: only appended events and the value are constrained. -/
def Returns (m : Go (List ε) α) (P : α → List ε → Prop) : Prop :=
  ∀ t, ∃ a tr, m t = (.ret a, t ++ tr) ∧ P a tr

namespace Returns

variable {m : Go (List ε) α} {P Q : α → List ε → Prop}

theorem mono (h : Returns m P) (hPQ : ∀ a tr, P a tr → Q a tr) : Returns m Q := fun t => by
  obtain ⟨a, tr, hm, hP⟩ := h t
  exact ⟨a, tr, hm, hPQ a tr hP⟩

theorem pure {a : α} {P : α → List ε → Prop} (h : P a []) :
    Returns (pure a : Go (List ε) α) P :=
  fun _ => ⟨a, [], by simp, h⟩

theorem emit {e : ε} : Returns (AuditScanner.emit e) fun _ tr => tr = [e] :=
  fun _ => ⟨(), [e], rfl, rfl⟩

/-- Sequencing: the events of `m >>= f` are those of `m` followed by those of `f a`. -/
theorem bind {f : α → Go (List ε) β} {R : β → List ε → Prop} (hm : Returns m P)
    (hf : ∀ a tr₁, P a tr₁ → Returns (f a) fun b tr₂ => R b (tr₁ ++ tr₂)) :
    Returns (m >>= f) R := fun t => by
  obtain ⟨a, tr₁, hm', hP⟩ := hm t
  obtain ⟨b, tr₂, hf', hR⟩ := hf a tr₁ hP (t ++ tr₁)
  exact ⟨b, tr₁ ++ tr₂, by rw [bind_of_ret hm', hf', List.append_assoc], hR⟩

end Returns

/-- Whenever `m` returns from a trace `t`, it has appended events `tr` to it and its value
`a` satisfies `P a tr`: partial correctness, which a computation that panics meets. -/
def Ensures (m : Go (List ε) α) (P : α → List ε → Prop) : Prop :=
  ∀ t a t', m t = (.ret a, t') → ∃ tr, t' = t ++ tr ∧ P a tr

namespace Ensures

variable {m : Go (List ε) α} {P Q : α → List ε → Prop}

theorem mono (h : Ensures m P) (hPQ : ∀ a tr, P a tr → Q a tr) : Ensures m Q :=
  fun t a t' hm => by
    obtain ⟨tr, rfl, hP⟩ := h t a t' hm
    exact ⟨tr, rfl, hPQ a tr hP⟩

theorem bind {f : α → Go (List ε) β} {R : β → List ε → Prop} (hm : Ensures m P)
    (hf : ∀ a tr₁, P a tr₁ → Ensures (f a) fun b tr₂ => R b (tr₁ ++ tr₂)) :
    Ensures (m >>= f) R := fun t b t' h => by
  obtain ⟨a, t₁, h₁, h₂⟩ := bind_eq_ret h
  obtain ⟨tr₁, rfl, hP⟩ := hm t a t₁ h₁
  obtain ⟨tr₂, rfl, hR⟩ := hf a tr₁ hP _ b t' h₂
  exact ⟨tr₁ ++ tr₂, by simp, hR⟩

end Ensures

namespace Returns

variable {m : Go (List ε) α} {P Q : α → List ε → Prop}

/-- Total correctness gives partial correctness: a computation is deterministic. -/
theorem ensures (h : Returns m P) : Ensures m P := fun t a t' hm => by
  obtain ⟨b, tr, hm', hP⟩ := h t
  rw [hm] at hm'
  simp only [Prod.mk.injEq, Exit.ret.injEq] at hm'
  obtain ⟨rfl, rfl⟩ := hm'
  exact ⟨tr, rfl, hP⟩

/-- A computation that returns from every trace meets each of its partial
specifications. -/
theorem of_ensures (h : Ensures m P) (ht : ∀ t, ∃ a t', m t = (.ret a, t')) : Returns m P :=
  fun t => by
    obtain ⟨a, t', hm⟩ := ht t
    obtain ⟨tr, rfl, hP⟩ := h t a t' hm
    exact ⟨a, tr, hm, hP⟩

/-- A computation that returns from every trace: each of its runs is a run from some trace. -/
theorem runs (h : Returns m P) : Returns m fun a tr => ∃ t₀, m t₀ = (.ret a, t₀ ++ tr) :=
  fun t => by
    obtain ⟨a, tr, hm, -⟩ := h t
    exact ⟨a, tr, hm, t, hm⟩

/-- Two specifications of one computation hold together. -/
theorem and_ensures (hP : Returns m P) (hQ : Ensures m Q) :
    Returns m fun a tr => P a tr ∧ Q a tr := fun t => by
  obtain ⟨a, tr, hm, hp⟩ := hP t
  obtain ⟨tr', htr, hq⟩ := hQ t a _ hm
  obtain rfl := List.append_cancel_left htr
  exact ⟨a, tr, hm, hp, hq⟩

end Returns

/-- Every event `m` appends to the trace satisfies `Q`, in every run, whether it returns
or panics: what a computation never does. -/
def Emits (m : Go (List ε) α) (Q : ε → Prop) : Prop :=
  ∀ t, ∃ tr, (m t).2 = t ++ tr ∧ ∀ e ∈ tr, Q e

namespace Emits

variable {Q : ε → Prop}

theorem pure (a : α) : Emits (Pure.pure a : Go (List ε) α) Q :=
  fun t => ⟨[], by simp, by simp⟩

/-- A computation that appends one event. -/
theorem append_one {m : Go (List ε) α} {e : ε} (hm : ∀ t, (m t).2 = t ++ [e]) (h : Q e) :
    Emits m Q :=
  fun t => ⟨[e], hm t, by simpa using h⟩

theorem emit {e : ε} (h : Q e) : Emits (AuditScanner.emit e) Q := append_one (fun _ => rfl) h

theorem get : Emits (MonadState.get : Go (List ε) (List ε)) Q :=
  fun t => ⟨[], by simp, by simp⟩

theorem deref (o : Option α) : Emits (AuditScanner.deref o : Go (List ε) α) Q := by
  cases o
  · exact fun t => ⟨[], by simp, by simp⟩
  · exact pure _

theorem bind {m : Go (List ε) α} {f : α → Go (List ε) β} (hm : Emits m Q)
    (hf : ∀ a, Emits (f a) Q) : Emits (m >>= f) Q := fun t => by
  obtain ⟨tr₁, h₁, hQ₁⟩ := hm t
  rw [bind_apply]
  rcases hm' : m t with ⟨a | msg, t₁⟩ <;> rw [hm'] at h₁ <;> subst h₁
  · obtain ⟨tr₂, h₂, hQ₂⟩ := hf a (t ++ tr₁)
    exact ⟨tr₁ ++ tr₂, by rw [h₂, List.append_assoc], List.forall_mem_append.2 ⟨hQ₁, hQ₂⟩⟩
  · exact ⟨tr₁, rfl, hQ₁⟩

/-- Reading through a pointer, then going on with what it points to: a nil pointer panics
before the rest runs. -/
theorem deref_bind {o : Option α} {f : α → Go (List ε) β}
    (hf : ∀ a, o = some a → Emits (f a) Q) :
    Emits (AuditScanner.deref o >>= f) Q := by
  cases o
  · exact fun t => ⟨[], by simp [bind_apply], by simp⟩
  · exact hf _ rfl

theorem mono {m : Go (List ε) α} {Q' : ε → Prop} (h : Emits m Q) (hQ : ∀ e, Q e → Q' e) :
    Emits m Q' := fun t => by
  obtain ⟨tr, h, hq⟩ := h t
  exact ⟨tr, h, fun e he => hQ e (hq e he)⟩

end Emits

end Go

end AuditScanner
