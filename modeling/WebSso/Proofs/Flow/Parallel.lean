import WebSso.Proofs.Flow.Step

/-!
# Steps that run in parallel

Two steps that do the same work for different ends can be compared without knowing what comes of
either.  They are run next to each other, in sessions that differ in nothing but the reports; they
must stop for the same reason or not at all, and go on with results that are related.  What holds of
the smallest steps holds of steps put together, so that two flows are compared line by line.

## What is here

* `Agree`, two results that fail alike, with `Agree.bind`;
* `Session.SameButLog`, sessions that differ in the reports alone;
* `Step.Parallel`, steps that run in parallel, and `Step.Parallel.bind`, by which they are put
  together.
-/

set_option autoImplicit false
namespace WebSso

/-! ## Results that fail alike -/

/-- Two results that are the same failure, or else values that are related. -/
inductive Agree {ε α β : Type} (R : α → β → Prop) : Except ε α → Except ε β → Prop where
  /-- Both are values. -/
  | ok {a : α} {b : β} (h : R a b) : Agree R (.ok a) (.ok b)
  /-- Both are one failure. -/
  | error (e : ε) : Agree R (.error e) (.error e)

namespace Agree

variable {ε α β γ δ : Type} {R : α → β → Prop} {S : γ → δ → Prop} {x : Except ε α} {y : Except ε β}

theorem refl (x : Except ε α) : Agree (· = ·) x x := by
  cases x with
  | ok a => exact .ok rfl
  | error e => exact .error e

theorem bind {f : α → Except ε γ} {g : β → Except ε δ} (h : Agree R x y)
    (hf : ∀ a b, R a b → Agree S (f a) (g b)) : Agree S (x >>= f) (y >>= g) := by
  cases h with
  | ok h => exact hf _ _ h
  | error e => exact .error e

theorem imp {R' : α → β → Prop} (h : Agree R x y) (hR : ∀ a b, R a b → R' a b) : Agree R' x y := by
  cases h with
  | ok h => exact .ok (hR _ _ h)
  | error e => exact .error e

theorem rel {a : α} {b : β} (h : Agree R x y) (hx : x = .ok a) (hy : y = .ok b) : R a b := by
  cases h with
  | ok h =>
    cases hx
    cases hy
    exact h
  | error e => cases hx

/-- Values that are related are also those of the two results. -/
theorem self (h : Agree R x y) : Agree (fun a b => x = .ok a ∧ y = .ok b) x y := by
  cases h with
  | ok => exact .ok ⟨rfl, rfl⟩
  | error e => exact .error e

theorem error_iff (h : Agree R x y) (e : ε) : x = .error e ↔ y = .error e := by
  cases h with
  | ok h => exact ⟨nofun, nofun⟩
  | error e' => rw [Except.error.injEq, Except.error.injEq]

theorem ofFallible {x : Except Fault α} {y : Except Fault β} (h : Agree R x y) :
    Agree R (Stop.ofFallible x) (Stop.ofFallible y) := by
  cases h with
  | ok h => exact .ok h
  | error cause => exact .error (Stop.refused cause)

end Agree

/-! ## Steps -/

/-- Sessions that differ in nothing but what was reported. -/
structure Session.SameButLog (s t : Session) : Prop where
  /-- The same IDs were used. -/
  cache : s.cache = t.cache
  /-- There are the same random bits. -/
  draws : s.draws = t.draws
  /-- As many of them were used. -/
  drawn : s.drawn = t.drawn

namespace Step

variable {α β γ δ : Type}

/-- Steps that can run next to each other: in sessions that differ in the reports alone, they stop
for the same reason or come to related results, and leave such sessions again. -/
def Parallel (R : α → β → Prop) (x : Step α) (y : Step β) : Prop :=
  ∀ s t : Session, s.SameButLog t →
    Agree R (x.run s).1 (y.run t).1 ∧ (x.run s).2.SameButLog (y.run t).2

namespace Parallel

variable {R : α → β → Prop} {S : γ → δ → Prop}

/-- Steps that only report, each in its own way. -/
theorem of_reports {x : Step α} {y : Step β} {a : Attempt α} {b : Attempt β} (hx : x.Reports a)
    (hy : y.Reports b) (h : Agree R a b) : Parallel R x y := by
  intro s t hst
  obtain ⟨first, hx⟩ := hx
  obtain ⟨second, hy⟩ := hy
  rw [hx, hy]
  exact ⟨h, hst.cache, hst.draws, hst.drawn⟩

theorem pure {a : α} {b : β} (h : R a b) : Parallel R (Pure.pure a) (Pure.pure b) :=
  of_reports (.pure a) (.pure b) (.ok h)

theorem report (first second : Event) : Parallel (· = ·) (Step.report first) (Step.report second) :=
  of_reports (.report first) (.report second) (.ok rfl)

theorem report? (first second : Option Event) :
    Parallel (· = ·) (Step.report? first) (Step.report? second) :=
  of_reports (.report? first) (.report? second) (.ok rfl)

theorem attempt {a : Attempt α} {b : Attempt β} (h : Agree R a b) :
    Parallel R (Step.attempt a) (Step.attempt b) :=
  of_reports (.attempt rfl) (.attempt rfl) h

/-- The same ID is drawn. -/
theorem drawId : Parallel (· = ·) Step.drawId Step.drawId := by
  intro s t hst
  have hid : messageId (s.draws s.drawn) = messageId (t.draws t.drawn) := by
    rw [hst.draws, hst.drawn]
  rw [run_drawId, run_drawId]
  exact ⟨.ok hid, hst.cache, hst.draws, congrArg (· + 1) hst.drawn⟩

/-- An ID is consumed in both or in neither. -/
theorem consume (id : String) (expiry now : Instant) :
    Parallel (· = ·) (Step.consume id expiry now) (Step.consume id expiry now) := by
  intro s t hst
  cases used : t.cache.contains id now with
  | true =>
    rw [run_consume_of_contains used, run_consume_of_contains (hst.cache ▸ used)]
    exact ⟨.error _, hst.cache, hst.draws, hst.drawn⟩
  | false =>
    rw [run_consume_of_not_contains used, run_consume_of_not_contains (hst.cache ▸ used)]
    exact ⟨.ok rfl, congrArg (·.record id expiry) hst.cache, hst.draws, hst.drawn⟩

/-- **Steps are compared line by line**: what comes next has to run in parallel for related
results. -/
theorem bind {x : Step α} {y : Step β} {f : α → Step γ} {g : β → Step δ} (h : Parallel R x y)
    (hf : ∀ a b, R a b → Parallel S (f a) (g b)) : Parallel S (x >>= f) (y >>= g) := by
  intro s t hst
  obtain ⟨hresult, hsession⟩ := h s t hst
  rw [run_bind, run_bind]
  rcases hx : x.run s with ⟨a, s'⟩
  rcases hy : y.run t with ⟨b, t'⟩
  rw [hx, hy] at hresult hsession
  cases hresult with
  | ok hab => exact hf _ _ hab s' t' hsession
  | error stop => exact ⟨.error stop, hsession⟩

/-- One step next to itself, before steps that may go on with its result. -/
theorem bind_self {x : Step α} {f : α → Step γ} {g : α → Step δ} (h : Parallel (· = ·) x x)
    (hf : ∀ a, Parallel S (f a) (g a)) : Parallel S (x >>= f) (x >>= g) :=
  h.bind fun a _ hab => hab ▸ hf a

end Parallel

end Step

end WebSso
