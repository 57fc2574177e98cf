import WebSso.Flow.Step
import WebSso.Proofs.ReplayCache.Calls

/-!
# What a step does

A step of a flow works on four things at once: used IDs, random bits, reports and a result.  This
file says of the smallest steps which of them they touch, and that steps put together touch no more,
so that nothing further on has to open the monad.

## What is here

* `Step.run_bind` and its like, the runs of the smallest steps;
* `Step.Reports`, a step that has its result from the outset and changes nothing but the reports;
* `Step.Blind`, a step that neither looks at the used IDs nor changes them;
* `Step.AlikeWith`, two runs of a step that differ in nothing but the used IDs;
* `Step.run_consume_of_contains` and `Step.run_consume_of_not_contains`, the two ways in which an ID
  is consumed;
* `Step.UsesAt`, a step whose uses of the cache are all made at one instant, as those of every step
  of a flow are.
-/

set_option autoImplicit false
namespace WebSso

/-- A session with other used IDs. -/
def Session.withCache (s : Session) (c : ReplayCache) : Session := { s with cache := c }

/-- A session in which more is reported. -/
def Session.reporting (s : Session) (events : List Event) : Session :=
  { s with log := s.log ++ events }

/-- The ID that is drawn after some more. -/
def Session.upcomingId (s : Session) (more : Nat) : String := messageId (s.draws (s.drawn + more))

namespace Session

@[simp] theorem reporting_nil (s : Session) : s.reporting [] = s := by
  rw [reporting, List.append_nil]

@[simp] theorem reporting_reporting (s : Session) (first second : List Event) :
    (s.reporting first).reporting second = s.reporting (first ++ second) := by
  rw [reporting, reporting, reporting, List.append_assoc]

theorem reporting_withCache (s : Session) (c : ReplayCache) (events : List Event) :
    (s.withCache c).reporting events = (s.reporting events).withCache c := rfl

end Session

namespace Step

variable {α β : Type}

/-! ## Runs of the smallest steps -/

@[simp] theorem run_pure (a : α) (s : Session) : (pure a : Step α).run s = (.ok a, s) := rfl

theorem run_bind (x : Step α) (f : α → Step β) (s : Session) :
    (x >>= f).run s
      = match x.run s with
        | (.ok a, t) => (f a).run t
        | (.error stop, t) => (.error stop, t) := by
  show ExceptT.run (ExceptT.bind x f) s = _
  rw [ExceptT.run, ExceptT.bind, ExceptT.mk]
  show (match x.run s with | (r, t) => ExceptT.bindCont f r t) = _
  rcases x.run s with ⟨r, t⟩
  cases r with
  | ok a => rfl
  | error stop => rfl

/-- A step that succeeds is followed by the next one. -/
theorem run_bind_of_ok {x : Step α} {s t : Session} {a : α} (h : x.run s = (.ok a, t))
    (f : α → Step β) : (x >>= f).run s = (f a).run t := by
  rw [run_bind, h]

/-- A step that stops is followed by nothing. -/
theorem run_bind_of_error {x : Step α} {s t : Session} {stop : Stop}
    (h : x.run s = (.error stop, t)) (f : α → Step β) : (x >>= f).run s = (.error stop, t) := by
  rw [run_bind, h]

theorem run_report (event : Event) (s : Session) :
    (report event).run s = (.ok (), s.reporting [event]) := rfl

theorem run_report? (event : Option Event) (s : Session) :
    (report? event).run s = (.ok (), s.reporting event.toList) := by
  cases event with
  | none =>
    rw [Option.toList_none, Session.reporting_nil]
    rfl
  | some event => rfl

theorem run_attempt (result : Attempt α) (s : Session) : (attempt result).run s = (result, s) := by
  cases result with
  | ok a => rfl
  | error stop => rfl

theorem run_require_ok (a : α) (s : Session) :
    (require (.ok a)).run s = (.ok a, s) := rfl

theorem run_require_error (cause : Fault) (s : Session) :
    (require (.error cause) : Step α).run s = (.error (.refused cause), s) := rfl

theorem run_drawId (s : Session) :
    drawId.run s = (.ok (messageId (s.draws s.drawn)), { s with drawn := s.drawn + 1 }) := rfl

theorem run_catching (x : Step α) (s : Session) :
    (catching x).run s
      = match x.run s with
        | (.ok a, t) => (.ok (.ok a), t)
        | (.error (.refused cause), t) => (.ok (.error cause), t)
        | (.error .outOfRange, t) => (.error .outOfRange, t) := rfl

/-- Catching a refusal does not undo anything. -/
theorem snd_run_catching (x : Step α) (s : Session) :
    ((catching x).run s).2 = (x.run s).2 := by
  rw [run_catching]
  rcases x.run s with ⟨r, t⟩
  cases r with
  | ok a => rfl
  | error stop =>
    cases stop with
    | outOfRange => rfl
    | refused cause => rfl

/-- What is caught of a step that stays in range is its result. -/
theorem run_catching_of_fallible {x : Step α} {s : Session} {result : Except Fault α}
    (h : (x.run s).1 = Stop.ofFallible result) :
    (catching x).run s = (.ok result, (x.run s).2) := by
  rw [run_catching]
  rcases hrun : x.run s with ⟨r, t⟩
  rw [hrun] at h
  obtain rfl : r = Stop.ofFallible result := h
  cases result with
  | ok a => rfl
  | error cause => rfl

/-- That the range was left is not caught. -/
theorem run_catching_of_outOfRange {x : Step α} {s : Session}
    (h : (x.run s).1 = .error .outOfRange) :
    (catching x).run s = (.error .outOfRange, (x.run s).2) := by
  rw [run_catching]
  rcases hrun : x.run s with ⟨r, t⟩
  rw [hrun] at h
  obtain rfl : r = .error .outOfRange := h
  rfl

/-! ## Consuming an ID -/

theorem run_take (id : String) (expiry now : Instant) (s : Session) :
    (take id expiry now).run s
      = (.ok (s.cache.observe id expiry now).1,
          (s.withCache (s.cache.observe id expiry now).2).reporting
            (ReplayCache.replayedEvent? (s.cache.observe id expiry now).1 id).toList) := by
  have h : (take id expiry now).run s
      = (report? (ReplayCache.replayedEvent? (s.cache.observe id expiry now).1 id)
          >>= fun _ => pure (s.cache.observe id expiry now).1 : Step Bool).run
          (s.withCache (s.cache.observe id expiry now).2) := rfl
  rw [h, run_bind_of_ok (run_report? _ _), run_pure]

/-- An ID that is remembered is refused, and the cache stays as it is. -/
theorem run_consume_of_contains {id : String} {now : Instant} {s : Session}
    (h : s.cache.contains id now = true) (expiry : Instant) :
    (consume id expiry now).run s
      = (.error (.refused (.replayDetected id)),
          s.reporting [.warn "replayed message ID" [("id", .text id)]]) := by
  rw [consume, run_bind_of_ok (run_take id expiry now s),
    ReplayCache.observe_of_contains h, if_neg Bool.false_ne_true, run_attempt]
  rfl

/-- An ID that is not remembered is recorded, and nothing else happens. -/
theorem run_consume_of_not_contains {id : String} {now : Instant} {s : Session}
    (h : s.cache.contains id now = false) (expiry : Instant) :
    (consume id expiry now).run s = (.ok (), s.withCache (s.cache.record id expiry)) := by
  rw [consume, run_bind_of_ok (run_take id expiry now s),
    ReplayCache.observe_of_not_contains h, if_pos rfl, run_pure, ReplayCache.replayedEvent?,
    if_pos rfl, Option.toList_none, Session.reporting_nil]

/-! ## Steps that only report -/

/-- A step that has its result from the outset and changes nothing but the reports. -/
def Reports (step : Step α) (result : Except Stop α) : Prop :=
  ∃ events, ∀ s, step.run s = (result, s.reporting events)

namespace Reports

theorem pure (a : α) : Reports (Pure.pure a) (.ok a) :=
  ⟨[], fun s => by rw [run_pure, Session.reporting_nil]⟩

theorem report (event : Event) : Reports (Step.report event) (.ok ()) :=
  ⟨[event], run_report event⟩

theorem report? (event : Option Event) : Reports (Step.report? event) (.ok ()) :=
  ⟨event.toList, run_report? event⟩

theorem attempt {attempted result : Attempt α} (h : attempted = result) :
    Reports (Step.attempt attempted) result :=
  ⟨[], fun s => by rw [run_attempt, Session.reporting_nil, h]⟩

/-- Its result is the one it has. -/
theorem fst_run {step : Step α} {result : Except Stop α} (h : Reports step result) (s : Session) :
    (step.run s).1 = result := by
  obtain ⟨events, h⟩ := h
  rw [h]

/-- A step that succeeds with a report, and what comes next. -/
theorem bind {x : Step α} {f : α → Step β} {a : α} {result : Except Stop β}
    (hx : Reports x (.ok a)) (hf : Reports (f a) result) : Reports (x >>= f) result := by
  obtain ⟨first, hx⟩ := hx
  obtain ⟨second, hf⟩ := hf
  refine ⟨first ++ second, fun s => ?_⟩
  rw [run_bind_of_ok (hx s), hf, Session.reporting_reporting]

/-- A step that succeeds with a report leaves the session to what comes next. -/
theorem run_bind_eq {x : Step α} {a : α} (h : Reports x (.ok a)) (f : α → Step β) (s : Session) :
    ∃ events, (x >>= f).run s = (f a).run (s.reporting events) := by
  obtain ⟨events, h⟩ := h
  exact ⟨events, run_bind_of_ok (h s) f⟩

/-- A step that stops with a report, whatever would come next. -/
theorem bind_error {x : Step α} {stop : Stop} (hx : Reports x (.error stop)) (f : α → Step β) :
    Reports (x >>= f) (.error stop) := by
  obtain ⟨events, hx⟩ := hx
  exact ⟨events, fun s => run_bind_of_error (hx s) f⟩

end Reports

/-! ## Steps that leave the used IDs alone -/

/-- A step that neither looks at the used IDs nor changes them. -/
def Blind (step : Step α) : Prop :=
  ∀ (s : Session) (c : ReplayCache),
    step.run (s.withCache c) = ((step.run s).1, (step.run s).2.withCache c)

theorem Reports.blind {step : Step α} {result : Except Stop α} (h : Reports step result) :
    Blind step := by
  obtain ⟨events, h⟩ := h
  intro s c
  rw [h, h, Session.reporting_withCache]

namespace Blind

/-- The used IDs are still the same after it. -/
theorem cache_eq {step : Step α} (h : Blind step) (s : Session) :
    (step.run s).2.cache = s.cache := by
  have hs := congrArg (fun r => r.2.cache) (h s s.cache)
  exact hs

theorem drawId : Blind Step.drawId := fun _ _ => rfl

/-- Steps that leave the used IDs alone leave them to the step before. -/
theorem cache_bind {f : α → Step β} (hf : ∀ a, Blind (f a)) (x : Step α) (s : Session) :
    ((x >>= f).run s).2.cache = (x.run s).2.cache := by
  rw [run_bind]
  rcases x.run s with ⟨r, t⟩
  cases r with
  | ok a => exact (hf a).cache_eq t
  | error stop => rfl

theorem bind {x : Step α} {f : α → Step β} (hx : Blind x) (hf : ∀ a, Blind (f a)) :
    Blind (x >>= f) := by
  intro s c
  rw [run_bind, run_bind, hx s c]
  rcases x.run s with ⟨r, t⟩
  cases r with
  | ok a => exact hf a t c
  | error stop => rfl

theorem catching {x : Step α} (hx : Blind x) : Blind (Step.catching x) := by
  intro s c
  rw [run_catching, run_catching, hx s c]
  rcases x.run s with ⟨r, t⟩
  cases r with
  | ok a => rfl
  | error stop =>
    cases stop with
    | outOfRange => rfl
    | refused cause => rfl

end Blind

/-! ## Runs that differ in the used IDs -/

/-- A step does the same in a session whether the used IDs are those of the session or others; what
it leaves of them may differ. -/
def AlikeWith (step : Step α) (s : Session) (c : ReplayCache) : Prop :=
  ∃ d, step.run (s.withCache c) = ((step.run s).1, (step.run s).2.withCache d)

theorem Blind.alikeWith {step : Step α} (h : Blind step) (s : Session) (c : ReplayCache) :
    AlikeWith step s c := ⟨c, h s c⟩

/-- A step that leaves the used IDs alone hands the session on to the next one. -/
theorem Blind.alikeWith_bind {x : Step α} {f : α → Step β} {s : Session} {c : ReplayCache}
    (hx : Blind x) (hf : ∀ a, (x.run s).1 = .ok a → AlikeWith (f a) (x.run s).2 c) :
    AlikeWith (x >>= f) s c := by
  rw [AlikeWith, run_bind, run_bind, hx s c]
  rcases hrun : x.run s with ⟨r, t⟩
  rw [hrun] at hf
  cases r with
  | ok a => exact hf a rfl
  | error stop => exact ⟨c, rfl⟩

namespace AlikeWith

variable {s : Session} {c : ReplayCache}

theorem fst_eq {step : Step α} (h : AlikeWith step s c) :
    (step.run (s.withCache c)).1 = (step.run s).1 := by
  obtain ⟨d, h⟩ := h
  rw [h]

theorem bind_blind {x : Step α} {f : α → Step β} (hx : AlikeWith x s c) (hf : ∀ a, Blind (f a)) :
    AlikeWith (x >>= f) s c := by
  obtain ⟨d, hx⟩ := hx
  refine ⟨d, ?_⟩
  rw [run_bind, run_bind, hx]
  rcases x.run s with ⟨r, t⟩
  cases r with
  | ok a => exact hf a t d
  | error stop => rfl

theorem catching {x : Step α} (hx : AlikeWith x s c) : AlikeWith (Step.catching x) s c := by
  obtain ⟨d, hx⟩ := hx
  refine ⟨d, ?_⟩
  rw [run_catching, run_catching, hx]
  rcases x.run s with ⟨r, t⟩
  cases r with
  | ok a => rfl
  | error stop =>
    cases stop with
    | outOfRange => rfl
    | refused cause => rfl

/-- Consuming an ID looks at nothing but whether it is remembered. -/
theorem consume_bind {id : String} {now : Instant}
    (h : c.contains id now = s.cache.contains id now) (expiry : Instant) {f : Unit → Step α}
    (hf : AlikeWith (f ()) (s.withCache (s.cache.record id expiry)) (c.record id expiry)) :
    AlikeWith (Step.consume id expiry now >>= f) s c := by
  rw [AlikeWith]
  cases used : s.cache.contains id now with
  | true =>
    rw [used] at h
    have hc := run_consume_of_contains (s := s.withCache c) h expiry
    rw [run_bind_of_error (run_consume_of_contains used expiry), run_bind_of_error hc]
    exact ⟨c, rfl⟩
  | false =>
    rw [used] at h
    have hc := run_consume_of_not_contains (s := s.withCache c) h expiry
    rw [run_bind_of_ok (run_consume_of_not_contains used expiry), run_bind_of_ok hc]
    exact hf

end AlikeWith

/-! ## Steps and uses of the cache -/

/-- A step all of whose uses of the cache are made at one instant. -/
def UsesAt (now : Instant) (step : Step α) : Prop :=
  ∀ s, ∃ calls : List CacheCall, (∀ call ∈ calls, call.now = now) ∧
    (step.run s).2.cache = s.cache.after calls

theorem Blind.usesAt {step : Step α} (h : Blind step) (now : Instant) : UsesAt now step :=
  fun s => ⟨[], fun _ hcall => absurd hcall List.not_mem_nil, h.cache_eq s⟩

namespace UsesAt

variable {now : Instant}

theorem bind {x : Step α} {f : α → Step β} (hx : UsesAt now x) (hf : ∀ a, UsesAt now (f a)) :
    UsesAt now (x >>= f) := by
  intro s
  obtain ⟨first, hfirst, hafter⟩ := hx s
  rw [run_bind]
  rcases hrun : x.run s with ⟨r, t⟩
  rw [hrun] at hafter
  cases r with
  | error stop => exact ⟨first, hfirst, hafter⟩
  | ok a =>
    obtain ⟨second, hsecond, hlast⟩ := hf a t
    refine ⟨first ++ second, fun call hcall => ?_, ?_⟩
    · exact (List.mem_append.1 hcall).elim (hfirst call) (hsecond call)
    · rw [ReplayCache.after_append, ← hafter]
      exact hlast

theorem catching {x : Step α} (hx : UsesAt now x) : UsesAt now (Step.catching x) := by
  intro s
  rw [snd_run_catching]
  exact hx s

theorem consume (id : String) (expiry : Instant) : UsesAt now (Step.consume id expiry now) := by
  intro s
  refine ⟨[.observe id expiry now], fun call hcall => ?_, ?_⟩
  · rw [List.mem_singleton.1 hcall, CacheCall.now]
  · rw [ReplayCache.after_cons, ReplayCache.after_nil, ReplayCache.next]
    cases h : s.cache.contains id now with
    | true => rw [run_consume_of_contains h, ReplayCache.observe_of_contains h]; rfl
    | false => rw [run_consume_of_not_contains h, ReplayCache.observe_of_not_contains h]; rfl

theorem purge : UsesAt now (Step.purge now) := by
  intro s
  refine ⟨[.purge now], fun call hcall => ?_, rfl⟩
  rw [List.mem_singleton.1 hcall, CacheCall.now]

end UsesAt

end Step

end WebSso
