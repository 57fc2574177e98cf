import WebSso.IdentityProvider.Answer
import WebSso.Proofs.Time.Order

/-!
# Which requests can be answered, and how long they are remembered

Two rules about time meet when a request is answered.  The request has to be fresh, which is asked
before all else; and its ID is remembered, so that it is not answered twice.  Both are computed from
instants that may leave the range; this file says what they come to as points in time.

## What is here

* `IdentityProvider.lastAccepted` and `IdentityProvider.heldUntil`, the two points in time;
* `IdentityProvider.Fresh`, and `IdentityProvider.checkFreshness_cases`, how a request is checked
  for it;
* `IdentityProvider.rememberedUntil_cases`, until when its ID is remembered;
* `IdentityProvider.InRange`, with which none of this leaves the range.
-/

set_option autoImplicit false
namespace WebSso

namespace IdentityProvider

/-! ## Points in time -/

/-- The last nanosecond at which a request of some instant is fresh. -/
def lastAccepted (p : IdentityProvider) (issued : Instant) : Int :=
  issued.nanoseconds + p.maxRequestAge.nanoseconds + p.window.clockSkew.nanoseconds

/-- The nanosecond from which the ID of a request that was answered is forgotten again. -/
def heldUntil (p : IdentityProvider) (issued now : Instant) : Int :=
  max (now.nanoseconds + p.replayWindow.nanoseconds) (p.lastAccepted issued)

/-- A request is neither from the future nor too old, as far as clocks can be apart. -/
def Fresh (p : IdentityProvider) (issued now : Instant) : Prop :=
  issued.nanoseconds ≤ now.nanoseconds + p.window.clockSkew.nanoseconds ∧
    now.nanoseconds ≤ p.lastAccepted issued

instance (p : IdentityProvider) (issued now : Instant) : Decidable (p.Fresh issued now) :=
  inferInstanceAs (Decidable (_ ∧ _))

/-- All instants exist that are computed when a request is answered, and those that are written
exist at UTC. -/
structure InRange (p : IdentityProvider) (issued now : Instant) : Prop where
  /-- The latest issue of a request that is not from the future. -/
  latestIssue : (now.add? p.window.clockSkew).isSome
  /-- The last instant at which the request can be answered. -/
  lastAnswer : ∃ aged, issued.add? p.maxRequestAge = some aged ∧
    (aged.add? p.window.clockSkew).isSome
  /-- The instant until which the configuration wants its ID remembered. -/
  remembered : (now.add? p.replayWindow).isSome
  /-- The first instant at which an assertion is valid. -/
  notBefore : ∃ t, now.wholeSeconds.sub? p.window.clockSkew = some t ∧ t.toUtc?.isSome
  /-- The instant at which an assertion ends to be valid. -/
  notOnOrAfter : ∃ t, now.wholeSeconds.add? p.window.validity = some t ∧ t.toUtc?.isSome
  /-- The instant at which a response is issued. -/
  written : now.wholeSeconds.toUtc?.isSome

/-! ## What the rules come to -/

theorem acceptedUntil_cases (p : IdentityProvider) (issued : Instant) :
    p.acceptedUntil issued = .error .outOfRange ∨
      ∃ last, p.acceptedUntil issued = .ok last ∧ last.nanoseconds = p.lastAccepted issued := by
  rw [acceptedUntil]
  rcases Stop.inRange_cases (issued.add? p.maxRequestAge) with ⟨h, -⟩ | ⟨aged, h, haged⟩
  · exact Or.inl (by rw [h]; rfl)
  · rcases Stop.inRange_cases (aged.add? p.window.clockSkew) with ⟨h', -⟩ | ⟨last, h', hlast⟩
    · exact Or.inl (by rw [h, ← h']; rfl)
    · refine Or.inr ⟨last, by rw [h, ← h']; rfl, ?_⟩
      rw [lastAccepted, Instant.nanoseconds_add? hlast, Instant.nanoseconds_add? haged]

/-- The check of a request that is not from the future. -/
theorem checkFreshness_of_not_future {p : IdentityProvider} {issued now latest last : Instant}
    (hlatest : now.add? p.window.clockSkew = some latest) (h : ¬ latest < issued)
    (hlast : p.acceptedUntil issued = .ok last) (id : String) :
    p.checkFreshness id issued now
      = if last < now then Stop.refuse (.clockSkewExceeded ("request " ++ id ++ " is too old"))
        else .ok () := by
  rw [checkFreshness, hlatest]
  show (if latest < issued then _ else p.acceptedUntil issued >>= _) = _
  rw [if_neg h, hlast]
  rfl

/-- **How a request is checked.**  Unless an instant leaves the range, a request is refused as one
from the future, or else as too old, or else it is fresh. -/
theorem checkFreshness_cases (p : IdentityProvider) (id : String) (issued now : Instant) :
    p.checkFreshness id issued now = .error .outOfRange ∨
    (now.nanoseconds + p.window.clockSkew.nanoseconds < issued.nanoseconds ∧
      p.checkFreshness id issued now
        = Stop.refuse (.clockSkewExceeded ("request " ++ id ++ " issued in the future"))) ∨
    (issued.nanoseconds ≤ now.nanoseconds + p.window.clockSkew.nanoseconds ∧
      p.lastAccepted issued < now.nanoseconds ∧
      p.checkFreshness id issued now
        = Stop.refuse (.clockSkewExceeded ("request " ++ id ++ " is too old"))) ∨
    (p.Fresh issued now ∧ p.checkFreshness id issued now = .ok ()) := by
  rcases Stop.inRange_cases (now.add? p.window.clockSkew) with ⟨h, -⟩ | ⟨latest, h, hlatest⟩
  · exact Or.inl (by rw [checkFreshness, h]; rfl)
  have hns := Instant.nanoseconds_add? hlatest
  by_cases hfuture : latest < issued
  · have hlt := hfuture
    rw [Instant.lt_iff, hns] at hlt
    refine Or.inr (Or.inl ⟨hlt, ?_⟩)
    rw [checkFreshness, h]
    exact if_pos hfuture
  rcases p.acceptedUntil_cases issued with hlast | ⟨last, hlast, hlastns⟩
  · refine Or.inl ?_
    rw [checkFreshness, h]
    show (if latest < issued then _ else p.acceptedUntil issued >>= _) = _
    rw [if_neg hfuture, hlast]
    rfl
  have hchecked := checkFreshness_of_not_future hlatest hfuture hlast id
  rw [Instant.not_lt, Instant.le_iff, hns] at hfuture
  by_cases hold : last < now
  · rw [if_pos hold] at hchecked
    rw [Instant.lt_iff, hlastns] at hold
    exact Or.inr (Or.inr (Or.inl ⟨hfuture, hold, hchecked⟩))
  · rw [if_neg hold] at hchecked
    rw [Instant.not_lt, Instant.le_iff, hlastns] at hold
    exact Or.inr (Or.inr (Or.inr ⟨⟨hfuture, hold⟩, hchecked⟩))

/-- A request is checked to be fresh exactly if it is. -/
theorem fresh_of_checkFreshness {p : IdentityProvider} {id : String} {issued now : Instant}
    (h : p.checkFreshness id issued now = .ok ()) : p.Fresh issued now := by
  rcases p.checkFreshness_cases id issued now with hc | ⟨-, hc⟩ | ⟨-, -, hc⟩ | ⟨hfresh, -⟩
  · rw [h] at hc; cases hc
  · rw [h] at hc; cases hc
  · rw [h] at hc; cases hc
  · exact hfresh

/-- The two instants that are computed from the present one exist when a request is checked and its
ID is to be remembered. -/
theorem isSome_of_checkFreshness {p : IdentityProvider} {id : String} {issued now : Instant}
    (h : p.checkFreshness id issued now = .ok ()) : (now.add? p.window.clockSkew).isSome := by
  rcases Stop.inRange_cases (now.add? p.window.clockSkew) with ⟨hout, -⟩ | ⟨latest, -, hsome⟩
  · rw [checkFreshness, hout] at h
    cases h
  · rw [hsome]
    rfl

theorem isSome_of_rememberedUntil {p : IdentityProvider} {request : ReceivedRequest}
    {now expiry : Instant} (h : p.rememberedUntil request now = .ok expiry) :
    (now.add? p.replayWindow).isSome := by
  rcases Stop.inRange_cases (now.add? p.replayWindow) with ⟨hout, -⟩ | ⟨configured, -, hsome⟩
  · rw [rememberedUntil, hout] at h
    cases h
  · rw [hsome]
    rfl

/-- **Until when an ID is remembered**, unless an instant leaves the range. -/
theorem rememberedUntil_cases (p : IdentityProvider) (request : ReceivedRequest) (now : Instant) :
    p.rememberedUntil request now = .error .outOfRange ∨
      ∃ expiry, p.rememberedUntil request now = .ok expiry ∧
        expiry.nanoseconds = p.heldUntil request.issueInstant now := by
  rw [rememberedUntil]
  rcases Stop.inRange_cases (now.add? p.replayWindow) with ⟨h, -⟩ | ⟨configured, h, hconfigured⟩
  · exact Or.inl (by rw [h]; rfl)
  rcases p.acceptedUntil_cases request.issueInstant with hlast | ⟨last, hlast, hlastns⟩
  · exact Or.inl (by rw [h, hlast]; rfl)
  refine Or.inr ⟨Instant.latest configured last, by rw [h, hlast]; rfl, ?_⟩
  rw [Instant.nanoseconds_latest, heldUntil, Instant.nanoseconds_add? hconfigured, hlastns]

theorem nanoseconds_of_rememberedUntil {p : IdentityProvider} {request : ReceivedRequest}
    {now expiry : Instant} (h : p.rememberedUntil request now = .ok expiry) :
    expiry.nanoseconds = p.heldUntil request.issueInstant now := by
  rcases p.rememberedUntil_cases request now with hout | ⟨other, hother, hns⟩
  · rw [h] at hout
    cases hout
  · rw [h] at hother
    cases hother
    exact hns

/-! ## Requests of one instant -/

section SameRequest

variable {p : IdentityProvider} {request : ReceivedRequest} {id : String} {issued now : Instant}

/-- A request is checked if the two instants exist that it is compared with. -/
theorem checkFreshness_ne_outOfRange (hskew : (now.add? p.window.clockSkew).isSome)
    (hlast : ∃ last, p.acceptedUntil issued = .ok last) (id : String) :
    p.checkFreshness id issued now ≠ .error .outOfRange := by
  obtain ⟨latest, hlatest⟩ := Option.isSome_iff_exists.1 hskew
  obtain ⟨last, hlast⟩ := hlast
  by_cases hfuture : latest < issued
  · rw [checkFreshness, hlatest]
    show (if latest < issued then _ else _) ≠ _
    rw [if_pos hfuture]
    nofun
  · rw [checkFreshness_of_not_future hlatest hfuture hlast]
    split
    · nofun
    · nofun

/-- What a request was remembered for once, it can be answered until. -/
theorem exists_acceptedUntil {expiry : Instant} (h : p.rememberedUntil request now = .ok expiry) :
    ∃ last, p.acceptedUntil request.issueInstant = .ok last := by
  rcases p.acceptedUntil_cases request.issueInstant with hout | ⟨last, hlast, -⟩
  · obtain ⟨configured, hconfigured⟩ := Option.isSome_iff_exists.1 (isSome_of_rememberedUntil h)
    rw [rememberedUntil, hconfigured, hout] at h
    cases h
  · exact ⟨last, hlast⟩

theorem checkFreshness_of_fresh (h : p.Fresh issued now)
    (hskew : (now.add? p.window.clockSkew).isSome)
    (hlast : ∃ last, p.acceptedUntil issued = .ok last) :
    p.checkFreshness id issued now = .ok () := by
  obtain ⟨last, hlast⟩ := hlast
  obtain ⟨latest, hlatest⟩ := Option.isSome_iff_exists.1 hskew
  have hfuture : ¬ latest < issued := by
    rw [Instant.not_lt, Instant.le_iff, Instant.nanoseconds_add? hlatest]
    exact h.1
  rcases p.checkFreshness_cases id issued now with hc | ⟨early, -⟩ | ⟨-, late, -⟩ | ⟨-, hc⟩
  · rw [checkFreshness_of_not_future hlatest hfuture hlast] at hc
    split at hc
    · cases hc
    · cases hc
  · exact absurd h.1 (Int.not_le.2 early)
  · exact absurd h.2 (Int.not_le.2 late)
  · exact hc

theorem exists_rememberedUntil (hwindow : (now.add? p.replayWindow).isSome)
    (hlast : ∃ last, p.acceptedUntil request.issueInstant = .ok last) :
    ∃ expiry, p.rememberedUntil request now = .ok expiry := by
  obtain ⟨last, hlast⟩ := hlast
  obtain ⟨configured, hconfigured⟩ := Option.isSome_iff_exists.1 hwindow
  rw [rememberedUntil, hconfigured, hlast]
  exact ⟨_, rfl⟩

end SameRequest

/-! ## Staying in range -/

namespace InRange

variable {p : IdentityProvider} {issued now : Instant}

theorem acceptedUntil (h : p.InRange issued now) : ∃ last, p.acceptedUntil issued = .ok last := by
  obtain ⟨aged, haged, hlast⟩ := h.lastAnswer
  obtain ⟨last, hlast⟩ := Option.isSome_iff_exists.1 hlast
  refine ⟨last, ?_⟩
  rw [IdentityProvider.acceptedUntil, haged]
  show Stop.inRange (aged.add? p.window.clockSkew) = .ok last
  rw [hlast]
  rfl

/-- Only the windows of a provider matter. -/
theorem of_windows {q : IdentityProvider} (h : p.InRange issued now) (hwindow : q.window = p.window)
    (hreplay : q.replayWindow = p.replayWindow) (hage : q.maxRequestAge = p.maxRequestAge) :
    q.InRange issued now where
  latestIssue := hwindow ▸ h.latestIssue
  lastAnswer := hwindow ▸ hage ▸ h.lastAnswer
  remembered := hreplay ▸ h.remembered
  notBefore := hwindow ▸ h.notBefore
  notOnOrAfter := hwindow ▸ h.notOnOrAfter
  written := h.written

theorem checkFreshness_ne (h : p.InRange issued now) (id : String) :
    p.checkFreshness id issued now ≠ .error .outOfRange :=
  checkFreshness_ne_outOfRange h.latestIssue h.acceptedUntil id

theorem rememberedUntil_ne {request : ReceivedRequest} (h : p.InRange request.issueInstant now) :
    p.rememberedUntil request now ≠ .error .outOfRange := by
  obtain ⟨configured, hconfigured⟩ := Option.isSome_iff_exists.1 h.remembered
  obtain ⟨last, hlast⟩ := h.acceptedUntil
  rw [rememberedUntil, hconfigured, hlast]
  nofun

end InRange

end IdentityProvider

end WebSso
