import WebSso.Proofs.Assertion.Build
import WebSso.Proofs.Assertion.Wire
import WebSso.Proofs.Config.Directory
import WebSso.Proofs.Time.RoundTrip

/-!
# Assertions are valid when they are built

An assertion is issued at the second that `now` is in, and its bounds are counted from there.  So it
is valid at `now` itself: the second has begun, and at least one whole second remains.  All four of
its instants are whole seconds, and so nothing of them is lost on the wire, whatever the offset that
they are shown at and on whichever side of 1970.

## What is here

* `ValidityWindow.InSeconds`, windows of whole seconds, and `Config.inSeconds_window`: those of
  accepted configurations are of this kind;
* `Element.valuesAt`, what a receiver finds at a path of an element;
* `Assertion.ValidAround`, the instants of an assertion around the instant that it is built at, and
  `Assertion.States`, what its element says of them;
* `Assertion.build_valid_on_wire`, both of every assertion that is built.
-/

set_option autoImplicit false
namespace WebSso

/-! ## Windows of whole seconds -/

/-- A window of whole seconds, in which an assertion is valid for at least one of them. -/
structure ValidityWindow.InSeconds (w : ValidityWindow) : Prop where
  /-- An assertion is valid for a number of seconds. -/
  validity : ∃ n : Int, 1 ≤ n ∧ w.validity = .seconds n
  /-- Clocks may be apart by a number of seconds. -/
  clockSkew : ∃ n : Int, 0 ≤ n ∧ w.clockSkew = .seconds n

/-- **Accepted configurations have such windows.** -/
theorem Config.inSeconds_window {c : Config} (h : c.validate = .ok ()) :
    ValidityWindow.InSeconds ⟨c.assertionValidity, c.clockSkew⟩ := by
  have hpositive := (c.validate_eq_ok_iff.mp h).2.1
  have hlong : 1 ≤ Duration.maxSeconds := by decide
  refine ⟨⟨_, ?_, rfl⟩, ⟨_, ?_, rfl⟩⟩
  · omega
  · omega

/-! ## Looking into an element -/

namespace Element

/-- The elements that a path of names leads to. -/
def elementsAt : List QName → Element → List Element
  | [], e => [e]
  | name :: path, e => (e.children.filter fun child => child.name = name).flatMap (elementsAt path)

/-- The values of an attribute of all elements that a path of names leads to. -/
def valuesAt (e : Element) (path : List QName) (label : String) : List (Option String) :=
  (elementsAt path e).map (·.attribute? label)

end Element

/-! ## Whole seconds -/

@[simp]
theorem Duration.nanoseconds_seconds (n : Int) : (seconds n).nanoseconds = n * nanosPerSecond := rfl

namespace Instant

/-- A text that is read as an instant, at UTC. -/
def SaidBy (t : Instant) (text : String) : Prop :=
  ∃ u, t.toUtc? = some u ∧ readAssertionInstant text = .ok u

theorem subsecond_wholeSeconds (t : Instant) : t.wholeSeconds.subsecond = 0 := by
  rw [subsecond, nanoseconds_wholeSeconds, Int.mul_emod_left]

theorem subsecond_add? {t u : Instant} {n : Int} (ht : t.subsecond = 0)
    (h : t.add? (.seconds n) = some u) : u.subsecond = 0 := by
  rw [subsecond] at ht ⊢
  rw [nanoseconds_add? h, Duration.nanoseconds_seconds, Int.add_mul_emod_self_right, ht]

theorem subsecond_sub? {t u : Instant} {n : Int} (ht : t.subsecond = 0)
    (h : t.sub? (.seconds n) = some u) : u.subsecond = 0 := by
  rw [subsecond] at ht ⊢
  rw [nanoseconds_sub? h, Duration.nanoseconds_seconds, Int.sub_mul_emod_self_right, ht]

/-- **Nothing of a whole second is lost on the wire.** -/
theorem saidBy_of_write {t : Instant} {text : String} (ht : t.subsecond = 0)
    (h : t.write = .ok text) : t.SaidBy text := by
  obtain ⟨u, hin, -⟩ := Stop.exists_of_bind_eq_ok h
  have hutc := Stop.inRange_eq_ok_iff.mp hin
  have hsame : t.wholeSeconds.nanoseconds = t.nanoseconds := by
    show t.nanoseconds - t.subsecond = _
    rw [ht, Int.sub_zero]
  have hwhole : t.wholeSeconds.toUtc? = t.toUtc? := by rw [toUtc?, toUtc?, hsame]
  exact ⟨u, hutc, by rw [readAssertionInstant, read?_of_write h, hwhole, hutc]⟩

theorem exists_write_iff {t : Instant} : (∃ text, t.write = .ok text) ↔ t.FourDigitYear :=
  ⟨fun ⟨_, h⟩ => (write_eq_ok h).1.year, fun h => ⟨_, write_of_fourDigitYear h⟩⟩

end Instant

namespace Assertion
variable {a : Assertion} {issued notOnOrAfter notBefore authnInstant : String}

/-! ## What the element of an assertion says -/

theorem name_of_mem_attributeStatement {e : Element} (h : e ∈ a.attributeStatement) :
    e.name = saml "AttributeStatement" := by
  rw [attributeStatement] at h
  split at h
  · cases h
  · rw [List.mem_singleton.mp h]
    rfl

/-- The statement about attributes stands last, so it can be left out to find the others. -/
theorem filter_children_elementWith {name : QName} (h : name ≠ saml "AttributeStatement") :
    (a.elementWith issued notOnOrAfter notBefore authnInstant).children.filter
        (fun child => child.name = name) =
      [(Element.named (saml "Issuer")).addText a.issuer, a.subjectElement notOnOrAfter,
          a.conditionsElement notBefore notOnOrAfter, a.authnElement authnInstant].filter
        (fun child => child.name = name) := by
  have hnone : a.attributeStatement.filter (fun child => child.name = name) = [] := by
    refine List.filter_eq_nil_iff.mpr fun e he => ?_
    rw [name_of_mem_attributeStatement he]
    simpa using h.symm
  simp [elementWith, List.filter_cons, hnone]

theorem valuesAt_conditions (label : String) :
    (a.elementWith issued notOnOrAfter notBefore authnInstant).valuesAt [saml "Conditions"] label
      = [(a.conditionsElement notBefore notOnOrAfter).attribute? label] := by
  rw [Element.valuesAt, Element.elementsAt, filter_children_elementWith (by decide)]
  simp [Element.elementsAt, subjectElement, conditionsElement, authnElement, saml]

theorem valuesAt_authnStatement (label : String) :
    (a.elementWith issued notOnOrAfter notBefore authnInstant).valuesAt
        [saml "AuthnStatement"] label
      = [(a.authnElement authnInstant).attribute? label] := by
  rw [Element.valuesAt, Element.elementsAt, filter_children_elementWith (by decide)]
  simp [Element.elementsAt, subjectElement, conditionsElement, authnElement, saml]

theorem valuesAt_subjectConfirmationData :
    (a.elementWith issued notOnOrAfter notBefore authnInstant).valuesAt
        [saml "Subject", saml "SubjectConfirmation", saml "SubjectConfirmationData"] "NotOnOrAfter"
      = [some notOnOrAfter] := by
  rw [Element.valuesAt, Element.elementsAt, filter_children_elementWith (by decide)]
  simp [Element.elementsAt, subjectElement, conditionsElement, authnElement, saml]

/-- What the element of an assertion says of its instants, each in one place but for the end of its
validity, which is said twice. -/
structure States (a : Assertion) (e : Element) : Prop where
  /-- When it was issued. -/
  issueInstant : ∃ text, e.valuesAt [] "IssueInstant" = [some text] ∧ a.issueInstant.SaidBy text
  /-- When it begins to be valid. -/
  notBefore : ∃ text, e.valuesAt [saml "Conditions"] "NotBefore" = [some text] ∧
    a.notBefore.SaidBy text
  /-- When it ends to be valid, under its conditions and for its bearer. -/
  notOnOrAfter : ∃ text, e.valuesAt [saml "Conditions"] "NotOnOrAfter" = [some text] ∧
    e.valuesAt [saml "Subject", saml "SubjectConfirmation", saml "SubjectConfirmationData"]
      "NotOnOrAfter" = [some text] ∧ a.notOnOrAfter.SaidBy text
  /-- When the user authenticated. -/
  authnInstant : ∃ text, e.valuesAt [saml "AuthnStatement"] "AuthnInstant" = [some text] ∧
    a.authnInstant.SaidBy text

/-- An assertion is written if the years of its instants can be. -/
theorem exists_toElement_iff :
    (∃ e, a.toElement = .ok e) ↔ ∀ t ∈ a.instants, t.FourDigitYear := by
  simp only [instants, List.forall_mem_cons, List.not_mem_nil, false_imp_iff, implies_true,
    and_true, ← Instant.exists_write_iff, toElement_eq_ok_iff]
  constructor
  · rintro ⟨e, issued, notOnOrAfter, notBefore, authnInstant, hissued, hafter, hbefore, hauthn, -⟩
    exact ⟨⟨_, hissued⟩, ⟨_, hafter⟩, ⟨_, hbefore⟩, ⟨_, hauthn⟩⟩
  · rintro ⟨⟨issued, hissued⟩, ⟨notOnOrAfter, hafter⟩, ⟨notBefore, hbefore⟩, authnInstant, hauthn⟩
    exact ⟨_, issued, notOnOrAfter, notBefore, authnInstant, hissued, hafter, hbefore, hauthn, rfl⟩

/-- **An assertion of whole seconds states its instants.** -/
theorem states_of_toElement {e : Element} (he : a.toElement = .ok e)
    (h : ∀ t ∈ a.instants, t.subsecond = 0) : a.States e := by
  simp only [instants, List.forall_mem_cons, List.not_mem_nil, false_imp_iff, implies_true,
    and_true] at h
  obtain ⟨hissue, hnotOnOrAfter, hnotBefore, hauthnInstant⟩ := h
  obtain ⟨issued, notOnOrAfter, notBefore, authnInstant, hissued, hafter, hbefore, hauthn, rfl⟩ :=
    toElement_eq_ok_iff.mp he
  refine ⟨⟨issued, ?_, Instant.saidBy_of_write hissue hissued⟩,
    ⟨notBefore, ?_, Instant.saidBy_of_write hnotBefore hbefore⟩,
    ⟨notOnOrAfter, ?_, valuesAt_subjectConfirmationData,
      Instant.saidBy_of_write hnotOnOrAfter hafter⟩,
    ⟨authnInstant, ?_, Instant.saidBy_of_write hauthnInstant hauthn⟩⟩
  · simp [Element.valuesAt, Element.elementsAt, elementWith]
  · rw [valuesAt_conditions]
    simp [conditionsElement]
  · rw [valuesAt_conditions]
    simp [conditionsElement]
  · rw [valuesAt_authnStatement]
    simp [authnElement]

/-! ## The instants of an assertion that is built -/

/-- The instants of an assertion around the instant that it is built at. -/
structure ValidAround (a : Assertion) (window : ValidityWindow) (now : Instant) : Prop where
  /-- It has begun to be valid when it is issued. -/
  begun : a.notBefore ≤ a.issueInstant
  /-- It is issued. -/
  issued : a.issueInstant ≤ now
  /-- It has not ended to be valid. -/
  notEnded : now < a.notOnOrAfter
  /-- It is issued within a second. -/
  recent : now.nanoseconds - a.issueInstant.nanoseconds < nanosPerSecond
  /-- How long it is valid after its issue. -/
  validity : a.notOnOrAfter.nanoseconds - a.issueInstant.nanoseconds = window.validity.nanoseconds
  /-- How long it is valid before its issue. -/
  clockSkew : a.issueInstant.nanoseconds - a.notBefore.nanoseconds = window.clockSkew.nanoseconds

theorem validAround_of_bounds {window : ValidityWindow} {now : Instant} (hwindow : window.InSeconds)
    (hissued : a.issueInstant = now.wholeSeconds)
    (hbefore : now.wholeSeconds.sub? window.clockSkew = some a.notBefore)
    (hafter : now.wholeSeconds.add? window.validity = some a.notOnOrAfter) :
    a.ValidAround window now := by
  obtain ⟨⟨n, hn, hvalidity⟩, ⟨k, hk, hclockSkew⟩⟩ := hwindow
  have hnotBefore := Instant.nanoseconds_sub? hbefore
  have hnotOnOrAfter := Instant.nanoseconds_add? hafter
  rw [Instant.nanoseconds_wholeSeconds] at hnotBefore hnotOnOrAfter
  have hissue : a.issueInstant.nanoseconds = now.unixSeconds * nanosPerSecond := by
    rw [hissued, Instant.nanoseconds_wholeSeconds]
  rw [hclockSkew, Duration.nanoseconds_seconds] at hnotBefore
  rw [hvalidity, Duration.nanoseconds_seconds] at hnotOnOrAfter
  simp only [Instant.unixSeconds, nanosPerSecond] at hnotBefore hnotOnOrAfter hissue
  refine ⟨?_, ?_, ?_, ?_, ?_, ?_⟩
  · rw [Instant.le_iff]
    omega
  · rw [Instant.le_iff]
    omega
  · rw [Instant.lt_iff]
    omega
  · rw [nanosPerSecond]
    omega
  · rw [hvalidity, Duration.nanoseconds_seconds, nanosPerSecond]
    omega
  · rw [hclockSkew, Duration.nanoseconds_seconds, nanosPerSecond]
    omega

section Built

variable {issuer : String} {subject : Subject} {attributes : Attributes} {audiences : List String}
  {window : ValidityWindow} {context : AuthnContext} {now : Instant} {id newSession : String}

/-- The instants of an assertion that is built. -/
theorem bounds_of_build
    (h : build issuer subject attributes audiences window context now id newSession = .ok a) :
    a.issueInstant = now.wholeSeconds ∧
      now.wholeSeconds.sub? window.clockSkew = some a.notBefore ∧
      now.wholeSeconds.add? window.validity = some a.notOnOrAfter ∧
      a.authnInstant = (context.authnInstant.getD now).wholeSeconds := by
  rcases build_cases issuer subject attributes audiences window context now id newSession with
    ⟨-, hrun⟩ | ⟨-, -, hrun⟩ | ⟨-, notBefore, notOnOrAfter, hbefore, hafter, hrun⟩
  · rw [hrun] at h
    cases h
  · rw [hrun] at h
    cases h
  · rw [hrun] at h
    obtain rfl := Except.ok.inj h
    refine ⟨rfl, hbefore, hafter, ?_⟩
    cases context.authnInstant <;> rfl

/-- An assertion for somebody is built if its bounds can be shown. -/
theorem exists_build_iff
    (haudiences : audiences ≠ [] ∧ ∀ audience ∈ audiences, isBlankText audience = false) :
    (∃ a, build issuer subject attributes audiences window context now id newSession = .ok a) ↔
      (now.wholeSeconds.sub? window.clockSkew).isSome ∧
        (now.wholeSeconds.add? window.validity).isSome := by
  constructor
  · rintro ⟨a, h⟩
    obtain ⟨-, hbefore, hafter, -⟩ := bounds_of_build h
    rw [hbefore, hafter]
    exact ⟨rfl, rfl⟩
  rintro ⟨hbefore, hafter⟩
  rcases build_cases issuer subject attributes audiences window context now id newSession with
    ⟨hnobody, -⟩ | ⟨-, hnone | hnone, -⟩ | ⟨-, notBefore, notOnOrAfter, -, -, h⟩
  · have hsomebody : (audiences.isEmpty || audiences.any isBlankText) = false := by
      simpa [List.isEmpty_iff] using haudiences
    rw [hsomebody] at hnobody
    cases hnobody
  · rw [hnone] at hbefore
    cases hbefore
  · rw [hnone] at hafter
    cases hafter
  · exact ⟨_, h⟩

/-- **Windows of whole seconds give instants of whole seconds.** -/
theorem subsecond_of_build (hwindow : window.InSeconds)
    (h : build issuer subject attributes audiences window context now id newSession = .ok a) :
    ∀ t ∈ a.instants, t.subsecond = 0 := by
  obtain ⟨⟨n, -, hvalidity⟩, ⟨k, -, hclockSkew⟩⟩ := hwindow
  obtain ⟨hissued, hbefore, hafter, hauthn⟩ := bounds_of_build h
  rw [hclockSkew] at hbefore
  rw [hvalidity] at hafter
  have hwhole := now.subsecond_wholeSeconds
  rw [instants, hissued, hauthn]
  simp only [List.forall_mem_cons, List.not_mem_nil, false_imp_iff, implies_true, and_true]
  exact ⟨hwhole, Instant.subsecond_add? hwhole hafter, Instant.subsecond_sub? hwhole hbefore,
    Instant.subsecond_wholeSeconds _⟩

end Built

/-- **An assertion is valid when it is built, and on the wire.**  It is built if its bounds can be
shown.  It is valid at `now`, it was issued less than a second before, and its bounds are as far
from its issue as the window says.  It can be written if its instants are in years of four digits;
and then what is written says these instants, whomever it is delivered to and whatever it answers.
-/
theorem build_valid_on_wire (issuer : String) (subject : Subject) (attributes : Attributes)
    {audiences : List String} {window : ValidityWindow} (context : AuthnContext) (now : Instant)
    (id newSession : String) (hwindow : window.InSeconds)
    (haudiences : audiences ≠ [] ∧ ∀ audience ∈ audiences, isBlankText audience = false) :
    ((∃ a, build issuer subject attributes audiences window context now id newSession = .ok a) ↔
        (now.wholeSeconds.sub? window.clockSkew).isSome ∧
          (now.wholeSeconds.add? window.validity).isSome) ∧
      ∀ a, build issuer subject attributes audiences window context now id newSession = .ok a →
        a.ValidAround window now ∧
          a.authnInstant = (context.authnInstant.getD now).wholeSeconds ∧
          ∀ recipient inResponseTo,
            ((∃ e, { a with recipient, inResponseTo }.toElement = .ok e) ↔
                ∀ t ∈ a.instants, t.FourDigitYear) ∧
              ∀ e, { a with recipient, inResponseTo }.toElement = .ok e → a.States e := by
  refine ⟨exists_build_iff haudiences, fun a ha => ?_⟩
  obtain ⟨hissued, hbefore, hafter, hauthn⟩ := bounds_of_build ha
  refine ⟨validAround_of_bounds hwindow hissued hbefore hafter, hauthn,
    fun recipient inResponseTo => ⟨exists_toElement_iff, fun e he => ?_⟩⟩
  have hwhole : ∀ t ∈ a.instants, t.subsecond = 0 := subsecond_of_build hwindow ha
  have hstates := states_of_toElement he hwhole
  exact ⟨hstates.issueInstant, hstates.notBefore, hstates.notOnOrAfter, hstates.authnInstant⟩

/-- An assertion is built in the last nanosecond of 1969, an hour ahead of UTC, for a user who had
authenticated in the same second by a clock behind UTC: it is valid in that nanosecond, which is not
written, and what is written is all its instants. -/
theorem build_valid_on_wire_before_1970 :
    ∃ a e, build "https://idp.example" ⟨"ada", nameIdUnspecified⟩ ⟨[]⟩ ["https://sp.example"]
        .default ⟨passwordProtectedTransport, some ⟨-500000000, -7200, by decide⟩, none⟩
        Instant.lastOf1969 "_a" "_s" = .ok a ∧
      a.ValidAround .default Instant.lastOf1969 ∧ a.toElement = .ok e ∧ a.States e := by
  have hwindow : ValidityWindow.default.InSeconds :=
    ⟨⟨300, by decide, rfl⟩, ⟨60, by decide, rfl⟩⟩
  have haudiences : ["https://sp.example"] ≠ [] ∧
      ∀ audience ∈ ["https://sp.example"], isBlankText audience = false := by decide
  obtain ⟨hbuilt, hvalid⟩ := build_valid_on_wire "https://idp.example" ⟨"ada", nameIdUnspecified⟩
    ⟨[]⟩ ⟨passwordProtectedTransport, some ⟨-500000000, -7200, by decide⟩, none⟩
    Instant.lastOf1969 "_a" "_s" hwindow haudiences
  obtain ⟨a, ha⟩ := hbuilt.mpr (by decide)
  obtain ⟨haround, -, hwire⟩ := hvalid a ha
  obtain ⟨hwritten, hstates⟩ := hwire a.recipient a.inResponseTo
  obtain ⟨e, he⟩ := hwritten.mpr (by cases ha; decide)
  exact ⟨a, e, ha, haround, he, hstates e he⟩

end Assertion
end WebSso
