import WebSso.Assertion
import WebSso.Proofs.Time.Written

/-!
# When an assertion can be built and written

## What is here

* `Assertion.build_cases`, the three ways in which building an assertion ends;
* `Instant.write_cases`, the three ways in which writing an instant ends, and
  `Assertion.toElement_cases`, the same for an assertion: only its instants can fail.
-/

set_option autoImplicit false
namespace WebSso

/-! ## Building -/

/-- What is said of an assertion that is for nobody. -/
def noAudience : Fault := .invalidAudience "assertion needs at least one audience"

namespace Assertion

/-- **How building an assertion ends.**  It is refused for its audiences first; then an instant may
leave the range; else it is valid from `notBefore` to `notOnOrAfter`. -/
theorem build_cases (issuer : String) (subject : Subject) (attributes : Attributes)
    (audiences : List String) (window : ValidityWindow) (context : AuthnContext) (now : Instant)
    (id newSession : String) :
    ((audiences.isEmpty || audiences.any isBlankText) = true ∧
      build issuer subject attributes audiences window context now id newSession
        = Stop.refuse noAudience) ∨
    ((audiences.isEmpty || audiences.any isBlankText) = false ∧
      (now.wholeSeconds.sub? window.clockSkew = none ∨
        now.wholeSeconds.add? window.validity = none) ∧
      build issuer subject attributes audiences window context now id newSession
        = .error .outOfRange) ∨
    ((audiences.isEmpty || audiences.any isBlankText) = false ∧
      ∃ notBefore notOnOrAfter, now.wholeSeconds.sub? window.clockSkew = some notBefore ∧
        now.wholeSeconds.add? window.validity = some notOnOrAfter ∧
        build issuer subject attributes audiences window context now id newSession = .ok {
          id
          issuer
          subject
          issueInstant := now.wholeSeconds
          notBefore
          notOnOrAfter
          audiences
          attributes
          authnInstant := (context.authnInstant.map (·.wholeSeconds)).getD now.wholeSeconds
          authnContextClass := context.classRef
          sessionIndex := context.sessionIndex.getD newSession
          inResponseTo := none
          recipient := none }) := by
  cases ha : audiences.isEmpty || audiences.any isBlankText with
  | true => exact Or.inl ⟨rfl, by rw [build, if_pos ha]; rfl⟩
  | false =>
    refine Or.inr ?_
    rw [build, if_neg (by rw [ha]; exact Bool.false_ne_true)]
    dsimp only
    rcases Stop.inRange_cases (now.wholeSeconds.sub? window.clockSkew) with
      ⟨h, hnone⟩ | ⟨notBefore, h, hbefore⟩
    · exact Or.inl ⟨rfl, Or.inl hnone, by rw [h]; rfl⟩
    rcases Stop.inRange_cases (now.wholeSeconds.add? window.validity) with
      ⟨h', hnone⟩ | ⟨notOnOrAfter, h', hafter⟩
    · exact Or.inl ⟨rfl, Or.inr hnone, by rw [h, h']; rfl⟩
    · exact Or.inr ⟨rfl, notBefore, notOnOrAfter, hbefore, hafter, by rw [h, h']; rfl⟩

end Assertion

/-! ## Writing -/

/-- **How writing an instant ends.**  It may not exist at UTC, or its year there may not have four
digits. -/
theorem Instant.write_cases (t : Instant) :
    (t.toUtc? = none ∧ t.write = .error .outOfRange) ∨
      t.write = Stop.refuse Instant.unwritableYear ∨ ∃ text, t.write = .ok text := by
  cases hutc : t.toUtc? with
  | none => exact Or.inl ⟨rfl, by rw [write, hutc]; rfl⟩
  | some u =>
    rw [write_of_toUtc? hutc]
    by_cases hyear : t.FourDigitYear
    · exact Or.inr (Or.inr ⟨_, if_pos hyear⟩)
    · exact Or.inr (Or.inl (if_neg hyear))

namespace Assertion

/-- The instants of an assertion that are written, in the order in which they are. -/
def instants (a : Assertion) : List Instant :=
  [a.issueInstant, a.notOnOrAfter, a.notBefore, a.authnInstant]

/-- **How writing an assertion ends.**  Only its instants can fail to be written. -/
theorem toElement_cases (a : Assertion) :
    ((∃ t ∈ a.instants, t.toUtc? = none) ∧ a.toElement = .error .outOfRange) ∨
      a.toElement = Stop.refuse Instant.unwritableYear ∨
      ∃ element text, a.toElement = .ok element ∧ a.issueInstant.write = .ok text := by
  rw [toElement]
  rcases a.issueInstant.write_cases with ⟨hnone, h⟩ | h | ⟨issued, hissued⟩
  · exact Or.inl ⟨⟨_, by simp [instants], hnone⟩, by rw [h]; rfl⟩
  · exact Or.inr (Or.inl (by rw [h]; rfl))
  rw [hissued]
  rcases a.notOnOrAfter.write_cases with ⟨hnone, h⟩ | h | ⟨notOnOrAfter, h⟩
  · exact Or.inl ⟨⟨_, by simp [instants], hnone⟩, by rw [h]; rfl⟩
  · exact Or.inr (Or.inl (by rw [h]; rfl))
  rw [h]
  rcases a.notBefore.write_cases with ⟨hnone, h⟩ | h | ⟨notBefore, h⟩
  · exact Or.inl ⟨⟨_, by simp [instants], hnone⟩, by rw [h]; rfl⟩
  · exact Or.inr (Or.inl (by rw [h]; rfl))
  rw [h]
  rcases a.authnInstant.write_cases with ⟨hnone, h⟩ | h | ⟨authnInstant, h⟩
  · exact Or.inl ⟨⟨_, by simp [instants], hnone⟩, by rw [h]; rfl⟩
  · exact Or.inr (Or.inl (by rw [h]; rfl))
  rw [h]
  exact Or.inr (Or.inr ⟨_, issued, rfl, rfl⟩)

end Assertion

end WebSso
