import Mathlib.Data.List.TakeWhile
import WebSso.Proofs.Config.Directory
import WebSso.Proofs.IdentityProvider.Respond

/-!
# What a password shows

A key holds a name and a password, and a call is made with the whole of it.  The password decides
whether a user is found and which; nothing else that a call does, reports or leaves behind may
depend on it.  This file compares the runs of two calls whose keys differ in the password only.

There are two comparisons.  Keys that find users of the same attributes, or none, cannot be told
apart at all.  A key that finds no user is answered as by a provider that has no users: nobody
learns from a refusal whether the name exists with another password.

## What is here

* `Directory.Alike`, two keys of one name that find the same attributes;
* `ResolvedIdentity.concealed`, a user without the key, and `Resolver.concealed_resolve`: this is
  the same for such keys;
* `IdentityProvider.grant_eq_of_alike` and `IdentityProvider.issue_withoutUsers`, what the two
  comparisons come to for a response that is issued;
* `IdentityProvider.hides_password`, both comparisons for all calls.
-/

set_option autoImplicit false
namespace WebSso

/-! ## Names -/

/-- The name of a user is the name that a key without a password names. -/
@[simp] theorem username_username (key : String) : username (username key) = username key := by
  rw [username, username, String.toList_ofList, List.takeWhile_idem]

/-! ## Users without their keys -/

/-- Two keys name one user, and either both find nobody or they find the same attributes. -/
structure Directory.Alike (d : Directory) (key other : String) : Prop where
  /-- What may be shown of the keys is the same. -/
  username_eq : username key = username other
  /-- So is what is configured for them. -/
  attributes_eq : (d.identity? key).map (·.attributes) = (d.identity? other).map (·.attributes)

/-- A user with nothing in place of the key. -/
def ResolvedIdentity.concealed (identity : ResolvedIdentity) : ResolvedIdentity :=
  { identity with key := "" }

namespace Resolver

variable {r : Resolver} {key other : String}

/-- **Keys that are alike find users that differ in the key only**, or find nobody in the same
way. -/
theorem concealed_resolve (alike : r.directory.Alike key other) :
    (r.resolve key).map (·.concealed) = (r.resolve other).map (·.concealed) := by
  have hattributes := alike.attributes_eq
  rw [resolve, resolve]
  cases hkey : r.directory.identity? key with
  | none =>
    rw [hkey] at hattributes
    rw [Option.map_eq_none_iff.1 hattributes.symm, alike.username_eq]
  | some record =>
    rw [hkey] at hattributes
    obtain ⟨twin, htwin, hsame⟩ := Option.map_eq_some_iff.1 hattributes.symm
    have hname : username record.key = username twin.key := by
      rw [Directory.key_of_identity? hkey, Directory.key_of_identity? htwin, alike.username_eq]
    rw [htwin]
    simp only [Except.map, ResolvedIdentity.concealed, hname, hsame]

/-- What is released about a user does not depend on the key once the user is found. -/
theorem release_eq (r : Resolver) (key : String) :
    r.release key = ((r.resolve key).map (·.concealed)).map (·.released) := by
  rw [release]
  cases r.resolve key with
  | error cause => rfl
  | ok identity => rfl

end Resolver

namespace IdentityProvider

variable {p : IdentityProvider} {key other : String}

/-! ## Keys that are alike -/

/-- **What is decided before anything is signed** depends on a user only as far as it is the same
for keys that are alike. -/
theorem grant_eq_of_alike (alike : p.resolver.directory.Alike key other)
    (request : ReceivedRequest) (solicited : Bool) (now : Instant) :
    p.grant request solicited key now = p.grant request solicited other now := by
  have h := Resolver.concealed_resolve alike
  rw [grant, grant, authenticated, authenticated]
  cases hkey : p.resolver.resolve key with
  | error cause =>
    cases hother : p.resolver.resolve other with
    | error cause' =>
      rw [hkey, hother] at h
      cases h
      rfl
    | ok twin => rw [hkey, hother] at h; cases h
  | ok identity =>
    cases hother : p.resolver.resolve other with
    | error cause => rw [hkey, hother] at h; cases h
    | ok twin =>
      rw [hkey, hother] at h
      obtain ⟨_, user, raw, released⟩ := identity
      obtain ⟨_, user', raw', released'⟩ := twin
      cases h
      rfl

theorem issue_eq_of_alike (alike : p.resolver.directory.Alike key other)
    (request : ReceivedRequest) (solicited : Bool) (now : Instant) :
    p.issue request solicited key now = p.issue request solicited other now := by
  rw [issue, issue, grant_eq_of_alike alike]

/-! ## Keys that find nobody -/

/-- The provider without its users. -/
def withoutUsers (p : IdentityProvider) : IdentityProvider :=
  { p with resolver :=
      { p.resolver with directory :=
          { identities := [], serviceProviders := p.serviceProviders } } }

theorem identity?_withoutUsers (p : IdentityProvider) (key : String) :
    p.withoutUsers.resolver.directory.identity? key = none :=
  (Directory.identity?_eq_none_iff _ key).2 fun _ h => absurd h List.not_mem_nil

/-- A fresh request is not answered for a key that finds nobody. -/
theorem Responds.eq_unknownUser {request : ReceivedRequest} {now : Instant} {c final : ReplayCache}
    {ids : Nat → String} {result : Except Fault FinishedResponse}
    (h : p.Responds request key now c ids result final) (fresh : p.Fresh request.issueInstant now)
    (unknown : p.resolver.directory.identity? key = none) :
    result = .error (.authnFailed (username key)) := by
  cases h.issues fresh with
  | unknownUser => rfl
  | replayed known | admitted known =>
    rw [Resolver.resolve_of_unknown unknown] at known
    cases known

/-- **A refusal does not show whether the name exists**: it is that of a provider without users. -/
theorem issue_withoutUsers (unknown : p.resolver.directory.identity? key = none)
    (request : ReceivedRequest) (solicited : Bool) (now : Instant) :
    p.issue request solicited key now
      = p.withoutUsers.issue request solicited (username key) now := by
  rw [issue_of_unknown unknown, issue_of_unknown (p.identity?_withoutUsers _), username_username]

/-- Nothing is consumed for a key that finds nobody. -/
theorem cache_respond_of_unknown (unknown : p.resolver.directory.identity? key = none)
    (request : ReceivedRequest) (now : Instant) (s : Session) :
    ((p.respond request key now).run s).2.cache = s.cache := by
  have hissue : (p.issueFresh request key now).Blind := by
    refine (Step.Reports.attempt rfl).blind.bind fun _ => ?_
    rw [issue_of_unknown unknown]
    exact (Step.Reports.attempt rfl).blind
  rw [respond_eq]
  exact (hissue.catching.bind (p.settle_blind request now)).cache_eq s

/-- A fresh request is refused in the name of the key. -/
theorem respond_of_unknown (unknown : p.resolver.directory.identity? key = none)
    {request : ReceivedRequest} {now : Instant} (fresh : p.Fresh request.issueInstant now)
    (hrange : p.InRange request.issueInstant now) (s : Session) :
    ∃ response, ((p.respond request key now).run s).1
      = .ok (.rejected (.authnFailed (username key)) response) := by
  rcases p.run_respond request key now s with ⟨hout, -⟩ | ⟨outcome, houtcome, hresponds⟩
  · exact absurd hrange hout
  obtain ⟨response, rfl⟩ := exists_eq_rejected (hresponds.eq_unknownUser fresh unknown)
  exact ⟨response, houtcome⟩

/-! ## All calls -/

/-- **The password of a key never shows.**  Of two keys that are alike, the same is released, the
same is decided before anything is signed, down to the assertion, and calls have the same runs: the
same result, reports, draws and used IDs.  A key that finds nobody has the runs of its bare name at
a provider without users; they use nothing up, and a fresh request is refused in that name. -/
theorem hides_password (p : IdentityProvider) (key : String) :
    (∀ other, p.resolver.directory.Alike key other →
      p.resolver.release key = p.resolver.release other ∧
      ∀ (request : ReceivedRequest) (now : Instant) (s : Session),
        (∀ solicited, (p.grant request solicited key now).run s
          = (p.grant request solicited other now).run s) ∧
        (p.respond request key now).run s = (p.respond request other now).run s ∧
        ∀ audience, (p.authenticate key audience now).run s
          = (p.authenticate other audience now).run s) ∧
    (p.resolver.directory.identity? key = none →
      p.resolver.release key = .error (.unknownIdentity (username key)) ∧
      ∀ (request : ReceivedRequest) (now : Instant) (s : Session),
        (p.respond request key now).run s
          = (p.withoutUsers.respond request (username key) now).run s ∧
        ((p.respond request key now).run s).2.cache = s.cache ∧
        (p.Fresh request.issueInstant now → p.InRange request.issueInstant now →
          ∃ response, ((p.respond request key now).run s).1
            = .ok (.rejected (.authnFailed (username key)) response)) ∧
        ∀ audience, (p.authenticate key audience now).run s
          = (p.withoutUsers.authenticate (username key) audience now).run s) := by
  constructor
  · intro other alike
    refine ⟨?_, fun request now s => ⟨fun solicited => ?_, ?_, fun audience => ?_⟩⟩
    · rw [Resolver.release_eq, Resolver.release_eq, Resolver.concealed_resolve alike]
    · rw [grant_eq_of_alike alike]
    · simp only [respond, issue_eq_of_alike alike]
    · simp only [authenticate, issue_eq_of_alike alike]
  · intro unknown
    refine ⟨?_, fun request now s => ⟨?_, cache_respond_of_unknown unknown request now s,
      fun fresh hrange => respond_of_unknown unknown fresh hrange s, fun audience => ?_⟩⟩
    · rw [Resolver.release, Resolver.resolve_of_unknown unknown]
      rfl
    · simp only [respond, issue_withoutUsers unknown]
      rfl
    · simp only [authenticate, issue_withoutUsers unknown]
      rfl

/-- The provider of `solo`, whose user has two passwords. -/
def twofold : IdentityProvider :=
  { solo with resolver :=
      { directory :=
          { identities :=
              [⟨"user1:old", .ofList [("uid", ["u1"])]⟩, ⟨"user1:new", .ofList [("uid", ["u1"])]⟩]
            serviceProviders := [] }
        filters := [] } }

/-- Either password is as good as the other, and a third is as bad as if there were no user. -/
theorem hides_password_twofold :
    twofold.resolver.directory.Alike "user1:old" "user1:new" ∧
      (twofold.respond soloRequest "user1:old" noon).run (.start fun _ => 0)
        = (twofold.respond soloRequest "user1:new" noon).run (.start fun _ => 0) ∧
      twofold.resolver.directory.identity? "user1:old" ≠ none ∧
      twofold.resolver.directory.identity? "user1:wrong" = none ∧
      (twofold.respond soloRequest "user1:wrong" noon).run (.start fun _ => 0)
        = (twofold.withoutUsers.respond soloRequest "user1" noon).run (.start fun _ => 0) ∧
      ∃ response, ((twofold.respond soloRequest "user1:wrong" noon).run (.start fun _ => 0)).1
        = .ok (.rejected (.authnFailed "user1") response) := by
  have alike : twofold.resolver.directory.Alike "user1:old" "user1:new" := by
    refine ⟨by decide, ?_⟩
    rw [Directory.identity?_eq_findRev?, Directory.identity?_eq_findRev?]
    rfl
  have known : twofold.resolver.directory.identity? "user1:old" ≠ none := by
    rw [Directory.identity?_eq_findRev?]
    nofun
  have unknown : twofold.resolver.directory.identity? "user1:wrong" = none := by
    rw [Directory.identity?_eq_findRev?]
    rfl
  have hrange : twofold.InRange soloRequest.issueInstant noon :=
    inRange_solo.of_windows rfl rfl rfl
  have fresh : twofold.Fresh soloRequest.issueInstant noon := by decide
  have hname : username "user1:wrong" = "user1" := by decide
  obtain ⟨-, hsame⟩ := (hides_password twofold "user1:old").1 "user1:new" alike
  obtain ⟨-, hrefused⟩ := (hides_password twofold "user1:wrong").2 unknown
  obtain ⟨hbare, -, hnamed, -⟩ := hrefused soloRequest noon (.start fun _ => 0)
  refine ⟨alike, (hsame soloRequest noon (.start fun _ => 0)).2.1, known, unknown, ?_, ?_⟩
  · rw [← hname]
    exact hbare
  · rw [← hname]
    exact hnamed fresh hrange

end IdentityProvider

end WebSso
