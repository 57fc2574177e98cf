import WebSso.Proofs.IdentityProvider.Calls

/-!
# How often a request is answered

A request should be answered once.  Its ID is remembered for as long as the request would be
accepted, but the two rules do not end at the same instant: a request is accepted up to and
including an instant, and its ID is forgotten from that instant on.  So there is one nanosecond at
which it can be answered again, unless the configuration remembers IDs for longer.  This file shows
that it is the only one.

## What is here

* `IdentityProvider.admission` and `IdentityProvider.Admits`, answering a request up to and with the
  check that it is not a replay;
* `IdentityProvider.BuiltFrom`, the providers of one configuration, which accept the same requests;
* `IdentityProvider.Reopens`, the instant at which a request can be answered again, and
  `IdentityProvider.RefusedFrom`, that a request is refused whatever happened in the meantime;
* `IdentityProvider.Admits.contains_after` and `IdentityProvider.Admits.again`, the ID of a request
  that was answered before that instant and at it;
* `IdentityProvider.refused_iff`: a request that was answered is refused at every instant but one,
  and at that one as well if IDs are remembered for longer than requests are accepted.
-/

set_option autoImplicit false
namespace WebSso
namespace IdentityProvider

/-! ## Admission -/

/-- Answering a request, up to and with the check that it is not a replay. -/
def admission (p : IdentityProvider) (request : ReceivedRequest) (key : String) (now : Instant) :
    Step ResolvedIdentity :=
  Step.attempt (p.checkFreshness request.id request.issueInstant now) >>= fun _ =>
    p.examine request key now >>= fun e =>
      Step.consume request.id e.2 now >>= fun _ => pure e.1

/-- **Answering starts with the admission.** -/
theorem respond_eq_admission (p : IdentityProvider) (request : ReceivedRequest) (key : String)
    (now : Instant) :
    p.respond request key now
      = Step.catching (p.admission request key now >>= fun identity =>
          p.complete request true identity now)
        >>= p.settle request now := by
  simp only [respond_eq, issueFresh, issue_eq, admission, bind_assoc, pure_bind]

/-- A request gets past the check that it is not a replay. -/
def Admits (p : IdentityProvider) (request : ReceivedRequest) (key : String) (now : Instant)
    (s : Session) : Prop :=
  ∃ identity, ((p.admission request key now).run s).1 = .ok identity

section Admission

variable {p : IdentityProvider} {request : ReceivedRequest} {key : String} {now : Instant}
  {s : Session}

/-- A request is admitted if it is fresh, its user is known, and its ID is not remembered; then its
ID is recorded. -/
theorem run_admission {identity : ResolvedIdentity} {expiry : Instant}
    (checked : p.checkFreshness request.id request.issueInstant now = .ok ())
    (known : p.resolver.resolve key = .ok identity)
    (held : p.rememberedUntil request now = .ok expiry)
    (unused : s.cache.contains request.id now = false) :
    ∃ events, (p.admission request key now).run s
      = (.ok identity, (s.reporting events).withCache (s.cache.record request.id expiry)) := by
  obtain ⟨events, hexamine⟩ := examine_of_known known held
  have hconsume := Step.run_consume_of_not_contains (s := s.reporting events) unused expiry
  refine ⟨events, ?_⟩
  rw [admission, checked, Step.run_bind_of_ok (Step.run_attempt (.ok ()) s),
    Step.run_bind_of_ok (hexamine s), Step.run_bind_of_ok hconsume]
  rfl

/-- **When a request is admitted.** -/
theorem admits_iff :
    p.Admits request key now s ↔
      p.checkFreshness request.id request.issueInstant now = .ok () ∧
      (∃ identity, p.resolver.resolve key = .ok identity) ∧
      (∃ expiry, p.rememberedUntil request now = .ok expiry) ∧
      s.cache.contains request.id now = false := by
  constructor
  · rintro ⟨identity, h⟩
    rw [admission] at h
    cases checked : p.checkFreshness request.id request.issueInstant now with
    | error stop =>
      rw [checked, Step.run_bind_of_error (Step.run_attempt (.error stop) s)] at h
      cases h
    | ok =>
      rw [checked, Step.run_bind_of_ok (Step.run_attempt (.ok ()) s)] at h
      rcases p.examine_reports request key now with
        ⟨-, _, hexamine⟩ | ⟨-, _, hexamine⟩ | ⟨user, expiry, known, held, -, events, hexamine⟩
      · rw [Step.run_bind_of_error (hexamine s)] at h
        cases h
      · rw [Step.run_bind_of_error (hexamine s)] at h
        cases h
      refine ⟨rfl, ⟨user, known⟩, ⟨expiry, held⟩, ?_⟩
      rw [Step.run_bind_of_ok (hexamine s)] at h
      cases unused : s.cache.contains request.id now with
      | false => rfl
      | true =>
        have hconsume := Step.run_consume_of_contains (s := s.reporting events) unused expiry
        rw [Step.run_bind_of_error hconsume] at h
        cases h
  · rintro ⟨checked, ⟨identity, known⟩, ⟨expiry, held⟩, unused⟩
    obtain ⟨events, h⟩ := run_admission checked known held unused
    exact ⟨identity, by rw [h]⟩

/-- **What an admission leaves.**  The ID of the request is recorded, and the rest of the answer
uses the cache at the same instant.  It is still recorded at the end unless the assertion was given
the same ID. -/
theorem Admits.cache_respond (h : p.Admits request key now s) :
    ∃ expiry uses, expiry.nanoseconds = p.heldUntil request.issueInstant now ∧
      (∀ use ∈ uses, CacheCall.now use = now) ∧
      ((p.respond request key now).run s).2.cache
        = (s.cache.record request.id expiry).after uses ∧
      (request.id ≠ s.upcomingId 0 →
        ((p.respond request key now).run s).2.cache.expiry? request.id = some expiry) := by
  obtain ⟨checked, ⟨identity, known⟩, ⟨expiry, held⟩, unused⟩ := admits_iff.1 h
  obtain ⟨events, hadmission⟩ := run_admission checked known held unused
  have hns := nanoseconds_of_rememberedUntil held
  have hcache := Step.Blind.cache_bind (p.settle_blind request now)
    (Step.catching (p.admission request key now >>= fun identity =>
      p.complete request true identity now)) s
  rw [← respond_eq_admission, Step.snd_run_catching, Step.run_bind_of_ok hadmission] at hcache
  obtain ⟨uses, huses, hafter⟩ := p.complete_usesAt request true identity now
    ((s.reporting events).withCache (s.cache.record request.id expiry))
  refine ⟨expiry, uses, hns, huses, hcache.trans hafter, fun hid => ?_⟩
  have hkept := p.expiry?_complete (s := (s.reporting events).withCache
    (s.cache.record request.id expiry)) hid request true identity now
  rw [hcache, hkept]
  exact ReplayCache.expiry?_record_self s.cache request.id expiry

end Admission

/-! ## Providers of one configuration -/

/-- A provider of a configuration, whatever its key and the algorithms it signs with. -/
def BuiltFrom (p : IdentityProvider) (c : Config) : Prop :=
  ∃ key signer built options, ofConfig c key signer = .ok built ∧ p = { built with options }

/-- A provider is made of a configuration that was accepted, with its directory, its release policy
and its windows. -/
theorem ofConfig_eq_ok {c : Config} {key : SigningKey} {signer : Signer} {built : IdentityProvider}
    (h : ofConfig c key signer = .ok built) :
    c.validate = .ok () ∧ c.resolver = .ok built.resolver ∧
      built.window = ⟨c.assertionValidity, c.clockSkew⟩ ∧ built.replayWindow = c.replayWindow ∧
      built.maxRequestAge = c.maxRequestAge := by
  rw [ofConfig] at h
  cases hvalid : c.validate with
  | error cause => rw [hvalid] at h; cases h
  | ok =>
    cases hresolver : c.resolver with
    | error cause => rw [hvalid, hresolver] at h; cases h
    | ok resolver =>
      rw [hvalid, hresolver] at h
      cases h
      exact ⟨rfl, rfl, rfl, rfl, rfl⟩

/-- The providers of a configuration have its windows. -/
theorem BuiltFrom.windows {p : IdentityProvider} {c : Config} (h : p.BuiltFrom c) :
    p.window = ⟨c.assertionValidity, c.clockSkew⟩ ∧ p.replayWindow = c.replayWindow ∧
      p.maxRequestAge = c.maxRequestAge := by
  obtain ⟨key, signer, built, options, hbuilt, rfl⟩ := h
  exact (ofConfig_eq_ok hbuilt).2.2

theorem BuiltFrom.lastAccepted_eq {p q : IdentityProvider} {c : Config} (hp : p.BuiltFrom c)
    (hq : q.BuiltFrom c) (issued : Instant) : q.lastAccepted issued = p.lastAccepted issued := by
  rw [lastAccepted, lastAccepted, hp.windows.1, hp.windows.2.2, hq.windows.1, hq.windows.2.2]

/-! ## The instant at which a request can be answered again -/

/-- `now` is the last instant at which a request is accepted, and the ID of a request that was
answered at `first` is not to be remembered beyond it. -/
def Reopens (p : IdentityProvider) (issued first now : Instant) : Prop :=
  now.nanoseconds = p.lastAccepted issued ∧
    first.nanoseconds + p.replayWindow.nanoseconds ≤ now.nanoseconds

section Refusal

variable {p : IdentityProvider} {request : ReceivedRequest} {key : String} {first now : Instant}
  {s : Session}

/-- **An ID is remembered for as long as the request is accepted**, up to that instant. -/
theorem Admits.contains_after (admitted : p.Admits request key first s)
    {between : List ProviderCall} (later : first ≤ now) (early : ∀ call ∈ between, call.now ≤ now)
    (accepted : now.nanoseconds ≤ p.lastAccepted request.issueInstant)
    (h : ¬ p.Reopens request.issueInstant first now) :
    ((s.after [.respond p request key first]).after between).cache.contains request.id now
      = true := by
  obtain ⟨expiry, uses, hns, huses, hcache, -⟩ := admitted.cache_respond
  have hlt : now < expiry := by
    rw [Reopens] at h
    rw [Instant.lt_iff, hns, heldUntil]
    omega
  have hheld : (s.after [.respond p request key first]).cache.expiry? request.id = some expiry := by
    show ((p.respond request key first).run s).2.cache.expiry? request.id = some expiry
    rw [hcache]
    refine (ReplayCache.held_after uses _ (ReplayCache.expiry?_record_self _ _ _) ?_).1
    exact fun use hu _ => huses use hu ▸ lt_of_le_of_lt later hlt
  have hbetween : ∀ call ∈ between, call.now < expiry :=
    fun call hcall => lt_of_le_of_lt (early call hcall) hlt
  have hkept := Session.held_after between _ hheld hbetween
  rw [ReplayCache.contains_eq_decide hkept, decide_eq_true_eq]
  exact hlt

/-- A request that was answered is admitted again at the instant at which its ID is forgotten,
unless the assertion was given the same ID. -/
theorem Admits.again (admitted : p.Admits request key first s) (hid : request.id ≠ s.upcomingId 0)
    (later : first ≤ now) (hskew : (now.add? p.window.clockSkew).isSome)
    (hwindow : (now.add? p.replayWindow).isSome) (h : p.Reopens request.issueInstant first now) :
    p.Admits request key now (s.after [.respond p request key first]) := by
  obtain ⟨checked, known, ⟨_, held⟩, -⟩ := admits_iff.1 admitted
  obtain ⟨expiry, -, hns, -, -, hexpiry⟩ := admitted.cache_respond
  obtain ⟨hlast, hforgotten⟩ := h
  have hfresh := fresh_of_checkFreshness checked
  rw [Instant.le_iff] at later
  refine admits_iff.2 ⟨?_, known, ?_, ?_⟩
  · -- the request is neither from the future, as it was not at first, nor too old
    have hnow : p.Fresh request.issueInstant now := by
      rw [Fresh] at hfresh ⊢
      omega
    exact checkFreshness_of_fresh hnow hskew (exists_acceptedUntil held)
  · exact exists_rememberedUntil hwindow (exists_acceptedUntil held)
  · -- the ID is forgotten at the very instant that is the last one
    have hle : expiry ≤ now := by
      rw [Instant.le_iff, hns, heldUntil]
      omega
    show ((p.respond request key first).run s).2.cache.contains request.id now = false
    rw [ReplayCache.contains_eq_decide (hexpiry hid), decide_eq_false_iff_not, Instant.not_lt]
    exact hle

end Refusal

/-! ## Refusal -/

/-- Since its first answer, a request is refused at an instant by every provider of a configuration,
whatever calls came in between, as one that was used if nothing else speaks against it. -/
def RefusedFrom (c : Config) (request : ReceivedRequest) (first now : Instant) (s : Session) :
    Prop :=
  ∀ (between : List ProviderCall) (q : IdentityProvider) (key : String),
    (∀ call ∈ between, ∀ p, call.provider? = some p → p.BuiltFrom c) → q.BuiltFrom c →
    (first :: between.map (·.now) ++ [now]).Pairwise (· ≤ ·) →
    ¬ q.Admits request key now (s.after between) ∧
      (q.Fresh request.issueInstant now → q.InRange request.issueInstant now →
        (∃ identity, q.resolver.resolve key = .ok identity) →
        ∃ response, ((q.respond request key now).run (s.after between)).1
          = .ok (.rejected (.replayDetected request.id) response))

/-- A request that was admitted is refused at every instant that does not reopen it. -/
theorem Admits.refusedFrom {c : Config} {p : IdentityProvider} {request : ReceivedRequest}
    {key : String} {first now : Instant} {s : Session} (admitted : p.Admits request key first s)
    (built : p.BuiltFrom c)
    (h : ¬ ((now.add? p.window.clockSkew).isSome ∧ (now.add? p.replayWindow).isSome ∧
      p.Reopens request.issueInstant first now)) :
    RefusedFrom c request first now (s.after [.respond p request key first]) := by
  intro between q other _ hq hchron
  obtain ⟨-, -, hlast⟩ := List.pairwise_append.1 hchron
  have later : first ≤ now := hlast first List.mem_cons_self now List.mem_cons_self
  have early : ∀ call ∈ between, call.now ≤ now := fun call hcall =>
    hlast _ (List.mem_cons_of_mem _ (List.mem_map_of_mem hcall)) now List.mem_cons_self
  have hwindow : q.window = p.window := hq.windows.1.trans built.windows.1.symm
  have hreplay : q.replayWindow = p.replayWindow := hq.windows.2.1.trans built.windows.2.1.symm
  -- once the range is not left, the ID is remembered if the request is accepted
  have hused : q.Fresh request.issueInstant now → (now.add? q.window.clockSkew).isSome →
      (now.add? q.replayWindow).isSome →
      ((s.after [.respond p request key first]).after between).cache.contains request.id now
        = true := by
    intro hfresh hskew hremembered
    rw [hwindow] at hskew
    rw [hreplay] at hremembered
    refine admitted.contains_after later early ?_ fun hopen => h ⟨hskew, hremembered, hopen⟩
    exact built.lastAccepted_eq hq request.issueInstant ▸ hfresh.2
  refine ⟨fun hadmits => ?_, fun hfresh hrange hknown => ?_⟩
  · obtain ⟨checked, -, ⟨_, held⟩, unused⟩ := admits_iff.1 hadmits
    rw [hused (fresh_of_checkFreshness checked) (isSome_of_checkFreshness checked)
      (isSome_of_rememberedUntil held)] at unused
    cases unused
  · rcases q.run_respond request other now ((s.after [.respond p request key first]).after between)
      with ⟨hout, -⟩ | ⟨outcome, houtcome, hresponds⟩
    · exact absurd hrange hout
    · obtain ⟨response, rfl⟩ := exists_eq_rejected (hresponds.eq_replayed hfresh hknown
        (hused hfresh hrange.latestIssue hrange.remembered))
      exact ⟨response, houtcome⟩

/-- IDs that are remembered for longer than any request can be accepted are never forgotten too
early. -/
theorem Admits.refusedFrom_of_longWindow {c : Config} {p : IdentityProvider}
    {request : ReceivedRequest} {key : String} {first : Instant} {s : Session}
    (admitted : p.Admits request key first s) (built : p.BuiltFrom c)
    (long : p.maxRequestAge.nanoseconds + 2 * p.window.clockSkew.nanoseconds
      < p.replayWindow.nanoseconds) (now : Instant) :
    RefusedFrom c request first now (s.after [.respond p request key first]) := by
  refine admitted.refusedFrom built fun ⟨_, _, hopen⟩ => ?_
  have hfresh := (fresh_of_checkFreshness (admits_iff.1 admitted).1).1
  rw [Reopens, lastAccepted] at hopen
  omega

/-- No ID is the only one that can be drawn. -/
theorem exists_messageId_ne (id : String) : ∃ draw, id ≠ messageId draw := by
  by_cases h : id = messageId 0
  · exact ⟨1, fun h' => absurd (h.symm.trans h') (by decide +kernel)⟩
  · exact ⟨0, h⟩

/-- **A request is answered once, but for one instant.**  Once a provider of a configuration has
admitted a request, every provider of the configuration refuses it from then on, whatever calls come
in between and whatever is drawn for them, at exactly those instants that do not reopen it: the last
one at which it is accepted does, if at the first answer IDs were not remembered beyond it. -/
theorem refused_iff {c : Config} {p : IdentityProvider} {request : ReceivedRequest} {key : String}
    {first now : Instant} {s : Session} (built : p.BuiltFrom c)
    (admitted : p.Admits request key first s) (later : first ≤ now) :
    (∀ draws, RefusedFrom c request first now
        (({ s with draws } : Session).after [.respond p request key first])) ↔
      ¬ ((now.add? p.window.clockSkew).isSome ∧ (now.add? p.replayWindow).isSome ∧
        p.Reopens request.issueInstant first now) := by
  have hadmits : ∀ draws, p.Admits request key first ({ s with draws } : Session) :=
    fun draws => admits_iff.2 ((admits_iff (s := s)).1 admitted)
  constructor
  · rintro hrefused ⟨hskew, hremembered, hopen⟩
    obtain ⟨draw, hdraw⟩ := exists_messageId_ne request.id
    have hagain := (hadmits fun _ => draw).again hdraw later hskew hremembered hopen
    have hchron : (first :: ([] : List ProviderCall).map (·.now) ++ [now]).Pairwise (· ≤ ·) := by
      simpa using later
    have hnone : ∀ call ∈ ([] : List ProviderCall), ∀ q, call.provider? = some q → q.BuiltFrom c :=
      fun _ hcall => absurd hcall List.not_mem_nil
    exact (hrefused (fun _ => draw) [] p key hnone built hchron).1 hagain
  · exact fun h draws => (hadmits draws).refusedFrom built h

/-- The user of `solo` is known. -/
theorem resolve_solo : ∃ identity, solo.resolver.resolve "user1:password" = .ok identity := by
  have h : solo.resolver.directory.identity? "user1:password" ≠ none := by
    show ((identityIndex soloConfig.identities)["user1:password"]?.bind _) ≠ none
    rw [identityIndex]
    show ((Std.HashMap.ofList [("user1:password", 0)])["user1:password"]?.bind _) ≠ none
    rw [Std.HashMap.ofList_singleton, Std.HashMap.getElem?_insert_self]
    nofun
  exact (solo.resolver.resolve_cases "user1:password").resolve_left h

theorem builtFrom_solo : solo.BuiltFrom soloConfig :=
  ⟨blankKey, .unavailable, solo, .default, ofConfig_soloConfig, rfl⟩

theorem admits_solo : solo.Admits soloRequest "user1:password" noon (.start fun _ => 0) :=
  admits_iff.2 ⟨by decide, resolve_solo, ⟨⟨1893499560000000000, 0, by decide⟩, by decide⟩, rfl⟩

/-- 2030-01-01T12:06:00Z, the last instant at which a request of noon is accepted. -/
def sixPastNoon : Instant := ⟨1893499560000000000, 0, by decide⟩

/-- A request of noon that was answered then is admitted again six minutes later. -/
theorem admits_solo_again :
    solo.BuiltFrom soloConfig ∧
      solo.Admits soloRequest "user1:password" noon (.start fun _ => 0) ∧
      solo.Admits soloRequest "user1:password" sixPastNoon
        ((Session.start fun _ => 0).after [.respond solo soloRequest "user1:password" noon]) :=
  ⟨builtFrom_solo, admits_solo,
    admits_solo.again (by decide +kernel) (by decide) (by decide) (by decide) ⟨rfl, by decide⟩⟩

/-- A nanosecond earlier it is refused. -/
theorem refused_solo :
    solo.BuiltFrom soloConfig ∧
      solo.Admits soloRequest "user1:password" noon (.start fun _ => 0) ∧
      noon ≤ ⟨1893499559999999999, 0, by decide⟩ ∧
      ∀ draws, RefusedFrom soloConfig soloRequest noon ⟨1893499559999999999, 0, by decide⟩
        (({ Session.start fun _ => 0 with draws } : Session).after
          [.respond solo soloRequest "user1:password" noon]) := by
  have later : noon ≤ ⟨1893499559999999999, 0, by decide⟩ := by decide
  refine ⟨builtFrom_solo, admits_solo, later, (refused_iff builtFrom_solo admits_solo later).2 ?_⟩
  rintro ⟨-, -, hlast, -⟩
  exact absurd hlast (by decide)

end IdentityProvider
end WebSso
