import SignIn.Proofs.Refresh.Lookups
import SignIn.Proofs.Service.Ancestry
import SignIn.Proofs.Service.Availability
import SignIn.Proofs.Service.HandedOut
import SignIn.Proofs.Service.LastSteps

/-!
# A refresh that runs alone

A refresh writes to the refresh store twice : the new token is issued, and then the old one is
revoked. How it can end is read off its questions (`World.Refreshed`), and what it leaves behind off
the answers of a sound store (`World.LeftBehind`) : the store as it was, a new record beside the old
one, or a new record and the old one revoked.

In the second case the caller has an error, and the new secret is lost. That nobody else is handed
it later is an invariant of whatever comes then (`Withheld`) : no token is issued with a hash that a
record has.
-/

namespace SignIn

/-! ## Answers with their failures -/

namespace World

variable (w : World)

/-- What is said about a secret, unless a failure is set. -/
def validateRefresh (secret : String) : Except RefreshError ValidRefresh :=
  match w.faults.refreshValidate with
  | some cause => .error (w.refreshTokens.fail .validate cause)
  | none => w.refreshTokens.validate w.clock secret

/-- The profile of a user, unless a failure is set. -/
def userProfile (userId : String) : Except UserError Profile :=
  match w.faults.userProfile with
  | some e => .error e
  | none => w.users.profile userId

/-- Revokes a token of a store, unless a failure is set. -/
def revokeRefresh (s : RefreshStore) (tokenId : String) : Except RefreshError Unit × RefreshStore :=
  match w.faults.refreshRevoke with
  | some cause => (.error (s.fail .revoke cause), s)
  | none => s.revoke w.clock tokenId

theorem answer_eq_validateRefresh (secret : String) :
    answer (.validateRefresh secret) w = some (w.validateRefresh secret, w) := by
  unfold answer fault? validateRefresh
  cases w.faults.refreshValidate <;> rfl

theorem answer_eq_userProfile (userId : String) :
    answer (.userProfile userId) w = some (w.userProfile userId, w) := by
  unfold answer fault? userProfile
  cases w.faults.userProfile <;> rfl

theorem answer_eq_revokeRefresh (s : RefreshStore) (entropy : Entropy) (tokenId : String) :
    answer (.revokeRefresh tokenId) { w with refreshTokens := s, entropy := entropy } =
      some ((w.revokeRefresh s tokenId).1,
        { w with refreshTokens := (w.revokeRefresh s tokenId).2, entropy := entropy }) := by
  unfold answer fault? revokeRefresh
  cases w.faults.refreshRevoke <;> rfl

theorem validate_of_validateRefresh {w : World} {secret : String} {v : ValidRefresh}
    (h : w.validateRefresh secret = .ok v) : w.refreshTokens.validate w.clock secret = .ok v := by
  unfold validateRefresh at h
  cases hf : w.faults.refreshValidate with
  | some cause =>
    rw [hf] at h
    cases h
  | none => rwa [hf] at h

theorem profile_of_userProfile {w : World} {userId : String} {profile : Profile}
    (h : w.userProfile userId = .ok profile) : w.users.profile userId = .ok profile := by
  unfold userProfile at h
  cases hf : w.faults.userProfile with
  | some e =>
    rw [hf] at h
    cases h
  | none => rwa [hf] at h

/-! ## How a refresh goes -/

/-- What a refresh ends with once the new token is issued and the old one was to be revoked. -/
def ended (cookies : List String) : Except RefreshError Unit → Except AuthFailure (List String)
  | .ok () => .ok cookies
  | .error e => if e.cause = .alreadyRevoked then .ok cookies else .error (.revokePrevious e)

/-- How the steps of a refresh can end. -/
inductive Refreshed (settings : Settings) (cookie : Option String) (w : World) :
    Option (Except AuthFailure (List String) × World) → Prop
  /-- A step before the last fails. -/
  | refused {f} (entropy : Entropy) (other : ∀ e, f ≠ .revokePrevious e) :
      Refreshed settings cookie w (some (.error f, { w with entropy := entropy }))
  /-- An expiry lies outside the calendar. -/
  | beyond (late : w.clock.add? settings.sessionLifetime = none ∨
      w.clock.add? settings.refreshLifetime = none) : Refreshed settings cookie w none
  /-- A token is issued, and the one in whose place it stands is to be revoked. -/
  | rotated {secret v profile sessionExpires expires issued s entropy}
      (presented : Service.presented? cookie = some secret)
      (valid : w.refreshTokens.validate w.clock secret = .ok v)
      (given : w.users.profile v.userId = .ok profile)
      (session : w.clock.add? settings.sessionLifetime = some sessionExpires)
      (refresh : w.clock.add? settings.refreshLifetime = some expires)
      (issue : w.refreshTokens.issue w.clock w.entropy profile.userId expires.seconds v.tokenId =
        (.ok issued, s, entropy)) :
      Refreshed settings cookie w (some
        (ended
          [Cookie.setSession settings (SessionToken.sign settings.signingKey
              (SessionToken.claims profile settings.issuer w.clock sessionExpires))
              sessionExpires w.clock,
            Cookie.setRefresh settings issued.secret expires w.clock]
          (w.revokeRefresh s v.tokenId).1,
        { w with refreshTokens := (w.revokeRefresh s v.tokenId).2, entropy := entropy }))

theorem refreshed_perform (settings : Settings) (cookie : Option String) :
    Refreshed settings cookie w (w.perform (Service.tryRefresh settings cookie)) := by
  unfold Service.tryRefresh
  cases hcookie : Service.presented? cookie with
  | none => exact .refused w.entropy nofun
  | some secret =>
  dsimp only
  rw [perform_ask (w.answer_eq_validateRefresh secret)]
  cases hvalid : w.validateRefresh secret with
  | error e => exact .refused w.entropy nofun
  | ok v =>
  dsimp only [Script.andThen]
  rw [perform_ask (w.answer_eq_userProfile v.userId)]
  cases hgiven : w.userProfile v.userId with
  | error e => exact .refused w.entropy nofun
  | ok profile =>
  dsimp only
  rw [perform_bind]
  have hhanded := w.handed_perform settings profile v.tokenId
  generalize w.perform (Service.handOut settings profile v.tokenId) = result at hhanded ⊢
  cases hhanded with
  | unminted mint => exact .refused w.entropy nofun
  | beyond mint late => exact .beyond late
  | refused mint session refresh issue =>
    obtain ⟨entropy, rfl⟩ := behind_of_unissued issue
    exact .refused entropy nofun
  | handed mint session refresh issue =>
    obtain ⟨s, entropy, rfl, hstore, -⟩ := behind_of_issued issue
    have hanswer := w.answer_eq_revokeRefresh s entropy v.tokenId
    have hrotated := Refreshed.rotated hcookie (validate_of_validateRefresh hvalid)
      (profile_of_userProfile hgiven) session refresh hstore
    rw [Option.bind_some, perform_ask hanswer]
    cases hrevoke : (w.revokeRefresh s v.tokenId).1 with
    | ok u =>
      rw [hrevoke] at hrotated
      exact hrotated
    | error e =>
      rw [hrevoke, ended] at hrotated
      dsimp only
      split_ifs at hrotated ⊢ <;> exact hrotated

/-- Counting and logging change neither the result nor the stores. -/
theorem perform_refresh_cases (settings : Settings) (cookie : Option String) :
    w.perform (Service.tryRefresh settings cookie) = none ∧
        w.perform (Service.refresh settings cookie) = none ∨
      ∃ result w' counters log, w.perform (Service.tryRefresh settings cookie) = some (result, w') ∧
        w.perform (Service.refresh settings cookie) =
          some (result, { w' with counters := counters, log := log }) := by
  exact w.perform_counted (fun _ => rfl) fun _ => rfl

end World

/-! ## A token in the place of another -/

/-- The record of a token that was issued now in the place of another. -/
structure RefreshRecord.Replaces (settings : Settings) (now : Instant) (issued : IssuedRefresh)
    (new old : RefreshRecord) : Prop where
  userId : new.userId = old.userId
  previous : new.previous = old.tokenId
  revokedAt : new.revokedAt = 0
  expires : new.expires = (now.nanos + settings.refreshLifetime.nanos) / 1000000000
  tokenHash : new.tokenHash = fingerprint issued.secret

namespace RefreshStore

variable {s s' : RefreshStore}

/-- The store has one record more, and nothing else is changed. -/
structure Gained (s : RefreshStore) (new : RefreshRecord) (s' : RefreshStore) : Prop where
  before : s.Sound
  sound : s'.Sound
  kind : s'.backend = s.backend
  idFree : s.get? new.tokenId = none
  hashFree : s.find? new.tokenHash = none
  get : ∀ i, s'.get? i = if i = new.tokenId then some new else s.get? i

/-- A token that was issued has a record of its own. -/
theorem gained_of_issue (h : s.Sound) {now : Instant} {entropy entropy' : Entropy}
    {userId previous : String} {expires : Int} {issued : IssuedRefresh}
    (hissue : s.issue now entropy userId expires previous = (.ok issued, s', entropy')) :
    s.Gained (issued.record now userId expires previous) s' := by
  have hfree :
      ¬s.Taken ((IssuedRefresh.draw now entropy).1.record now userId expires previous) := by
    intro htaken
    rw [issue_of_taken now entropy userId expires previous h htaken] at hissue
    cases hissue
  obtain ⟨s₁, hs₁, hsound, hkind, hget⟩ := issue_of_free h hfree
  obtain ⟨hissued, hstore⟩ := Prod.mk.inj (hs₁.symm.trans hissue)
  obtain rfl := Except.ok.inj hissued
  obtain ⟨rfl, -⟩ := Prod.mk.inj hstore
  obtain ⟨hid, hhash⟩ := not_or.1 hfree
  exact ⟨h, hsound, hkind, not_not.1 hid, not_not.1 hhash, hget⟩

/-- A record that was there is there. -/
theorem Gained.get?_of_some {new : RefreshRecord} (h : s.Gained new s') {i : String}
    {r : RefreshRecord} (hr : s.get? i = some r) : s'.get? i = some r := by
  have hne : i ≠ new.tokenId := by
    rintro rfl
    rw [h.idFree] at hr
    cases hr
  rw [h.get, if_neg hne, hr]

/-- A secret that has a record has the same record. -/
theorem Gained.find?_of_some {new : RefreshRecord} (h : s.Gained new s') {k : String}
    {r : RefreshRecord} (hr : s.find? k = some r) : s'.find? k = some r := by
  obtain ⟨hget, hhash⟩ := h.before.find?_eq_some_iff.1 hr
  exact h.sound.find?_eq_some_iff.2 ⟨h.get?_of_some hget, hhash⟩

/-- What is said about a secret that has a record stays the same. -/
theorem Gained.validate_eq {new : RefreshRecord} (h : s.Gained new s') {secret : String}
    {r : RefreshRecord} (hr : s.find? (fingerprint secret) = some r) (now : Instant) :
    s'.validate now secret = s.validate now secret :=
  validate_congr h.sound h.before h.kind now ((h.find?_of_some hr).trans hr.symm)

end RefreshStore

/-- Every profile that the store gives has the id that it was asked for. -/
def UserStore.OwnIds (s : UserStore) : Prop :=
  ∀ id profile, s.profile id = .ok profile → profile.userId = id

theorem UserStore.ownIds_of_sound {s : UserStore} (h : s.Sound) : s.OwnIds :=
  fun _ _ hp => userId_of_profile h hp

namespace World

variable {w : World} {settings : Settings} {cookie : Option String}

/-- What a refresh ends with, and the refresh store that it leaves behind. -/
inductive LeftBehind (settings : Settings) (cookie : Option String) (w : World) :
    Except AuthFailure (List String) → RefreshStore → Prop
  /-- A step before the last has failed. -/
  | refused {f} (other : ∀ e, f ≠ .revokePrevious e) :
      LeftBehind settings cookie w (.error f) w.refreshTokens
  /-- The new token was issued, and the old one could not be revoked. -/
  | orphaned {e secret r issued new s} (presented : Service.presented? cookie = some secret)
      (found : w.refreshTokens.find? (fingerprint secret) = some r)
      (replaces : new.Replaces settings w.clock issued r) (gained : w.refreshTokens.Gained new s) :
      LeftBehind settings cookie w (.error (.revokePrevious e)) s
  /-- The new token was issued, and the old one is revoked. -/
  | rotated {secret r profile sessionExpires expires issued new s s'}
      (presented : Service.presented? cookie = some secret)
      (found : w.refreshTokens.find? (fingerprint secret) = some r)
      (given : w.users.profile r.userId = .ok profile)
      (session : w.clock.add? settings.sessionLifetime = some sessionExpires)
      (refresh : w.clock.add? settings.refreshLifetime = some expires)
      (replaces : new.Replaces settings w.clock issued r) (gained : w.refreshTokens.Gained new s)
      (sound : s'.Sound)
      (get : ∀ i, s'.get? i =
        if i = r.tokenId ∧ w.faults.refreshRevoke ≠ some .alreadyRevoked then
          some { r with revokedAt := max w.clock.seconds 1 }
        else s.get? i) :
      LeftBehind settings cookie w
        (.ok [Cookie.setSession settings (SessionToken.sign settings.signingKey
            (SessionToken.claims profile settings.issuer w.clock sessionExpires))
            sessionExpires w.clock,
          Cookie.setRefresh settings issued.secret expires w.clock]) s'

/-- Where the old token is active, revoking it fails by a failure that is set, or it is revoked. -/
theorem revokeRefresh_cases {s : RefreshStore} (hs : s.Sound) {r : RefreshRecord}
    (hr : s.get? r.tokenId = some r) (hact : r.isRevoked = false) (cookies : List String) :
    (∃ e, ended cookies (w.revokeRefresh s r.tokenId).1 = .error (.revokePrevious e) ∧
        (w.revokeRefresh s r.tokenId).2 = s) ∨
      ended cookies (w.revokeRefresh s r.tokenId).1 = .ok cookies ∧
        (w.revokeRefresh s r.tokenId).2.Sound ∧ ∀ i, (w.revokeRefresh s r.tokenId).2.get? i =
          if i = r.tokenId ∧ w.faults.refreshRevoke ≠ some .alreadyRevoked then
            some { r with revokedAt := max w.clock.seconds 1 }
          else s.get? i := by
  unfold revokeRefresh
  cases hf : w.faults.refreshRevoke with
  | some cause =>
    by_cases hcause : cause = .alreadyRevoked
    · refine Or.inr ⟨by simp [ended, RefreshStore.fail, hcause], hs, fun i => ?_⟩
      simp [hcause]
    · exact Or.inl ⟨s.fail .revoke cause, by simp [ended, RefreshStore.fail, hcause], rfl⟩
  | none =>
    obtain ⟨s', hrevoke, hsound, -, hget⟩ := RefreshStore.revoke_of_active hs w.clock hr hact
    refine Or.inr ⟨?_, by rwa [hrevoke], fun i => ?_⟩
    · rw [hrevoke]
      rfl
    · rw [hrevoke, hget]
      simp [RefreshRecord.revoke]

/-- What the steps of a refresh leave behind, where the store is sound or its connection is
closed. -/
theorem leftBehind_of_perform (hs : w.refreshTokens.Sound ∨ w.refreshTokens.IsClosed)
    (hown : w.users.OwnIds) {result : Except AuthFailure (List String)} {w' : World}
    (h : w.perform (Service.tryRefresh settings cookie) = some (result, w')) :
    LeftBehind settings cookie w result w'.refreshTokens ∧
      ∃ entropy, w' = { w with refreshTokens := w'.refreshTokens, entropy := entropy } := by
  have hrefreshed := w.refreshed_perform settings cookie
  rw [h] at hrefreshed
  cases hrefreshed with
  | refused entropy other => exact ⟨.refused other, entropy, rfl⟩
  | @rotated secret v profile sessionExpires expires issued s entropy presented valid given session
      refresh issue =>
    refine ⟨?_, entropy, rfl⟩
    rcases hs with hs | hclosed
    swap
    · obtain ⟨e, he⟩ := RefreshStore.validate_of_closed hclosed w.clock secret
      cases he.symm.trans valid
    obtain ⟨-, r, hr, hhash, hact, -, rfl⟩ :=
      RefreshStore.judge_eq_ok hs ((RefreshStore.validate_eq hs w.clock secret).symm.trans valid)
    have hfound : w.refreshTokens.find? (fingerprint secret) = some r := by
      rw [← hhash, hs.find?_of_get? hr]
    have hgained := RefreshStore.gained_of_issue hs issue
    rw [hown _ _ given] at hgained
    have hreplaces :
        (issued.record w.clock r.userId expires.seconds r.tokenId).Replaces settings w.clock
          issued r := by
      refine ⟨rfl, rfl, rfl, ?_, rfl⟩
      rw [← Instant.nanos_of_add? refresh]
      rfl
    have hold : s.get? r.tokenId = some r := hgained.get?_of_some hr
    rcases revokeRefresh_cases (w := w) hgained.sound hold hact _ with
      ⟨e, hend, hsame⟩ | ⟨hend, hsound, hget⟩
    · dsimp only
      rw [hend, hsame]
      exact .orphaned presented hfound hreplaces hgained
    · dsimp only
      rw [hend]
      exact .rotated presented hfound given session refresh hreplaces hgained hsound hget

end World

/-! ## A token that nobody gets -/

/-- A record has the hash, and no token with this hash was issued to anybody. -/
structure Withheld (hash : String) (w : World) (J : List (Nat × Exchange)) : Prop where
  sound : w.refreshTokens.Sound
  stored : ∃ i r, w.refreshTokens.get? i = some r ∧ r.tokenHash = hash
  unissued : ∀ {i userId expires previous t},
    (i, ⟨.issueRefresh userId expires previous, .ok t⟩) ∈ J → fingerprint t.secret ≠ hash

/-- No answer issues a token with a hash that is there. -/
theorem Withheld.answer {hash : String} {w w' : World} {J : List (Nat × Exchange)}
    (h : Withheld hash w J) {i : Nat} {c : Call} {r : c.Reply}
    (ha : World.answer c w = some (r, w')) :
    Withheld hash w' (J ++ [(i, ⟨c, r⟩)]) where
  sound := by
    rcases World.step_of_answer ha with ⟨now, e, -, hstep⟩ | ⟨-, hsame⟩
    · exact (RefreshStore.effect_of_step h.sound hstep).sound h.sound
    · exact hsame ▸ h.sound
  stored := by
    obtain ⟨j, q, hq, hhash⟩ := h.stored
    obtain ⟨q', hq', hb⟩ := World.becomes_of_answer h.sound ha hq
    exact ⟨j, q', hq', hb.tokenHash_eq.trans hhash⟩
  unissued {j userId expires previous t} hj := by
    rcases List.mem_append.1 hj with hj | hj
    · exact h.unissued hj
    · cases List.mem_singleton.1 hj
      rcases World.step_of_answer ha with ⟨now, e, he, hstep⟩ | ⟨hrefused, -⟩
      · cases e <;> cases he
        generalize w'.refreshTokens = s' at hstep
        cases RefreshStore.effect_of_step h.sound hstep with
        | issued entropy drawn free sound kind get =>
          rintro rfl
          obtain ⟨k, q, hq, hhash⟩ := h.stored
          have hfound : w.refreshTokens.find? (fingerprint t.secret) = some q :=
            hhash ▸ h.sound.find?_of_get? hq
          refine free (Or.inr ?_)
          change w.refreshTokens.find? (fingerprint t.secret) ≠ none
          rw [hfound]
          exact Option.some_ne_none q
      · obtain ⟨e, he⟩ := hrefused (.issue userId expires previous (.ok t)) rfl
        cases he

namespace Pool

variable {settings : Settings} {requests : List ServiceRequest} {p : Pool}

/-- Everybody goes on in another world, and more come. -/
def resumed (settings : Settings) (p : Pool) (w : World) (later : List ServiceRequest) : Pool :=
  { p with world := w, callers := p.callers ++ later.map (·.operation settings) }

/-- Whoever has ended with cookies has another secret in the second of them. -/
def Withholds (settings : Settings) (p : Pool) (secret : String) : Prop :=
  ∀ i o cookies, p.result? i = some o → o.handedOut? = some cookies →
    ∃ session other expires now, cookies = [session, Cookie.setRefresh settings other expires now] ∧
      other ≠ secret

theorem withholds_of_withheld (hled : Led settings requests p) {secret : String}
    (h : Withheld (fingerprint secret) p.world p.journal) : p.Withholds settings secret := by
  intro i o cookies ho hcookies
  have hdone := result?_eq_some_iff.1 ho
  obtain ⟨request, hrequest⟩ := hled.request hdone
  obtain ⟨q, hq, hanswered⟩ := hled.caller hrequest
  obtain rfl := Option.some.inj (hdone.symm.trans hq)
  obtain ⟨profile, now, issuedAt, minted, expires, issued, previous, -, -, hsub, rfl⟩ :=
    ServiceRequest.handedOut hanswered hcookies
  refine ⟨_, issued.secret, expires, now, rfl, ?_⟩
  rintro rfl
  have hmem : (⟨.issueRefresh profile.userId expires.seconds previous, .ok issued⟩ : Exchange) ∈
      callsOf i p.journal := hsub.subset (by simp)
  exact h.unissued (mem_callsOf.1 hmem) rfl

/-- While everybody goes on, and more come, nobody is handed a secret whose record came
otherwise. -/
theorem withholds_later (h : Ancestral settings requests p) {new : RefreshRecord}
    {issued : IssuedRefresh} {w : World} (hgained : p.tokens.Gained new w.refreshTokens)
    (hhash : new.tokenHash = fingerprint issued.secret) (later : List ServiceRequest)
    (turns : List FaultyTurn) :
    ((p.resumed settings w later).faultyRun turns).Withholds settings issued.secret := by
  have hwithheld : Withheld (fingerprint issued.secret) w p.journal := by
    refine ⟨hgained.sound, ⟨new.tokenId, new, by rw [hgained.get, if_pos rfl], hhash⟩,
      fun hj he => ?_⟩
    obtain ⟨⟨q, hq, hq'⟩, -⟩ := h.agreed.issued hj
    have hfound := h.agreed.tokens.find?_of_get? hq
    rw [hq', he, ← hhash, hgained.hashFree] at hfound
    cases hfound
  refine withholds_of_withheld ((h.led.append w later).faultyRun turns) ?_
  refine faultyRun_induction (I := Withheld (fingerprint issued.secret)) (fun f hI => ?_)
    (fun σ i w J c r w' hI ha => ?_) turns hwithheld
  · exact ⟨hI.sound, hI.stored, hI.unissued⟩
  · have hwithin : Withheld (fingerprint issued.secret) (w.within σ) J :=
      ⟨hI.sound, hI.stored, hI.unissued⟩
    exact hwithin.answer ha

end Pool

namespace World

variable {w : World} {settings : Settings} {cookie : Option String}

/-- The cookie presents a secret, and this is the record of it. -/
def Presents (w : World) (cookie : Option String) (secret : String) (r : RefreshRecord) : Prop :=
  Service.presented? cookie = some secret ∧ w.refreshTokens.find? (fingerprint secret) = some r

/-- A refresh that runs alone in any world, with any failures of its stores, ends with a result
unless an expiry lies outside the calendar, and touches nothing but the refresh store, the random
bytes, the counters and the log.

After a success the presented record is revoked, unless revoking it was said to have happened
before, and there is one record more, in its place, with the secret of the second cookie. After an
error the presented record is as it was, and so is what is said about its secret. The refresh store
is then as it was too, or the presented token could not be revoked : then it has one record more,
and nobody is ever handed a secret of that record, whatever has happened before and whoever comes
later. -/
theorem refresh_takes_effect (hs : w.refreshTokens.Sound ∨ w.refreshTokens.IsClosed)
    (hown : w.users.OwnIds) :
    (w.perform (Service.refresh settings cookie) = none →
      w.clock.add? settings.sessionLifetime = none ∨ w.clock.add? settings.refreshLifetime = none) ∧
    ∀ result w', w.perform (Service.refresh settings cookie) = some (result, w') →
      (∃ entropy counters log, w' = { w with
        refreshTokens := w'.refreshTokens, entropy := entropy, counters := counters, log := log }) ∧
      (∀ cookies, result = .ok cookies → ∃ secret r profile sessionExpires expires issued new,
        w.Presents cookie secret r ∧ w.users.profile r.userId = .ok profile ∧
        w.clock.add? settings.sessionLifetime = some sessionExpires ∧
        w.clock.add? settings.refreshLifetime = some expires ∧
        cookies = [Cookie.setSession settings (SessionToken.sign settings.signingKey
            (SessionToken.claims profile settings.issuer w.clock sessionExpires))
            sessionExpires w.clock,
          Cookie.setRefresh settings issued.secret expires w.clock] ∧
        new.Replaces settings w.clock issued r ∧ w.refreshTokens.get? new.tokenId = none ∧
        w'.refreshTokens.Sound ∧ ∀ i, w'.refreshTokens.get? i =
          if i = r.tokenId ∧ w.faults.refreshRevoke ≠ some .alreadyRevoked then
            some { r with revokedAt := max w.clock.seconds 1 }
          else if i = new.tokenId then some new else w.refreshTokens.get? i) ∧
      ∀ f, result = .error f →
        (∀ secret, Service.presented? cookie = some secret →
          w'.refreshTokens.find? (fingerprint secret) = w.refreshTokens.find? (fingerprint secret) ∧
          ∀ now, w'.refreshTokens.validate now secret = w.refreshTokens.validate now secret) ∧
        ((∀ e, f ≠ .revokePrevious e) → w'.refreshTokens = w.refreshTokens) ∧
        ∀ e, f = .revokePrevious e → ∃ secret r issued new,
          w.Presents cookie secret r ∧ new.Replaces settings w.clock issued r ∧
          w.refreshTokens.get? new.tokenId = none ∧ w'.refreshTokens.Sound ∧
          (∀ i, w'.refreshTokens.get? i =
            if i = new.tokenId then some new else w.refreshTokens.get? i) ∧
          ∀ (w₀ : World) users tokens requests turns later turns',
            let p := (Pool.start settings (w₀.emptied users tokens) requests).faultyRun turns
            p.tokens = w.refreshTokens →
              ((p.resumed settings w' later).faultyRun turns').Withholds settings
                issued.secret := by
  rcases w.perform_refresh_cases settings cookie with
    ⟨htried, hrun⟩ | ⟨result, w₁, counters, log, htried, hrun⟩
  · have hrefreshed := w.refreshed_perform settings cookie
    rw [htried] at hrefreshed
    cases hrefreshed with
    | beyond late => exact ⟨fun _ => late, fun _ _ h => absurd (hrun.symm.trans h) nofun⟩
  · refine ⟨fun h => absurd (hrun.symm.trans h) nofun, fun result' w' h => ?_⟩
    obtain ⟨rfl, hw'⟩ := Prod.mk.inj (Option.some.inj (hrun.symm.trans h))
    obtain ⟨hleft, entropy, hw₁⟩ := leftBehind_of_perform hs hown htried
    have hstore : w₁.refreshTokens = w'.refreshTokens := by rw [← hw']
    rw [hstore] at hleft
    refine ⟨⟨entropy, counters, log, ?_⟩, ?_⟩
    · rw [← hw', hw₁]
    · generalize hs' : w'.refreshTokens = s' at hleft ⊢
      cases hleft with
      | refused other =>
        refine ⟨nofun, fun f' hf' => ⟨fun _ _ => ⟨rfl, fun _ => rfl⟩, fun _ => rfl, fun e he => ?_⟩⟩
        cases hf'
        exact absurd he (other e)
      | @orphaned e secret r issued new _ presented found replaces gained =>
        refine ⟨nofun, fun f' hf' => ⟨fun secret' hsecret => ?_, fun hother => ?_, fun _ _ => ?_⟩⟩
        · obtain rfl := Option.some.inj (presented.symm.trans hsecret)
          exact ⟨(gained.find?_of_some found).trans found.symm, gained.validate_eq found⟩
        · cases hf'
          exact absurd rfl (hother e)
        · refine ⟨secret, r, issued, new, ⟨presented, found⟩, replaces, gained.idFree, gained.sound,
            gained.get, fun w₀ users tokens requests turns later turns' hp => ?_⟩
          have hancestral : Pool.Ancestral settings requests _ :=
            (Pool.ancestral_start w₀ users tokens).faultyRun turns
          rw [← hp, ← hs'] at gained
          exact Pool.withholds_later hancestral gained replaces.tokenHash later turns'
      | @rotated secret r profile sessionExpires expires issued new _ _ presented found given
          session refresh replaces gained sound get =>
        refine ⟨fun cookies hcookies => ?_, nofun⟩
        obtain rfl := Except.ok.inj hcookies
        refine ⟨secret, r, profile, sessionExpires, expires, issued, new, ⟨presented, found⟩, given,
          session, refresh, rfl, replaces, gained.idFree, sound, fun i => ?_⟩
        rw [get, gained.get]

end World

namespace FirstLogin

open SessionToken (noon)

/-- The login of noon, in turns without failures. -/
def orderly : Pool :=
  (Pool.start settings (world.emptied .memory .memory)
    [.issueNonce, .login "token" nonce true]).faultyRun (turns.map (⟨·, {}⟩))

/-- The world after it, in which no token can be revoked. -/
def unrevoking : World :=
  { orderly.world.within again with faults := { refreshRevoke := some .notFound } }

/-- The secret that the login was handed. -/
def secret : String := (IssuedRefresh.draw noon (surroundings noon).entropy).1.secret

/-- The refresh has failed at its last step. -/
def isOrphaned : Bool :=
  match unrevoking.perform (Service.refresh settings (some secret)) with
  | some (.error (.revokePrevious _), _) => true
  | _ => false

theorem exists_orphaned : ∃ e w', unrevoking.perform (Service.refresh settings (some secret)) =
    some (.error (.revokePrevious e), w') := by
  have h : isOrphaned = true := by decide +kernel
  unfold isOrphaned at h
  split at h
  · rename_i e w' heq
    exact ⟨e, w', heq⟩
  · cases h

/-- The secret of the login can be tried again, and nobody ever has the new one. -/
theorem secret_survives_failed_revocation : ∃ e w',
    unrevoking.perform (Service.refresh settings (some secret)) =
      some (.error (.revokePrevious e), w') ∧
    (∀ now, w'.refreshTokens.validate now secret = unrevoking.refreshTokens.validate now secret) ∧
    ∃ (issued : IssuedRefresh) (new : RefreshRecord), w'.refreshTokens.get? new.tokenId = some new ∧
      new.tokenHash = fingerprint issued.secret ∧
      ∀ later turns, ((orderly.resumed settings w' later).faultyRun turns).Withholds settings
        issued.secret := by
  have hancestral : Pool.Ancestral settings [.issueNonce, .login "token" nonce true] orderly :=
    (Pool.ancestral_start world .memory .memory).faultyRun _
  have hpresented : Service.presented? (some secret) = some secret :=
    IssuedRefresh.presented?_draw noon (surroundings noon).entropy
  obtain ⟨e, w', hrun⟩ := exists_orphaned
  obtain ⟨-, -, herror⟩ := (World.refresh_takes_effect (w := unrevoking)
    (Or.inl hancestral.agreed.tokens)
    (UserStore.ownIds_of_sound hancestral.agreed.users)).2 _ w' hrun
  obtain ⟨hsame, -, horphaned⟩ := herror _ rfl
  obtain ⟨_, _, issued, new, -, hreplaces, -, -, hget, hwithheld⟩ := horphaned e rfl
  refine ⟨e, w', hrun, (hsame secret hpresented).2, issued, new, ?_, hreplaces.tokenHash, ?_⟩
  · rw [hget, if_pos rfl]
  · intro later turns'
    exact hwithheld world .memory .memory _ _ later turns' rfl

end FirstLogin

end SignIn
