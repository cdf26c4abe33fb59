import SignIn.Proofs.Service.Ancestry
import SignIn.Proofs.Web.Lifetime

/-!
# What a client can rely on

Without faults, the two stores fit together : whoever has a refresh record is known to the user
store, under an id that is not blank (`UserStore.Has`). For a record goes back to a login, which has
written its user down, and users are never deleted. The invariant is `Pool.Available`, preserved by
every turn.

So some failures do not happen at all : that a session cannot be minted, and that a refresh misses
the profile. And a refresh that runs alone goes through to its end when its secret is good, the
expiries lie in the calendar and the new token is one that the store does not have
(`World.exists_perform_refresh`).
-/

namespace SignIn

/-! ## Ids of users -/

theorem Text.allBlank_append (s t : String) : allBlank (s ++ t) = (allBlank s && allBlank t) := by
  rw [allBlank, String.toList_append, List.all_append]
  rfl

namespace UserStore

variable {s s' : UserStore}

/-- The store has a user under this id, which is not blank. -/
def Has (s : UserStore) (id : String) : Prop :=
  Text.allBlank id = false ∧ ∃ profile, s.profile id = .ok profile ∧ profile.userId = id

/-- No id of a user is blank. -/
def Named (s : UserStore) : Prop :=
  ∀ subject p, s.known subject = some p → Text.allBlank p.userId = false

theorem named_empty (b : Backend) : (empty b).Named := by
  cases b <;> exact fun _ _ h => nomatch h

theorem has_of_known (hs : s.Sound) (hn : s.Named) {subject : String} {p : Profile}
    (hp : s.known subject = some p) : s.Has p.userId :=
  ⟨hn subject p hp, p, profile_of_known hs hp, rfl⟩

theorem allBlank_of_upsert (hs : s.Sound) (hn : s.Named) {entropy : Entropy} {d : UserDetails}
    {id : String} {roles : List String} (hu : (s.upsert entropy d).1 = .ok (id, roles)) :
    Text.allBlank id = false := by
  rcases userId_of_upsert hs hu with ⟨p, hp, rfl⟩ | rfl | ⟨bytes, rfl⟩
  · exact hn d.subject p hp
  · have hprovider : Text.allBlank (providerName ++ ":") = false := by decide
    rw [UserMemory.userId, Text.allBlank_append, hprovider, Bool.false_and]
  · have hprefix : Text.allBlank "U_" = false := by decide
    rw [Identifier.user, Text.allBlank_append, hprefix, Bool.false_and]

end UserStore

/-! ## Secrets of tokens -/

/-- What a store draws as a secret can be presented as it is. -/
theorem IssuedRefresh.presented?_draw (now : Instant) (entropy : Entropy) :
    Service.presented? (some (draw now entropy).1.secret) = some (draw now entropy).1.secret := by
  obtain ⟨b, bs, hdraw⟩ : ∃ b bs, (entropy.draw Identifier.secretBytes).1 = b :: bs := ⟨_, _, rfl⟩
  have hsecret : (draw now entropy).1.secret = Identifier.secret (b :: bs) := by
    rw [← hdraw]
    rfl
  have htrim : Text.trim (Identifier.secret (b :: bs)) = Identifier.secret (b :: bs) := by
    rw [Identifier.secret, Base64Url.encodeText, Text.trim, String.toList_ofList,
      (Base64Url.isPlain_encode _).trimChars_eq_self]
  have hne : Identifier.secret (b :: bs) ≠ "" := by
    intro h
    have hlen := congrArg String.length h
    rcases bs with _ | ⟨c, _ | ⟨d, bs⟩⟩ <;> simp [Identifier.secret, Base64Url.encodeText,
      Base64Url.encode] at hlen
  rw [hsecret, Service.presented?, Option.map_some, htrim, Option.filter_some]
  exact if_pos (decide_eq_true hne)

/-! ## A refresh without faults -/

namespace World

variable {w : World} {settings : Settings}

/-- Without faults, a session that can be minted, an expiry in the calendar and a token that goes in
are all that it takes to hand out both cookies. -/
theorem perform_handOut (hf : w.faults = {}) {profile : Profile} {previous : String}
    {minted : Minted} {expires : Instant} {issued : IssuedRefresh} {s : RefreshStore}
    {entropy : Entropy}
    (hmint : SessionToken.mint profile settings.issuer settings.signingKey w.clock
      settings.sessionLifetime = .ok (some minted))
    (hexpires : w.clock.add? settings.refreshLifetime = some expires)
    (hissue : w.refreshTokens.issue w.clock w.entropy profile.userId expires.seconds previous =
      (.ok issued, s, entropy)) :
    w.perform (Service.handOut settings profile previous) = some
      (.ok [Cookie.setSession settings minted.token minted.expires w.clock,
        Cookie.setRefresh settings issued.secret expires w.clock],
       { w with refreshTokens := s, entropy := entropy }) := by
  have hclock : answer .readClock w = some (w.clock, w) := rfl
  have hanswer : answer (.issueRefresh profile.userId expires.seconds previous) w =
      some (.ok issued, { w with refreshTokens := s, entropy := entropy }) := by
    rw [answer_of_faultless hf, serve, hissue]
  rw [Service.handOut, perform_ask hclock, perform_ask hclock]
  simp only [hmint, hexpires]
  rw [perform_ask hanswer]
  rfl

/-- A refresh that runs alone and without faults goes through, if its secret is that of a record
that is neither revoked nor expired, the record's user is known, the expiries lie in the calendar,
and the token that is drawn is one that the store does not have. -/
theorem exists_perform_refresh (hf : w.faults = {}) (hs : w.refreshTokens.Sound)
    (hkey : settings.signingKey ≠ []) {cookie : Option String} {secret i : String}
    {r : RefreshRecord} (hcookie : Service.presented? cookie = some secret)
    (hr : w.refreshTokens.get? i = some r) (hhash : r.tokenHash = fingerprint secret)
    (hact : r.isRevoked = false) (hexp : w.clock.seconds < r.expires)
    (huser : w.users.Has r.userId) {sessionExpires refreshExpires : Instant}
    (hsession : w.clock.add? settings.sessionLifetime = some sessionExpires)
    (hrefresh : w.clock.add? settings.refreshLifetime = some refreshExpires)
    (hfree : ¬w.refreshTokens.Taken
      ((IssuedRefresh.draw w.clock w.entropy).1.record w.clock r.userId refreshExpires.seconds
        r.tokenId)) :
    ∃ cookies w', w.perform (Service.refresh settings cookie) = some (.ok cookies, w') := by
  obtain ⟨hblank, profile, hprofile, hid⟩ := huser
  have hi := hs.tokenId_of_get? hr
  subst hi
  have hmint : SessionToken.mint profile settings.issuer settings.signingKey w.clock
      settings.sessionLifetime = .ok (some ⟨SessionToken.sign settings.signingKey
        (SessionToken.claims profile settings.issuer w.clock sessionExpires), sessionExpires⟩) := by
    have hkey : ¬settings.signingKey.isEmpty = true := by simpa using hkey
    rw [SessionToken.mint, hid, if_neg (by rw [hblank]; exact Bool.false_ne_true), if_neg hkey,
      hsession]
    rfl
  obtain ⟨s, hissue, hsound, -, hget⟩ := RefreshStore.issue_of_free hs hfree
  rw [← hid] at hissue
  have hhand := perform_handOut hf hmint hrefresh hissue
  -- The new token has another id, so the record is as it was when its turn of being revoked comes.
  have hold : s.get? r.tokenId = some r := by
    rw [hget, if_neg (RefreshStore.ne_tokenId_of_free hfree hr), hr]
  obtain ⟨s', hrevoke, -⟩ := RefreshStore.revoke_of_active hsound w.clock hold hact
  have hvalidate : answer (.validateRefresh secret) w =
      some (.ok ⟨r.userId, r.tokenId, r.expires⟩, w) := by
    have hvalid :=
      RefreshStore.validate_of_active hs (Service.ne_empty_of_presented hcookie) hr hhash hact hexp
    rw [answer_of_faultless hf, serve, hvalid]
  have hgiven : answer (.userProfile r.userId) w = some (.ok profile, w) := by
    rw [answer_of_faultless hf, serve, hprofile]
  let w₁ : World :=
    { w with refreshTokens := s, entropy := (IssuedRefresh.draw w.clock w.entropy).2 }
  let w₂ : World := { w₁ with refreshTokens := s' }
  have hrevoked : answer (.revokeRefresh r.tokenId) w₁ = some (.ok (), w₂) := by
    rw [answer_of_faultless (show w₁.faults = {} from hf), serve, hrevoke]
  have hcounted := answer_of_faultless (show w₂.faults = {} from hf) (.count .refreshSuccess)
  rw [Service.refresh, perform_bind, Service.tryRefresh, hcookie]
  dsimp only
  rw [perform_ask hvalidate]
  dsimp only [Script.andThen]
  rw [perform_ask hgiven]
  dsimp only [Script.andThen]
  rw [perform_bind, hhand, Option.bind_some, perform_ask hrevoked]
  exact ⟨_, _, perform_ask hcounted⟩

end World

/-! ## Runs without faults -/

namespace World

variable {w w' : World} {c : Call} {r : c.Reply}

theorem upsert_of_answer {d : UserDetails} {known : String × List String}
    (h : answer (.upsertUser d) w = some (.ok known, w')) :
    (w.users.upsert w.entropy d).1 = .ok known := by
  unfold answer at h
  split at h
  · rename_i hfault
    cases h
    obtain ⟨e, -, he⟩ := Option.map_eq_some_iff.1 hfault
    cases he
  · exact (congrArg Prod.fst (Option.some.inj h) :)

/-- Whatever is asked, no user has a blank id afterwards either. -/
theorem named_of_answer (hs : w.users.Sound) (hn : w.users.Named) (h : answer c w = some (r, w')) :
    w'.users.Named := by
  rcases users_of_answer hs h with ⟨d, answer, he, hu⟩ | ⟨-, hsame⟩
  · cases he
    generalize w'.users = users at hu ⊢
    cases hu with
    | @written id roles s' sound same known =>
      intro subject p hp
      rw [known] at hp
      split_ifs at hp
      · cases hp
        exact UserStore.allBlank_of_upsert hs hn (upsert_of_answer h)
      · exact hn subject p hp
    | refused new => exact hn
  · exact hsame ▸ hn

end World

namespace Pool

open Operation

variable {settings : Settings} {requests : List ServiceRequest} {p : Pool} {i : Nat}

/-- The stores fit together, no fault is set, and nobody who was told the user of a good secret has
missed the profile of this user. -/
structure Available (settings : Settings) (requests : List ServiceRequest) (p : Pool) : Prop where
  ancestral : Ancestral settings requests p
  remembers : Remembers p.world p.journal
  named : p.world.users.Named
  faultless : p.world.faults = {}
  given : ∀ J₁ J₂ i id e, p.journal = J₁ ++ (i, ⟨.userProfile id, .error e⟩) :: J₂ →
    ∀ j secret v, (j, ⟨.validateRefresh secret, .ok v⟩) ∈ J₁ → v.userId ≠ id

namespace Available

/-- Whoever was written down is known. -/
theorem has_of_upserted (h : Available settings requests p) {d : UserDetails} {id : String}
    {roles : List String} (hd : (i, ⟨.upsertUser d, .ok (id, roles)⟩) ∈ p.journal) :
    p.world.users.Has id := by
  obtain ⟨J₁, J₂, hJ⟩ := List.append_of_mem hd
  obtain ⟨profile, hknown, rfl, -⟩ := h.remembers.known J₁ J₂ i d id roles hJ
  exact UserStore.has_of_known h.remembers.sound h.named hknown

/-- The user of a record is that of a login. -/
theorem has_of_record (h : Available settings requests p) {tokenId : String} {r : RefreshRecord}
    (hr : p.tokens.get? tokenId = some r) : p.world.users.Has r.userId := by
  obtain ⟨n, root, -, huser, -, j, idToken, nonce, https, d, roles, issued, -, -, hsub⟩ :=
    h.ancestral.rooted hr
  rw [← huser]
  exact h.has_of_upserted (hsub.subset List.mem_cons_self)

/-- The user for whom a token is asked is known, under an id that is not blank. -/
theorem has_of_entitled (h : Available settings requests p) {userId previous : String}
    {request : ServiceRequest} (he : Entitled (callsOf i p.journal) userId previous request) :
    p.world.users.Has userId := by
  cases he with
  | login written => exact h.has_of_upserted (mem_callsOf.1 written)
  | refresh valid given same =>
    obtain ⟨q, hq, huser⟩ := h.ancestral.agreed.valid (mem_callsOf.1 valid)
    rw [← same, h.ancestral.agreed.given (mem_callsOf.1 given), ← huser]
    exact h.has_of_record hq

/-- No turn tears the stores apart. -/
theorem turn (h : Available settings requests p) (t : Turn) :
    Available settings requests (p.turn t) := by
  have hancestral := h.ancestral.turn t
  rcases turn_cases p t with heq | ⟨c, next, r, w, -, ha, heq⟩
  · rwa [heq]
  rw [heq] at hancestral ⊢
  have hremembers : Remembers (p.world.within t.surroundings) p.journal :=
    ⟨h.remembers.sound, h.remembers.known⟩
  have hfaultless : (p.world.within t.surroundings).faults = {} := h.faultless
  refine ⟨hancestral, hremembers.answer ha, World.named_of_answer hremembers.sound h.named ha,
    (World.answer_faults ha).trans hfaultless, fun J₁ J₂ i id e hJ j secret v hv => ?_⟩
  rcases split_snoc hJ with ⟨hlast, rfl⟩ | ⟨k, rfl, hbefore⟩
  · cases hlast
    obtain rfl : J₁ = p.journal := (List.append_cancel_right hJ).symm
    rintro rfl
    -- The user of a good secret is that of a record, so the profile is there.
    obtain ⟨q, hq, huser⟩ := h.ancestral.agreed.valid hv
    obtain ⟨-, profile, hprofile, -⟩ := h.has_of_record hq
    rw [huser] at hprofile
    rw [World.answer_of_faultless hfaultless, World.serve] at ha
    have hanswer := congrArg Prod.fst (Option.some.inj ha)
    rw [show (p.world.within t.surroundings).users = p.world.users from rfl, hprofile] at hanswer
    cases hanswer
  · exact h.given J₁ k i id e hbefore j secret v hv

theorem run (turns : List Turn) (h : Available settings requests p) :
    Available settings requests (p.run turns) :=
  List.foldlRecOn turns Pool.turn h fun _ hp t _ => hp.turn t

/-- What a request ended with has its grounds in the answers to its caller. -/
theorem grounded (h : Available settings requests p) {o : Outcome} (ho : p.result? i = some o) :
    ∃ request, o.Grounded settings request (callsOf i p.journal) := by
  have hdone := result?_eq_some_iff.1 ho
  obtain ⟨request, hrequest⟩ := h.ancestral.led.request hdone
  obtain ⟨q, hq, hanswered⟩ := h.ancestral.led.caller hrequest
  obtain rfl := Option.some.inj (hdone.symm.trans hq)
  cases (request.along_operation settings).answered hanswered with
  | done hgrounded => exact ⟨request, hgrounded⟩

/-- Sessions of users that are known can be minted. -/
theorem not_fails_mint (h : Available settings requests p) (hkey : settings.signingKey ≠ [])
    {request : ServiceRequest} {e : MintError} :
    ¬Fails settings request (callsOf i p.journal) (.mint e) := by
  rintro ⟨profile, previous, now, hentitled, hmint⟩
  have hkey : ¬settings.signingKey.isEmpty = true := by simpa using hkey
  rw [SessionToken.mint, (h.has_of_entitled hentitled).1, if_neg Bool.false_ne_true,
    if_neg hkey] at hmint
  cases hmint

/-- So no refresh has the grounds to miss a profile. -/
theorem not_fails_profileUnavailable (h : Available settings requests p) {request : ServiceRequest}
    {e : UserError} : ¬Fails settings request (callsOf i p.journal) (.profileUnavailable e) := by
  rintro ⟨secret, v, hsub⟩
  have hjournal := (hsub.map fun e => (i, e)).trans (map_callsOf_sublist p.journal)
  obtain ⟨l₁, l₂, l₃, hJ⟩ := exists_split_of_sublist hjournal
  rw [← List.cons_append, ← List.append_assoc] at hJ
  exact h.given _ l₃ i v.userId e hJ i secret v (by simp) rfl

end Available

theorem available_start (w : World) (users tokens : Backend) : Available settings requests
    (start settings { w.emptied users tokens with faults := {} } requests) where
  ancestral := (ancestral_start w users tokens).faulty {}
  remembers := remembers_nil (UserStore.sound_empty users)
  named := UserStore.named_empty users
  faultless := rfl
  given J₁ J₂ i id e hJ := absurd hJ (by simp [start])

/-- Settings that were built, and requests side by side without faults, over stores of either kind
that were empty in the beginning. The user of each refresh record is known under just this id, which
is not blank. No login and no refresh fails because a session cannot be minted, and no refresh
because a profile is missing.

Each token that was issued has its record, and its secret can be presented as it is. Whoever
presents it alone, while the record is neither revoked nor expired, is answered with cookies, as
long as both expiries lie in the calendar and the new token is unlike those in the store. -/
theorem sessions_stay_available {draft : Draft} (hbuild : draft.build = .ok settings) (w : World)
    (users tokens : Backend) (turns : List Turn) :
    let p := (start settings { w.emptied users tokens with faults := {} } requests).run turns
    (∀ r ∈ p.tokens.records, p.world.users.Has r.userId) ∧
    (∀ i e, p.result? i ≠ some (.login (.error (.mint e))) ∧
      p.result? i ≠ some (.refresh (.error (.mint e)))) ∧
    (∀ i e, p.result? i ≠ some (.refresh (.error (.profileUnavailable e)))) ∧
    ∀ i userId expires previous issued,
      (i, ⟨.issueRefresh userId expires previous, .ok issued⟩) ∈ p.journal →
      Service.presented? (some issued.secret) = some issued.secret ∧
      ∃ r ∈ p.tokens.records, r.tokenId = issued.tokenId ∧ r.tokenHash = fingerprint issued.secret ∧
        ∀ (σ : Surroundings) (cookie : Option String) (sessionExpires refreshExpires : Instant),
          Service.presented? cookie = some issued.secret →
          r.isRevoked = false → σ.clock.seconds < r.expires →
          σ.clock.add? settings.sessionLifetime = some sessionExpires →
          σ.clock.add? settings.refreshLifetime = some refreshExpires →
          (let drawn := (IssuedRefresh.draw σ.clock σ.entropy).1
            ∀ q ∈ p.tokens.records, q.tokenId ≠ drawn.tokenId ∧
              q.tokenHash ≠ fingerprint drawn.secret) →
          ∃ cookies w', (p.world.within σ).perform (Service.refresh settings cookie) =
            some (.ok cookies, w') := by
  intro p
  have hkey := (Draft.sound_of_build hbuild).signingKey
  have h : Available settings requests p := Available.run turns (available_start w users tokens)
  clear_value p
  have hsound := h.ancestral.agreed.tokens
  have hmint : ∀ i e request, ¬Fails settings request (callsOf i p.journal) (.mint e) :=
    fun i e request => h.not_fails_mint hkey
  refine ⟨fun r hr => h.has_of_record (hsound.mem_records_iff.1 hr), fun i e => ⟨fun ho => ?_,
    fun ho => ?_⟩, fun i e ho => ?_, fun i userId expires previous issued hissued => ?_⟩
  · obtain ⟨request, hgrounded⟩ := h.grounded ho
    exact hmint i e request (hgrounded _ rfl)
  · obtain ⟨request, hgrounded⟩ := h.grounded ho
    exact hmint i e request (hgrounded _ rfl)
  · obtain ⟨request, hgrounded⟩ := h.grounded ho
    exact h.not_fails_profileUnavailable (hgrounded _ rfl)
  · obtain ⟨⟨r, hr, hhash⟩, now, entropy, hdrawn⟩ := h.ancestral.agreed.issued hissued
    have hpresented := hdrawn ▸ IssuedRefresh.presented?_draw now entropy
    have hid := hsound.tokenId_of_get? hr
    have hmem := hsound.mem_records_iff.2 (hid.symm ▸ hr)
    refine ⟨hpresented, r, hmem, hid, hhash, ?_⟩
    intro σ cookie sessionExpires refreshExpires hcookie hact hexp hsession hrefresh hnew
    have hfree : ¬p.tokens.Taken ((IssuedRefresh.draw σ.clock σ.entropy).1.record σ.clock r.userId
        refreshExpires.seconds r.tokenId) := RefreshStore.not_taken hsound hnew
    exact World.exists_perform_refresh
      (w := p.world.within σ) h.faultless hsound hkey hcookie hr hhash
      hact hexp (h.has_of_record hr) hsession hrefresh hfree

end Pool

/-! ## A refresh after one login -/

namespace FirstLogin

open SessionToken (noon)

/-- The login was issued a token. -/
theorem exists_issued : ∃ userId expires issued,
    (1, ⟨.issueRefresh userId expires "", .ok issued⟩) ∈ pool.journal := by
  obtain ⟨outcome, ho⟩ := exists_outcome
  have hled : Pool.Led settings [.issueNonce, .login "token" nonce true] pool :=
    Pool.led turns Pool.led_start
  obtain ⟨q, hq, hanswered⟩ := hled.caller (i := 1) rfl
  obtain rfl := Option.some.inj ((Pool.result?_eq_some_iff.1 ho).symm.trans hq)
  obtain ⟨_, _, _, _, id, _, _, _, _, expires, issued, -, -, hes, -⟩ :=
    ServiceRequest.login_finished hanswered
  refine ⟨id, expires.seconds, issued, mem_callsOf.1 ?_⟩
  rw [hes]
  simp

/-- Noon again, with other random bytes. -/
def again : Surroundings := { surroundings noon with entropy := ⟨[], 1⟩ }

theorem records_good : ∀ r ∈ pool.tokens.records,
    r.isRevoked = false ∧ again.clock.seconds < r.expires := by
  decide +kernel

theorem records_fresh : ∀ r ∈ pool.tokens.records,
    r.tokenId ≠ (IssuedRefresh.draw again.clock again.entropy).1.tokenId ∧
      r.tokenHash ≠ fingerprint (IssuedRefresh.draw again.clock again.entropy).1.secret := by
  decide +kernel

theorem pool_eq : (Pool.start settings { world.emptied .memory .memory with faults := {} }
    [.issueNonce, .login "token" nonce true]).run turns = pool := rfl

/-- The user of the login is known, and the secret of the login is good for a refresh. -/
theorem login_can_be_refreshed : ∃ issued : IssuedRefresh, ∃ r ∈ pool.tokens.records,
    r.tokenId = issued.tokenId ∧ pool.world.users.Has r.userId ∧ ∃ cookies w',
      (pool.world.within again).perform (Service.refresh settings (some issued.secret)) =
        some (.ok cookies, w') := by
  have havailable := @Pool.sessions_stay_available settings [.issueNonce, .login "token" nonce true]
    draft build_draft world .memory .memory turns
  rw [pool_eq] at havailable
  obtain ⟨hknown, -, -, hsecrets⟩ := havailable
  obtain ⟨userId, expires, issued, hissued⟩ := exists_issued
  obtain ⟨hpresented, r, hr, hid, -, hgood⟩ := hsecrets 1 userId expires "" issued hissued
  obtain ⟨hactive, hexpires⟩ := records_good r hr
  obtain ⟨t, ht⟩ : ∃ t, again.clock.add? settings.sessionLifetime = some t := ⟨_, rfl⟩
  obtain ⟨t', ht'⟩ : ∃ t, again.clock.add? settings.refreshLifetime = some t := ⟨_, rfl⟩
  exact ⟨issued, r, hr, hid, hknown r hr,
    hgood again (some issued.secret) t t' hpresented hactive hexpires ht ht' records_fresh⟩

end FirstLogin

end SignIn
