import SignIn.Proofs.Service.LoginAlone
import SignIn.Proofs.Service.LogoutAlone

/-!
# A session in the moment of its issue

A lifetime counts to the nanosecond where settings are built, and an expiry to the second where it
is looked at. So what was issued is good in the same moment just if its lifetime reaches into the
next second (`Instant.Reaches`).

A login and a refresh that run alone end with their cookies over a store that has the record of the
new secret (`World.HandsOut`), and from this one fact both checks follow (`World.good_at_issue`). A
lifetime of half a second can be set, and a session of it that is issued on the second has expired
at once (`FirstLogin.half_a_second_is_none`).
-/

namespace SignIn

/-! ## Lifetimes and seconds -/

/-- A lifetime from now on ends in a later second. -/
def Instant.Reaches (now : Instant) (lifetime : Span) : Prop :=
  1000000000 ≤ now.subsecond + lifetime.nanos

instance (now : Instant) (lifetime : Span) : Decidable (now.Reaches lifetime) :=
  inferInstanceAs (Decidable (_ ≤ _))

/-- The expiry lies in a later second if and only if the span reaches into one. -/
theorem Instant.seconds_lt_iff_reaches {now expires : Instant} {lifetime : Span}
    (h : now.add? lifetime = some expires) :
    now.seconds < expires.seconds ↔ now.Reaches lifetime := by
  rw [Reaches, seconds, seconds, subsecond, nanos_of_add? h]
  omega

/-! ## A token that is issued -/

namespace RefreshStore

variable {s s' : RefreshStore} {now : Instant} {entropy entropy' : Entropy}
  {userId previous : String} {expires : Int} {issued : IssuedRefresh}

/-- On a closed connection no token is issued. -/
theorem sound_of_issue (hs : s.Sound ∨ s.IsClosed)
    (h : s.issue now entropy userId expires previous = (.ok issued, s', entropy')) : s.Sound := by
  rcases hs with hs | hclosed
  · exact hs
  · have hserve : (s.serve now entropy (.issue userId expires previous)).1 =
        .issue userId expires previous (.ok issued) := by
      rw [serve, h]
    have hrefused := (serve_of_closed hclosed now entropy (.issue userId expires previous)).1
    rw [hserve] at hrefused
    obtain ⟨e, he⟩ := hrefused
    cases he

theorem secret_ne_empty_of_issue
    (h : s.issue now entropy userId expires previous = (.ok issued, s', entropy')) :
    issued.secret ≠ "" := by
  have hissued : issued = (IssuedRefresh.draw now entropy).1 := by
    rcases s.issue_cases now entropy userId expires previous with ⟨e, he⟩ | ⟨s'', he, -⟩
    · cases he.symm.trans h
    · exact (Except.ok.inj (congrArg Prod.fst (he.symm.trans h))).symm
  rw [hissued]
  exact Service.ne_empty_of_presented (IssuedRefresh.presented?_draw now entropy)

end RefreshStore

namespace World

open Operation

variable {w w' : World} {settings : Settings} {c : Call} {r : c.Reply} {cookies : List String}

/-- Whoever is not asked stays as it was. -/
theorem tokens_of_answer (h : answer c w = some (r, w'))
    (hc : ∀ e : RefreshEvent, (⟨c, r⟩ : Exchange) ≠ e.exchange) :
    w'.refreshTokens = w.refreshTokens := by
  rcases step_of_answer h with ⟨now, e, he, -⟩ | ⟨-, hsame⟩
  · exact absurd he (hc e)
  · exact hsame

/-! ## What is handed out -/

/-- A session and a token are handed out, and the store has the record of the token, which is
active. -/
inductive HandsOut (settings : Settings) (now : Instant) : List String → RefreshStore → Prop
  | intro {profile sessionExpires expires issued r s}
      (session : now.add? settings.sessionLifetime = some sessionExpires)
      (refresh : now.add? settings.refreshLifetime = some expires)
      (sound : s.Sound) (text : IssuedRefresh.secret issued ≠ "")
      (found : s.get? r.tokenId = some r) (hash : r.tokenHash = fingerprint issued.secret)
      (active : r.isRevoked = false) (ends : r.expires = expires.seconds) :
      HandsOut settings now
        [Cookie.setSession settings (SessionToken.sign settings.signingKey
            (SessionToken.claims profile settings.issuer now sessionExpires)) sessionExpires now,
          Cookie.setRefresh settings issued.secret expires now] s

/-- A login is handed out a session over the store and at the instant of its beginning. -/
theorem exists_handOut_of_login {idToken nonce : String} {https : Bool} {outcome : LoginOutcome}
    (h : w.perform (Service.tryLogin settings idToken nonce https) = some (.ok outcome, w')) :
    ∃ w₁ : World, w₁.refreshTokens = w.refreshTokens ∧ w₁.clock = w.clock ∧
      w₁.perform (Service.handOut settings outcome.user "") = some (.ok outcome.cookies, w') := by
  unfold Service.tryLogin at h
  extract_lets idToken nonce at h
  split at h
  · cases h
  split at h
  · cases h
  obtain ⟨reply, w₁, ha₁, h₁⟩ := exists_of_perform_ask h
  obtain ⟨u, rfl, h₂⟩ := exists_of_perform_andThen h₁
  split at h₂
  · cases h₂
  obtain ⟨reply, w₂, ha₂, h₃⟩ := exists_of_perform_ask h₂
  obtain ⟨claims, rfl, h₄⟩ := exists_of_perform_andThen h₃
  obtain ⟨identity, -, h₅⟩ := exists_of_perform_andThen h₄
  obtain ⟨reply, w₃, ha₃, h₆⟩ := exists_of_perform_ask h₅
  obtain ⟨⟨id, roles⟩, rfl, h₇⟩ := exists_of_perform_andThen h₆
  obtain ⟨result, hhand, hresult⟩ := exists_of_perform_map h₇
  have htokens : w₃.refreshTokens = w.refreshTokens :=
    (tokens_of_answer ha₃ fun e he => by cases e <;> cases he).trans
      ((tokens_of_answer ha₂ fun e he => by cases e <;> cases he).trans
        (tokens_of_answer ha₁ fun e he => by cases e <;> cases he))
  have hclock : w₃.clock = w.clock :=
    (answer_clock ha₃).trans ((answer_clock ha₂).trans (answer_clock ha₁))
  cases result with
  | error f => cases hresult
  | ok cookies =>
    cases hresult
    exact ⟨w₃, htokens, hclock, hhand⟩

/-- The cookies that are handed out are those of a session and of a record that is now in the
store. -/
theorem handsOut_of_handOut (hs : w.refreshTokens.Sound ∨ w.refreshTokens.IsClosed)
    {profile : Profile} {previous : String}
    (h : w.perform (Service.handOut settings profile previous) = some (.ok cookies, w')) :
    HandsOut settings w.clock cookies w'.refreshTokens := by
  have hhanded := w.handed_perform settings profile previous
  rw [h] at hhanded
  cases hhanded with
  | handed mint session refresh issue =>
    obtain ⟨s, entropy, rfl, hissue, -⟩ := behind_of_issued issue
    have hgained := RefreshStore.gained_of_issue (RefreshStore.sound_of_issue hs hissue) hissue
    exact .intro session refresh hgained.sound (RefreshStore.secret_ne_empty_of_issue hissue)
      (by rw [hgained.get, if_pos rfl]) rfl rfl rfl

/-- Revoking the old token leaves the new one active. -/
theorem handsOut_of_refresh (hs : w.refreshTokens.Sound ∨ w.refreshTokens.IsClosed)
    {cookie : Option String}
    (h : w.perform (Service.tryRefresh settings cookie) = some (.ok cookies, w')) :
    HandsOut settings w.clock cookies w'.refreshTokens := by
  have hrefreshed := w.refreshed_perform settings cookie
  rw [h] at hrefreshed
  generalize hresult : (Except.ok cookies : Except AuthFailure (List String)) = result at hrefreshed
  cases hrefreshed with
  | refused entropy other => cases hresult
  | @rotated secret v profile sessionExpires expires issued s entropy presented valid given session
      refresh issue =>
    have hsound := RefreshStore.sound_of_issue hs issue
    have hgained := RefreshStore.gained_of_issue hsound issue
    obtain ⟨-, r, hr, -, hact, -, rfl⟩ :=
      RefreshStore.judge_eq_ok hsound
        ((RefreshStore.validate_eq hsound w.clock secret).symm.trans valid)
    have hne : issued.tokenId ≠ r.tokenId := by
      intro heq
      have hfree : w.refreshTokens.get? issued.tokenId = none := hgained.idFree
      rw [heq] at hfree
      cases hfree.symm.trans hr
    have hnew : s.get? issued.tokenId =
        some (issued.record w.clock profile.userId expires.seconds r.tokenId) :=
      (hgained.get issued.tokenId).trans (if_pos rfl)
    rcases revokeRefresh_cases (w := w) hgained.sound (hgained.get?_of_some hr) hact
        [Cookie.setSession settings (SessionToken.sign settings.signingKey
            (SessionToken.claims profile settings.issuer w.clock sessionExpires))
            sessionExpires w.clock,
          Cookie.setRefresh settings issued.secret expires w.clock] with
      ⟨e, hend, -⟩ | ⟨hend, hsound', hget⟩
    · cases hresult.trans hend
    · cases hresult.trans hend
      have hfound := hget issued.tokenId
      rw [if_neg fun hand => hne hand.1, hnew] at hfound
      exact .intro (r := issued.record w.clock profile.userId expires.seconds r.tokenId) session
        refresh hsound' (RefreshStore.secret_ne_empty_of_issue issue) hfound rfl rfl rfl

/-- Whoever hands out a session does so over a store with the active record of its secret. -/
theorem handsOut_of_perform (hs : w.refreshTokens.Sound ∨ w.refreshTokens.IsClosed)
    {request : ServiceRequest} {o : Outcome}
    (h : w.perform (request.operation settings) = some (o, w'))
    (ho : o.handedOut? = some cookies) : HandsOut settings w.clock cookies w'.refreshTokens := by
  cases request with
  | issueNonce | logout =>
    obtain ⟨a, -, rfl⟩ := exists_of_perform_map h
    cases ho
  | login idToken nonce https =>
    obtain ⟨result, hp, rfl⟩ := exists_of_perform_map h
    cases result with
    | error f => cases ho
    | ok outcome =>
      cases ho
      rcases LoginAttempt.run_cases (a := ⟨settings, w, idToken, nonce, https⟩) with
        ⟨-, hrun⟩ | ⟨result, w₁, counters, log, htried, hrun⟩
      · cases hrun.symm.trans hp
      · cases hrun.symm.trans hp
        obtain ⟨w₂, htokens, hclock, hhand⟩ := exists_handOut_of_login htried
        rw [← htokens] at hs
        rw [← hclock]
        exact (handsOut_of_handOut hs hhand :)
  | refresh cookie =>
    obtain ⟨result, hp, rfl⟩ := exists_of_perform_map h
    cases result with
    | error f => cases ho
    | ok cookies' =>
      cases ho
      rcases w.perform_refresh_cases settings cookie with
        ⟨-, hrun⟩ | ⟨result, w₁, counters, log, htried, hrun⟩
      · cases hrun.symm.trans hp
      · cases hrun.symm.trans hp
        exact (handsOut_of_refresh hs htried :)

/-- A login or a refresh that runs alone in any world, with any failures, over a refresh store that
is sound or whose connection is closed, under settings that were built and at least 30 seconds after
the start of 1970. In the moment in which it has handed out cookies, its session token is accepted
if the lifetime of a session reaches into the next second, and has expired if not. Its secret is
good if the lifetime of a refresh token does, and has expired if not. -/
theorem good_at_issue {draft : Draft} (hbuild : draft.build = .ok settings)
    (hs : w.refreshTokens.Sound ∨ w.refreshTokens.IsClosed) (hissue : 30 ≤ w.clock.seconds)
    {request : ServiceRequest} {o : Outcome}
    (h : w.perform (request.operation settings) = some (o, w'))
    (ho : o.handedOut? = some cookies) :
    ∃ (token secret : String) (sessionExpires refreshExpires : Instant) (claims : Claims)
        (valid : ValidRefresh),
      cookies = [Cookie.setSession settings token sessionExpires w.clock,
        Cookie.setRefresh settings secret refreshExpires w.clock] ∧
      SessionToken.verify settings.signingKey settings.issuer w.clock token =
        (if w.clock.Reaches settings.sessionLifetime then .ok claims else .error .expired) ∧
      w'.refreshTokens.validate w.clock secret =
        if w.clock.Reaches settings.refreshLifetime then .ok valid
        else .error (w'.refreshTokens.fail .validate .expired) := by
  have hsettings := Draft.sound_of_build hbuild
  have hhanded := handsOut_of_perform hs h ho
  generalize w'.refreshTokens = s at hhanded ⊢
  cases hhanded with
  | @intro profile sessionExpires expires issued r s session refresh sound text found hash active
      ends =>
    refine ⟨_, issued.secret, sessionExpires, expires,
      SessionToken.claims profile settings.issuer w.clock sessionExpires,
      ⟨r.userId, r.tokenId, r.expires⟩, rfl, ?_, ?_⟩
    · rw [SessionToken.verify_of_issued hissue
        (Instant.le_of_add? hsettings.sessionLifetime.le session) (Int.le_refl _)]
      simp only [Instant.seconds_lt_iff_reaches session]
    · rw [RefreshStore.validate_eq sound, if_neg text, ← hash, sound.find?_of_get? found,
        RefreshRecord.judge, if_neg (by simp [active]), ends]
      by_cases hreaches : w.clock.Reaches settings.refreshLifetime
      · have hlt := (Instant.seconds_lt_iff_reaches refresh).2 hreaches
        rw [if_pos hreaches, if_neg (by omega)]
        rfl
      · have hle := mt (Instant.seconds_lt_iff_reaches refresh).1 hreaches
        rw [if_neg hreaches, if_pos (by omega)]
        rfl

end World

/-! ## Half a second -/

namespace FirstLogin

open SessionToken (noon)

/-- A session of half a second. -/
def briefDraft : Draft := { draft with sessionLifetime := ⟨500000000, by decide⟩ }

def briefSettings : Settings := { settings with sessionLifetime := briefDraft.sessionLifetime }

/-- The first login with it, on the second of noon. -/
def briefLogin : Option (Outcome × World) :=
  LoginAttempt.atNoon.world.perform
    ((ServiceRequest.login "token" "n" true).operation briefSettings)

/-- The login has handed out cookies. -/
def isBriefLogin : Bool :=
  match briefLogin with
  | some (.login (.ok _), _) => true
  | _ => false

theorem exists_briefLogin : ∃ outcome w', briefLogin = some (.login (.ok outcome), w') := by
  have h : isBriefLogin = true := by decide +kernel
  unfold isBriefLogin at h
  split at h
  · rename_i outcome w' heq
    exact ⟨outcome, w', heq⟩
  · cases h

/-- The settings can be built, the login succeeds, and its session has expired in the same moment.
Its secret is good. -/
theorem half_a_second_is_none : ∃ (outcome : LoginOutcome) (w' : World) (token secret : String)
      (sessionExpires refreshExpires : Instant) (valid : ValidRefresh),
    briefDraft.build = .ok briefSettings ∧ briefLogin = some (.login (.ok outcome), w') ∧
      outcome.cookies = [Cookie.setSession briefSettings token sessionExpires noon,
        Cookie.setRefresh briefSettings secret refreshExpires noon] ∧
      SessionToken.verify briefSettings.signingKey briefSettings.issuer noon token =
        .error .expired ∧
      w'.refreshTokens.validate noon secret = .ok valid := by
  obtain ⟨outcome, w', hlogin⟩ := exists_briefLogin
  have hbuild : briefDraft.build = .ok briefSettings := rfl
  obtain ⟨token, secret, sessionExpires, refreshExpires, claims, valid, hcookies, hsession,
    hrefresh⟩ :=
    World.good_at_issue hbuild (Or.inl (RefreshStore.sound_empty .memory)) (by decide) hlogin rfl
  refine ⟨outcome, w', token, secret, sessionExpires, refreshExpires, valid, hbuild, hlogin,
    hcookies, ?_, ?_⟩
  · exact hsession.trans (if_neg (by decide))
  · exact hrefresh.trans (if_pos (by decide))

end FirstLogin

end SignIn
