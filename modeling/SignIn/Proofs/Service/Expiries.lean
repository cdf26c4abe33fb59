import SignIn.Proofs.Service.Ancestry
import SignIn.Proofs.Service.HandedOut
import SignIn.Proofs.Session.Issued
import SignIn.Proofs.Settings.Built
import SignIn.Proofs.Time.CookieDate
import SignIn.Proofs.Web.Lifetime

/-!
# One expiry in all its renderings

The expiry of a session is written into its token and into its cookie, as a date and as a number of
seconds, and that of a refresh token into its record and into its cookie. What the cookies say is
read back by the calendar (`Cookie.Renders`), and what the token says from its payload
(`SessionToken.expiry?`).

The record comes from an answer of the store, and whoever else has turns only ever revokes it
(`Stored`). So whatever else is going on, all that a login or a refresh hands out has the same
second in it, that of the instant of issue and the lifetime (`Pool.renderings_agree`).
-/

namespace SignIn

/-! ## The expiry of a cookie -/

namespace Cookie

/-- The text sets a cookie whose date is that of a second, with the right day of the week, and whose
seconds are the whole seconds of a lifetime, so that they end less than a second before or after
it. -/
def Renders (settings : Settings) (name value path : String) (now : Instant) (lifetime : Span)
    (second : ℕ) (text : String) : Prop :=
  ∃ (date age : List Char) (n : ℕ),
    text = name ++ "=" ++ value ++ "; Path=" ++ path ++ "; HttpOnly; Expires=" ++
      String.ofList date ++ "; Max-Age=" ++ String.ofList age ++ attributes settings ∧
    CookieDate.read? date = some (CookieDate.weekdayAfter (second / 86400), second) ∧
    Decimal.natural? age = some n ∧ (n : Int) = lifetime.floorSeconds ∧
    |now.nanos + n * 1000000000 - second * 1000000000| < 1000000000

variable {settings : Settings} {now expires : Instant} {lifetime : Span}

/-- The whole seconds that are left of a lifetime at its beginning. -/
theorem secondsSince_of_add? (hlifetime : 0 < lifetime.nanos)
    (h : now.add? lifetime = some expires) :
    max (expires.secondsSince now) 0 = lifetime.floorSeconds := by
  have hspan : expires.nanos - now.nanos = lifetime.nanos := by
    rw [Instant.nanos_of_add? h]
    omega
  have hnonneg : 0 ≤ lifetime.nanos / 1000000000 := by omega
  rw [Instant.secondsSince, hspan, Int.tdiv_eq_ediv_of_nonneg hlifetime.le, max_eq_left hnonneg,
    Span.floorSeconds]

theorem natural?_signed {n : Int} (h : 0 ≤ n) :
    Decimal.natural? (Decimal.signed n) = some n.natAbs := by
  rw [Decimal.signed, if_neg h.not_gt, Decimal.natural?_eq_some_iff]
  exact ⟨Decimal.areDigits_digits _, Json.value_digits _⟩

/-- A cookie that is set from 1970 to 9999 renders its expiry. -/
theorem renders_set (name value path : String) (hlifetime : 0 < lifetime.nanos)
    (hfirst : 0 ≤ now.nanos) (hlast : now.nanos + lifetime.nanos < 253402300800 * 1000000000)
    (h : now.add? lifetime = some expires) :
    ∃ second : ℕ, (second : Int) = (now.nanos + lifetime.nanos) / 1000000000 ∧
      expires.seconds = second ∧
      Renders settings name value path now lifetime second
        (set settings name value path expires now) := by
  have hseconds : expires.seconds = (now.nanos + lifetime.nanos) / 1000000000 := by
    rw [Instant.seconds, Instant.nanos_of_add? h]
  obtain ⟨second, hsecond⟩ := Int.eq_ofNat_of_zero_le (by omega : 0 ≤ expires.seconds)
  have hage : 0 ≤ lifetime.floorSeconds := Int.ediv_nonneg hlifetime.le (by decide)
  have hread := CookieDate.read?_cookieDate (t := expires) (by omega) (by omega)
  rw [hsecond] at hread
  refine ⟨second, by omega, hsecond, Stamp.cookieDate expires, Decimal.signed lifetime.floorSeconds,
    lifetime.floorSeconds.natAbs, ?_, hread, natural?_signed hage, Int.natAbs_of_nonneg hage, ?_⟩
  · rw [set, compose, secondsSince_of_add? hlifetime h]
  · rw [Int.natAbs_of_nonneg hage, Span.floorSeconds, abs_lt]
    omega

end Cookie

/-! ## The expiry of a token -/

namespace SessionToken

/-- The expiry in the payload of a token, whoever has signed it. -/
def expiry? (token : String) : Option Int :=
  (parts? token.toList).bind fun (_, payload, _) =>
    (json? payload).bind fun j => j.record?.bind fun ms => Json.required? ms "exp" Json.int64?

/-- The expiry of a token is read back from it, without its key. -/
theorem expiry?_sign (key : Bytes) {c : Claims} (h : c.HasTimes) :
    expiry? (sign key c) = some c.expires := by
  have hexpires : Json.required? c.members "exp" Json.int64? = some c.expires :=
    if_pos (h c.expires (by simp))
  rw [expiry?, parts?_sign, Option.bind_some]
  simp only [json?_part (Claims.isPlain_toJson h), Option.bind_some, Claims.record?_toJson,
    hexpires]

end SessionToken

/-! ## The expiry of a record -/

/-- The refresh store is sound or its connection is closed, and every token that was issued has its
record, with the expiry that was asked for. -/
structure Stored (w : World) (J : List (ℕ × Exchange)) : Prop where
  tokens : w.refreshTokens.Sound ∨ w.refreshTokens.IsClosed
  issued : ∀ {i userId expires previous t},
    (i, ⟨.issueRefresh userId expires previous, .ok t⟩) ∈ J →
    ∃ r, w.refreshTokens.find? (fingerprint t.secret) = some r ∧ r.expires = expires

theorem stored_nil {w : World} (h : w.refreshTokens.Sound ∨ w.refreshTokens.IsClosed) :
    Stored w [] where
  tokens := h
  issued hj := absurd hj List.not_mem_nil

/-- A call leaves a store sound or closed, a record stays where it was but for its stamp, and a
token that is issued has its record. -/
theorem RefreshStore.Step.stored {s s' : RefreshStore} {now : Instant} {e : RefreshEvent}
    (hs : s.Sound ∨ s.IsClosed) (h : s.Step now e s') :
    (s'.Sound ∨ s'.IsClosed) ∧
      (∀ k r, s.find? k = some r → ∃ r', s'.find? k = some r' ∧ r'.expires = r.expires) ∧
      ∀ userId expires previous t, e = .issue userId expires previous (.ok t) →
        ∃ r, s'.find? (fingerprint t.secret) = some r ∧ r.expires = expires := by
  rcases hs with hs | hclosed
  · have heffect := effect_of_step hs h
    have hs' := heffect.sound hs
    refine ⟨Or.inl hs', fun k r hr => ?_, ?_⟩
    · obtain ⟨hget, rfl⟩ := hs.find?_eq_some_iff.1 hr
      obtain ⟨r', hr', hb⟩ := heffect.becomes hget
      exact ⟨r', hb.tokenHash_eq ▸ hs'.find?_of_get? hr', by rw [hb.eq_with]⟩
    · rintro userId expires previous t rfl
      cases heffect with
      | issued entropy drawn free sound kind get =>
        have hget := get t.tokenId
        rw [if_pos rfl] at hget
        exact ⟨_, sound.find?_of_get? hget, rfl⟩
  · obtain ⟨entropy, call, heq⟩ := h
    obtain ⟨hrefused, hsame⟩ := serve_of_closed hclosed now entropy call
    rw [heq] at hrefused hsame
    obtain rfl : s' = s := hsame
    refine ⟨Or.inr hclosed, fun k r hr => ⟨r, hr, rfl⟩, ?_⟩
    rintro userId expires previous t rfl
    obtain ⟨e, he⟩ := hrefused
    cases he

/-- Every answer leaves the records of the tokens issued so far, with their expiries, and adds that
of its own. -/
theorem Stored.answer {w w' : World} {J : List (ℕ × Exchange)} (h : Stored w J) {i : ℕ} {c : Call}
    {r : c.Reply} (ha : World.answer c w = some (r, w')) : Stored w' (J ++ [(i, ⟨c, r⟩)]) := by
  rcases World.step_of_answer ha with ⟨now, e, he, hstep⟩ | ⟨hrefused, hsame⟩
  · obtain ⟨htokens, hkept, hnew⟩ := hstep.stored h.tokens
    refine ⟨htokens, fun {j userId expires previous t} hj => ?_⟩
    rcases List.mem_append.1 hj with hj | hj
    · obtain ⟨q, hq, rfl⟩ := h.issued hj
      exact hkept _ q hq
    · cases List.mem_singleton.1 hj
      refine hnew userId expires previous t ?_
      cases e <;> cases he
      rfl
  · refine ⟨hsame ▸ h.tokens, fun {j userId expires previous t} hj => ?_⟩
    rcases List.mem_append.1 hj with hj | hj
    · exact hsame ▸ h.issued hj
    · cases List.mem_singleton.1 hj
      obtain ⟨e, he⟩ := hrefused (.issue userId expires previous (.ok t)) rfl
      cases he

namespace Pool

variable {settings : Settings} {requests : List ServiceRequest} {w : World}
  {turns : List FaultyTurn}

theorem stored_faultyRun (h : w.refreshTokens.Sound ∨ w.refreshTokens.IsClosed) :
    let p := (start settings w requests).faultyRun turns
    Stored p.world p.journal :=
  faultyRun_induction (I := Stored) (fun _ hI => ⟨hI.tokens, hI.issued⟩)
    (fun σ _ {w J _ _ _} hI ha => (⟨hI.tokens, hI.issued⟩ : Stored (w.within σ) J).answer ha) turns
    (stored_nil h)

/-- A caller reads the clock in its own turns. -/
theorem clock_of_mem_faultyRun {i : ℕ} {now : Instant}
    (hclock : ∀ t ∈ turns, t.turn.caller = i → t.turn.surroundings.clock = now) {n : Instant}
    (h : (i, ⟨.readClock, n⟩) ∈ ((start settings w requests).faultyRun turns).journal) :
    n = now := by
  refine faultyRun_induction_of_mem
    (I := fun _ J => ∀ n : Instant, (i, (⟨.readClock, n⟩ : Exchange)) ∈ J → n = now)
    (fun _ hI => hI) (fun t ht {w J c r w'} hJ ha n hn => ?_)
    (fun _ hn => absurd hn List.not_mem_nil) n h
  rcases List.mem_append.1 hn with hn | hn
  · exact hJ n hn
  · cases List.mem_singleton.1 hn
    cases ha
    exact hclock t ht rfl

/-- Settings that were built, and any requests side by side, over a refresh store that is sound or
whose connection is closed, where in any turn any collaborator may fail. A login or a refresh that
has handed out cookies in turns which all came at one instant, from 1970 on and with both sums of
this instant and a lifetime up to 9999, has handed out two. The expiry in the payload of the session
token and the date of the session cookie are the second in which the sum with its lifetime lies. The
expiry of the record of the secret and the date of the refresh cookie are that of the other sum.
Both dates have the right day of the week, and both cookies the whole seconds of their lifetime,
which end within a second of the expiry. -/
theorem renderings_agree {draft : Draft} (hbuild : draft.build = .ok settings)
    (hs : w.refreshTokens.Sound ∨ w.refreshTokens.IsClosed) {i : ℕ} {now : Instant}
    (hclock : ∀ t ∈ turns, t.turn.caller = i → t.turn.surroundings.clock = now)
    (hfirst : 0 ≤ now.nanos)
    (hsession : now.nanos + settings.sessionLifetime.nanos < 253402300800 * 1000000000)
    (hrefresh : now.nanos + settings.refreshLifetime.nanos < 253402300800 * 1000000000)
    {o : Outcome} {cookies : List String} :
    let p := (start settings w requests).faultyRun turns
    p.result? i = some o → o.handedOut? = some cookies →
      ∃ (token secret sessionCookie refreshCookie : String) (r : RefreshRecord)
          (sessionEnd refreshEnd : ℕ),
        cookies = [sessionCookie, refreshCookie] ∧
        (sessionEnd : Int) = (now.nanos + settings.sessionLifetime.nanos) / 1000000000 ∧
        SessionToken.expiry? token = some (sessionEnd : Int) ∧
        Cookie.Renders settings settings.sessionCookie token Cookie.sessionPath now
          settings.sessionLifetime sessionEnd sessionCookie ∧
        (refreshEnd : Int) = (now.nanos + settings.refreshLifetime.nanos) / 1000000000 ∧
        p.world.refreshTokens.find? (fingerprint secret) = some r ∧ r.expires = refreshEnd ∧
        Cookie.Renders settings settings.refreshCookie secret Cookie.refreshPath now
          settings.refreshLifetime refreshEnd refreshCookie := by
  intro p ho hcookies
  have hsound := Draft.sound_of_build hbuild
  have hled : Led settings requests p := led_start.faultyRun turns
  have hdone := result?_eq_some_iff.1 ho
  obtain ⟨request, hrequest⟩ := hled.request hdone
  obtain ⟨q, hq, hanswered⟩ := hled.caller hrequest
  obtain rfl := Option.some.inj (hdone.symm.trans hq)
  obtain ⟨profile, first, issuedAt, minted, expires, issued, previous, hmint, hexpires, hsub,
    rfl⟩ :=
    ServiceRequest.handedOut hanswered hcookies
  have hmem : ∀ {e}, e ∈ [_, _, _] → (i, e) ∈ p.journal := fun he => mem_callsOf.1 (hsub.subset he)
  -- Both times the clock was read in a turn of this caller.
  obtain rfl : first = now := clock_of_mem_faultyRun hclock (hmem (by simp))
  obtain rfl : issuedAt = first := clock_of_mem_faultyRun hclock (hmem (by simp))
  obtain ⟨hadd, htoken⟩ := SessionToken.token_of_mint hmint
  obtain ⟨r, hr, hrecord⟩ := (stored_faultyRun hs).issued (hmem (List.mem_cons_of_mem _
    (List.mem_cons_of_mem _ List.mem_cons_self)))
  obtain ⟨sessionEnd, hend, hsecond, hrenders⟩ :=
    Cookie.renders_set settings.sessionCookie minted.token
    Cookie.sessionPath hsound.sessionLifetime hfirst hsession hadd
  obtain ⟨refreshEnd, hend', hsecond', hrenders'⟩ :=
    Cookie.renders_set settings.refreshCookie issued.secret
    Cookie.refreshPath hsound.refreshLifetime hfirst hrefresh hexpires
  have htimes := SessionToken.hasTimes_claims profile settings.issuer issuedAt minted.expires
  have hexpiry := SessionToken.expiry?_sign settings.signingKey htimes
  rw [← htoken] at hexpiry
  exact ⟨minted.token, issued.secret, _, _, r, sessionEnd, refreshEnd, rfl, hend,
    hexpiry.trans (congrArg some hsecond), hrenders, hend', hr, hrecord.trans hsecond', hrenders'⟩

end Pool

/-! ## A login between two seconds -/

namespace FirstLogin

/-- A session of twenty minutes and half a second. -/
def unevenDraft : Draft := { draft with sessionLifetime := ⟨1200500000000, by decide⟩ }

def unevenSettings : Settings := { settings with sessionLifetime := unevenDraft.sessionLifetime }

/-- Three quarters of a second past noon. -/
def pastNoon : Instant := ⟨1709294400750000000, by decide, by decide⟩

/-- The first login, between two seconds. -/
def unevenTurns : List Pool.FaultyTurn :=
  (0 :: List.replicate 7 1).map fun i => ⟨⟨i, surroundings pastNoon⟩, {}⟩

def unevenPool : Pool :=
  (Pool.start unevenSettings world [.issueNonce, .login "token" nonce true]).faultyRun unevenTurns

/-- The login has handed out cookies. -/
def isUnevenlyLoggedIn : Bool :=
  match unevenPool.result? 1 with
  | some (.login (.ok _)) => true
  | _ => false

theorem exists_unevenOutcome : ∃ outcome, unevenPool.result? 1 = some (.login (.ok outcome)) := by
  have h : isUnevenlyLoggedIn = true := by decide +kernel
  unfold isUnevenlyLoggedIn at h
  split at h
  · rename_i outcome ho
    exact ⟨outcome, ho⟩
  · cases h

theorem unevenClock_eq :
    ∀ t ∈ unevenTurns, t.turn.caller = 1 → t.turn.surroundings.clock = pastNoon := by
  intro t ht _
  obtain ⟨i, -, rfl⟩ := List.mem_map.1 ht
  rfl

/-- The two fractions make up one second more : the session ends 1201 seconds past noon, on a
Friday, after 1200 seconds by its cookie. -/
theorem uneven_renderings_agree : ∃ (outcome : LoginOutcome)
      (token secret sessionCookie refreshCookie : String) (r : RefreshRecord),
    unevenPool.result? 1 = some (.login (.ok outcome)) ∧
      outcome.cookies = [sessionCookie, refreshCookie] ∧
      SessionToken.expiry? token = some 1709295601 ∧
      Cookie.Renders unevenSettings "app_session" token "/" pastNoon unevenSettings.sessionLifetime
        1709295601 sessionCookie ∧
      CookieDate.weekdayAfter (1709295601 / 86400) = "Fri".toList ∧
      unevenSettings.sessionLifetime.floorSeconds = 1200 ∧
      unevenPool.world.refreshTokens.find? (fingerprint secret) = some r ∧ r.expires = 1709467200 ∧
      Cookie.Renders unevenSettings "app_refresh" secret "/auth" pastNoon
        unevenSettings.refreshLifetime 1709467200 refreshCookie := by
  obtain ⟨outcome, ho⟩ := exists_unevenOutcome
  have hbuild : unevenDraft.build = .ok unevenSettings := rfl
  obtain ⟨token, secret, sessionCookie, refreshCookie, r, sessionEnd, refreshEnd, hcookies, hend,
    hexpiry, hrenders, hend', hr, hrecord, hrenders'⟩ :=
      Pool.renderings_agree hbuild (Or.inl (RefreshStore.sound_empty .memory)) unevenClock_eq
        (by decide) (by decide) (by decide) ho rfl
  obtain rfl : sessionEnd = 1709295601 := Int.ofNat_inj.1 hend
  obtain rfl : refreshEnd = 1709467200 := Int.ofNat_inj.1 hend'
  exact ⟨outcome, token, secret, sessionCookie, refreshCookie, r, ho, hcookies, hexpiry, hrenders,
    by decide, by decide, hr, hrecord, hrenders'⟩

end FirstLogin

end SignIn
