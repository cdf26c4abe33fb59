import SignIn.Proofs.Service.LoggedIn
import SignIn.Proofs.Session.Issued
import SignIn.Proofs.Settings.Built
import SignIn.Web.Router

/-!
# A session lasts its lifetime

A request for the current user is answered when the session check accepts it (`perform_handle_me`),
and the check looks at the cookie that the header lines carry (`checkRequest_of_carries`). The
cookie of a login is its token, the token is good up to the second of expiry, and its user is known
whatever has happened since. Together, a login is good for just the lifetime of its session
(`App.session_lasts_its_lifetime`).

A line of cookies that is no text as a whole says none, so there the session cookie is not found
either.
-/

namespace SignIn

/-! ## The current user -/

theorem Validator.make_of_sound {settings : Settings} (h : settings.Sound) :
    make settings.signingKey settings.issuer settings.sessionCookie =
      .ok (App.ofSettings settings).validator := by
  have hkey : ¬settings.signingKey.isEmpty = true := by simpa using h.signingKey
  rw [make, if_neg hkey, h.issuer, h.sessionCookie]
  rfl

/-- The cookie that the header lines carry is checked. -/
theorem Validator.checkRequest_of_carries {v : Validator} {headers : Headers} {token : String}
    (h : Cookie.Carries headers v.cookieName token.toList) (hblank : Text.allBlank token = false)
    (now : Instant) : v.checkRequest now headers = v.checkToken now token := by
  rw [checkRequest, Cookie.carries_iff.1 h, String.ofList_toList, Option.filter_some, hblank,
    if_pos (by decide)]

/-- Where no cookie is said, there is none to check. -/
theorem Validator.checkRequest_of_written_nil {v : Validator} {headers : Headers}
    (h : Cookie.Written headers []) (now : Instant) :
    v.checkRequest now headers = .error .missingCookie := by
  rw [checkRequest, Cookie.value?, Cookie.pairs_of_written h]
  rfl

namespace App

variable {app : App} {r : Request} {w : World}

/-- What a user is told about a session. -/
def currentUser (profile : Profile) (expires : Instant) : Response :=
  userResponse (userMembers profile ++
    [("expires", .str (String.ofList (Stamp.toSeconds expires)))])

theorem perform_handleMe {claims : Claims} {expires : Instant} {profile : Profile}
    (hexpires : claims.expiryInstant? = some expires) (hfault : w.faults.userProfile = none)
    (hprofile : w.users.profile claims.userId = .ok profile) :
    w.perform (handleMe claims) = some (currentUser profile expires, w) := by
  have hnone : w.fault? (.userProfile claims.userId) = none := by
    rw [World.fault?, hfault]
    rfl
  have hanswer : World.answer (.userProfile claims.userId) w = some (.ok profile, w) := by
    simp only [World.answer, hnone, World.serve, hprofile]
  rw [handleMe, AuthedUser.ofClaims?, hexpires]
  exact World.perform_ask hanswer

/-- A request for the current user is answered behind the session check. -/
theorem perform_handle_me (hmethod : r.method = "GET") (hpath : r.path = "/me") :
    w.perform (app.handle r) =
      match app.validator.checkRequest w.clock r.headers with
      | .error _ => some (.empty 401, w)
      | .ok claims => w.perform (handleMe claims) := by
  have hroute : Route.ofPath? r.path = some .me := by
    rw [hpath]
    decide
  have hget : Route.me.methods.contains r.method = true := by
    rw [hmethod]
    decide
  have hhead : ¬r.method = "HEAD" := by
    rw [hmethod]
    decide
  have hclock : World.answer .readClock w = some (w.clock, w) := rfl
  rw [handle, hroute]
  dsimp only
  rw [handleProtected, World.perform_ask hclock, hget]
  cases app.validator.checkRequest w.clock r.headers with
  | error e => rfl
  | ok claims =>
    simp only [if_neg hhead]
    rw [World.perform, Script.run?_bind]
    exact Option.bind_fun_some _

theorem perform_handle_me_of_refused {e : SessionError} (hmethod : r.method = "GET")
    (hpath : r.path = "/me") (h : app.validator.checkRequest w.clock r.headers = .error e) :
    w.perform (app.handle r) = some (.empty 401, w) := by
  rw [perform_handle_me hmethod hpath, h]

theorem perform_handle_me_of_accepted {claims : Claims} {expires : Instant} {profile : Profile}
    (hmethod : r.method = "GET") (hpath : r.path = "/me")
    (h : app.validator.checkRequest w.clock r.headers = .ok claims)
    (hexpires : claims.expiryInstant? = some expires) (hfault : w.faults.userProfile = none)
    (hprofile : w.users.profile claims.userId = .ok profile) :
    w.perform (app.handle r) = some (currentUser profile expires, w) := by
  rw [perform_handle_me hmethod hpath, h]
  exact perform_handleMe hexpires hfault hprofile

end App

/-! ## A session from its login to its end -/

/-- From its issue on, a session is accepted up to the second of its expiry. -/
theorem Validator.checkRequest_of_mint {v : Validator} {profile : Profile} {now t : Instant}
    {lifetime : Span} {minted : Minted} {headers : Headers}
    (hmint : SessionToken.mint profile v.issuer v.signingKey now lifetime = .ok (some minted))
    (hlifetime : 0 < lifetime.nanos) (hissue : 30 ≤ now.seconds) (ht : now ≤ t)
    (hcarries : Cookie.Carries headers v.cookieName minted.token.toList) :
    v.checkRequest t headers = if t.seconds < minted.expires.seconds
      then .ok (SessionToken.claims profile v.issuer now minted.expires) else .error .expired := by
  obtain ⟨hadd, htoken⟩ := SessionToken.token_of_mint hmint
  have hblank : Text.allBlank minted.token = false := by
    rw [htoken]
    exact SessionToken.allBlank_sign _ _
  have hlate := Instant.le_of_add? (Int.le_of_lt hlifetime) hadd
  rw [checkRequest_of_carries hcarries hblank, checkToken, htoken]
  exact SessionToken.verify_of_issued hissue hlate ht

/-- Settings that were built, with a session cookie of a name that can be sent, make a validator. A
login under them at an instant, among any other requests and over either kind of user store, sets
the session cookie first, and what a browser sends back of it is its name and its value. Whoever
asks for the current user with this cookie is answered up to the second of expiry, and refused from
then on. The answer has the expiry of the session and the user of the login, in the details of this
login as long as nobody has written the same subject down again. -/
theorem App.session_lasts_its_lifetime {draft : Draft} {settings : Settings}
    (hbuild : draft.build = .ok settings) (hname : Cookie.IsPlain settings.sessionCookie.toList)
    (hequals : '=' ∉ settings.sessionCookie.toList) :
    let app := App.ofSettings settings
    Validator.make settings.signingKey settings.issuer settings.sessionCookie = .ok app.validator ∧
      ∀ {w : World} {requests : List ServiceRequest} {turns : List Turn} {i : Nat} {now : Instant}
        {outcome : LoginOutcome}, w.faults.userProfile = none → w.users.Sound →
        (∀ t ∈ turns, t.caller = i → t.surroundings.clock = now) → 30 ≤ now.seconds →
        let p := (Pool.start settings w requests).run turns
        p.result? i = some (.login (.ok outcome)) →
        ∃ cookie others value expires second,
          outcome.cookies = cookie :: others ∧
          Text.upTo ';' cookie.toList = settings.sessionCookie.toList ++ '=' :: value ∧
          Cookie.Carries [("cookie", String.ofList (Text.upTo ';' cookie.toList))]
            settings.sessionCookie value ∧
          now.add? settings.sessionLifetime = some expires ∧
          Instant.ofSeconds? expires.seconds = some second ∧
          ∀ (σ : Surroundings) (r : Request), now ≤ σ.clock → r.method = "GET" → r.path = "/me" →
            Cookie.Carries r.headers settings.sessionCookie value →
            ∃ profile, profile.userId = outcome.user.userId ∧ profile.roles = outcome.user.roles ∧
              (¬p.Rewritten i → profile = outcome.user) ∧
              (p.world.within σ).perform (app.handle r) =
                some (if σ.clock.seconds < expires.seconds then currentUser profile second
                  else .empty 401, p.world.within σ) := by
  intro app
  have hsound := Draft.sound_of_build hbuild
  refine ⟨Validator.make_of_sound hsound, ?_⟩
  intro w requests turns i now outcome hfault hs hclock hissue p ho
  obtain ⟨minted, refresh, profile, hmint, hcookies, hprofile, hid, hroles, hsame⟩ :=
    Pool.login_known hs hclock ho
  obtain ⟨hadd, htoken⟩ := SessionToken.token_of_mint hmint
  obtain ⟨second, hsecond⟩ := Instant.exists_ofSeconds? minted.expires
  have hplain : Cookie.IsPlain minted.token.toList := by
    rw [htoken]
    exact SessionToken.isPlain_sign _ _
  have hpart : Text.upTo ';' (Cookie.setSession settings minted.token minted.expires now).toList =
      settings.sessionCookie.toList ++ '=' :: minted.token.toList :=
    Cookie.upTo_set hname.not_mem hplain.not_mem ..
  -- This alone needs a plain name ; a token is plain anyhow.
  have hsent : Cookie.Carries [("cookie", String.ofList (Text.upTo ';'
      (Cookie.setSession settings minted.token minted.expires now).toList))]
      settings.sessionCookie minted.token.toList := by
    rw [hpart]
    exact Cookie.carries_single hname hequals hplain
  refine ⟨_, _, _, minted.expires, second, hcookies, hpart, hsent, hadd, hsecond, ?_⟩
  intro σ r hlater hmethod hpath hcarries
  refine ⟨profile, hid, hroles, hsame, ?_⟩
  have hcheck := Validator.checkRequest_of_mint (v := app.validator) hmint hsound.sessionLifetime
    hissue hlater hcarries
  have hfault' : (p.world.within σ).faults.userProfile = none := by
    rw [World.within_faults, Pool.run_faults]
    exact hfault
  by_cases hgood : σ.clock.seconds < minted.expires.seconds
  · rw [if_pos hgood] at hcheck ⊢
    exact App.perform_handle_me_of_accepted hmethod hpath hcheck hsecond hfault' hprofile
  · rw [if_neg hgood] at hcheck ⊢
    exact App.perform_handle_me_of_refused hmethod hpath hcheck

/-! ## One login -/

namespace FirstLogin

open SessionToken (noon)

/-- A session of twenty minutes. -/
def draft : Draft where
  clientId := "client"
  signingKey := [7]
  sessionLifetime := ⟨1200 * 1000000000, by decide⟩
  refreshLifetime := ⟨172800 * 1000000000, by decide⟩
  nonceLifetime := ⟨240 * 1000000000, by decide⟩

def settings : Settings where
  clientId := "client"
  signingKey := [7]
  issuer := "tauth"
  cookieDomain := none
  sessionCookie := "app_session"
  refreshCookie := "app_refresh"
  sessionLifetime := draft.sessionLifetime
  refreshLifetime := draft.refreshLifetime
  nonceLifetime := draft.nonceLifetime
  sameSite := .strict
  allowInsecureHttp := false

theorem build_draft : draft.build = .ok settings := rfl

/-- The expiry of a session from noon. -/
def twentyPast : Instant := ⟨1709295600 * 1000000000, by decide, by decide⟩

/-- The nonce that is issued first. -/
def nonce : String := Identifier.secret ((⟨[], 0⟩ : Entropy).draw Identifier.secretBytes).1

/-- The provider vouches for one user, with this nonce. -/
def surroundings (clock : Instant) : Surroundings where
  clock := clock
  entropy := ⟨[], 0⟩
  provider := .vouching
    { issuer := "accounts.google.com"
      subject := "ada"
      email := "ada@example.com"
      emailVerified := true
      displayName := "Ada"
      nonce := nonce }

def world : World := World.start settings .memory noon ⟨[], 0⟩ false

/-- A nonce is issued, and then a login presents it, all at noon. -/
def turns : List Turn := (0 :: List.replicate 7 1).map fun i => ⟨i, surroundings noon⟩

def pool : Pool := (Pool.start settings world [.issueNonce, .login "token" nonce true]).run turns

/-- The login has handed out cookies. -/
def isLoggedIn : Bool :=
  match pool.result? 1 with
  | some (.login (.ok _)) => true
  | _ => false

theorem exists_outcome : ∃ outcome, pool.result? 1 = some (.login (.ok outcome)) := by
  have h : isLoggedIn = true := by decide +kernel
  unfold isLoggedIn at h
  split at h
  · rename_i outcome ho
    exact ⟨outcome, ho⟩
  · cases h

theorem clock_eq : ∀ t ∈ turns, t.caller = 1 → t.surroundings.clock = noon := by
  intro t ht _
  obtain ⟨i, -, rfl⟩ := List.mem_map.1 ht
  rfl

/-- Asks for the current user with one line of cookies. -/
def request (line : String) : Request := ⟨"GET", "/me", [("cookie", line)], []⟩

theorem path_request (line : String) : (request line).path = "/me" := by
  have hpath : Target.path "/me" = "/me" := by decide
  exact hpath

/-- The session from noon is accepted at noon and refused twenty minutes later. -/
theorem session_lasts_twenty_minutes : ∃ outcome cookie others profile second,
    pool.result? 1 = some (.login (.ok outcome)) ∧ outcome.cookies = cookie :: others ∧
      profile.userId = outcome.user.userId ∧
      (pool.world.within (surroundings noon)).perform ((App.ofSettings settings).handle
          (request (String.ofList (Text.upTo ';' cookie.toList)))) =
        some (App.currentUser profile second, pool.world.within (surroundings noon)) ∧
      (pool.world.within (surroundings twentyPast)).perform ((App.ofSettings settings).handle
          (request (String.ofList (Text.upTo ';' cookie.toList)))) =
        some (.empty 401, pool.world.within (surroundings twentyPast)) := by
  obtain ⟨outcome, ho⟩ := exists_outcome
  obtain ⟨-, hlasts⟩ := App.session_lasts_its_lifetime build_draft (by decide) (by decide)
  obtain ⟨cookie, others, value, expires, second, hcookies, -, hcarries, hadd, -, hanswer⟩ :=
    hlasts (w := world) rfl (UserStore.sound_empty .memory) clock_eq (by decide) ho
  obtain rfl : twentyPast = expires := Option.some.inj hadd
  obtain ⟨profile, hid, -, -, hgood⟩ := hanswer (surroundings noon)
    (request (String.ofList (Text.upTo ';' cookie.toList))) (by decide) rfl
    (path_request _) hcarries
  obtain ⟨_, -, -, -, hbad⟩ := hanswer (surroundings twentyPast)
    (request (String.ofList (Text.upTo ';' cookie.toList))) (by decide) rfl
    (path_request _) hcarries
  exact ⟨outcome, cookie, others, profile, second, ho, hcookies, hid, hgood, hbad⟩

/-- A cookie of another name that is no text takes the session cookie of its line with it : at noon
the session from noon is refused. -/
theorem unreadable_line_hides_the_session : ∃ outcome cookie others,
    draft.build = .ok settings ∧ pool.result? 1 = some (.login (.ok outcome)) ∧
      outcome.cookies = cookie :: others ∧
      noon.add? settings.sessionLifetime = some twentyPast ∧ noon.seconds < twentyPast.seconds ∧
      (pool.world.within (surroundings noon)).perform ((App.ofSettings settings).handle
          (request ("a=ü; " ++ String.ofList (Text.upTo ';' cookie.toList)))) =
        some (.empty 401, pool.world.within (surroundings noon)) := by
  obtain ⟨outcome, ho⟩ := exists_outcome
  obtain ⟨minted, refresh, -, -, hcookies, -⟩ :=
    Pool.login_known (UserStore.sound_empty .memory) clock_eq ho
  refine ⟨outcome, _, [refresh], build_draft, ho, hcookies, rfl, by decide, ?_⟩
  have hunreadable : ∀ line, Headers.isText ("a=ü; " ++ line) = false := by
    intro line
    have hline : ("a=ü; ".toList.all fun c => (32 ≤ c.toNat && c.toNat ≤ 126) || c.toNat == 9) =
      false := by decide
    rw [Headers.isText, String.toList_append, List.all_append, hline, Bool.false_and]
  exact App.perform_handle_me_of_refused rfl (path_request _)
    (Validator.checkRequest_of_written_nil (.unreadable (hunreadable _) .nil) _)

end FirstLogin

end SignIn
