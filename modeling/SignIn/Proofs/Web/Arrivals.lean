import SignIn.Proofs.Service.Commute
import SignIn.Proofs.Service.SingleUse
import SignIn.Web.Router

/-!
# What a request asks

A login, a refresh or a logout asks little, and it can be said beforehand. It presents a nonce
(`nonce?`) or a secret (`secret?`), it concerns one user (`user?`), and of the world that it comes
to, with the random bytes that are drawn for it (`Arrival`), it asks nothing but what these are
about (`App.Asked`). This is read off the texts of the handlers once (`App.meets_handle`).

The three are also plain (`App.plain_handle`). A login goes on if its nonce was good, and if not it
answers the same in any case.
-/

namespace SignIn

/-! ## Requests that come with their random bytes -/

/-- A request, and the random bytes that are drawn for it. -/
structure Arrival where
  request : Request
  entropy : Entropy

/-- The request is a login, a refresh or a logout. -/
def Request.IsSignIn (r : Request) : Prop :=
  ∃ route ∈ [Route.login, .refresh, .logout], Route.ofPath? r.path = some route

/-- The token that is drawn for a login or a refresh. -/
def World.token? (w : World) (a : Arrival) : Option IssuedRefresh :=
  match Route.ofPath? a.request.path with
  | some .login => some (IssuedRefresh.draw w.clock (w.users.spare a.entropy)).1
  | some .refresh => some (IssuedRefresh.draw w.clock a.entropy).1
  | _ => none

theorem IdentityClaims.subject_of_bind {claims : IdentityClaims} {nonce : String}
    {identity : BoundIdentity} (h : claims.bind nonce = .ok identity) :
    identity.subject = claims.subject := by
  unfold bind at h
  split_ifs at h
  cases h
  rfl

namespace App

/-- What a login shows. -/
def login? (r : Request) : Option LoginBody :=
  match Route.ofPath? r.path with
  | some .login => LoginBody.ofRequest? r
  | _ => none

/-- The nonce that a login presents. -/
def nonce? (r : Request) : Option String :=
  ((login? r).map fun body => Text.trim body.nonce).filter (· ≠ "")

/-- The secret that a refresh or a logout presents. -/
def secret? (app : App) (r : Request) : Option String :=
  match Route.ofPath? r.path with
  | some .refresh | some .logout => Service.presented? (app.refreshCookie? r)
  | _ => none

/-- The subject in the answer of the provider to a login. -/
def subject? (app : App) (w : World) (a : Arrival) : Option String :=
  (login? a.request).bind fun body =>
    (w.provider w.clock (Text.trim body.idToken) app.settings.clientId).toOption.map (·.subject)

/-- The record of the secret that a refresh or a logout presents. -/
def record? (app : App) (w : World) (a : Arrival) : Option RefreshRecord :=
  (app.secret? a.request).bind fun secret => w.refreshTokens.find? (fingerprint secret)

/-- The user of a request : whose subject it is, or whose record. -/
def user? (app : App) (w : World) (a : Arrival) : Option String :=
  ((app.subject? w a).map (w.users.idOf a.entropy)).or ((app.record? w a).map (·.userId))

/-! ## What a request asks -/

/-- The questions that a request to the world `w` may ask, each in a world that may differ by then,
and why. A user is written down while the users are those of `w`, and a token is issued while the
records are. -/
inductive Asked (app : App) (w : World) (a : Arrival) : World → Call → Prop
  | readClock {u} : Asked app w a u .readClock
  | consumeNonce {u n} (presented : nonce? a.request = some n) : Asked app w a u (.consumeNonce n)
  | verifyIdentity {u idToken audience} : Asked app w a u (.verifyIdentity idToken audience)
  | upsertUser {u d} (subject : app.subject? w a = some d.subject) (users : u.users = w.users)
    (entropy : u.entropy = a.entropy) : Asked app w a u (.upsertUser d)
  | userProfile {u id} (user : app.user? w a = some id) : Asked app w a u (.userProfile id)
  | issueRefresh {u userId expires previous} (user : app.user? w a = some userId)
    (token : w.token? a = some (IssuedRefresh.draw u.clock u.entropy).1)
    (records : u.refreshTokens = w.refreshTokens) :
    Asked app w a u (.issueRefresh userId expires previous)
  | validateRefresh {u secret} (presented : app.secret? a.request = some secret) :
    Asked app w a u (.validateRefresh secret)
  | revokeRefresh {u r} (presented : app.record? w a = some r)
    (kept : u.refreshTokens.get? r.tokenId = some r) : Asked app w a u (.revokeRefresh r.tokenId)
  | count {u event} : Asked app w a u (.count event)
  | log {u entry} : Asked app w a u (.log entry)
  | halt {u} : Asked app w a u .halt

open World Operation

variable {app : App} {w : World} {a : Arrival}

/-- Questions that need no grounds. -/
theorem asked_of_isRecord (u : World) (c : Call) (h : c.IsRecord) : Asked app w a u c := by
  cases c <;> first | exact h.elim | exact .count | exact .log

theorem meets_record {α : Type} {u : World} {p : Operation α}
    (h : Only Call.IsRecord (fun _ => True) p) : Meets (Asked app w a) (fun _ _ => True) u p :=
  .of_only asked_of_isRecord (fun _ _ _ => trivial) h

/-- The records that were there are still there. -/
def Keeps (w u : World) : Prop :=
  ∀ i r, w.refreshTokens.get? i = some r → u.refreshTokens.get? i = some r

/-- To hand out a session asks about the user of the request and the token that is drawn for it, and
takes no record away. -/
theorem meets_handOut {u : World} (hf : u.faults = {}) (hs : w.refreshTokens.Sound)
    {profile : Profile} (hi : app.user? w a = some profile.userId)
    (ht : w.token? a = some (IssuedRefresh.draw u.clock u.entropy).1)
    (hr : u.refreshTokens = w.refreshTokens) (previous : String) :
    Meets (Asked app w a) (fun _ u' => Keeps w u') u
      (Service.handOut app.settings profile previous) := by
  have hkeeps : Keeps w u := fun i r hget => by rwa [hr]
  refine ⟨.readClock, fun now u₁ h₁ => ?_⟩
  replace h₁ := serve_of_answer h₁ hf
  cases h₁
  refine ⟨.readClock, fun issuedAt u₂ h₂ => ?_⟩
  replace h₂ := serve_of_answer h₂ hf
  cases h₂
  dsimp only
  split
  · exact hkeeps
  · exact ⟨.halt, fun r => r.elim⟩
  · exact ⟨.halt, fun r => r.elim⟩
  · refine ⟨.issueRefresh hi ht hr, fun reply u₃ h₃ => ?_⟩
    have hkept : Keeps w u₃ := fun i r hget => by
      replace h₃ := serve_of_answer h₃ hf
      rw [serve_issueRefresh, hr] at h₃
      cases h₃
      exact RefreshStore.get?_issue_of_some _ _ _ _ _ hs hget
    exact .andThen (fun _ _ => hkept) fun _ _ => hkept

/-! ## Logins -/

theorem nonce?_eq_some {body : LoginBody} (hb : login? a.request = some body)
    (hne : Text.trim body.nonce ≠ "") : nonce? a.request = some (Text.trim body.nonce) := by
  simp [nonce?, hb, hne]

theorem subject?_eq_some {body : LoginBody} (hb : login? a.request = some body)
    {claims : IdentityClaims}
    (hc : w.provider w.clock (Text.trim body.idToken) app.settings.clientId = .ok claims) :
    app.subject? w a = some claims.subject := by
  simp [subject?, hb, hc, Except.toOption]

/-- The user of a login is whom an upsert of the subject would give. -/
theorem user?_of_subject {subject : String} (hs : app.subject? w a = some subject) :
    app.user? w a = some (w.users.idOf a.entropy subject) := by
  simp [user?, hs]

/-- A login asks about its nonce, its user and its token. -/
theorem meets_tryLogin (hf : w.faults = {}) (hw : w.Sound) {body : LoginBody}
    (hb : login? a.request = some body) (https : Bool) :
    Meets (Asked app w a) (fun _ _ => True) (w.drawing a.entropy)
      (Service.tryLogin app.settings body.idToken body.nonce https) := by
  have hroute : Route.ofPath? a.request.path = some .login := by
    unfold login? at hb
    split at hb
    · assumption
    · cases hb
  unfold Service.tryLogin
  extract_lets idToken nonce
  split_ifs with hid hn
  · trivial
  · trivial
  · exact ⟨.consumeNonce (nonce?_eq_some hb hn), fun _ _ _ => .andThen (fun _ _ => trivial)
      fun _ _ => trivial⟩
  · refine ⟨.consumeNonce (nonce?_eq_some hb hn), fun reply u₁ h₁ => ?_⟩
    replace h₁ := serve_of_answer h₁ hf
    rw [serve_consumeNonce] at h₁
    cases h₁
    refine .andThen (fun _ _ => trivial) fun _ _ => ⟨.verifyIdentity, fun reply u₂ h₂ => ?_⟩
    replace h₂ := serve_of_answer h₂ hf
    cases h₂
    refine .andThen (fun _ _ => trivial) fun claims hclaims => ?_
    refine .andThen (fun _ _ => trivial) fun identity hbound => ?_
    have hsubject : app.subject? w a = some identity.subject := by
      rw [IdentityClaims.subject_of_bind hbound]
      exact subject?_eq_some hb hclaims
    -- so far only the nonces have changed
    refine ⟨.upsertUser hsubject rfl rfl, fun reply u₃ h₃ => ?_⟩
    replace h₃ := serve_of_answer h₃ hf
    rw [serve_upsertUser] at h₃
    cases h₃
    refine .andThen (fun _ _ => trivial) fun known hknown => ?_
    obtain ⟨userId, roles⟩ := known
    obtain rfl := UserStore.idOf_of_upsert hw.users hknown
    refine Meets.bind (Q := fun _ u => Keeps w u) ?_ fun _ _ _ => trivial
    refine meets_handOut ?_ hw.refreshTokens ?_ ?_ ?_ ""
    · exact hf
    · exact user?_of_subject hsubject
    · simp only [token?, hroute, UserStore.entropy_upsert]
      rfl
    · rfl

/-! ## Refreshes and logouts -/

theorem record?_of_secret {secret : String} (hs : app.secret? a.request = some secret) (u : World) :
    app.record? u a = u.refreshTokens.find? (fingerprint secret) := by
  rw [record?, hs, Option.bind_some]

theorem subject?_of_record {r : RefreshRecord} (hr : app.record? w a = some r) (u : World) :
    app.subject? u a = none := by
  obtain ⟨secret, hs, -⟩ := Option.bind_eq_some_iff.1 hr
  unfold secret? at hs
  split at hs
  · rename_i hroute
    simp [subject?, login?, hroute]
  · rename_i hroute
    simp [subject?, login?, hroute]
  · cases hs

theorem user?_of_record {r : RefreshRecord} (hr : app.record? w a = some r) :
    app.user? w a = some r.userId := by
  simp [user?, subject?_of_record hr, hr]

/-- A refresh asks about its secret, the record of it, the user of the record and its token. -/
theorem meets_tryRefresh (hf : w.faults = {}) (hw : w.Sound)
    (hroute : Route.ofPath? a.request.path = some .refresh) :
    Meets (Asked app w a) (fun _ _ => True) (w.drawing a.entropy)
      (Service.tryRefresh app.settings (app.refreshCookie? a.request)) := by
  unfold Service.tryRefresh
  split
  · trivial
  rename_i secret hpresented
  have hsecret : app.secret? a.request = some secret := by simp [secret?, hroute, hpresented]
  refine ⟨.validateRefresh hsecret, fun reply u₁ h₁ => ?_⟩
  replace h₁ := serve_of_answer h₁ hf
  cases h₁
  refine .andThen (fun _ _ => trivial) fun current hcurrent => ?_
  obtain ⟨r, hr, rfl⟩ := RefreshStore.exists_of_validate hw.refreshTokens hcurrent
  have hrecord := (record?_of_secret hsecret w).trans hr
  have huser := user?_of_record hrecord
  refine ⟨.userProfile huser, fun reply u₂ h₂ => ?_⟩
  replace h₂ := serve_of_answer h₂ hf
  cases h₂
  refine .andThen (fun _ _ => trivial) fun profile hprofile => ?_
  have hid : profile.userId = r.userId := UserStore.userId_of_profile hw.users hprofile
  refine Meets.bind (Q := fun _ u => Keeps w u) ?_ fun result u hkeeps => ?_
  · refine meets_handOut ?_ hw.refreshTokens ?_ ?_ ?_ r.tokenId
    · exact hf
    · rw [hid, huser]
    · simp only [token?, hroute]
      rfl
    · rfl
  cases result with
  | error f => trivial
  | ok cookies =>
    have hget := (hw.refreshTokens.find?_eq_some_iff.1 hr).1
    refine ⟨.revokeRefresh hrecord (hkeeps _ _ hget), fun reply u₃ _ => ?_⟩
    cases reply with
    | ok u => trivial
    | error e =>
      dsimp only
      split_ifs <;> trivial

/-- A logout asks about its secret and the record of it. -/
theorem meets_revokeQuietly (hf : w.faults = {}) (hw : w.Sound) {secret : String}
    (hsecret : app.secret? a.request = some secret) :
    Meets (Asked app w a) (fun _ _ => True) (w.drawing a.entropy)
      (Service.revokeQuietly secret) := by
  refine ⟨.validateRefresh hsecret, fun reply u₁ h₁ => ?_⟩
  replace h₁ := serve_of_answer h₁ hf
  rw [serve_validateRefresh] at h₁
  obtain ⟨hreply, rfl⟩ := Prod.mk.inj (Option.some.inj h₁)
  cases reply with
  | error e => exact ⟨.log, fun _ _ _ => trivial⟩
  | ok current =>
    obtain ⟨r, hr, rfl⟩ := RefreshStore.exists_of_validate hw.refreshTokens hreply
    have hrecord := (record?_of_secret hsecret w).trans hr
    have hget := (hw.refreshTokens.find?_eq_some_iff.1 hr).1
    refine ⟨.revokeRefresh hrecord hget, fun reply u₂ _ => ?_⟩
    cases reply with
    | ok u => trivial
    | error e =>
      dsimp only
      split_ifs
      · trivial
      · exact ⟨.log, fun _ _ _ => trivial⟩

/-! ## Requests -/

theorem meets_handleLogin (hf : w.faults = {}) (hw : w.Sound)
    (hroute : Route.ofPath? a.request.path = some .login) :
    Meets (Asked app w a) (fun _ _ => True) (w.drawing a.entropy) (app.handleLogin a.request) := by
  have hfailed (f : AuthFailure) : Only Call.IsRecord (fun _ => True) (Service.loginFailed f) :=
    ⟨trivial, fun _ => ⟨trivial, fun _ => trivial⟩⟩
  unfold handleLogin
  split
  · exact (meets_record (hfailed _)).bind fun _ _ _ => trivial
  rename_i body hbody
  have hb : login? a.request = some body := by simp only [login?, hroute, hbody]
  have hsteps : Meets (Asked app w a) (fun _ _ => True) (w.drawing a.entropy)
      (Service.tryLogin app.settings body.idToken body.nonce
        (Transport.isHttps a.request.headers)) :=
    meets_tryLogin hf hw hb _
  unfold Service.login
  generalize Service.tryLogin app.settings body.idToken body.nonce _ = p at hsteps ⊢
  refine Meets.bind (Q := fun _ _ => True) (hsteps.bind fun result _ _ => ?_) fun result _ _ => ?_
  · cases result with
    | ok outcome => exact ⟨.count, fun _ _ _ => trivial⟩
    | error f => exact (meets_record (hfailed f)).bind fun _ _ _ => trivial
  · cases result <;> trivial

theorem meets_handleRefresh (hf : w.faults = {}) (hw : w.Sound)
    (hroute : Route.ofPath? a.request.path = some .refresh) :
    Meets (Asked app w a) (fun _ _ => True) (w.drawing a.entropy)
      (app.handleRefresh a.request) := by
  refine Meets.bind (Q := fun _ _ => True) ?_ fun result _ _ => ?_
  · refine (meets_tryRefresh hf hw hroute).bind fun result _ _ => ?_
    cases result with
    | ok cookies => exact ⟨.count, fun _ _ _ => trivial⟩
    | error f => exact ⟨.count, fun _ _ _ => ⟨.log, fun _ _ _ => trivial⟩⟩
  · cases result <;> trivial

theorem meets_handleLogout (hf : w.faults = {}) (hw : w.Sound)
    (hroute : Route.ofPath? a.request.path = some .logout) :
    Meets (Asked app w a) (fun _ _ => True) (w.drawing a.entropy) (app.handleLogout a.request) := by
  refine Meets.bind (Q := fun _ _ => True) ?_ fun _ _ _ => trivial
  refine Meets.bind (Q := fun _ _ => True) ?_ fun _ _ _ => ⟨.count, fun _ _ _ => trivial⟩
  split
  · rename_i secret hpresented
    exact meets_revokeQuietly hf hw (by simp only [secret?, hroute, hpresented])
  · trivial

/-- A sign-in request is refused at once or handled by its route. -/
theorem handle_cases (app : App) {r : Request} (hr : r.IsSignIn) :
    (∃ response, app.handle r = .done response) ∨
      (Route.ofPath? r.path = some .login ∧ app.handle r = app.handleLogin r) ∨
      (Route.ofPath? r.path = some .refresh ∧ app.handle r = app.handleRefresh r) ∨
      Route.ofPath? r.path = some .logout ∧ app.handle r = app.handleLogout r := by
  obtain ⟨route, hmem, hroute⟩ := hr
  simp only [List.mem_cons, List.not_mem_nil, or_false] at hmem
  by_cases hmethod : route.methods.contains r.method = true
  · refine Or.inr ?_
    rcases hmem with rfl | rfl | rfl
    · exact Or.inl ⟨hroute, by simp only [handle, hroute, if_pos hmethod, handlePost]⟩
    · exact Or.inr (Or.inl ⟨hroute, by simp only [handle, hroute, if_pos hmethod, handlePost]⟩)
    · exact Or.inr (Or.inr ⟨hroute, by simp only [handle, hroute, if_pos hmethod, handlePost]⟩)
  · refine Or.inl ⟨wrongMethod 405 route, ?_⟩
    rcases hmem with rfl | rfl | rfl <;> simp only [handle, hroute, if_neg hmethod]

/-- All that a request asks. -/
theorem meets_handle (hf : w.faults = {}) (hw : w.Sound) (hr : a.request.IsSignIn) :
    Meets (Asked app w a) (fun _ _ => True) (w.drawing a.entropy) (app.handle a.request) := by
  rcases app.handle_cases hr with
    ⟨response, hh⟩ | ⟨hroute, hh⟩ | ⟨hroute, hh⟩ | ⟨hroute, hh⟩ <;> rw [hh]
  · trivial
  · exact meets_handleLogin hf hw hroute
  · exact meets_handleRefresh hf hw hroute
  · exact meets_handleLogout hf hw hroute

/-! ## Plain requests -/

end App

theorem Call.Same.eq {c : Call} {r r' : c.Reply} (hc : c.collaborator ≠ .nonces)
    (h : c.Same r r') : r = r' := by
  cases c <;> first | exact h | exact absurd rfl hc

/-- An operation that does not go to the nonces is plain. -/
theorem Operation.Spares.plain {α : Type} : ∀ {p : Operation α}, Spares .nonces p → Plain p
  | .done _, _ => trivial
  | .ask c next, h => by
    refine ⟨?_, fun r r' hsame => ?_, fun r => Spares.plain (h.2 r)⟩
    · rintro rfl
      exact h.1 rfl
    · rw [hsame.eq h.1]

namespace App

open World Operation

variable {app : App} {w : World} {a : Arrival}

theorem spares_loginFailed (f : AuthFailure) : Spares .nonces (Service.loginFailed f) :=
  (Service.asksOnly_loginFailed f).spares (by decide)

/-- A login does not tell why its nonce was refused. -/
theorem plain_handleLogin (app : App) (r : Request) : Plain (app.handleLogin r) := by
  unfold handleLogin
  split
  · exact ((spares_loginFailed _).map fun f => Response.ofError f.toApi).plain
  rename_i body hbody
  unfold Service.login
  have hsteps :=
    Service.tryLogin_cases app.settings body.idToken body.nonce (Transport.isHttps r.headers)
  generalize Service.tryLogin app.settings body.idToken body.nonce (Transport.isHttps r.headers) = p
    at hsteps ⊢
  rcases hsteps with ⟨f, rfl⟩ | ⟨next, hnext, rfl⟩
  · exact Spares.plain ⟨nofun, fun _ => ⟨nofun, fun _ => trivial⟩⟩
  -- the two refusals of a nonce have one code for the log and one for the client
  refine ⟨nofun, fun (reply reply' : Except NonceError Unit) hsame => ?_, fun reply => ?_⟩
  · cases reply <;> cases reply' <;> first | rfl | cases hsame
  · refine Spares.plain (Spares.bind (Spares.bind ?_ fun result => ?_) fun result => ?_)
    · exact .andThen (fun _ => trivial) fun u => (hnext u).spares (by decide)
    · cases result with
      | ok outcome => exact ⟨nofun, fun _ => trivial⟩
      | error f => exact (spares_loginFailed f).bind fun _ => trivial
    · cases result <;> trivial

theorem plain_handleRefresh (app : App) (r : Request) : Plain (app.handleRefresh r) := by
  have hspares := (Service.asksOnly_refresh app.settings (app.refreshCookie? r)).spares
    (k := .nonces) (by decide)
  exact (hspares.bind fun result => by cases result <;> trivial).plain

theorem plain_handleLogout (app : App) (r : Request) : Plain (app.handleLogout r) := by
  have hspares := (Service.asksOnly_logout app.settings (app.refreshCookie? r)).spares
    (k := .nonces) (by decide)
  exact (hspares.map fun cookies => (Response.empty 204).withCookies cookies).plain

theorem plain_handle (hr : a.request.IsSignIn) : Plain (app.handle a.request) := by
  rcases app.handle_cases hr with ⟨response, hh⟩ | ⟨-, hh⟩ | ⟨-, hh⟩ | ⟨-, hh⟩ <;> rw [hh]
  · trivial
  · exact plain_handleLogin app a.request
  · exact plain_handleRefresh app a.request
  · exact plain_handleLogout app a.request

end App

end SignIn
