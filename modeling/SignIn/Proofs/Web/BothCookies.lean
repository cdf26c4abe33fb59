import SignIn.Proofs.Service.HandedOut
import SignIn.Web.Router

/-!
# Both cookies or none

A response sets the two cookies of a session, or clears both, or it says nothing of cookies. What a
handler ends with is read off its text, so it does not matter which answers its questions had on the
way, and whether they were answered alone or among those of others (`App.both_cookies_of_answered`).

Cookies are written one after the other, and one that cannot stand in a header ends the writing.
What was written by then is dropped with the response (`Response.withCookies_eq`).
-/

namespace SignIn

namespace Response

/-! ## Writing cookies -/

/-- Writes cookies one after the other, until one cannot stand in a header. -/
def appendCookies : Response → List String → Except ApiError Response
  | r, [] => .ok r
  | r, cookie :: cookies =>
    if Headers.isValue cookie then (r.withHeader "set-cookie" cookie).appendCookies cookies
    else .error ⟨.internal, "invalid_cookie"⟩

/-- The cookies are all put on the response, in their order, or it is refused for one of them. -/
theorem appendCookies_eq : ∀ (cookies : List String) (r : Response), r.appendCookies cookies =
    if cookies.all Headers.isValue then
      .ok { r with headers := r.headers ++ cookies.map fun cookie => ("set-cookie", cookie) }
    else .error ⟨.internal, "invalid_cookie"⟩
  | [], r => by simp [appendCookies]
  | cookie :: cookies, r => by
    rw [appendCookies, appendCookies_eq cookies, List.all_cons]
    cases Headers.isValue cookie
    · rfl
    · simp [withHeader]

/-- A response with cookies is what was written to the end, or the error at which the writing
ended. -/
theorem withCookies_eq (r : Response) (cookies : List String) : r.withCookies cookies =
    match r.appendCookies cookies with
    | .ok written => written
    | .error e => .ofError e := by
  rw [appendCookies_eq, withCookies]
  split_ifs <;> rfl

example : (empty 204).withCookies ["a=1", "b=\n"] = .ofError ⟨.internal, "invalid_cookie"⟩ := by
  decide

/-! ## Cookies of a response -/

variable {r : Response} {cookies : List String} {e : ApiError}

/-- The response is an error and sets no cookie. -/
def IsRefusal (r : Response) : Prop := r.status ≠ 200 ∧ r.status ≠ 204 ∧ r.cookies = []

theorem cookies_empty (status : Nat) : (empty status).cookies = [] := rfl

theorem cookies_json (status : Nat) (body : String) : (json status body).cookies = [] := by
  have hname : Text.sameIgnoringCase "content-type" "set-cookie" = false := by decide
  simp [cookies, json, Headers.values, hname]

/-- An error is answered without cookies. -/
theorem isRefusal_ofError (e : ApiError) : (ofError e).IsRefusal := by
  refine ⟨?_, ?_, cookies_json _ _⟩ <;>
  · change e.kind.status ≠ _
    cases e.kind <;> decide

/-- All the cookies are set, or the response is an error. -/
theorem withCookies_cases (hr : r.cookies = []) (cookies : List String) :
    (r.withCookies cookies).status = r.status ∧ (r.withCookies cookies).cookies = cookies ∨
      (r.withCookies cookies).IsRefusal := by
  unfold withCookies
  split_ifs
  · refine Or.inl ⟨rfl, ?_⟩
    have hname : Text.sameIgnoringCase "set-cookie" "set-cookie" = true := by decide
    have hadded : Headers.values (cookies.map fun cookie => ("set-cookie", cookie)) "set-cookie" =
        cookies := by
      simp [Headers.values, List.filter_map, Function.comp_def, hname]
    unfold Response.cookies Headers.values at hr ⊢
    rw [List.filter_append, List.map_append, hr]
    exact hadded
  · exact Or.inr (isRefusal_ofError _)

end Response

/-- What an operation does alone it does on answers. -/
theorem World.exists_answered_of_perform {α : Type} : ∀ {p : Operation α} {w w' : World} {a : α},
    w.perform p = some (a, w') → ∃ es, Operation.Answered p es (.done a)
  | .done _, w, w', a, h => by
    cases h
    exact ⟨[], .nil⟩
  | .ask c next, w, w', a, h => by
    obtain ⟨reply, w₁, -, h₁⟩ := World.exists_of_perform_ask h
    obtain ⟨es, hes⟩ := exists_answered_of_perform h₁
    exact ⟨_, .cons reply es hes⟩

/-- A path that is routed is that of its route and of no other. -/
theorem Route.path_eq_iff {path : String} {route other : Route} (h : ofPath? path = some route) :
    path = other.path ↔ route = other := by
  have hself : ∀ r : Route, ofPath? r.path = some r := fun r => by cases r <;> decide
  constructor
  · rintro rfl
    exact Option.some.inj (h.symm.trans (hself other))
  · rintro rfl
    unfold ofPath? at h
    have hpath := List.find?_some h
    exact (beq_iff_eq.1 hpath).symm

namespace App

open Operation

variable {app : App} {r : Request} {es : List Exchange} {response : Response}

/-! ## What each handler ends with -/

theorem cookies_of_handleNonce (h : Answered handleNonce es (.done response)) :
    response.cookies = [] := by
  rcases answered_bind h with ⟨c, next, -, hq⟩ | ⟨result, fs, gs, -, -, hend⟩
  · cases hq
  cases result with
  | ok nonce =>
    cases (answered_done hend).2
    exact Response.cookies_json _ _
  | error f =>
    cases (answered_done hend).2
    exact (Response.isRefusal_ofError _).2.2

/-- A login is answered with the cookies handed out, or refused. -/
theorem cookies_of_handleLogin (h : Answered (app.handleLogin r) es (.done response)) :
    response.status = 200 ∧ HandedOut app.settings es response.cookies ∨ response.IsRefusal := by
  unfold handleLogin at h
  split at h
  · rcases answered_bind h with ⟨c, next, -, hq⟩ | ⟨f, fs, gs, -, -, hend⟩
    · cases hq
    cases (answered_done hend).2
    exact Or.inr (Response.isRefusal_ofError _)
  · rcases answered_bind h with ⟨c, next, -, hq⟩ | ⟨result, fs, gs, rfl, hlogin, hend⟩
    · cases hq
    cases result with
    | error f =>
      cases (answered_done hend).2
      exact Or.inr (Response.isRefusal_ofError _)
    | ok outcome =>
      obtain ⟨rfl, hq⟩ := answered_done hend
      cases hq
      rw [List.append_nil]
      have hjson : (userResponse (userMembers outcome.user)).cookies = [] :=
        Response.cookies_json _ _
      refine (Response.withCookies_cases hjson outcome.cookies).imp_left ?_
      rintro ⟨hstatus, hcookies⟩
      rw [hcookies]
      exact ⟨hstatus, Service.login_handedOut hlogin⟩

/-- So is a refresh. -/
theorem cookies_of_handleRefresh (h : Answered (app.handleRefresh r) es (.done response)) :
    response.status = 204 ∧ HandedOut app.settings es response.cookies ∨ response.IsRefusal := by
  rcases answered_bind h with ⟨c, next, -, hq⟩ | ⟨result, fs, gs, rfl, hrefresh, hend⟩
  · cases hq
  cases result with
  | error f =>
    cases (answered_done hend).2
    exact Or.inr (Response.isRefusal_ofError _)
  | ok cookies =>
    obtain ⟨rfl, hq⟩ := answered_done hend
    cases hq
    rw [List.append_nil]
    refine (Response.withCookies_cases (Response.cookies_empty 204) cookies).imp_left ?_
    rintro ⟨hstatus, hcookies⟩
    rw [hcookies]
    exact ⟨hstatus, Service.refresh_handedOut hrefresh⟩

/-- A logout is answered with the two cookies that clear, or refused. -/
theorem cookies_of_handleLogout (h : Answered (app.handleLogout r) es (.done response)) :
    response.status = 204 ∧
      response.cookies = [Cookie.clearSession app.settings, Cookie.clearRefresh app.settings] ∨
    response.IsRefusal := by
  obtain ⟨cookies, hlogout, rfl⟩ := answered_map h
  obtain ⟨rfl⟩ :
      cookies = [Cookie.clearSession app.settings, Cookie.clearRefresh app.settings] := by
    rcases answered_bind hlogout with ⟨c, next, -, hq⟩ | ⟨u, fs, gs, -, -, hend⟩
    · cases hq
    rcases answered_ask hend with ⟨-, hq⟩ | ⟨u, gs, -, hlast⟩
    · cases hq
    cases (answered_done hlast).2
    rfl
  exact Response.withCookies_cases (Response.cookies_empty 204) _

theorem cookies_of_handleMe {claims : Claims} (h : Answered (handleMe claims) es (.done response)) :
    response.cookies = [] := by
  have honly : Only (fun _ => True) (fun response => response.cookies = []) (handleMe claims) := by
    unfold handleMe
    split
    · exact (Response.isRefusal_ofError _).2.2
    · refine ⟨trivial, fun answer => ?_⟩
      cases answer with
      | ok profile => exact Response.cookies_json _ _
      | error e =>
        cases e with
        | notFound => exact ⟨trivial, fun _ => (Response.isRefusal_ofError _).2.2⟩
        | storage | malformedRoles => exact ⟨trivial, fun _ => (Response.isRefusal_ofError _).2.2⟩
  exact (honly.answered h).2

theorem cookies_wrongMethod (status : Nat) (route : Route) :
    (wrongMethod status route).cookies = [] := by
  have hname : Text.sameIgnoringCase "allow" "set-cookie" = false := by decide
  simp [wrongMethod, Response.withHeader, Response.empty, Response.cookies, Headers.values, hname]

theorem cookies_of_handleProtected (h : Answered (app.handleProtected r) es (.done response)) :
    response.cookies = [] := by
  rcases answered_ask h with ⟨-, hq⟩ | ⟨now, fs, rfl, h₁⟩
  · cases hq
  split at h₁
  · cases (answered_done h₁).2
    exact Response.cookies_empty 401
  · cases (answered_done h₁).2
    exact cookies_wrongMethod _ _
  · cases (answered_done h₁).2
    exact cookies_wrongMethod _ _
  · obtain ⟨response', hme, rfl⟩ := answered_map h₁
    have hnone := cookies_of_handleMe hme
    split_ifs
    · exact hnone
    · exact hnone

/-! ## Requests -/

/-- The response hands out a session : a login or a refresh that has succeeded. -/
def HandsOut (r : Request) (response : Response) : Prop :=
  r.method = "POST" ∧
    (r.path = "/auth/google" ∧ response.status = 200 ∨
      r.path = "/auth/refresh" ∧ response.status = 204)

/-- The response takes a session back : a logout that has succeeded. -/
def TakesBack (r : Request) (response : Response) : Prop :=
  r.method = "POST" ∧ r.path = "/auth/logout" ∧ response.status = 204

/-- Two cookies in a response that hands out a session, both cleared in one that takes a session
back, and no cookie in any other. -/
def SetsBothOrNone (settings : Settings) (r : Request) (es : List Exchange) (response : Response) :
    Prop :=
  (HandsOut r response → HandedOut settings es response.cookies) ∧
  (TakesBack r response →
    response.cookies = [Cookie.clearSession settings, Cookie.clearRefresh settings]) ∧
  (¬HandsOut r response → ¬TakesBack r response → response.cookies = [])

variable {settings : Settings} {route : Route}

theorem setsBothOrNone_of_isRefusal (h : response.IsRefusal) :
    SetsBothOrNone settings r es response := by
  obtain ⟨hok, hempty, hcookies⟩ := h
  refine ⟨?_, ?_, fun _ _ => hcookies⟩
  · rintro ⟨-, ⟨-, hstatus⟩ | ⟨-, hstatus⟩⟩
    · exact absurd hstatus hok
    · exact absurd hstatus hempty
  · rintro ⟨-, -, hstatus⟩
    exact absurd hstatus hempty

/-- Cookies are handed out by two routes, each with a status of its own. -/
theorem handsOut_iff (h : Route.ofPath? r.path = some route) :
    HandsOut r response ↔ r.method = "POST" ∧
      (route = .login ∧ response.status = 200 ∨ route = .refresh ∧ response.status = 204) := by
  rw [← Route.path_eq_iff h, ← Route.path_eq_iff h]
  rfl

theorem takesBack_iff (h : Route.ofPath? r.path = some route) :
    TakesBack r response ↔ r.method = "POST" ∧ route = .logout ∧ response.status = 204 := by
  rw [← Route.path_eq_iff h]
  rfl

theorem both_cookies_of_handlePost (hroute : Route.ofPath? r.path = some route)
    (hmethod : r.method = "POST") (h : Answered (app.handlePost r route) es (.done response)) :
    SetsBothOrNone app.settings r es response := by
  cases route with
  | nonce =>
    simp [SetsBothOrNone, handsOut_iff hroute, takesBack_iff hroute, cookies_of_handleNonce h]
  | login =>
    rcases cookies_of_handleLogin h with ⟨hstatus, hhanded⟩ | hrefusal
    · simp [SetsBothOrNone, handsOut_iff hroute, takesBack_iff hroute, hmethod, hstatus, hhanded]
    · exact setsBothOrNone_of_isRefusal hrefusal
  | refresh =>
    rcases cookies_of_handleRefresh h with ⟨hstatus, hhanded⟩ | hrefusal
    · simp [SetsBothOrNone, handsOut_iff hroute, takesBack_iff hroute, hmethod, hstatus, hhanded]
    · exact setsBothOrNone_of_isRefusal hrefusal
  | logout =>
    rcases cookies_of_handleLogout h with ⟨hstatus, hcookies⟩ | hrefusal
    · simp [SetsBothOrNone, handsOut_iff hroute, takesBack_iff hroute, hmethod, hstatus, hcookies]
    · exact setsBothOrNone_of_isRefusal hrefusal
  | me =>
    cases (answered_done h).2
    exact setsBothOrNone_of_isRefusal ⟨by decide, by decide, rfl⟩

theorem both_cookies_of_answered (h : Answered (app.handle r) es (.done response)) :
    SetsBothOrNone app.settings r es response := by
  unfold handle at h
  split at h
  · cases (answered_done h).2
    exact setsBothOrNone_of_isRefusal ⟨by decide, by decide, rfl⟩
  · rename_i hroute
    simp [SetsBothOrNone, handsOut_iff hroute, takesBack_iff hroute, cookies_of_handleProtected h]
  · rename_i route hme hroute
    split_ifs at h with hmethod
    · have hpost : r.method = "POST" := by
        cases route <;> simp_all [Route.methods]
      exact both_cookies_of_handlePost hroute hpost h
    · cases (answered_done h).2
      have hstatus : (wrongMethod 405 route).status = 405 := rfl
      exact setsBothOrNone_of_isRefusal
        ⟨by rw [hstatus]; decide, by rw [hstatus]; decide, cookies_wrongMethod _ _⟩

/-- Whatever the state of the stores, the settings and the faults, and whatever is asked, a response
that is given sets both cookies of a session, clears both, or sets none. Both stand in their order,
the session first. This holds with any answers to the questions of the handler, alone or among
others. Cookies are written one by one, and of those that were written before one that cannot be,
none is left. -/
theorem sets_both_cookies_or_none (app : App) (r : Request) :
    (∀ es response, Answered (app.handle r) es (.done response) →
      SetsBothOrNone app.settings r es response) ∧
    (∀ (w w' : World) response, w.perform (app.handle r) = some (response, w') →
      ∃ es, Answered (app.handle r) es (.done response) ∧
        SetsBothOrNone app.settings r es response) ∧
    ∀ (response : Response) (cookies : List String), response.withCookies cookies =
      match response.appendCookies cookies with
      | .ok written => written
      | .error e => .ofError e := by
  refine ⟨fun es response h => both_cookies_of_answered h, fun w w' response h => ?_,
    Response.withCookies_eq⟩
  obtain ⟨es, hes⟩ := World.exists_answered_of_perform h
  exact ⟨es, hes, both_cookies_of_answered hes⟩

end App

end SignIn
