import SignIn.Proofs.Service.Journal
import SignIn.Proofs.Web.BothCookies
import SignIn.Proofs.Web.Lifetime

/-!
# Every request is counted

What is counted is asked for like everything else, so it stands among the questions of a request
(`counted`). The steps of a login, of a refresh and of a logout count nothing, since the counters
are not in their repertoire (`Operation.Spares.counted`). The one event that there is comes behind
them, and which it is depends on what they ended with (`Service.counted_login`,
`Service.counted_refresh`). A body that cannot be read is counted where it is refused.

So whatever answers a request had, it counts one event, if it is a login, a refresh or a logout, and
none if not (`App.accounted_of_answered`). Over a run of requests the events add up
(`App.gains_of_run`), and so do the counters of a world (`World.Answers.meter_eq`).
-/

namespace SignIn

/-! ## Events among the questions -/

/-- The event that a question asks to count. -/
def Call.event? : Call → Option Event
  | .count event => some event
  | _ => none

/-- The events that were counted, in order. -/
def counted (es : List Exchange) : List Event := es.filterMap fun e => e.call.event?

theorem counted_append (es fs : List Exchange) : counted (es ++ fs) = counted es ++ counted fs :=
  List.filterMap_append

theorem counted_cons (c : Call) (r : c.Reply) (es : List Exchange) :
    counted (⟨c, r⟩ :: es) = c.event?.toList ++ counted es := by
  rw [← List.singleton_append, counted_append]
  cases c <;> rfl

/-- What did not go to the counters is not counted. -/
theorem counted_eq_nil {es : List Exchange} (h : ∀ e ∈ es, e.call.collaborator ≠ .counters) :
    counted es = [] := by
  refine List.filterMap_eq_nil_iff.2 fun e he => ?_
  have hother := h e he
  obtain ⟨c, reply⟩ := e
  cases c <;> first | rfl | exact absurd rfl hother

namespace Counters

/-- The counters after the events among some questions. -/
def after (c : Counters) (es : List Exchange) : Counters := (counted es).foldl increment c

theorem after_append (c : Counters) (es fs : List Exchange) :
    c.after (es ++ fs) = (c.after es).after fs := by
  rw [after, counted_append, List.foldl_append]
  rfl

end Counters

namespace Operation

variable {α β : Type} {es fs gs : List Exchange}

/-- An operation that spares the counters counts nothing. -/
theorem Spares.counted {p q : Operation α} (hp : Spares .counters p) (h : Answered p es q) :
    counted es = [] :=
  counted_eq_nil (hp.answered h)

theorem counted_of_done {a : α} {q : Operation α} (h : Answered (.done a) es q) :
    SignIn.counted es = [] := by
  rw [(answered_done h).1]
  rfl

/-- An operation that counts an event first, and then nothing, and can only end with `a`. -/
theorem counted_of_count {event : Event} {a b : α} {p : Operation α}
    (h : Answered (.ask (.count event) fun _ => p) es (.done b))
    (hp : Only (fun c => c.collaborator ≠ .counters) (· = a) p) :
    SignIn.counted es = [event] ∧ b = a := by
  rcases answered_ask h with ⟨-, hq⟩ | ⟨u, fs, rfl, hrest⟩
  · cases hq
  obtain ⟨hspares, hb⟩ := hp.answered hrest
  refine ⟨?_, hb⟩
  rw [counted_cons, counted_eq_nil hspares]
  rfl

/-- What an operation ends with is determined by the answers that it had. -/
theorem Answered.unique {p : Operation α} {a b : α} (h : Answered p es (.done a)) :
    ∀ {es' : List Exchange}, Answered p es' (.done b) → es ++ fs = es' ++ gs → a = b := by
  generalize hq : (.done a : Operation α) = q at h
  induction h with
  | nil =>
    intro es' h' _
    subst hq
    cases (answered_done h').2
    rfl
  | @cons c next q r es h ih =>
    intro es' h' heq
    rcases answered_ask h' with ⟨-, hne⟩ | ⟨r', es', rfl, h₁⟩
    · cases hne
    · -- the same question in both, so the answer is the same and both go on alike
      obtain ⟨he, hes⟩ := List.cons.inj heq
      cases he
      exact ih hq h₁ hes

/-- The operation ends with `a` on the first of these answers. -/
def Returns (p : Operation α) (es : List Exchange) (a : α) : Prop :=
  ∃ fs gs, es = fs ++ gs ∧ Answered p fs (.done a)

theorem returns_iff {p : Operation α} {a b : α} (h : Answered p fs (.done a)) :
    Returns p (fs ++ gs) b ↔ a = b := by
  constructor
  · rintro ⟨fs', gs', hes, h'⟩
    exact h.unique h' hes
  · rintro rfl
    exact ⟨fs, gs, rfl, h⟩

end Operation

namespace Service

open Operation

variable {settings : Settings} {es : List Exchange}

/-- The event of a login that has ended. -/
def loginEvent : Except AuthFailure LoginOutcome → Event
  | .ok _ => .loginSuccess
  | .error _ => .loginFailure

/-- The event of a refresh that has ended. -/
def refreshEvent : Except AuthFailure (List String) → Event
  | .ok _ => .refreshSuccess
  | .error _ => .refreshFailure

/-- A login that fails is counted once, as a failure. -/
theorem counted_loginFailed {f f' : AuthFailure} (h : Answered (loginFailed f) es (.done f')) :
    counted es = [.loginFailure] :=
  (counted_of_count h ⟨nofun, fun _ => rfl⟩).1

/-- A login that has ended has counted one event, by what it ended with. -/
theorem counted_login {idToken nonce : String} {https : Bool}
    {result : Except AuthFailure LoginOutcome}
    (h : Answered (login settings idToken nonce https) es (.done result)) :
    counted es = [loginEvent result] := by
  rcases answered_bind h with ⟨c, next, -, hq⟩ | ⟨tried, fs, gs, rfl, htry, hend⟩
  · cases hq
  rw [counted_append,
    ((asksOnly_tryLogin settings idToken nonce https).spares (by decide)).counted htry,
    List.nil_append]
  cases tried with
  | ok outcome =>
    obtain ⟨hone, rfl⟩ := counted_of_count hend rfl
    exact hone
  | error f =>
    obtain ⟨f', hfailed, rfl⟩ := answered_map hend
    exact counted_loginFailed hfailed

/-- A refresh that has ended has counted one event, by what it ended with. -/
theorem counted_refresh {cookie : Option String} {result : Except AuthFailure (List String)}
    (h : Answered (refresh settings cookie) es (.done result)) :
    counted es = [refreshEvent result] := by
  rcases answered_bind h with ⟨c, next, -, hq⟩ | ⟨tried, fs, gs, rfl, htry, hend⟩
  · cases hq
  rw [counted_append, ((asksOnly_tryRefresh settings cookie).spares (by decide)).counted htry,
    List.nil_append]
  cases tried with
  | ok cookies =>
    obtain ⟨hone, rfl⟩ := counted_of_count hend rfl
    exact hone
  | error f =>
    obtain ⟨hone, rfl⟩ := counted_of_count hend ⟨nofun, fun _ => rfl⟩
    exact hone

theorem counted_logout {cookie : Option String} {cookies : List String}
    (h : Answered (logout settings cookie) es (.done cookies)) : counted es = [.logoutSuccess] := by
  rcases answered_bind h with ⟨c, next, -, hq⟩ | ⟨u, fs, gs, rfl, hrevoke, hend⟩
  · cases hq
  have hnone : counted fs = [] := by
    split at hrevoke
    · exact ((asksOnly_revokeQuietly _).spares (by decide)).counted hrevoke
    · exact counted_of_done hrevoke
  rw [counted_append, hnone, List.nil_append]
  exact (counted_of_count hend rfl).1

end Service

/-! ## Events of a request -/

/-- The request posts to this path. -/
def Request.Posts (r : Request) (path : String) : Prop := r.method = "POST" ∧ r.path = path

instance (r : Request) (path : String) : Decidable (r.Posts path) :=
  inferInstanceAs (Decidable (_ ∧ _))

namespace App

open Operation

variable {app : App} {r : Request} {es : List Exchange} {response : Response} {c : Counters}

/-- On these answers the login of the request succeeds : its body can be read, and what it shows is
good. -/
def SignsIn (app : App) (r : Request) (es : List Exchange) : Prop :=
  ∃ body outcome, LoginBody.ofRequest? r = some body ∧
    Returns (Service.login app.settings body.idToken body.nonce (Transport.isHttps r.headers)) es
      (.ok outcome)

/-- On these answers the refresh of the request succeeds. -/
def Refreshes (app : App) (r : Request) (es : List Exchange) : Prop :=
  ∃ cookies, Returns (Service.refresh app.settings (app.refreshCookie? r)) es (.ok cookies)

/-- What a request that was answered does to the counters `c`, which are then `c'` : a login, a
refresh and a logout increment one, by whether they have succeeded, and any other request none. -/
structure Accounted (app : App) (r : Request) (es : List Exchange) (c c' : Counters) : Prop where
  login : r.Posts "/auth/google" → (app.SignsIn r es → c' = c.increment .loginSuccess) ∧
    (¬app.SignsIn r es → c' = c.increment .loginFailure)
  refresh : r.Posts "/auth/refresh" → (app.Refreshes r es → c' = c.increment .refreshSuccess) ∧
    (¬app.Refreshes r es → c' = c.increment .refreshFailure)
  logout : r.Posts "/auth/logout" → c' = c.increment .logoutSuccess
  other : ¬r.Posts "/auth/google" → ¬r.Posts "/auth/refresh" → ¬r.Posts "/auth/logout" → c' = c

/-- A login is counted once, by whether it succeeds. -/
theorem counted_handleLogin (h : Answered (app.handleLogin r) es (.done response)) :
    (app.SignsIn r es → counted es = [.loginSuccess]) ∧
      (¬app.SignsIn r es → counted es = [.loginFailure]) := by
  unfold handleLogin at h
  split at h
  · rename_i hbody
    have hno : ¬app.SignsIn r es := by
      rintro ⟨body, outcome, hsome, -⟩
      rw [hbody] at hsome
      cases hsome
    obtain ⟨f, hfailed, -⟩ := answered_map h
    exact ⟨fun hin => absurd hin hno, fun _ => Service.counted_loginFailed hfailed⟩
  · rename_i body hbody
    rcases answered_bind h with ⟨c, next, -, hq⟩ | ⟨result, fs, gs, rfl, hlogin, hend⟩
    · cases hq
    have hin : app.SignsIn r (fs ++ gs) ↔ ∃ outcome, result = .ok outcome := by
      simp only [SignsIn, hbody, Option.some.injEq, exists_eq_left', exists_and_left,
        returns_iff hlogin]
    have hgs : gs = [] := by
      cases result <;> exact (answered_done hend).1
    rw [hin, hgs, List.append_nil, Service.counted_login hlogin]
    cases result <;> simp [Service.loginEvent]

/-- A refresh is counted once, by whether it succeeds. -/
theorem counted_handleRefresh (h : Answered (app.handleRefresh r) es (.done response)) :
    (app.Refreshes r es → counted es = [.refreshSuccess]) ∧
      (¬app.Refreshes r es → counted es = [.refreshFailure]) := by
  rcases answered_bind h with ⟨c, next, -, hq⟩ | ⟨result, fs, gs, rfl, hrefresh, hend⟩
  · cases hq
  have hyes : app.Refreshes r (fs ++ gs) ↔ ∃ cookies, result = .ok cookies := by
    simp only [Refreshes, returns_iff hrefresh]
  have hgs : gs = [] := by
    cases result <;> exact (answered_done hend).1
  rw [hyes, hgs, List.append_nil, Service.counted_refresh hrefresh]
  cases result <;> simp [Service.refreshEvent]

/-- A logout is counted once, as a success. -/
theorem counted_handleLogout (h : Answered (app.handleLogout r) es (.done response)) :
    counted es = [.logoutSuccess] := by
  obtain ⟨cookies, hlogout, -⟩ := answered_map h
  exact Service.counted_logout hlogout

theorem spares_handleNonce : Spares .counters handleNonce :=
  (Service.asksOnly_issueNonce.spares (by decide)).bind fun result => by cases result <;> trivial

theorem spares_handleMe (claims : Claims) : Spares .counters (handleMe claims) := by
  unfold handleMe
  split
  · trivial
  · refine ⟨nofun, fun answer => ?_⟩
    cases answer with
    | ok profile => trivial
    | error e => cases e <;> exact ⟨nofun, fun _ => trivial⟩

theorem spares_handleProtected (app : App) (r : Request) :
    Spares .counters (app.handleProtected r) := by
  refine ⟨nofun, fun now => ?_⟩
  dsimp only
  split
  · trivial
  · trivial
  · trivial
  · exact (spares_handleMe _).bind fun _ => trivial

/-- A request that is no login, no refresh and no logout, and counts nothing. -/
theorem accounted_of_silent (hes : counted es = [])
    (hno : ∀ route ∈ [Route.login, .refresh, .logout], ¬r.Posts route.path) :
    app.Accounted r es c (c.after es) where
  login hposts := absurd hposts (hno .login (by decide))
  refresh hposts := absurd hposts (hno .refresh (by decide))
  logout hposts := absurd hposts (hno .logout (by decide))
  other _ _ _ := by rw [Counters.after, hes]; rfl

variable {route : Route}

theorem not_posts_of_ne (hroute : Route.ofPath? r.path = some route) (other : Route)
    (hne : other ≠ route) : ¬r.Posts other.path := fun hposts =>
  hne ((Route.path_eq_iff hroute).1 hposts.2).symm

theorem accounted_of_other_route (hes : counted es = [])
    (hroute : Route.ofPath? r.path = some route)
    (hother : route ∉ [Route.login, .refresh, .logout]) : app.Accounted r es c (c.after es) :=
  accounted_of_silent hes fun other hmem =>
    not_posts_of_ne hroute other (ne_of_mem_of_not_mem hmem hother)

theorem accounted_of_handlePost (hroute : Route.ofPath? r.path = some route)
    (hmethod : r.method = "POST") (h : Answered (app.handlePost r route) es (.done response))
    (c : Counters) : app.Accounted r es c (c.after es) := by
  have hno := not_posts_of_ne hroute
  have hposts : r.Posts route.path := ⟨hmethod, (Route.path_eq_iff hroute).2 rfl⟩
  have hafter : ∀ {event}, counted es = [event] → c.after es = c.increment event := fun hes => by
    rw [Counters.after, hes]
    rfl
  cases route with
  | nonce => exact accounted_of_other_route (spares_handleNonce.counted h) hroute (by decide)
  | login =>
    have hes := counted_handleLogin h
    exact {
      login := fun _ => ⟨fun hin => hafter (hes.1 hin), fun hin => hafter (hes.2 hin)⟩
      refresh := fun hother => absurd hother (hno .refresh (by decide))
      logout := fun hother => absurd hother (hno .logout (by decide))
      other := fun hother => absurd hposts hother }
  | refresh =>
    have hes := counted_handleRefresh h
    exact {
      login := fun hother => absurd hother (hno .login (by decide))
      refresh := fun _ => ⟨fun hyes => hafter (hes.1 hyes), fun hyes => hafter (hes.2 hyes)⟩
      logout := fun hother => absurd hother (hno .logout (by decide))
      other := fun _ hother => absurd hposts hother }
  | logout =>
    exact {
      login := fun hother => absurd hother (hno .login (by decide))
      refresh := fun hother => absurd hother (hno .refresh (by decide))
      logout := fun _ => hafter (counted_handleLogout h)
      other := fun _ _ hother => absurd hposts hother }
  | me => exact accounted_of_other_route (counted_of_done h) hroute (by decide)

/-- A request that was answered has counted as one login, one refresh, one logout or not at all. -/
theorem accounted_of_answered (h : Answered (app.handle r) es (.done response)) (c : Counters) :
    app.Accounted r es c (c.after es) := by
  unfold handle at h
  split at h
  · rename_i hroute
    refine accounted_of_silent (counted_of_done h) fun other _ hposts => ?_
    -- a path without a route is that of no route
    rw [hposts.2] at hroute
    cases other <;> cases hroute
  · rename_i hroute
    exact accounted_of_other_route ((app.spares_handleProtected r).counted h) hroute (by decide)
  · rename_i route hme hroute
    split_ifs at h with hmethod
    · have hpost : r.method = "POST" := by
        cases route <;> simp_all [Route.methods]
      exact accounted_of_handlePost hroute hpost h c
    · refine accounted_of_silent (counted_of_done h) fun other _ hposts => hmethod ?_
      obtain rfl : route = other := (Route.path_eq_iff hroute).1 hposts.2
      rw [hposts.1]
      cases route with
      | me => exact absurd rfl hme
      | nonce | login | refresh | logout => rfl

end App

/-! ## Runs -/

namespace World

open Operation

variable {w w' : World} {es : List Exchange} {α : Type}

/-- The counters, if events are counted. -/
def meter (w : World) : Bool × Counters := (w.counting, w.counters)

/-- The answers are given one after the other, each in a world that has the counters as they were
left. All else may have become another in between : the stores, the clock, the provider and the
faults. -/
inductive Answers : World → List Exchange → World → Prop
  | nil {w w' : World} (hw : w'.meter = w.meter) : Answers w [] w'
  | cons {w u v w' : World} {c : Call} {r : c.Reply} {es : List Exchange} (hu : u.meter = w.meter)
    (h : answer c u = some (r, v)) (hes : Answers v es w') : Answers w (⟨c, r⟩ :: es) w'

/-- An operation that runs to its end in a world is answered all its questions by it. -/
theorem answers_of_perform : ∀ {p : Operation α} {w : World} {a : α}, w.perform p = some (a, w') →
    ∃ es, Answered p es (.done a) ∧ w.Answers es w'
  | .done _, w, a, h => by
    cases h
    exact ⟨[], .nil, .nil rfl⟩
  | .ask c next, w, a, h => by
    obtain ⟨r, u, hu, h₁⟩ := exists_of_perform_ask h
    obtain ⟨es, hes, hu'⟩ := answers_of_perform h₁
    exact ⟨_, .cons r es hes, .cons rfl hu hu'⟩

theorem Answers.append {u : World} {fs : List Exchange} (hes : w.Answers es u)
    (hfs : u.Answers fs w') : w.Answers (es ++ fs) w' := by
  induction hes with
  | nil hw =>
    cases hfs with
    | nil hw' => exact .nil (hw'.trans hw)
    | cons hu h hfs => exact .cons (hu.trans hw) h hfs
  | cons hu h hes ih => exact .cons hu h (ih hfs)

theorem meter_of_answer_of_silent {c : Call} {r : c.Reply} (hc : c.event? = none)
    (h : answer c w = some (r, w')) : w'.meter = w.meter := by
  unfold answer at h
  split at h
  · -- a fault is an answer without work
    cases h
    rfl
  · cases c with
    | count event => cases hc
    | halt => cases h
    | readClock | issueNonce | consumeNonce | verifyIdentity | upsertUser | userProfile
    | issueRefresh | validateRefresh | revokeRefresh | log =>
      cases h
      rfl

/-- One answer counts what it was asked to count, and nothing else. -/
theorem meter_of_answer {c : Call} {r : c.Reply} (h : answer c w = some (r, w'))
    (hw : w.counting = true) : w'.meter = (true, w.counters.after [⟨c, r⟩]) := by
  have hmeter : w.meter = (true, w.counters) := congrArg (·, _) hw
  cases c with
  | count event =>
    cases h
    rw [if_pos hw]
    exact congrArg (·, _) hw
  | readClock | issueNonce | consumeNonce | verifyIdentity | upsertUser | userProfile | issueRefresh
  | validateRefresh | revokeRefresh | log | halt =>
    exact (meter_of_answer_of_silent rfl h).trans hmeter

/-- A world that counts has counted what its answers say, and nothing else has changed its
counters. -/
theorem Answers.meter_eq (h : w.Answers es w') (hw : w.counting = true) :
    w'.meter = (true, w.counters.after es) := by
  induction h with
  | nil hw' => exact hw'.trans (congrArg (·, _) hw)
  | @cons w u v w' c r es hu h hes ih =>
    have hcounting : u.counting = true := (congrArg Prod.fst hu).trans hw
    have hleft : u.counters = w.counters := congrArg Prod.snd hu
    have hv := meter_of_answer h hcounting
    have hcounters : v.counters = w.counters.after [⟨c, r⟩] := hleft ▸ congrArg Prod.snd hv
    rw [ih (congrArg Prod.fst hv), hcounters, ← Counters.after_append]
    rfl

end World

/-- A request that was answered, and the answers that it had on the way. -/
structure Served (app : App) where
  request : Request
  exchanges : List Exchange
  response : Response
  answered : Operation.Answered (app.handle request) exchanges (.done response)

namespace Served

variable {app : App}

/-- All answers of a run of requests. -/
def answers (run : List (Served app)) : List Exchange := run.flatMap (·.exchanges)

/-- What a run has counted. -/
def counters (run : List (Served app)) : Counters := Counters.zero.after (answers run)

/-- How many requests of a run post to a path. -/
def posts (run : List (Served app)) (path : String) : Nat :=
  run.countP fun s => s.request.Posts path

end Served

namespace Counters

/-- The count of the event of this name. -/
def named (c : Counters) (name : String) : Nat :=
  ((Event.all.find? fun e => e.name == name).map c).getD 0

/-- The counters `c` have become `c'` with so many requests more. -/
structure Gains (c c' : Counters) (logins refreshes logouts : Nat) : Prop where
  logins : c' .loginSuccess + c' .loginFailure = c .loginSuccess + c .loginFailure + logins
  refreshes :
    c' .refreshSuccess + c' .refreshFailure = c .refreshSuccess + c .refreshFailure + refreshes
  logouts : c' .logoutSuccess = c .logoutSuccess + logouts

variable {c c' c'' : Counters} {i i' j j' k k' : Nat}

theorem gains_self (c : Counters) : c.Gains c 0 0 0 := ⟨rfl, rfl, rfl⟩

theorem Gains.trans (h : c.Gains c' i j k) (h' : c'.Gains c'' i' j' k') :
    c.Gains c'' (i + i') (j + j') (k + k') where
  logins := by rw [h'.logins, h.logins, Nat.add_assoc]
  refreshes := by rw [h'.refreshes, h.refreshes, Nat.add_assoc]
  logouts := by rw [h'.logouts, h.logouts, Nat.add_assoc]

theorem gains_login {e : Event} (he : e = .loginSuccess ∨ e = .loginFailure) :
    c.Gains (c.increment e) 1 0 0 := by
  rcases he with rfl | rfl <;> constructor <;> simp [increment] <;> omega

theorem gains_refresh {e : Event} (he : e = .refreshSuccess ∨ e = .refreshFailure) :
    c.Gains (c.increment e) 0 1 0 := by
  rcases he with rfl | rfl <;> constructor <;> simp [increment] <;> omega

theorem gains_logout : c.Gains (c.increment .logoutSuccess) 0 0 1 := by
  constructor <;> simp [increment]

end Counters

namespace App

open Served

variable {app : App}

/-- A request gains one of the kind that it posts to. -/
theorem Accounted.gains {r : Request} {es : List Exchange} {c c' : Counters}
    (h : app.Accounted r es c c') :
    c.Gains c' (if r.Posts "/auth/google" then 1 else 0) (if r.Posts "/auth/refresh" then 1 else 0)
      (if r.Posts "/auth/logout" then 1 else 0) := by
  have hnot : ∀ {p q : String}, p ≠ q → r.Posts p → ¬r.Posts q := fun hne hp hq =>
    hne (hp.2.symm.trans hq.2)
  by_cases hlogin : r.Posts "/auth/google"
  · rw [if_pos hlogin, if_neg (hnot (by decide) hlogin), if_neg (hnot (by decide) hlogin)]
    obtain ⟨hin, hout⟩ := h.login hlogin
    by_cases hsigns : app.SignsIn r es
    · exact hin hsigns ▸ Counters.gains_login (Or.inl rfl)
    · exact hout hsigns ▸ Counters.gains_login (Or.inr rfl)
  rw [if_neg hlogin]
  by_cases hrefresh : r.Posts "/auth/refresh"
  · rw [if_pos hrefresh, if_neg (hnot (by decide) hrefresh)]
    obtain ⟨hin, hout⟩ := h.refresh hrefresh
    by_cases hrefreshes : app.Refreshes r es
    · exact hin hrefreshes ▸ Counters.gains_refresh (Or.inl rfl)
    · exact hout hrefreshes ▸ Counters.gains_refresh (Or.inr rfl)
  rw [if_neg hrefresh]
  by_cases hlogout : r.Posts "/auth/logout"
  · rw [if_pos hlogout]
    exact h.logout hlogout ▸ Counters.gains_logout
  · rw [if_neg hlogout]
    exact h.other hlogin hrefresh hlogout ▸ Counters.gains_self c

/-- Over a run, the counters of each kind gain what was posted to their route. -/
theorem gains_of_run (run : List (Served app)) (c : Counters) : c.Gains (c.after (answers run))
    (posts run "/auth/google") (posts run "/auth/refresh") (posts run "/auth/logout") := by
  induction run generalizing c with
  | nil => exact c.gains_self
  | cons s run ih =>
    have hposts :
        ∀ path, posts (s :: run) path = (if s.request.Posts path then 1 else 0) + posts run path :=
      fun path => by
        rw [posts, List.countP_cons, Nat.add_comm, posts]
        simp
    have hafter : c.after (answers (s :: run)) = (c.after s.exchanges).after (answers run) :=
      c.after_append s.exchanges (answers run)
    rw [hposts, hposts, hposts, hafter]
    exact (accounted_of_answered s.answered c).gains.trans (ih _)

/-- The world after requests that it answers one after the other, if it answers them all. -/
def serveAll? (app : App) (w : World) (requests : List Request) : Option World :=
  requests.foldlM (fun w r => (w.perform (app.handle r)).map (·.2)) w

theorem exists_answers_of_serveAll {requests : List Request} : ∀ {w w' : World},
    app.serveAll? w requests = some w' →
      ∃ run : List (Served app), run.map (·.request) = requests ∧ w.Answers (answers run) w' := by
  induction requests with
  | nil =>
    intro w w' h
    cases h
    exact ⟨[], rfl, .nil rfl⟩
  | cons r requests ih =>
    intro w w' h
    rw [serveAll?, List.foldlM_cons] at h
    obtain ⟨u, hu, hrest⟩ := Option.bind_eq_some_iff.1 h
    obtain ⟨⟨response, u⟩, hperform, rfl⟩ := Option.map_eq_some_iff.1 hu
    obtain ⟨es, hes, hanswers⟩ := World.answers_of_perform hperform
    obtain ⟨run, rfl, hrun⟩ := ih hrest
    exact ⟨⟨r, es, response, hes⟩ :: run, rfl, hanswers.append hrun⟩

/-- The counters account for every request. Let requests be served one after the other, each to its
end, with any answers to the questions on the way. Then the successes and failures of logins are as
many as the requests that post to `/auth/google`, those of refreshes as many as post to
`/auth/refresh`, and the successes of logouts as many as post to `/auth/logout`. Each of these
requests increments one counter, which is that of the success if and only if the login or the
refresh of the service ends well, and no other request changes a counter. These are the counters of
a world that counts, if all else in it may become another in between, even from one answer to the
next. The requests that a world serves alone are such a run. -/
theorem counters_account_for_requests (app : App) :
    (∀ run : List (Served app),
      (counters run).named "auth.login.success" + (counters run).named "auth.login.failure" =
        posts run "/auth/google" ∧
      (counters run).named "auth.refresh.success" + (counters run).named "auth.refresh.failure" =
        posts run "/auth/refresh" ∧
      (counters run).named "auth.logout.success" = posts run "/auth/logout" ∧
      ∀ before s later, run = before ++ s :: later →
        app.Accounted s.request s.exchanges (counters before) (counters (before ++ [s]))) ∧
    (∀ (w w' : World) (run : List (Served app)), w.counting = true → w.counters = .zero →
      w.Answers (answers run) w' → w'.counters = counters run) ∧
    ∀ (w w' : World) (requests : List Request), app.serveAll? w requests = some w' →
      ∃ run : List (Served app), run.map (·.request) = requests ∧ w.Answers (answers run) w' := by
  refine ⟨fun run => ?_, fun w w' run hcounting hzero h => ?_, fun w w' requests =>
    exists_answers_of_serveAll⟩
  · have hgains := gains_of_run run .zero
    refine ⟨?_, ?_, ?_, fun before s later _ => ?_⟩
    · exact hgains.logins.trans (Nat.zero_add _)
    · exact hgains.refreshes.trans (Nat.zero_add _)
    · exact hgains.logouts.trans (Nat.zero_add _)
    · have hlast : counters (before ++ [s]) = (counters before).after s.exchanges := by
        simp only [counters, answers, List.flatMap_append, List.flatMap_singleton,
          Counters.after_append]
      rw [hlast]
      exact accounted_of_answered s.answered _
  · rw [counters, ← hzero]
    exact congrArg Prod.snd (h.meter_eq hcounting)

end App

namespace FirstLogin

open SessionToken (noon)

def app : App := App.ofSettings settings

/-- A world that counts. -/
def countingWorld : World :=
  (World.start settings .memory noon ⟨[], 0⟩ true).within (surroundings noon)

/-- A nonce is issued and the first login presents it. Then come a login without a body, a refresh
without a cookie, and a logout. -/
def fiveRequests : List Request :=
  [⟨"POST", "/auth/nonce", [], []⟩,
   ⟨"POST", "/auth/google", [("content-type", "application/json"), ("x-forwarded-proto", "https")],
     Utf8.bytes (Json.arr [.str "token", .str nonce]).toText⟩,
   ⟨"POST", "/auth/google", [], []⟩,
   ⟨"POST", "/auth/refresh", [], []⟩,
   ⟨"POST", "/auth/logout", [], []⟩]

/-- What five requests have counted. -/
def fiveCounts : Option (List Nat) :=
  (app.serveAll? countingWorld fiveRequests).map fun w => Event.all.map w.counters

/-- One login of two has succeeded, the refresh has failed, and the logout has succeeded. -/
theorem five_requests_are_accounted_for : ∃ w', app.serveAll? countingWorld fiveRequests = some w' ∧
    countingWorld.counting = true ∧ countingWorld.counters = .zero ∧
    Event.all.map w'.counters = [1, 1, 0, 1, 1] ∧
    w'.counters.named "auth.login.success" + w'.counters.named "auth.login.failure" = 2 ∧
    w'.counters.named "auth.refresh.success" + w'.counters.named "auth.refresh.failure" = 1 ∧
    w'.counters.named "auth.logout.success" = 1 := by
  have hcounts : fiveCounts = some [1, 1, 0, 1, 1] := by decide +kernel
  obtain ⟨w', hserved, hevents⟩ := Option.map_eq_some_iff.1 hcounts
  obtain ⟨haccounts, hworld, hruns⟩ := app.counters_account_for_requests
  obtain ⟨run, hrequests, hanswers⟩ := hruns _ _ _ hserved
  obtain ⟨hlogins, hrefreshes, hlogouts, -⟩ := haccounts run
  rw [← hworld _ _ run rfl rfl hanswers] at hlogins hrefreshes hlogouts
  have hposts : ∀ path, Served.posts run path = fiveRequests.countP fun r => r.Posts path :=
    fun path => by
      rw [← hrequests, List.countP_map]
      rfl
  rw [hposts] at hlogins hrefreshes hlogouts
  exact ⟨w', hserved, rfl, rfl, hevents, hlogins.trans (by decide), hrefreshes.trans (by decide),
    hlogouts.trans (by decide)⟩

end FirstLogin

end SignIn
