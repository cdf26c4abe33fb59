import SignIn.Proofs.Service.LastSteps
import SignIn.Proofs.Web.Lifetime

/-!
# A login that runs alone

What a login needs is a list of steps (`LoginStep.all`), and how each of them fails, if it does, is
read off the world in which the login begins (`LoginAttempt.failure?`). The first that fails decides
the error.

The cases of a login are those of `LoginAttempt.Course` : it was refused by the first failing step,
it came to an expiry outside the calendar, or it wrote its user down and was handed out a session.
In each of them the refresh store, the users and the presented nonce are told (`course_tried`), and
`login_takes_effect` reads them off.
-/

namespace SignIn

/-- What a login needs, in the order in which it is looked at. -/
inductive LoginStep where
  /-- The ID token is not blank. -/
  | idTokenText
  /-- The nonce is not blank. -/
  | nonceText
  /-- The nonce is stored and not past its expiry. -/
  | nonce
  /-- The transport is secure or need not be. -/
  | transport
  /-- The provider vouches for the ID token. -/
  | identity
  /-- The claims are bound to the nonce. -/
  | binding
  /-- The user is written down. -/
  | user
  /-- A session is minted. -/
  | session
  /-- A refresh token is issued. -/
  | refreshToken
  deriving DecidableEq

namespace LoginStep

/-- The steps before a user is written down. -/
def early : List LoginStep := [.idTokenText, .nonceText, .nonce, .transport, .identity, .binding]

/-- All steps in their order. -/
def all : List LoginStep := early ++ [.user, .session, .refreshToken]

theorem mem_all (s : LoginStep) : s ∈ all := by
  cases s <;> decide

end LoginStep

/-- A login and the world in which it begins. -/
structure LoginAttempt where
  settings : Settings
  world : World
  idToken : String
  nonce : String
  https : Bool

/-- The failure that an answer means, none for a good one. -/
def failureOf {ε α : Type} (failure : ε → AuthFailure) : Except ε α → Option AuthFailure
  | .ok _ => none
  | .error e => some (failure e)

namespace LoginAttempt

variable (a : LoginAttempt)

/-- The login with its counts and its log. -/
def run : Option (Except AuthFailure LoginOutcome × World) :=
  a.world.perform (Service.login a.settings a.idToken a.nonce a.https)

/-- The steps of the login. -/
def tried : Option (Except AuthFailure LoginOutcome × World) :=
  a.world.perform (Service.tryLogin a.settings a.idToken a.nonce a.https)

/-! ## What each step finds -/

/-- The world once the nonce is consumed. -/
def consumed : World :=
  { a.world with nonces := (a.world.nonces.consume a.world.clock (Text.trim a.nonce)).2 }

/-- What the provider says. -/
def vouched : Except IdentityError IdentityClaims :=
  a.world.provider a.world.clock (Text.trim a.idToken) a.settings.clientId

/-- The identity that is bound to the nonce. -/
def identity? : Option BoundIdentity :=
  a.vouched.toOption.bind fun claims => (claims.bind (Text.trim a.nonce)).toOption

/-- What the user store says to an identity, and the world behind it. -/
def written (identity : BoundIdentity) : Except UserError (String × List String) × World :=
  a.consumed.upsertUser
    ⟨identity.subject, identity.email, identity.displayName, identity.avatarUrl⟩

/-- The user that was written down, and the world behind it. -/
def user? : Option (Profile × World) :=
  a.identity?.bind fun identity =>
    match a.written identity with
    | (.ok (id, roles), w) =>
      some (⟨id, identity.email, identity.displayName, identity.avatarUrl, roles⟩, w)
    | (.error _, _) => none

/-- How a step fails, none if it does not or is not reached. -/
def failure? : LoginStep → Option AuthFailure
  | .idTokenText => if Text.trim a.idToken = "" then some .missingIdToken else none
  | .nonceText => if Text.trim a.nonce = "" then some .missingNonce else none
  | .nonce =>
    match a.world.nonces.entries.get? (Text.trim a.nonce) with
    | none => some (.invalidNonce .notFound)
    | some expires => if a.world.clock ≤ expires then none else some (.invalidNonce .expired)
  | .transport => if a.https ∨ a.settings.allowInsecureHttp then none else some .httpsRequired
  | .identity => failureOf .identity a.vouched
  | .binding => a.vouched.toOption.bind fun claims =>
    failureOf .binding (claims.bind (Text.trim a.nonce))
  | .user => a.identity?.bind fun identity => failureOf .userStore (a.written identity).1
  | .session => a.user?.bind fun (user, w) =>
    failureOf .mint (SessionToken.mint user a.settings.issuer a.settings.signingKey w.clock
      a.settings.sessionLifetime)
  | .refreshToken => a.user?.bind fun (user, w) =>
    (w.clock.add? a.settings.refreshLifetime).bind fun expires =>
      failureOf .issueRefresh (w.issueRefresh user.userId expires.seconds "").1

/-- The error that the first failing step decides. -/
def first? : Option AuthFailure := LoginStep.all.findSome? a.failure?

variable {a}

theorem first?_eq_some (done : List LoginStep) (s : LoginStep) {rest : List LoginStep}
    {f : AuthFailure} (hall : LoginStep.all = done ++ s :: rest)
    (hdone : ∀ t ∈ done, a.failure? t = none) (hs : a.failure? s = some f) : a.first? = some f :=
  List.findSome?_eq_some_iff.2 ⟨done, s, rest, hall, hs, hdone⟩

theorem first?_eq_none_iff : a.first? = none ↔ ∀ s, a.failure? s = none :=
  List.findSome?_eq_none_iff.trans ⟨fun h s => h s s.mem_all, fun h s _ => h s⟩

/-! ## How a login goes -/

/-- The last steps of a login, once an identity is bound. -/
def signIn (settings : Settings) (identity : BoundIdentity) :
    Operation (Except AuthFailure LoginOutcome) :=
  .ask (.upsertUser ⟨identity.subject, identity.email, identity.displayName, identity.avatarUrl⟩)
    fun reply =>
    Script.andThen reply .userStore fun (userId, roles) =>
    let user : Profile := ⟨userId, identity.email, identity.displayName, identity.avatarUrl, roles⟩
    (Service.handOut settings user "").bind fun cookies =>
    .done (cookies.map fun cookies => ⟨user, cookies⟩)

variable (a)

/-- The ID token and the nonce are there. -/
def HasTexts : Prop := Text.trim a.idToken ≠ "" ∧ Text.trim a.nonce ≠ ""

/-- How the steps of a login can end. -/
inductive Course : Option (Except AuthFailure LoginOutcome × World) → Prop
  /-- A step fails, and the refresh store is as it was. -/
  | refused {f w'} (first : a.first? = some f)
      (tokens : w'.refreshTokens = a.world.refreshTokens)
      (users : (∀ s ∈ LoginStep.early, a.failure? s = none) ∨ w'.users = a.world.users)
      (nonces : a.HasTexts → w'.nonces = a.consumed.nonces) :
      Course (some (.error f, w'))
  /-- An expiry lies outside the calendar. -/
  | beyond (late : a.world.clock.add? a.settings.sessionLifetime = none ∨
      a.world.clock.add? a.settings.refreshLifetime = none) : Course none
  /-- A user was written down, and a token was issued. -/
  | handed {identity id roles w₁ minted expires issued s} (entropy : Entropy)
      (first : a.first? = none) (bound : a.identity? = some identity)
      (known : a.written identity = (.ok (id, roles), w₁))
      (mint : SessionToken.mint
        ⟨id, identity.email, identity.displayName, identity.avatarUrl, roles⟩
        a.settings.issuer a.settings.signingKey a.world.clock a.settings.sessionLifetime =
          .ok (some minted))
      (refresh : a.world.clock.add? a.settings.refreshLifetime = some expires)
      (tokens : s.records.Perm
        (IssuedRefresh.record issued a.world.clock id expires.seconds "" ::
          a.world.refreshTokens.records)) :
      Course (some (.ok
        ⟨⟨id, identity.email, identity.displayName, identity.avatarUrl, roles⟩,
          [Cookie.setSession a.settings minted.token minted.expires a.world.clock,
            Cookie.setRefresh a.settings issued.secret expires a.world.clock]⟩,
        { w₁ with refreshTokens := s, entropy := entropy }))

variable {a}

theorem answer_consumeNonce (hf : a.world.faults.nonceConsume = none) :
    World.answer (.consumeNonce (Text.trim a.nonce)) a.world = some
      (NonceStore.judge a.world.clock (a.world.nonces.entries.get? (Text.trim a.nonce)),
        a.consumed) := by
  simp only [World.answer, World.fault?, hf]
  rfl

theorem failureOf_judge {now : Instant} {entry : Option Instant} :
    failureOf .invalidNonce (NonceStore.judge now entry) =
      match entry with
      | none => some (.invalidNonce .notFound)
      | some expires => if now ≤ expires then none else some (.invalidNonce .expired) := by
  cases entry with
  | none => rfl
  | some expires =>
    have hiff : expires < now ↔ ¬now ≤ expires := Int.not_le.symm
    by_cases h : now ≤ expires
    · simp only [NonceStore.judge, if_neg (hiff.not_left.2 h), if_pos h]
      rfl
    · simp only [NonceStore.judge, if_pos (hiff.2 h), if_neg h]
      rfl

/-- One of the early steps fails before a user is written down, or an identity is bound. -/
theorem early_cases (hf : a.world.faults.nonceConsume = none) : a.Course a.tried ∨
    ∃ identity, (∀ s ∈ LoginStep.early, a.failure? s = none) ∧ a.identity? = some identity ∧
      a.tried = a.consumed.perform (signIn a.settings identity) := by
  unfold tried Service.tryLogin
  by_cases hid : Text.trim a.idToken = ""
  · rw [if_pos hid]
    refine Or.inl (.refused ?_ rfl (Or.inr rfl) fun h => absurd hid h.1)
    exact first?_eq_some [] .idTokenText rfl (by simp) (if_pos hid)
  have h₁ : a.failure? .idTokenText = none := if_neg hid
  by_cases hnonce : Text.trim a.nonce = ""
  · rw [if_neg hid, if_pos hnonce]
    refine Or.inl (.refused ?_ rfl (Or.inr rfl) fun h => absurd hnonce h.2)
    exact first?_eq_some [.idTokenText] .nonceText rfl (by simp [h₁]) (if_pos hnonce)
  have h₂ : a.failure? .nonceText = none := if_neg hnonce
  rw [if_neg hid, if_neg hnonce, World.perform_ask (answer_consumeNonce hf)]
  have hjudge : a.failure? .nonce = _ := failureOf_judge.symm
  cases hj : NonceStore.judge a.world.clock (a.world.nonces.entries.get? (Text.trim a.nonce)) with
  | error e =>
    rw [hj] at hjudge
    refine Or.inl (.refused ?_ rfl (Or.inr rfl) fun _ => rfl)
    exact first?_eq_some [.idTokenText, .nonceText] .nonce rfl (by simp [h₁, h₂]) hjudge
  | ok u =>
  rw [hj] at hjudge
  dsimp only [Script.andThen]
  have htransport : (!a.https && !a.settings.allowInsecureHttp) = true ↔
      ¬(a.https = true ∨ a.settings.allowInsecureHttp = true) := by simp
  by_cases hhttps : a.https = true ∨ a.settings.allowInsecureHttp = true
  swap
  · rw [if_pos (htransport.2 hhttps)]
    refine Or.inl (.refused ?_ rfl (Or.inr rfl) fun _ => rfl)
    exact first?_eq_some [.idTokenText, .nonceText, .nonce] .transport rfl
      (by simp [h₁, h₂, hjudge, failureOf]) (if_neg hhttps)
  have h₄ : a.failure? .transport = none := if_pos hhttps
  have hverify :
      World.answer (.verifyIdentity (Text.trim a.idToken) a.settings.clientId) a.consumed =
        some (a.vouched, a.consumed) := rfl
  rw [if_neg (htransport.not.2 (not_not.2 hhttps)), World.perform_ask hverify]
  have hidentity : a.failure? .identity = failureOf .identity a.vouched := rfl
  have hbinding : a.failure? .binding = a.vouched.toOption.bind fun claims =>
    failureOf .binding (claims.bind (Text.trim a.nonce)) := rfl
  have hbound : a.identity? = a.vouched.toOption.bind fun claims =>
    (claims.bind (Text.trim a.nonce)).toOption := rfl
  cases hv : a.vouched with
  | error e =>
    rw [hv] at hidentity
    refine Or.inl (.refused ?_ rfl (Or.inr rfl) fun _ => rfl)
    exact first?_eq_some [.idTokenText, .nonceText, .nonce, .transport] .identity rfl
      (by simp [h₁, h₂, h₄, hjudge, failureOf]) hidentity
  | ok claims =>
  rw [hv] at hidentity hbinding hbound
  dsimp only
  cases hb : claims.bind (Text.trim a.nonce) with
  | error e =>
    rw [Except.toOption, Option.bind_some, hb] at hbinding
    dsimp only
    refine Or.inl (.refused ?_ rfl (Or.inr rfl) fun _ => rfl)
    exact first?_eq_some [.idTokenText, .nonceText, .nonce, .transport, .identity] .binding rfl
      (by simp [h₁, h₂, h₄, hjudge, hidentity, failureOf]) hbinding
  | ok identity =>
    rw [Except.toOption, Option.bind_some, hb] at hbinding hbound
    dsimp only
    refine Or.inr ⟨identity, ?_, hbound, rfl⟩
    simp [LoginStep.early, h₁, h₂, h₄, hjudge, hidentity, hbinding, failureOf]

section Bound

variable {identity : BoundIdentity} {user : Profile} {w : World}

/-- The details of a user are written to the user store and nowhere else. -/
theorem written_eq (identity : BoundIdentity) : ∃ users entropy,
    (a.written identity).2 = { a.consumed with users := users, entropy := entropy } :=
  World.upsertUser_eq _ _

theorem answer_written (identity : BoundIdentity) :
    World.answer (.upsertUser
      ⟨identity.subject, identity.email, identity.displayName, identity.avatarUrl⟩) a.consumed =
        some (a.written identity) :=
  a.consumed.answer_eq_upsertUser _

theorem failure?_user (hbound : a.identity? = some identity) :
    a.failure? .user = failureOf .userStore (a.written identity).1 := by
  rw [failure?, hbound, Option.bind_some]

theorem user?_of_written (hbound : a.identity? = some identity) {id : String} {roles : List String}
    (hw : a.written identity = (.ok (id, roles), w)) : a.user? =
      some (⟨id, identity.email, identity.displayName, identity.avatarUrl, roles⟩, w) := by
  rw [user?, hbound, Option.bind_some, hw]

theorem failure?_session (huser : a.user? = some (user, w)) :
    a.failure? .session = failureOf .mint (SessionToken.mint user a.settings.issuer
      a.settings.signingKey w.clock a.settings.sessionLifetime) := by
  rw [failure?, huser, Option.bind_some]

theorem failure?_refreshToken (huser : a.user? = some (user, w)) :
    a.failure? .refreshToken = (w.clock.add? a.settings.refreshLifetime).bind fun expires =>
      failureOf .issueRefresh (w.issueRefresh user.userId expires.seconds "").1 := by
  rw [failure?, huser, Option.bind_some]

/-- Once an identity is bound, the user is written down and a session is handed out. -/
theorem late_cases (hearly : ∀ s ∈ LoginStep.early, a.failure? s = none)
    (hbound : a.identity? = some identity) :
    a.Course (a.consumed.perform (signIn a.settings identity)) := by
  have hanswer := a.answer_written identity
  have huser := failure?_user hbound
  obtain ⟨users, entropy, hbehind⟩ := a.written_eq identity
  rcases hw : a.written identity with ⟨e | ⟨id, roles⟩, w⟩
  · rw [hw] at hanswer huser hbehind
    obtain rfl : w = _ := hbehind
    rw [signIn, World.perform_ask hanswer]
    exact .refused (first?_eq_some LoginStep.early .user rfl hearly huser) rfl
      (Or.inl hearly) fun _ => rfl
  have hknown := user?_of_written hbound hw
  have hsession := failure?_session hknown
  have hrefresh := failure?_refreshToken hknown
  rw [hw] at hanswer huser hbehind
  obtain rfl : w = _ := hbehind
  rw [signIn, World.perform_ask hanswer]
  have hhanded :=
    World.handed_perform { a.consumed with users := users, entropy := entropy } a.settings
    ⟨id, identity.email, identity.displayName, identity.avatarUrl, roles⟩ ""
  dsimp only [Script.andThen]
  rw [World.perform_bind]
  generalize World.perform _ (Service.handOut _ _ _) = result at hhanded ⊢
  cases hhanded with
  | unminted mint =>
    rw [mint] at hsession
    refine .refused ?_ rfl (Or.inl hearly) fun _ => rfl
    exact first?_eq_some (LoginStep.early ++ [.user]) .session rfl
      (List.forall_mem_append.2 ⟨hearly, List.forall_mem_singleton.2 huser⟩) hsession
  | beyond mint late => exact .beyond late
  | refused mint session refresh issue =>
    rw [mint] at hsession
    rw [refresh, Option.bind_some, issue] at hrefresh
    obtain ⟨entropy', rfl⟩ := World.behind_of_unissued issue
    refine .refused ?_ rfl (Or.inl hearly) fun _ => rfl
    exact first?_eq_some (LoginStep.early ++ [.user, .session]) .refreshToken rfl
      (List.forall_mem_append.2 ⟨hearly, by simp [huser, hsession, failureOf]⟩) hrefresh
  | handed mint session refresh issue =>
    rw [mint] at hsession
    rw [refresh, Option.bind_some, issue] at hrefresh
    have hfirst : a.first? = none := by
      refine List.findSome?_eq_none_iff.2 (List.forall_mem_append.2 ⟨hearly, ?_⟩)
      simp [huser, hsession, hrefresh, failureOf]
    obtain ⟨s, entropy', rfl, -, hperm⟩ := World.behind_of_issued issue
    exact (Course.handed entropy' hfirst hbound hw mint refresh hperm :)

end Bound

/-- Every login goes one of these ways. -/
theorem course_tried (hf : a.world.faults.nonceConsume = none) : a.Course a.tried := by
  rcases early_cases hf with h | ⟨identity, hearly, hbound, heq⟩
  · exact h
  · rw [heq]
    exact late_cases hearly hbound

/-- Counting and logging change neither the result nor the stores. -/
theorem run_cases : a.tried = none ∧ a.run = none ∨ ∃ result w counters log,
    a.tried = some (result, w) ∧
      a.run = some (result, { w with counters := counters, log := log }) := by
  exact World.perform_counted _ (fun _ => rfl) fun _ => rfl

/-- A consumed nonce is not stored any more. -/
theorem get?_consumed : a.consumed.nonces.entries.get? (Text.trim a.nonce) = none := by
  refine Dict.get?_keep_of_none ?_ _
  rw [NonceStore.take, Dict.get?_erase, if_pos rfl]

/-- A login that runs alone in any world, with any failures of the user store and the refresh store,
ends with a result unless an expiry lies outside the calendar. It succeeds when no step fails, and
else the first failing step decides the error.

After a success the refresh store has one record more, that of the secret in the second cookie.
After an error it is as it was, and so are the users unless all steps before the writing have
succeeded. Either way the presented nonce is not stored any more, if the two texts are there. -/
theorem login_takes_effect (hf : a.world.faults.nonceConsume = none) :
    (a.run = none → a.world.clock.add? a.settings.sessionLifetime = none ∨
      a.world.clock.add? a.settings.refreshLifetime = none) ∧
    ∀ result w', a.run = some (result, w') →
      ((∃ o, result = .ok o) ↔ ∀ s, a.failure? s = none) ∧
      (∀ f, result = .error f ↔ LoginStep.all.findSome? a.failure? = some f) ∧
      (∀ o, result = .ok o →
        ∃ identity minted expires, ∃ (issued : IssuedRefresh) (r : RefreshRecord),
        a.identity? = some identity ∧
        (a.written identity).1 = .ok (o.user.userId, o.user.roles) ∧
        SessionToken.mint o.user a.settings.issuer a.settings.signingKey a.world.clock
          a.settings.sessionLifetime = .ok (some minted) ∧
        o.cookies = [Cookie.setSession a.settings minted.token minted.expires a.world.clock,
          Cookie.setRefresh a.settings issued.secret expires a.world.clock] ∧
        w'.refreshTokens.records.Perm (r :: a.world.refreshTokens.records) ∧
        r.userId = o.user.userId ∧ r.previous = "" ∧ r.revokedAt = 0 ∧
        r.expires = (a.world.clock.nanos + a.settings.refreshLifetime.nanos) / 1000000000 ∧
        r.tokenHash = fingerprint issued.secret) ∧
      (∀ f, result = .error f → w'.refreshTokens = a.world.refreshTokens ∧
        ((∃ s ∈ LoginStep.early, a.failure? s ≠ none) → w'.users = a.world.users)) ∧
      (Text.trim a.idToken ≠ "" → Text.trim a.nonce ≠ "" →
        w'.nonces.entries.get? (Text.trim a.nonce) = none) := by
  have hcourse := course_tried hf
  rcases a.run_cases with ⟨htried, hrun⟩ | ⟨result, w, counters, log, htried, hrun⟩
  · rw [htried] at hcourse
    cases hcourse with
    | beyond late =>
      refine ⟨fun _ => late, fun result w' h => ?_⟩
      rw [hrun] at h
      cases h
  · rw [htried] at hcourse
    rw [hrun]
    refine ⟨fun h => absurd h (Option.some_ne_none _), fun result' w' h => ?_⟩
    obtain ⟨rfl, rfl⟩ := Prod.mk.inj (Option.some.inj h)
    cases hcourse with
    | @refused f w first tokens users nonces =>
      refine ⟨⟨fun ⟨o, ho⟩ => absurd ho nofun, fun hall => ?_⟩, fun f' => ?_,
        fun o ho => absurd ho nofun,
        fun f' _ => ⟨tokens, fun ⟨s, hs, hfails⟩ => ?_⟩, fun hid hnonce => ?_⟩
      · rw [first?_eq_none_iff.2 hall] at first
        cases first
      · rw [← first?, first]
        exact ⟨fun h => congrArg some (Except.error.inj h), fun h => congrArg _ (Option.some.inj h)⟩
      · exact users.resolve_left fun hearly => hfails (hearly s hs)
      · rw [nonces ⟨hid, hnonce⟩]
        exact get?_consumed
    | @handed identity id roles w₁ minted expires issued s entropy first bound known mint refresh
      tokens =>
      refine ⟨⟨fun _ => first?_eq_none_iff.1 first, fun _ => ⟨_, rfl⟩⟩, fun f' => ?_,
        fun o ho => ?_, fun f' hf' => absurd hf' nofun, fun _ _ => ?_⟩
      · rw [← first?, first]
        exact ⟨nofun, nofun⟩
      · obtain rfl := Except.ok.inj ho
        refine ⟨identity, minted, expires, issued, _, bound, congrArg Prod.fst known, mint, rfl,
          tokens, rfl, rfl, rfl, ?_, rfl⟩
        rw [← Instant.nanos_of_add? refresh]
        rfl
      · obtain ⟨users, entropy', hbehind⟩ := a.written_eq identity
        rw [known] at hbehind
        obtain rfl : w₁ = _ := hbehind
        exact get?_consumed

/-- A login at noon, with a nonce that is good until twenty past. -/
def atNoon : LoginAttempt where
  settings := FirstLogin.settings
  world :=
    { FirstLogin.world with
      provider := .vouching
        { issuer := "accounts.google.com", subject := "ada", email := "ada@example.com",
          emailVerified := true, nonce := "n" }
      nonces := ⟨FirstLogin.settings.nonceLifetime, ⟨[("n", FirstLogin.twentyPast)]⟩⟩ }
  idToken := "token"
  nonce := " n "
  https := true

theorem atNoon_failure? : ∀ s, atNoon.failure? s = none := by
  intro s
  cases s <;> rfl

/-- The first user signs in : one record, and the nonce is gone. -/
theorem atNoon_takes_effect : ∃ o w', atNoon.run = some (.ok o, w') ∧
    (∃ r, w'.refreshTokens.records.Perm [r] ∧ r.userId = o.user.userId ∧ r.previous = "") ∧
    w'.nonces.entries.get? (Text.trim atNoon.nonce) = none := by
  obtain ⟨hnone, hsome⟩ := login_takes_effect (a := atNoon) rfl
  rcases hrun : atNoon.run with _ | ⟨result, w'⟩
  · rcases hnone hrun with h | h <;> exact absurd h (by decide)
  · obtain ⟨hok, -, hrecord, -, hnonce⟩ := hsome result w' hrun
    obtain ⟨o, rfl⟩ := hok.2 atNoon_failure?
    obtain ⟨_, _, _, _, r, -, -, -, -, hperm, huser, hprevious, -⟩ := hrecord o rfl
    exact ⟨o, w', rfl, ⟨r, hperm, huser, hprevious⟩, hnonce (by decide) (by decide)⟩

end LoginAttempt

end SignIn
