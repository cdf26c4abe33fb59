import SignIn.Proofs.Service.LoggedIn

/-!
# Cookies that are handed out

Cookies with a session come from a login or a refresh that has gone to its end, and there is one
place in both where they are made. So they are always two, a session cookie and a refresh cookie in
this order, the session was minted at an instant that the operation read from the clock, and the
token was issued last (`HandedOut`). `ServiceRequest.handedOut` says so of every request.
-/

namespace SignIn

/-- A session was minted for somebody at an instant that was read, a token was issued after it, and
the cookies are theirs. -/
def HandedOut (settings : Settings) (es : List Exchange) (cookies : List String) : Prop :=
  ∃ profile now issuedAt minted refreshExpires issued previous,
    SessionToken.mint profile settings.issuer settings.signingKey issuedAt
      settings.sessionLifetime = .ok (some minted) ∧
    now.add? settings.refreshLifetime = some refreshExpires ∧
    [⟨.readClock, now⟩, ⟨.readClock, issuedAt⟩,
      ⟨.issueRefresh profile.userId refreshExpires.seconds previous, .ok issued⟩].Sublist es ∧
    cookies = [Cookie.setSession settings minted.token minted.expires now,
      Cookie.setRefresh settings issued.secret refreshExpires now]

/-- Other answers in between make no difference. -/
theorem HandedOut.of_sublist {settings : Settings} {es fs : List Exchange} {cookies : List String}
    (h : HandedOut settings es cookies) (hsub : es.Sublist fs) : HandedOut settings fs cookies := by
  obtain ⟨profile, now, issuedAt, minted, refreshExpires, issued, previous, hmint, hadd, hes,
    hcookies⟩ := h
  exact ⟨profile, now, issuedAt, minted, refreshExpires, issued, previous, hmint, hadd,
    hes.trans hsub, hcookies⟩

/-- The cookies of a session that a request ends with. -/
def Outcome.handedOut? : Outcome → Option (List String)
  | .login (.ok outcome) => some outcome.cookies
  | .refresh (.ok cookies) => some cookies
  | _ => none

namespace Service

open Operation

variable {settings : Settings} {es : List Exchange} {cookies : List String}

/-- An operation that hands out a session ends with its cookies. -/
theorem handOut_handedOut {profile : Profile} {previous : String}
    (h : Answered (handOut settings profile previous) es (.done (.ok cookies))) :
    HandedOut settings es cookies := by
  obtain ⟨now, issuedAt, minted, refreshExpires, issued, hmint, hadd, rfl, hcookies⟩ :=
    handOut_finished h
  exact ⟨profile, now, issuedAt, minted, refreshExpires, issued, previous, hmint, hadd, .refl _,
    hcookies⟩

theorem login_handedOut {idToken nonce : String} {https : Bool} {outcome : LoginOutcome}
    (h : Answered (login settings idToken nonce https) es (.done (.ok outcome))) :
    HandedOut settings es outcome.cookies := by
  obtain ⟨fs, rfl, htry⟩ := login_finished h
  obtain ⟨claims, d, id, roles, gs, rfl, -, hhand⟩ := tryLogin_finished htry
  refine (handOut_handedOut hhand).of_sublist ?_
  simp only [List.cons_append]
  exact ((List.sublist_append_left gs _).cons _).cons _ |>.cons _

/-- A refresh hands out cookies in the place of the record that its secret was good for, and has
this record revoked last. -/
theorem tryRefresh_finished {cookie : Option String}
    (h : Answered (tryRefresh settings cookie) es (.done (.ok cookies))) :
    ∃ secret v profile fs answer, presented? cookie = some secret ∧ es =
        ⟨.validateRefresh secret, .ok v⟩ :: ⟨.userProfile v.userId, .ok profile⟩ ::
          (fs ++ [⟨.revokeRefresh v.tokenId, answer⟩]) ∧
      Answered (handOut settings profile v.tokenId) fs (.done (.ok cookies)) := by
  unfold tryRefresh at h
  split at h
  · cases (answered_done h).2
  rename_i secret hsecret
  rcases answered_ask h with ⟨-, hq⟩ | ⟨answer, es, rfl, h₁⟩
  · cases hq
  rcases answered_andThen h₁ with ⟨e, -, -, hq⟩ | ⟨v, rfl, h₂⟩
  · cases hq
  rcases answered_ask h₂ with ⟨-, hq⟩ | ⟨answer, es, rfl, h₃⟩
  · cases hq
  rcases answered_andThen h₃ with ⟨e, -, -, hq⟩ | ⟨profile, rfl, h₄⟩
  · cases hq
  rcases answered_bind h₄ with ⟨c, next, -, hq⟩ | ⟨result, fs, gs, rfl, hp, hend⟩
  · cases hq
  cases result with
  | error f => cases (answered_done hend).2
  | ok cookies' =>
    rcases answered_ask hend with ⟨-, hq⟩ | ⟨answer, gs, rfl, hlast⟩
    · cases hq
    -- The new cookies are handed out even if somebody else has revoked the record.
    have hdone : gs = [] ∧
        (.done (.ok cookies) : Operation (Except AuthFailure (List String))) =
          .done (.ok cookies') := by
      cases answer with
      | ok u => exact answered_done hlast
      | error e =>
        dsimp only at hlast
        split_ifs at hlast
        · exact answered_done hlast
        · cases (answered_done hlast).2
    obtain ⟨rfl, hq⟩ := hdone
    cases hq
    exact ⟨secret, v, profile, fs, answer, hsecret, rfl, hp⟩

/-- A refresh that succeeds has counted as such last of all. -/
theorem refresh_finished {cookie : Option String}
    (h : Answered (refresh settings cookie) es (.done (.ok cookies))) :
    ∃ fs, es = fs ++ [⟨.count .refreshSuccess, ()⟩] ∧
      Answered (tryRefresh settings cookie) fs (.done (.ok cookies)) := by
  rcases answered_bind h with ⟨c, next, -, hq⟩ | ⟨result, fs, gs, rfl, hp, hend⟩
  · cases hq
  cases result with
  | ok cookies' =>
    rcases answered_ask hend with ⟨-, hq⟩ | ⟨u, gs, rfl, hlast⟩
    · cases hq
    obtain ⟨rfl, hq⟩ := answered_done hlast
    cases hq
    exact ⟨fs, rfl, hp⟩
  | error f =>
    rcases answered_ask hend with ⟨-, hq⟩ | ⟨u, gs, rfl, hlog⟩
    · cases hq
    rcases answered_ask hlog with ⟨-, hq⟩ | ⟨u, gs, rfl, hlast⟩
    · cases hq
    cases (answered_done hlast).2

theorem refresh_handedOut {cookie : Option String}
    (h : Answered (refresh settings cookie) es (.done (.ok cookies))) :
    HandedOut settings es cookies := by
  obtain ⟨fs, rfl, htry⟩ := refresh_finished h
  obtain ⟨secret, v, profile, gs, answer, -, rfl, hhand⟩ := tryRefresh_finished htry
  refine (handOut_handedOut hhand).of_sublist ?_
  refine List.Sublist.trans ?_ (List.sublist_append_left _ _)
  exact ((List.sublist_append_left gs _).cons _).cons _

end Service

/-- Cookies of a session are those of a session that was minted and a token that was issued. -/
theorem ServiceRequest.handedOut {settings : Settings} {request : ServiceRequest}
    {es : List Exchange} {o : Outcome} {cookies : List String}
    (h : Operation.Answered (request.operation settings) es (.done o))
    (ho : o.handedOut? = some cookies) : HandedOut settings es cookies := by
  cases request with
  | issueNonce | logout =>
    obtain ⟨a, -, rfl⟩ := Operation.answered_map h
    cases ho
  | login idToken nonce https =>
    obtain ⟨result, hp, rfl⟩ := Operation.answered_map h
    cases result with
    | error f => cases ho
    | ok outcome =>
      cases ho
      exact Service.login_handedOut hp
  | refresh cookie =>
    obtain ⟨result, hp, rfl⟩ := Operation.answered_map h
    cases result with
    | error f => cases ho
    | ok cookies' =>
      cases ho
      exact Service.refresh_handedOut hp

end SignIn
