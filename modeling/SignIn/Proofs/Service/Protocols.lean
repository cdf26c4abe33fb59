import SignIn.Proofs.Service.Repertoire

/-!
# Calls of a request to the refresh store

A request makes at most three calls of the refresh store, and which call comes next depends on the
answers so far. `Issuing` says so for the last steps of a login and of a refresh, `Refreshing` for a
refresh and `LoggingOut` for a logout : each relates the calls made so far to what is left of the
steps. They are read off the texts of the operations once (`issuing_of_answered`,
`refreshing_of_answered`, `loggingOut_of_answered`), and nothing later looks at a text again.
-/

namespace SignIn

/-- The calls of the last steps of a login and of a refresh : a token is issued at most once, and
cookies come with a token alone. -/
inductive Issuing (userId previous : String) :
    List RefreshEvent → Operation (Except AuthFailure (List String)) → Prop
  | without {q} (h : ∀ cookies, q ≠ .done (.ok cookies)) : Issuing userId previous [] q
  | refused {expires e} :
    Issuing userId previous [.issue userId expires previous (.error e)]
      (.done (.error (.issueRefresh e)))
  | issued {expires issued cookies} :
    Issuing userId previous [.issue userId expires previous (.ok issued)] (.done (.ok cookies))

/-- The calls of a refresh that presents a secret. -/
inductive Refreshing (secret : String) :
    List RefreshEvent → Operation (Except AuthFailure (List String)) → Prop
  | waiting {next} : Refreshing secret [] (.ask (.validateRefresh secret) next)
  | rejected {e} :
    Refreshing secret [.validate secret (.error e)] (.done (.error (.invalidRefresh e)))
  /-- The secret is good, but no token has been issued so far. -/
  | accepted {v q} (h : ∀ cookies, q ≠ .done (.ok cookies)) :
    Refreshing secret [.validate secret (.ok v)] q
  | refused {v userId expires e} :
    Refreshing secret [.validate secret (.ok v), .issue userId expires v.tokenId (.error e)]
      (.done (.error (.issueRefresh e)))
  | issued {v userId expires issued next} :
    Refreshing secret [.validate secret (.ok v), .issue userId expires v.tokenId (.ok issued)]
      (.ask (.revokeRefresh v.tokenId) next)
  /-- The token has had its turn of being revoked. Cookies may come even if it was revoked
  already. -/
  | revoked {v userId expires issued answer q}
    (h : ∀ cookies, q = .done (.ok cookies) →
      answer = .ok () ∨ ∃ e, answer = .error e ∧ e.cause = .alreadyRevoked) :
    Refreshing secret [.validate secret (.ok v), .issue userId expires v.tokenId (.ok issued),
      .revoke v.tokenId answer] q

/-- The calls of a logout that presents a secret. -/
inductive LoggingOut (secret : String) : List RefreshEvent → Operation Unit → Prop
  | waiting {next} : LoggingOut secret [] (.ask (.validateRefresh secret) next)
  | rejected {e q} : LoggingOut secret [.validate secret (.error e)] q
  | accepted {v next} :
    LoggingOut secret [.validate secret (.ok v)] (.ask (.revokeRefresh v.tokenId) next)
  | revoked {v answer q} :
    LoggingOut secret [.validate secret (.ok v), .revoke v.tokenId answer] q

namespace Service

open Operation

variable {settings : Settings} {es : List Exchange}

/-! ## The steps of each request -/

theorem issuing_of_answered {profile : Profile} {previous : String}
    {q : Operation (Except AuthFailure (List String))}
    (h : Answered (handOut settings profile previous) es q) :
    Issuing profile.userId previous (refreshEvents es) q := by
  unfold handOut at h
  rcases answered_ask h with ⟨rfl, rfl⟩ | ⟨now, es, rfl, h₁⟩
  · exact .without fun _ => nofun
  rcases answered_ask h₁ with ⟨rfl, rfl⟩ | ⟨issuedAt, es, rfl, h₂⟩
  · exact .without fun _ => nofun
  rw [show refreshEvents (⟨.readClock, now⟩ :: ⟨.readClock, issuedAt⟩ :: es) = refreshEvents es
    from rfl]
  split at h₂
  · obtain ⟨rfl, rfl⟩ := answered_done h₂
    exact .without fun _ => nofun
  -- A question that ends the operation has no answer.
  · rcases answered_ask h₂ with ⟨rfl, rfl⟩ | ⟨r, -⟩
    · exact .without fun _ => nofun
    · exact r.elim
  · rcases answered_ask h₂ with ⟨rfl, rfl⟩ | ⟨r, -⟩
    · exact .without fun _ => nofun
    · exact r.elim
  · rcases answered_ask h₂ with ⟨rfl, rfl⟩ | ⟨answer, es, rfl, h₃⟩
    · exact .without fun _ => nofun
    rcases answer with e | issued
    · obtain ⟨rfl, rfl⟩ := answered_done h₃
      exact .refused
    · obtain ⟨rfl, rfl⟩ := answered_done h₃
      exact .issued

/-- The last steps of a login and of a refresh make one call at most. -/
theorem issuing_cases {userId previous : String} {events : List RefreshEvent}
    {q : Operation (Except AuthFailure (List String))} (h : Issuing userId previous events q) :
    events = [] ∨ ∃ userId expires answer, events = [.issue userId expires previous answer] := by
  cases h with
  | without => exact Or.inl rfl
  | refused | issued => exact Or.inr ⟨_, _, _, rfl⟩

theorem refreshing_of_answered {cookie : Option String} {secret : String}
    {q : Operation (Except AuthFailure (List String))} (hs : presented? cookie = some secret)
    (h : Answered (tryRefresh settings cookie) es q) : Refreshing secret (refreshEvents es) q := by
  unfold tryRefresh at h
  rw [hs] at h
  rcases answered_ask h with ⟨rfl, rfl⟩ | ⟨answer, es, rfl, h₁⟩
  · exact .waiting
  rcases answered_andThen h₁ with ⟨e, rfl, rfl, rfl⟩ | ⟨v, rfl, h₂⟩
  · exact .rejected
  rcases answered_ask h₂ with ⟨rfl, rfl⟩ | ⟨answer, es, rfl, h₃⟩
  · exact .accepted fun _ => nofun
  rcases answered_andThen h₃ with ⟨e, rfl, rfl, rfl⟩ | ⟨profile, rfl, h₄⟩
  · exact .accepted fun _ => nofun
  rw [show ∀ fs, refreshEvents (⟨.validateRefresh secret, Except.ok v⟩ ::
    ⟨.userProfile v.userId, Except.ok profile⟩ :: fs) =
      .validate secret (.ok v) :: refreshEvents fs from fun _ => rfl]
  rcases answered_bind h₄ with ⟨c, next, hp, rfl⟩ | ⟨result, fs, gs, rfl, hp, hend⟩
  · have hissuing := issuing_of_answered hp
    generalize refreshEvents es = events at hissuing
    cases hissuing
    exact .accepted fun _ => nofun
  · rw [refreshEvents_append]
    have hissuing := issuing_of_answered hp
    generalize refreshEvents fs = events at hissuing
    cases hissuing with
    | without hnone =>
      cases result with
      | ok cookies => exact absurd rfl (hnone cookies)
      | error f =>
        obtain ⟨rfl, rfl⟩ := answered_done hend
        exact .accepted fun _ => nofun
    | refused =>
      obtain ⟨rfl, rfl⟩ := answered_done hend
      exact .refused
    | issued =>
      rcases answered_ask hend with ⟨rfl, rfl⟩ | ⟨answer, gs, rfl, hlast⟩
      · exact .issued
      cases answer with
      | ok u =>
        obtain ⟨rfl, rfl⟩ := answered_done hlast
        exact .revoked fun _ _ => Or.inl rfl
      | error e =>
        dsimp only at hlast
        split_ifs at hlast with he
        · obtain ⟨rfl, rfl⟩ := answered_done hlast
          exact .revoked fun _ _ => Or.inr ⟨e, rfl, he⟩
        · obtain ⟨rfl, rfl⟩ := answered_done hlast
          exact .revoked fun _ => nofun

theorem loggingOut_of_answered {secret : String} {q : Operation Unit}
    (h : Answered (revokeQuietly secret) es q) : LoggingOut secret (refreshEvents es) q := by
  have hlog : ∀ e : LogEntry, Quiet () (.ask (.log e) .done) := fun e => fun _ => ⟨rfl, rfl⟩
  unfold revokeQuietly at h
  rcases answered_ask h with ⟨rfl, rfl⟩ | ⟨answer, es, rfl, h₁⟩
  · exact .waiting
  cases answer with
  | error e =>
    rw [refreshEvents_cons, ((hlog _).answered h₁).1]
    exact .rejected
  | ok v =>
    rcases answered_ask h₁ with ⟨rfl, rfl⟩ | ⟨answer, es, rfl, h₂⟩
    · exact .accepted
    have hquiet : refreshEvents es = [] := by
      cases answer with
      | ok u => rw [(answered_done h₂).1, refreshEvents_nil]
      | error e =>
        dsimp only at h₂
        split_ifs at h₂
        · rw [(answered_done h₂).1, refreshEvents_nil]
        · exact ((hlog _).answered h₂).1
    rw [refreshEvents_cons, refreshEvents_cons, hquiet]
    exact .revoked

/-- A login issues at most one token, in the place of none. -/
theorem loggingIn_of_answered {idToken nonce : String} {https : Bool}
    {q : Operation (Except AuthFailure LoginOutcome)}
    (h : Answered (tryLogin settings idToken nonce https) es q) :
    refreshEvents es = [] ∨ ∃ userId expires answer,
      refreshEvents es = [.issue userId expires "" answer] := by
  unfold tryLogin at h
  extract_lets idToken nonce at h
  split at h
  · exact Or.inl (by rw [(answered_done h).1, refreshEvents_nil])
  split at h
  · exact Or.inl (by rw [(answered_done h).1, refreshEvents_nil])
  rcases answered_ask h with ⟨rfl, -⟩ | ⟨answer, es, rfl, h₁⟩
  · exact Or.inl rfl
  rw [show refreshEvents (⟨.consumeNonce nonce, answer⟩ :: es) = refreshEvents es from rfl]
  rcases answered_andThen h₁ with ⟨e, -, rfl, -⟩ | ⟨u, -, h₂⟩
  · exact Or.inl rfl
  split at h₂
  · exact Or.inl (by rw [(answered_done h₂).1, refreshEvents_nil])
  rcases answered_ask h₂ with ⟨rfl, -⟩ | ⟨answer, es, rfl, h₃⟩
  · exact Or.inl rfl
  rw [show refreshEvents (⟨.verifyIdentity idToken settings.clientId, answer⟩ :: es) =
    refreshEvents es from rfl]
  rcases answered_andThen h₃ with ⟨e, -, rfl, -⟩ | ⟨claims, -, h₄⟩
  · exact Or.inl rfl
  rcases answered_andThen h₄ with ⟨e, -, rfl, -⟩ | ⟨identity, -, h₅⟩
  · exact Or.inl rfl
  rcases answered_ask h₅ with ⟨rfl, -⟩ | ⟨answer, es, rfl, h₆⟩
  · exact Or.inl rfl
  rw [refreshEvents_cons]
  rcases answered_andThen h₆ with ⟨e, -, rfl, -⟩ | ⟨user, -, h₇⟩
  · exact Or.inl rfl
  rcases answered_bind h₇ with ⟨c, next, hp, -⟩ | ⟨result, fs, gs, rfl, hp, hend⟩
  · exact issuing_cases (issuing_of_answered hp)
  · obtain ⟨rfl, -⟩ := answered_done hend
    rw [List.append_nil]
    exact issuing_cases (issuing_of_answered hp)

end Service

/-! ## Requests -/

namespace ServiceRequest

open Operation

variable {settings : Settings} {es : List Exchange} {q : Operation Outcome}

/-! Each request is its steps and a quiet end. -/

theorem operation_login (settings : Settings) (idToken nonce : String) (https : Bool) :
    ∃ k, operation settings (.login idToken nonce https) =
        (Service.tryLogin settings idToken nonce https).bind k ∧
      ∀ a, Quiet (.login a) (k a) :=
  ⟨_, bind_assoc _, fun
    | .ok _ => fun _ => ⟨rfl, rfl⟩
    | .error _ => fun _ => ⟨rfl, fun _ => ⟨rfl, rfl⟩⟩⟩

theorem operation_refresh (settings : Settings) (cookie : Option String) :
    ∃ k, operation settings (.refresh cookie) = (Service.tryRefresh settings cookie).bind k ∧
      ∀ a, Quiet (.refresh a) (k a) :=
  ⟨_, bind_assoc _, fun
    | .ok _ => fun _ => ⟨rfl, rfl⟩
    | .error _ => fun _ => ⟨rfl, fun _ => ⟨rfl, rfl⟩⟩⟩

theorem operation_logout (settings : Settings) (cookie : Option String) :
    ∃ cookies, ∃ k, operation settings (.logout cookie) =
        (match Service.presented? cookie with
          | some secret => Service.revokeQuietly secret
          | none => .done ()).bind k ∧
      ∀ a, Quiet (.logout cookies) (k a) :=
  ⟨_, _, bind_assoc _, fun _ _ => ⟨rfl, rfl⟩⟩

/-- Issuing a nonce makes no call of the refresh store. -/
theorem refreshEvents_of_issueNonce (h : Answered (operation settings .issueNonce) es q) :
    refreshEvents es = [] := by
  have hspares : Spares .refreshTokens (operation settings .issueNonce) :=
    (Service.asksOnly_issueNonce.spares (by decide)).map Outcome.issueNonce
  exact hspares.refreshEvents_eq_nil h

/-- A login makes one call at most, which issues a token in the place of none. -/
theorem refreshEvents_of_login {idToken nonce : String} {https : Bool}
    (h : Answered (operation settings (.login idToken nonce https)) es q) :
    refreshEvents es = [] ∨ ∃ userId expires answer,
      refreshEvents es = [.issue userId expires "" answer] := by
  obtain ⟨k, hk, hquiet⟩ := operation_login settings idToken nonce https
  rw [hk] at h
  obtain ⟨fs, p, hp, hfs, -⟩ := h.ending hquiet
  rw [← hfs]
  exact Service.loggingIn_of_answered hp

/-- Without a secret, a refresh and a logout make no call. -/
theorem refreshEvents_of_blank {cookie : Option String} (hs : Service.presented? cookie = none)
    (h : Answered (operation settings (.refresh cookie)) es q ∨
      Answered (operation settings (.logout cookie)) es q) : refreshEvents es = [] := by
  rcases h with h | h
  · obtain ⟨k, hk, hquiet⟩ := operation_refresh settings cookie
    rw [hk, Service.tryRefresh, hs] at h
    exact ((hquiet (.error .missingRefreshCookie)).answered h).1
  · obtain ⟨cookies, k, hk, hquiet⟩ := operation_logout settings cookie
    rw [hk, hs] at h
    exact ((hquiet ()).answered h).1

theorem refreshing_of_answered {cookie : Option String} {secret : String}
    (hs : secret? (.refresh cookie) = some secret)
    (h : Answered (operation settings (.refresh cookie)) es q) :
    ∃ p, Refreshing secret (refreshEvents es) p ∧ Ending .refresh p q := by
  obtain ⟨k, hk, hquiet⟩ := operation_refresh settings cookie
  rw [hk] at h
  obtain ⟨fs, p, hp, hfs, hend⟩ := h.ending hquiet
  exact ⟨p, hfs ▸ Service.refreshing_of_answered hs hp, hend⟩

theorem loggingOut_of_answered {cookie : Option String} {secret : String}
    (hs : secret? (.logout cookie) = some secret)
    (h : Answered (operation settings (.logout cookie)) es q) :
    ∃ cookies p, LoggingOut secret (refreshEvents es) p ∧
      Ending (fun _ => .logout cookies) p q := by
  obtain ⟨cookies, k, hk, hquiet⟩ := operation_logout settings cookie
  rw [hk, show Service.presented? cookie = some secret from hs] at h
  obtain ⟨fs, p, hp, hfs, hend⟩ := h.ending hquiet
  exact ⟨cookies, p, hfs ▸ Service.loggingOut_of_answered hp, hend⟩

end ServiceRequest

end SignIn
