import SignIn.Proofs.Service.Journal
import SignIn.Proofs.Users.Known

/-!
# What a login leaves behind

A login that has handed out cookies was told everything it needs, and its questions and answers are
known one by one (`ServiceRequest.login_finished`). The user it wrote down stays known
(`Remembers`), with the same id and roles, and with the same details until a login of the same
subject writes others down. One answer of the world preserves this (`Remembers.answer`), so it holds
after every run (`Pool.remembers`).

Of the login this makes `Pool.login_known` : the session it has minted, and the profile that the
store has for its user at any later moment.
-/

namespace SignIn

/-! ## Users along a run -/

namespace World

variable {w w' : World} {c : Call} {r : c.Reply}

/-- Either a user is written down, or nothing happens to the users. -/
theorem users_of_answer (hs : w.users.Sound) (h : answer c w = some (r, w')) :
    (∃ d answer, (⟨c, r⟩ : Exchange) = ⟨.upsertUser d, answer⟩ ∧
        w.users.Upserted d answer w'.users) ∨
      (∀ d known, (⟨c, r⟩ : Exchange) ≠ ⟨.upsertUser d, .ok known⟩) ∧ w'.users = w.users := by
  unfold answer at h
  split at h
  · rename_i hfault
    cases h
    refine Or.inr ⟨fun d known heq => ?_, rfl⟩
    cases heq
    obtain ⟨e, -, he⟩ := Option.map_eq_some_iff.1 hfault
    cases he
  · cases c with
    | upsertUser d =>
      cases h
      exact Or.inl ⟨d, _, rfl, UserStore.upserted hs w.entropy d⟩
    | count event =>
      cases h
      refine Or.inr ⟨nofun, ?_⟩
      split_ifs <;> rfl
    | halt => cases h
    | readClock | issueNonce | consumeNonce | verifyIdentity | userProfile | issueRefresh
    | validateRefresh | revokeRefresh | log =>
      cases h
      exact Or.inr ⟨nofun, rfl⟩

end World

/-- A call has written the subject down. -/
def Rewrites (J : List (Nat × Exchange)) (subject : String) : Prop :=
  ∃ i d known, (i, ⟨.upsertUser d, .ok known⟩) ∈ J ∧ d.subject = subject

/-- Whoever was written down is known, with the same id and roles, and with the same details as long
as nobody has written others down. -/
structure Remembers (w : World) (J : List (Nat × Exchange)) : Prop where
  sound : w.users.Sound
  known : ∀ J₁ J₂ i d id roles, J = J₁ ++ (i, ⟨.upsertUser d, .ok (id, roles)⟩) :: J₂ →
    ∃ p, w.users.known d.subject = some p ∧ p.userId = id ∧ p.roles = roles ∧
      (¬Rewrites J₂ d.subject → p = ⟨id, d.email, d.displayName, d.avatarUrl, roles⟩)

/-- The last of some calls, or one before it. -/
theorem split_snoc {α : Type} {l l₁ l₂ : List α} {x y : α} (h : l ++ [x] = l₁ ++ y :: l₂) :
    (y = x ∧ l₂ = []) ∨ ∃ k, l₂ = k ++ [x] ∧ l = l₁ ++ y :: k := by
  rcases List.eq_nil_or_concat l₂ with rfl | ⟨k, z, rfl⟩
  · obtain ⟨-, hxy⟩ := List.append_inj' h rfl
    exact Or.inl ⟨(List.singleton_inj.1 hxy).symm, rfl⟩
  · rw [List.concat_eq_append, ← List.cons_append, ← List.append_assoc] at h
    obtain ⟨hl, hxz⟩ := List.append_inj' h rfl
    exact Or.inr ⟨k, by rw [List.concat_eq_append, hxz], hl⟩

theorem Rewrites.append {J : List (Nat × Exchange)} {subject : String} (h : Rewrites J subject)
    (K : List (Nat × Exchange)) : Rewrites (J ++ K) subject := by
  obtain ⟨i, d, known, hmem, hsubject⟩ := h
  exact ⟨i, d, known, List.mem_append_left _ hmem, hsubject⟩

theorem remembers_nil {w : World} (h : w.users.Sound) : Remembers w [] where
  sound := h
  known J₁ J₂ i d id roles hJ := by simp at hJ

theorem Remembers.answer {w w' : World} {J : List (Nat × Exchange)} (h : Remembers w J) {i : Nat}
    {c : Call} {r : c.Reply} (ha : World.answer c w = some (r, w')) :
    Remembers w' (J ++ [(i, ⟨c, r⟩)]) := by
  rcases World.users_of_answer h.sound ha with ⟨d', answer, he, hu⟩ | ⟨hne, hsame⟩
  · refine ⟨hu.sound h.sound, fun J₁ J₂ j d id roles hJ => ?_⟩
    rw [he] at hJ
    generalize w'.users = users at hu ⊢
    -- The user in question is the one just written down, or was known before.
    rcases split_snoc hJ with ⟨hlast, rfl⟩ | ⟨k, rfl, hbefore⟩
    · cases hlast
      cases hu with
      | written sound same known => exact ⟨_, by rw [known, if_pos rfl], rfl, rfl, fun _ => rfl⟩
    · obtain ⟨p, hp, hid, hroles, hold⟩ := h.known J₁ k j d id roles hbefore
      cases hu with
      | refused new => exact ⟨p, hp, hid, hroles, fun hno => hold (mt (·.append _) hno)⟩
      | @written id' roles' s' sound same known =>
        -- Of the same subject the id and the roles stay, and the rest is no longer promised.
        by_cases hs : d.subject = d'.subject
        · obtain ⟨hid', hroles'⟩ := same p (hs ▸ hp)
          refine ⟨_, by rw [known, if_pos hs], hid'.symm.trans hid, hroles'.symm.trans hroles,
            fun hno => ?_⟩
          exact absurd ⟨i, d', _, List.mem_append_right _ List.mem_cons_self, hs.symm⟩ hno
        · exact ⟨p, by rw [known, if_neg hs, hp], hid, hroles,
            fun hno => hold (mt (·.append _) hno)⟩
  · refine ⟨hsame ▸ h.sound, fun J₁ J₂ j d id roles hJ => ?_⟩
    rw [hsame]
    rcases split_snoc hJ with ⟨hlast, rfl⟩ | ⟨k, rfl, hbefore⟩
    · exact absurd (congrArg Prod.snd hlast).symm (hne d (id, roles))
    · obtain ⟨p, hp, hid, hroles, hold⟩ := h.known J₁ k j d id roles hbefore
      exact ⟨p, hp, hid, hroles, fun hno => hold (mt (·.append _) hno)⟩

namespace Pool

open Operation

variable {settings : Settings} {requests : List ServiceRequest} {w : World}

theorem remembers (h : w.users.Sound) (turns : List Turn) :
    let p := (start settings w requests).run turns
    Remembers p.world p.journal :=
  run_induction (I := Remembers) (fun t _ {w J c r w'} hJ ha => by
    have hsame : Remembers (w.within t.surroundings) J := ⟨hJ.sound, hJ.known⟩
    exact hsame.answer ha) (remembers_nil h)

/-- The faults are those of the beginning. -/
theorem run_faults (p : Pool) (turns : List Turn) : (p.run turns).world.faults = p.world.faults :=
  run_induction (I := fun w _ => w.faults = p.world.faults)
    (fun _ _ {_ _ _ _ _} hJ ha => (World.answer_faults ha).trans hJ) rfl

/-- A caller reads the clock in its own turns. -/
theorem clock_of_mem {turns : List Turn} {i : Nat} {now : Instant}
    (hclock : ∀ t ∈ turns, t.caller = i → t.surroundings.clock = now) {n : Instant}
    (h : (i, ⟨.readClock, n⟩) ∈ ((start settings w requests).run turns).journal) : n = now := by
  refine run_induction (I := fun _ J => ∀ n, (i, ⟨.readClock, n⟩) ∈ J → n = now)
    (fun t ht {w J c r w'} hJ ha n hn => ?_) (fun _ hn => absurd hn List.not_mem_nil) n h
  rcases List.mem_append.1 hn with hn | hn
  · exact hJ n hn
  · cases List.mem_singleton.1 hn
    cases ha
    exact hclock t ht rfl

end Pool

/-! ## The steps of a login that hands out cookies -/

/-- What only changes the result of an operation asks nothing. -/
theorem Operation.answered_map {α β : Type} {p : Operation α} {f : α → β} {es : List Exchange}
    {b : β} (h : Answered (p.bind fun a => .done (f a)) es (.done b)) :
    ∃ a, Answered p es (.done a) ∧ f a = b := by
  rcases answered_bind h with ⟨c, next, -, hq⟩ | ⟨a, fs, gs, rfl, hp, hend⟩
  · cases hq
  obtain ⟨rfl, hq⟩ := answered_done hend
  exact ⟨a, by rwa [List.append_nil], (Script.done.inj hq).symm⟩

namespace Service

open Operation

variable {settings : Settings} {es : List Exchange}

/-- Cookies are handed out when a session was minted and a token was issued. -/
theorem handOut_finished {profile : Profile} {previous : String} {cookies : List String}
    (h : Answered (handOut settings profile previous) es (.done (.ok cookies))) :
    ∃ now issuedAt minted refreshExpires issued,
      SessionToken.mint profile settings.issuer settings.signingKey issuedAt
        settings.sessionLifetime = .ok (some minted) ∧
      now.add? settings.refreshLifetime = some refreshExpires ∧
      es = [⟨.readClock, now⟩, ⟨.readClock, issuedAt⟩,
        ⟨.issueRefresh profile.userId refreshExpires.seconds previous, .ok issued⟩] ∧
      cookies = [Cookie.setSession settings minted.token minted.expires now,
        Cookie.setRefresh settings issued.secret refreshExpires now] := by
  unfold handOut at h
  rcases answered_ask h with ⟨-, hq⟩ | ⟨now, es, rfl, h₁⟩
  · cases hq
  rcases answered_ask h₁ with ⟨-, hq⟩ | ⟨issuedAt, es, rfl, h₂⟩
  · cases hq
  split at h₂
  · cases (answered_done h₂).2
  · rcases answered_ask h₂ with ⟨-, hq⟩ | ⟨r, -⟩
    · cases hq
    · exact r.elim
  · rcases answered_ask h₂ with ⟨-, hq⟩ | ⟨r, -⟩
    · cases hq
    · exact r.elim
  · rename_i minted refreshExpires hmint hadd
    rcases answered_ask h₂ with ⟨-, hq⟩ | ⟨answer, es, rfl, h₃⟩
    · cases hq
    rcases answered_andThen h₃ with ⟨e, -, -, hq⟩ | ⟨issued, rfl, h₄⟩
    · cases hq
    obtain ⟨rfl, hq⟩ := answered_done h₄
    cases hq
    exact ⟨now, issuedAt, minted, refreshExpires, issued, hmint, hadd, rfl, rfl⟩

/-- A login hands out cookies for the user that it wrote down. -/
theorem tryLogin_finished {idToken nonce : String} {https : Bool} {outcome : LoginOutcome}
    (h : Answered (tryLogin settings idToken nonce https) es (.done (.ok outcome))) :
    ∃ claims d id roles fs, es =
        ⟨.consumeNonce (Text.trim nonce), .ok ()⟩ ::
        ⟨.verifyIdentity (Text.trim idToken) settings.clientId, .ok claims⟩ ::
        ⟨.upsertUser d, .ok (id, roles)⟩ :: fs ∧
      outcome.user = ⟨id, d.email, d.displayName, d.avatarUrl, roles⟩ ∧
      Answered (handOut settings outcome.user "") fs (.done (.ok outcome.cookies)) := by
  unfold tryLogin at h
  extract_lets idToken nonce at h
  split at h
  · cases (answered_done h).2
  split at h
  · cases (answered_done h).2
  rcases answered_ask h with ⟨-, hq⟩ | ⟨answer, es, rfl, h₁⟩
  · cases hq
  rcases answered_andThen h₁ with ⟨e, -, -, hq⟩ | ⟨u, rfl, h₂⟩
  · cases hq
  split at h₂
  · cases (answered_done h₂).2
  rcases answered_ask h₂ with ⟨-, hq⟩ | ⟨answer, es, rfl, h₃⟩
  · cases hq
  rcases answered_andThen h₃ with ⟨e, -, -, hq⟩ | ⟨claims, rfl, h₄⟩
  · cases hq
  rcases answered_andThen h₄ with ⟨e, -, -, hq⟩ | ⟨identity, -, h₅⟩
  · cases hq
  rcases answered_ask h₅ with ⟨-, hq⟩ | ⟨answer, es, rfl, h₆⟩
  · cases hq
  rcases answered_andThen h₆ with ⟨e, -, -, hq⟩ | ⟨⟨id, roles⟩, rfl, h₇⟩
  · cases hq
  obtain ⟨result, hp, hresult⟩ := answered_map h₇
  cases result with
  | error f => cases hresult
  | ok cookies =>
    cases hresult
    exact ⟨claims, _, id, roles, es, rfl, rfl, hp⟩

theorem login_finished {idToken nonce : String} {https : Bool} {outcome : LoginOutcome}
    (h : Answered (login settings idToken nonce https) es (.done (.ok outcome))) :
    ∃ fs, es = fs ++ [⟨.count .loginSuccess, ()⟩] ∧
      Answered (tryLogin settings idToken nonce https) fs (.done (.ok outcome)) := by
  rcases answered_bind h with ⟨c, next, -, hq⟩ | ⟨result, fs, gs, rfl, hp, hend⟩
  · cases hq
  cases result with
  | ok outcome' =>
    rcases answered_ask hend with ⟨-, hq⟩ | ⟨u, gs, rfl, hlast⟩
    · cases hq
    obtain ⟨rfl, hq⟩ := answered_done hlast
    cases hq
    exact ⟨fs, rfl, hp⟩
  | error f =>
    have honly : Only (fun _ => True) (fun a => ∀ outcome, a ≠ .ok outcome)
        ((loginFailed f).bind fun f => .done (.error f : Except AuthFailure LoginOutcome)) :=
      ⟨trivial, fun _ => ⟨trivial, fun _ => nofun⟩⟩
    exact absurd rfl ((honly.answered hend).2 outcome)

end Service

/-- The questions of a login that has handed out cookies, with all the answers. -/
theorem ServiceRequest.login_finished {settings : Settings} {es : List Exchange}
    {r : ServiceRequest} {outcome : LoginOutcome}
    (h : Operation.Answered (r.operation settings) es (.done (.login (.ok outcome)))) :
    ∃ nonce idToken claims d id roles now issuedAt minted refreshExpires issued,
      SessionToken.mint outcome.user settings.issuer settings.signingKey issuedAt
        settings.sessionLifetime = .ok (some minted) ∧
      now.add? settings.refreshLifetime = some refreshExpires ∧
      es = [⟨.consumeNonce nonce, .ok ()⟩, ⟨.verifyIdentity idToken settings.clientId, .ok claims⟩,
        ⟨.upsertUser d, .ok (id, roles)⟩, ⟨.readClock, now⟩, ⟨.readClock, issuedAt⟩,
        ⟨.issueRefresh id refreshExpires.seconds "", .ok issued⟩, ⟨.count .loginSuccess, ()⟩] ∧
      outcome.user = ⟨id, d.email, d.displayName, d.avatarUrl, roles⟩ ∧
      outcome.cookies = [Cookie.setSession settings minted.token minted.expires now,
        Cookie.setRefresh settings issued.secret refreshExpires now] := by
  cases r with
  | issueNonce | refresh | logout =>
    obtain ⟨a, -, ha⟩ := Operation.answered_map h
    cases ha
  | login idToken nonce https =>
    obtain ⟨result, hp, hresult⟩ := Operation.answered_map h
    cases hresult
    obtain ⟨fs, rfl, htry⟩ := Service.login_finished hp
    obtain ⟨claims, d, id, roles, gs, rfl, huser, hhand⟩ := Service.tryLogin_finished htry
    obtain ⟨now, issuedAt, minted, refreshExpires, issued, hmint, hadd, rfl, hcookies⟩ :=
      Service.handOut_finished hhand
    refine ⟨Text.trim nonce, Text.trim idToken, claims, d, id, roles, now, issuedAt, minted,
      refreshExpires, issued, hmint, hadd, ?_, huser, hcookies⟩
    rw [huser]
    rfl

/-! ## After a login -/

namespace Pool

variable {settings : Settings} {requests : List ServiceRequest} {w : World} {turns : List Turn}

/-- After caller `i` wrote a user down, some call has written the same subject down. -/
def Rewritten (p : Pool) (i : Nat) : Prop :=
  ∃ J₁ J₂ d known, p.journal = J₁ ++ (i, ⟨.upsertUser d, .ok known⟩) :: J₂ ∧ Rewrites J₂ d.subject

/-- A login whose turns all came at one instant minted its session then, and its user is known from
then on, by the details of this login as long as the subject has not been written down again. -/
theorem login_known (hs : w.users.Sound) {i : Nat} {now : Instant}
    (hclock : ∀ t ∈ turns, t.caller = i → t.surroundings.clock = now) {outcome : LoginOutcome}
    (ho : ((start settings w requests).run turns).result? i = some (.login (.ok outcome))) :
    let p := (start settings w requests).run turns
    ∃ minted refresh profile,
      SessionToken.mint outcome.user settings.issuer settings.signingKey now
        settings.sessionLifetime = .ok (some minted) ∧
      outcome.cookies = [Cookie.setSession settings minted.token minted.expires now, refresh] ∧
      p.world.users.profile outcome.user.userId = .ok profile ∧
      profile.userId = outcome.user.userId ∧ profile.roles = outcome.user.roles ∧
      (¬p.Rewritten i → profile = outcome.user) := by
  intro p
  have hled : Led settings requests p := led turns led_start
  have hdone := result?_eq_some_iff.1 ho
  obtain ⟨r, hr⟩ := hled.request hdone
  obtain ⟨q, hq, hanswered⟩ := hled.caller hr
  obtain rfl : .done (.login (.ok outcome)) = q := Option.some.inj (hdone.symm.trans hq)
  obtain ⟨nonce, idToken, claims, d, id, roles, first, issuedAt, minted, refreshExpires, issued,
    hmint, -, hes, huser, hcookies⟩ := ServiceRequest.login_finished hanswered
  have hmem : ∀ {e}, e ∈ callsOf i p.journal → (i, e) ∈ p.journal := mem_callsOf.1
  rw [hes] at hmem
  -- Both times the clock was read in a turn of this caller.
  obtain rfl : first = now := clock_of_mem hclock (hmem (by simp))
  obtain rfl : issuedAt = first := clock_of_mem hclock (hmem (by simp))
  obtain ⟨J₁, J₂, hJ⟩ := List.append_of_mem (hmem (e := ⟨.upsertUser d, .ok (id, roles)⟩) (by simp))
  have hremembers : Remembers p.world p.journal := remembers hs turns
  obtain ⟨profile, hknown, hid, hroles, hsame⟩ := hremembers.known J₁ J₂ i d id roles hJ
  have hprofile := UserStore.profile_of_known hremembers.sound hknown
  rw [huser]
  refine ⟨minted, _, profile, huser ▸ hmint, hcookies, hid ▸ hprofile, hid, hroles, fun hno => ?_⟩
  exact hsame fun hagain => hno ⟨J₁, J₂, d, (id, roles), hJ, hagain⟩

end Pool

end SignIn
