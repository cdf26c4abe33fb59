import SignIn.Proofs.Service.Interleaving

/-!
# One secret, several callers

Any number of refreshes and logouts may present one secret at a time. Each of them validates the
secret first and revokes its record last, and in between the others have their turns.

A call that revokes the record takes the token, and the order of the trace has it that only one
does. A refresh that validates the secret after this is refused (`Lawful.refused`). But one that
validated it before goes on, issues a token of its own and hands out cookies, even though its revoke
comes too late (`Lawful.handed_out`) : the store's last word, that the record is revoked already, is
not counted as a failure. `Race.pool` is such a run.
-/

namespace SignIn

/-- The secret that a caller presents. -/
def secretOf? (requests : List ServiceRequest) (i : Nat) : Option String :=
  requests[i]?.bind ServiceRequest.secret?

/-- The event is a call that revoked a record. -/
def RefreshEvent.isTaking : RefreshEvent → Bool
  | .revoke _ (.ok ()) => true
  | _ => false

theorem RefreshEvent.isTaking_iff {e : RefreshEvent} :
    e.isTaking = true ↔ ∃ tokenId, e = .revoke tokenId (.ok ()) := by
  constructor
  · intro h
    cases e with
    | revoke tokenId answer =>
      cases answer with
      | ok u => exact ⟨tokenId, rfl⟩
      | error e => cases h
    | issue | validate => cases h
  · rintro ⟨tokenId, rfl⟩
    rfl

theorem secretOf?_eq_some_iff {requests : List ServiceRequest} {i : Nat} {secret : String} :
    secretOf? requests i = some secret ↔
      ∃ r, requests[i]? = some r ∧ r.secret? = some secret :=
  Option.bind_eq_some_iff

/-! ## What a caller of the secret does -/

section Protocol

variable {secret tokenId : String} {events : List RefreshEvent} {answer : Except RefreshError Unit}

/-- A refresh revokes what its secret was good for. -/
theorem Refreshing.revoke_sublist {q : Operation (Except AuthFailure (List String))}
    (h : Refreshing secret events q) (hr : .revoke tokenId answer ∈ events) :
    ∃ v, v.tokenId = tokenId ∧
      [.validate secret (.ok v), .revoke tokenId answer].Sublist events := by
  cases h with
  | @revoked v userId expires issued answer q =>
    obtain ⟨rfl, rfl⟩ : tokenId = v.tokenId ∧ _ = answer := by simpa using hr
    exact ⟨v, rfl, by simp⟩
  | waiting | rejected | accepted | refused | issued => simp at hr

/-- A logout revokes what its secret was good for. -/
theorem LoggingOut.revoke_sublist {q : Operation Unit} (h : LoggingOut secret events q)
    (hr : .revoke tokenId answer ∈ events) :
    ∃ v, v.tokenId = tokenId ∧
      [.validate secret (.ok v), .revoke tokenId answer].Sublist events := by
  cases h with
  | @revoked v answer q =>
    obtain ⟨rfl, rfl⟩ : tokenId = v.tokenId ∧ _ = answer := by simpa using hr
    exact ⟨v, rfl, by simp⟩
  | waiting | rejected | accepted => simp at hr

/-- A refresh that hands out cookies has validated its secret and then revoked its record, or has
found it revoked. -/
theorem Refreshing.handed_out {cookies : List String}
    (h : Refreshing secret events (.done (.ok cookies))) :
    ∃ v answer, [.validate secret (.ok v), .revoke v.tokenId answer].Sublist events ∧
      (answer = .ok () ∨ ∃ e, answer = .error e ∧ e.cause = .alreadyRevoked) := by
  cases h with
  | accepted hnone => exact absurd rfl (hnone cookies)
  | @revoked v userId expires issued answer q hlate =>
    exact ⟨v, answer, by simp, hlate cookies rfl⟩

/-- The event is a call to revoke a record. -/
def RefreshEvent.isRevoke : RefreshEvent → Bool
  | .revoke _ _ => true
  | _ => false

/-- A refresh tries to revoke one record at most. -/
theorem Refreshing.countP_isRevoke_le {q : Operation (Except AuthFailure (List String))}
    (h : Refreshing secret events q) : events.countP RefreshEvent.isRevoke ≤ 1 := by
  cases h <;> simp [RefreshEvent.isRevoke]

/-- A refresh whose secret is refused fails for this reason. -/
theorem Refreshing.eq_of_rejected {e : RefreshError} {a : Except AuthFailure (List String)}
    {secret' : String} (h : Refreshing secret events (.done a))
    (he : .validate secret' (.error e) ∈ events) : a = .error (.invalidRefresh e) := by
  cases h with
  | rejected =>
    obtain ⟨-, rfl⟩ : secret' = secret ∧ e = _ := by simpa using he
    rfl
  | accepted | refused | revoked => simp at he

end Protocol

namespace Pool

open Operation

variable {settings : Settings} {requests : List ServiceRequest} {s : RefreshStore} {p : Pool}
  {i j : Nat} {secret tokenId : String}

theorem Lawful.sublist_of_callsOf {es : List Exchange} {x y : RefreshEvent}
    (hown : callsOf i p.refreshCalls = refreshEvents es) (h : [x, y].Sublist (refreshEvents es)) :
    [(i, x), (i, y)].Sublist p.refreshCalls := by
  rw [← hown] at h
  exact (h.map fun e => (i, e)).trans (map_callsOf_sublist _)

/-- A caller revokes what its secret was good for. -/
theorem Lawful.revoke_sublist (h : Lawful settings requests s p)
    (hi : secretOf? requests i = some secret) {answer : Except RefreshError Unit}
    (hr : (i, .revoke tokenId answer) ∈ p.refreshCalls) :
    ∃ v, v.tokenId = tokenId ∧
      [(i, .validate secret (.ok v)), (i, .revoke tokenId answer)].Sublist p.refreshCalls := by
  obtain ⟨r, hreq, hs⟩ := secretOf?_eq_some_iff.1 hi
  obtain ⟨es, q, -, hes, hown⟩ := h.answered hreq
  rw [← mem_callsOf, hown] at hr
  cases r with
  | issueNonce | login => cases hs
  | refresh cookie =>
    obtain ⟨o, hp, -⟩ := ServiceRequest.refreshing_of_answered hs hes
    obtain ⟨v, hv, hsub⟩ := hp.revoke_sublist hr
    exact ⟨v, hv, sublist_of_callsOf hown hsub⟩
  | logout cookie =>
    obtain ⟨cookies, o, hp, -⟩ := ServiceRequest.loggingOut_of_answered hs hes
    obtain ⟨v, hv, hsub⟩ := hp.revoke_sublist hr
    exact ⟨v, hv, sublist_of_callsOf hown hsub⟩

/-- A caller whose request ended as a refresh is where the protocol of a refresh ends. -/
theorem Lawful.refreshing (h : Lawful settings requests s p)
    (hi : secretOf? requests i = some secret) {a : Except AuthFailure (List String)}
    (ho : p.result? i = some (.refresh a)) :
    ∃ es, Refreshing secret (refreshEvents es) (.done a) ∧
      callsOf i p.refreshCalls = refreshEvents es := by
  obtain ⟨r, hreq, hs⟩ := secretOf?_eq_some_iff.1 hi
  obtain ⟨es, q, hq, hes, hown⟩ := h.answered hreq
  obtain rfl := Option.some.inj (hq.symm.trans (result?_eq_some_iff.1 ho))
  cases r with
  | issueNonce | login => cases hs
  | refresh cookie =>
    obtain ⟨o, hp, hend⟩ := ServiceRequest.refreshing_of_answered hs hes
    obtain ⟨a', rfl, heq⟩ := hend.result rfl
    cases heq
    exact ⟨es, hp, hown⟩
  | logout cookie =>
    obtain ⟨cookies, o, -, hend⟩ := ServiceRequest.loggingOut_of_answered hs hes
    obtain ⟨u, -, heq⟩ := hend.result rfl
    cases heq

/-! ## Who takes the token -/

theorem length_filter_le_one {α : Type} {f : α → Bool} {l : List α}
    (h : ∀ x y, f x = true → f y = true → ¬[x, y].Sublist l) : (l.filter f).length ≤ 1 := by
  have hmem : ∀ x ∈ l.filter f, f x = true := fun x hx => (List.mem_filter.1 hx).2
  have hsub : (l.filter f).Sublist l := List.filter_sublist
  generalize l.filter f = k at hmem hsub ⊢
  rcases k with _ | ⟨x, _ | ⟨y, k⟩⟩
  · exact Nat.zero_le 1
  · exact Nat.le_refl 1
  · have hxy : [x, y].Sublist (x :: y :: k) := ((List.nil_sublist k).cons_cons y).cons_cons x
    exact absurd (hxy.trans hsub) (h x y (hmem x (by simp)) (hmem y (by simp)))

/-- The store at the first of two calls. -/
theorem Lawful.split (h : Lawful settings requests s p) (hs : s.Sound) {x y : RefreshEvent}
    (hsub : [(i, x), (j, y)].Sublist p.refreshCalls) :
    ∃ l₁ l₂ l₃, ∃ s₁ s₂ : RefreshStore, ∃ now,
      p.refreshCalls = l₁ ++ (i, x) :: (l₂ ++ (j, y) :: l₃) ∧
      (s₁.Sound ∧ s₁.Step now x s₂) ∧ (s₂.Sound ∧ s₂.backend = s.backend) ∧
      s₂.Trace (l₂.map (·.2) ++ y :: l₃.map (·.2)) p.world.refreshTokens := by
  obtain ⟨l₁, l₂, l₃, hl⟩ := exists_split_of_sublist hsub
  have htrace := h.trace
  rw [hl, List.map_append, List.map_cons, List.map_append, List.map_cons] at htrace
  obtain ⟨s₁, h₁, now, s₂, hstep, h₂⟩ := RefreshStore.trace_append.1 htrace
  have hs₁ := h₁.sound hs
  have heffect := RefreshStore.effect_of_step hs₁ hstep
  refine ⟨l₁, l₂, l₃, s₁, s₂, now, hl, ⟨hs₁, hstep⟩, ⟨heffect.sound hs₁, ?_⟩, h₂⟩
  rw [heffect.backend_eq, h₁.backend_eq hs]

/-- A secret whose caller revoked a record names this record. -/
theorem Lawful.names (h : Lawful settings requests s p) (hs : s.Sound)
    (hi : secretOf? requests i = some secret) {answer : Except RefreshError Unit}
    (hr : (i, .revoke tokenId answer) ∈ p.refreshCalls) :
    secret ≠ "" ∧ p.world.refreshTokens.Names secret tokenId := by
  obtain ⟨v, rfl, hsub⟩ := h.revoke_sublist hi hr
  exact h.trace.names_of_mem hs (List.mem_map_of_mem (hsub.subset List.mem_cons_self))

/-- Of the callers of one secret, only one takes the token. -/
theorem Lawful.not_sublist (h : Lawful settings requests s p) (hs : s.Sound)
    (hi : secretOf? requests i = some secret) (hj : secretOf? requests j = some secret)
    {t : String} :
    ¬[(i, .revoke tokenId (.ok ())), (j, .revoke t (.ok ()))].Sublist p.refreshCalls := by
  intro hsub
  have hni := (h.names hs hi (hsub.subset List.mem_cons_self)).2
  have hnj := (h.names hs hj (hsub.subset (List.mem_cons_of_mem _ List.mem_cons_self))).2
  obtain rfl := hni.unique (h.trace.sound hs) hnj
  obtain ⟨l₁, l₂, l₃, s₁, s₂, now, -, ⟨hs₁, hstep⟩, ⟨hs₂, -⟩, htrace⟩ := h.split hs hsub
  exact (hstep.active_of_revoke hs₁).2.not_mem hs₂ htrace (by simp)

/-- A caller that validates the secret after the token was taken is refused. -/
theorem Lawful.refused (h : Lawful settings requests s p) (hs : s.Sound)
    (hj : secretOf? requests j = some secret) {a : Except RefreshError ValidRefresh}
    (hsub : [(j, .revoke tokenId (.ok ())), (i, .validate secret a)].Sublist p.refreshCalls) :
    a = .error ⟨s.backend, .validate, .revoked⟩ := by
  obtain ⟨hne, hn⟩ := h.names hs hj (hsub.subset List.mem_cons_self)
  obtain ⟨l₁, l₂, l₃, s₁, s₂, now, -, ⟨hs₁, hstep⟩, ⟨hs₂, hkind⟩, htrace⟩ := h.split hs hsub
  have hrev := (hstep.active_of_revoke hs₁).2
  have hn₂ := RefreshStore.Names.of_trace hs₂ hrev htrace hn
  have ha : RefreshEvent.validate secret a ∈ l₂.map (·.2) ++ .validate secret a :: l₃.map (·.2) :=
    List.mem_append_right _ List.mem_cons_self
  rw [hn₂.eq_of_mem hs₂ hne hrev htrace ha, RefreshStore.fail, hkind]

/-- A refresh that handed out cookies took the token, or somebody else did so after it had
validated the secret. -/
theorem Lawful.handed_out (h : Lawful settings requests s p) (hs : s.Sound)
    (hi : secretOf? requests i = some secret) {cookies : List String}
    (ho : p.result? i = some (.refresh (.ok cookies))) :
    ∃ v, [(i, .validate secret (.ok v)), (i, .revoke v.tokenId (.ok ()))].Sublist p.refreshCalls ∨
      ∃ j e, j ≠ i ∧ e.cause = .alreadyRevoked ∧
        [(i, .validate secret (.ok v)), (j, .revoke v.tokenId (.ok ())),
          (i, .revoke v.tokenId (.error e))].Sublist p.refreshCalls := by
  obtain ⟨es, hp, hown⟩ := h.refreshing hi ho
  obtain ⟨v, answer, hsub, hanswer⟩ := hp.handed_out
  have hsub := sublist_of_callsOf hown hsub
  rcases hanswer with rfl | ⟨e, rfl, he⟩
  · exact ⟨v, Or.inl hsub⟩
  · obtain ⟨l₁, l₂, l₃, s₁, s₂, now, hl, ⟨hs₁, hstep⟩, -, htrace⟩ := h.split hs hsub
    obtain ⟨rfl, -, -, hact⟩ := hstep.active_of_validate hs₁
    obtain ⟨s₃, h₃, now', s₄, hstep', -⟩ := RefreshStore.trace_append.1 htrace
    obtain ⟨⟨j, c⟩, hj, rfl⟩ := List.mem_map.1 (h₃.revoke_mem hs₁ hact hstep' he)
    have hlate : [(i, .validate secret (.ok v)), (j, .revoke v.tokenId (.ok ())),
        (i, .revoke v.tokenId (.error e))].Sublist p.refreshCalls := by
      rw [hl]
      refine .trans (.cons_cons _ ?_) (List.sublist_append_right _ _)
      exact (List.singleton_sublist.2 hj).append (List.singleton_sublist.2 List.mem_cons_self)
    refine ⟨v, Or.inr ⟨j, e, ?_, he, hlate⟩⟩
    rintro rfl
    have htwice := hlate.filterMap fun c => if c.1 = j then some c.2 else none
    rw [show p.refreshCalls.filterMap (fun c => if c.1 = j then some c.2 else none) =
      refreshEvents es from hown] at htwice
    have hcount := Nat.le_trans htwice.countP_le hp.countP_isRevoke_le
    simp [List.countP_cons, RefreshEvent.isRevoke] at hcount

/-- Callers that present one secret, among any others, over a store without faults. At most one of
them takes the token. A refresh hands out cookies only if it does so itself, or if another call does
so between its first look at the secret and its last ; and a caller that looks at the secret
afterwards is refused, so that a refresh fails. -/
theorem one_caller_takes_the_secret {w : World} {b : Backend} {past : List RefreshEvent}
    (hf : w.faults.SparesRefresh) (hpast : (RefreshStore.empty b).Trace past w.refreshTokens)
    (turns : List Turn) (secret : String) :
    let p := (start settings w requests).run turns
    (p.refreshCalls.filter fun e =>
        e.2.isTaking && decide (secretOf? requests e.1 = some secret)).length ≤ 1 ∧
      (∀ i, secretOf? requests i = some secret →
        ∀ cookies, p.result? i = some (.refresh (.ok cookies)) →
          ∃ v, [(i, .validate secret (.ok v)), (i, .revoke v.tokenId (.ok ()))].Sublist
              p.refreshCalls ∨
            ∃ j e, j ≠ i ∧ e.cause = .alreadyRevoked ∧
              [(i, .validate secret (.ok v)), (j, .revoke v.tokenId (.ok ())),
                (i, .revoke v.tokenId (.error e))].Sublist p.refreshCalls) ∧
      ∀ i j, secretOf? requests i = some secret → secretOf? requests j = some secret →
        ∀ tokenId a, [(j, .revoke tokenId (.ok ())), (i, .validate secret a)].Sublist
            p.refreshCalls →
          a = .error ⟨b, .validate, .revoked⟩ ∧
            ∀ result, p.result? i = some (.refresh result) →
              result = .error (.invalidRefresh ⟨b, .validate, .revoked⟩) := by
  intro p
  have hs : w.refreshTokens.Sound := hpast.sound (RefreshStore.sound_empty b)
  have hb : w.refreshTokens.backend = b := by
    rw [hpast.backend_eq (RefreshStore.sound_empty b)]
    cases b <;> rfl
  have h : Lawful settings requests w.refreshTokens p := Lawful.run turns (lawful_start hf)
  refine ⟨?_, fun i hi cookies ho => h.handed_out hs hi ho, fun i j hi hj tokenId a hsub => ?_⟩
  · refine length_filter_le_one fun ⟨i, x⟩ ⟨j, y⟩ hx hy hsub => ?_
    obtain ⟨hx, hi⟩ := Bool.and_eq_true_iff.1 hx
    obtain ⟨hy, hj⟩ := Bool.and_eq_true_iff.1 hy
    obtain ⟨tokenId, rfl⟩ := RefreshEvent.isTaking_iff.1 hx
    obtain ⟨t, rfl⟩ := RefreshEvent.isTaking_iff.1 hy
    exact h.not_sublist hs (of_decide_eq_true hi) (of_decide_eq_true hj) hsub
  · have ha := h.refused hs hj hsub
    rw [hb] at ha
    refine ⟨ha, fun result ho => ?_⟩
    obtain ⟨es, hp, hown⟩ := h.refreshing hi ho
    have hmem : RefreshEvent.validate secret a ∈ refreshEvents es := by
      rw [← hown, mem_callsOf]
      exact hsub.subset (List.mem_cons_of_mem _ List.mem_cons_self)
    rw [ha] at hmem
    exact hp.eq_of_rejected hmem

end Pool

/-! ## Two refreshes at once -/

namespace Race

/-- Noon on the first day of 2024. -/
def noon : Instant := ⟨1704110400 * 1000000000, by decide, by decide⟩

def settings : Settings where
  clientId := "client"
  signingKey := [7]
  issuer := "tauth"
  cookieDomain := none
  sessionCookie := "app_session"
  refreshCookie := "app_refresh"
  sessionLifetime := ⟨600 * 1000000000, by decide⟩
  refreshLifetime := ⟨86400 * 1000000000, by decide⟩
  nonceLifetime := ⟨60 * 1000000000, by decide⟩
  sameSite := .strict
  allowInsecureHttp := false

/-- Everything happens at noon, and every caller draws bytes of its own. -/
def surroundings (seed : UInt64) : Surroundings := ⟨noon, ⟨[], seed⟩, .vouching {}⟩

/-- The token of an earlier login. -/
def token : IssuedRefresh := (IssuedRefresh.draw noon ⟨[], 2⟩).1

/-- The store with the token. -/
def store : RefreshStore :=
  ((RefreshStore.empty .memory).serve noon ⟨[], 2⟩ (.issue "google:ada" 1709294400 "")).2

/-- The user is known, too. -/
def world : World :=
  { World.start settings .memory noon ⟨[], 2⟩ false with
    users := .memory (UserMemory.empty.upsert ⟨"ada", "ada@example.com", "Ada", ""⟩).2
    refreshTokens := store }

def requests : List ServiceRequest := [.refresh token.secret, .refresh token.secret]

/-- Both validate the secret, and then one does all the rest before the other. -/
def turns : List Turn :=
  ([0, 1] ++ List.replicate 6 0 ++ List.replicate 6 1).map fun i =>
    ⟨i, surroundings (UInt64.ofNat i)⟩

def pool : Pool := (Pool.start settings world requests).run turns

/-- The request of a caller ended with cookies. -/
def handedOut (i : Nat) : Bool :=
  match pool.result? i with
  | some (.refresh (.ok _)) => true
  | _ => false

theorem exists_of_handedOut {i : Nat} (h : handedOut i = true) :
    ∃ cookies, pool.result? i = some (.refresh (.ok cookies)) := by
  unfold handedOut at h
  split at h
  · rename_i cookies ho
    exact ⟨cookies, ho⟩
  · cases h

theorem handedOut_eq : ∀ i < 2, handedOut i = true := by decide +kernel

theorem secretOf?_eq : ∀ i < 2, secretOf? requests i = some token.secret := by decide +kernel

theorem spares : world.faults.SparesRefresh := ⟨rfl, rfl, rfl⟩

theorem exists_past : ∃ past, (RefreshStore.empty .memory).Trace past world.refreshTokens :=
  ⟨_, RefreshStore.trace_serve _ _ _ _⟩

end Race

/-- Over a store without faults, two refreshes that present one secret both hand out cookies. -/
theorem Race.both_hand_out_cookies :
    Race.world.faults.SparesRefresh ∧
      (∃ past, (RefreshStore.empty .memory).Trace past Race.world.refreshTokens) ∧
      (∀ i < 2, secretOf? Race.requests i = some Race.token.secret) ∧
      ∀ i < 2, ∃ cookies, Race.pool.result? i = some (.refresh (.ok cookies)) :=
  ⟨Race.spares, Race.exists_past, Race.secretOf?_eq, fun i hi =>
    Race.exists_of_handedOut (Race.handedOut_eq i hi)⟩

/-- One of the two took the token, and the other came between. -/
theorem Race.one_takes_the_token :
    (Race.pool.refreshCalls.filter fun e => e.2.isTaking &&
        decide (secretOf? Race.requests e.1 = some Race.token.secret)).length ≤ 1 ∧
      ∃ v, [(1, .validate Race.token.secret (.ok v)), (1, .revoke v.tokenId (.ok ()))].Sublist
          Race.pool.refreshCalls ∨
        ∃ j e, j ≠ 1 ∧ e.cause = .alreadyRevoked ∧
          [(1, .validate Race.token.secret (.ok v)), (j, .revoke v.tokenId (.ok ())),
            (1, .revoke v.tokenId (.error e))].Sublist Race.pool.refreshCalls := by
  obtain ⟨past, hpast⟩ := Race.exists_past
  obtain ⟨hlen, hcookies, -⟩ := Pool.one_caller_takes_the_secret Race.spares hpast Race.turns
    Race.token.secret
  obtain ⟨cookies, ho⟩ := Race.exists_of_handedOut (Race.handedOut_eq 1 (by decide))
  exact ⟨hlen, hcookies 1 (Race.secretOf?_eq 1 (by decide)) cookies ho⟩

end SignIn
