import SignIn.Proofs.Refresh.History
import SignIn.Proofs.Service.RefreshAlone
import SignIn.Proofs.Service.Sequence

/-!
# A logout that runs alone

A logout asks the refresh store twice, about the secret and then to revoke its token, and whatever
the answers are it ends with the two clearing cookies (`World.play_logout`). What it leaves of the
refresh store is `World.loggedOut`, read off the two answers.

So the store changes only if both say yes (`World.Accepts`), and then in the one record that the
secret has (`loggedOut_of_accepts`, `loggedOut_of_not_accepts`). A record that is revoked is not
accepted again, and no logout after that changes anything (`refreshTokens_logouts`).
-/

namespace SignIn

/-- The presented secret is the trimmed value of the cookie. -/
theorem Service.exists_of_presented {cookie : Option String} {secret : String}
    (h : presented? cookie = some secret) :
    ∃ value, cookie = some value ∧ secret = Text.trim value := by
  obtain ⟨value, hvalue, hsecret⟩ := Option.map_eq_some_iff.1 (Option.filter_eq_some_iff.1 h).1
  exact ⟨value, hvalue, hsecret.symm⟩

namespace World

variable {w w' : World} {settings : Settings} {cookie : Option String} {σ : ℕ → Surroundings}
  {s : RefreshStore} {v : ValidRefresh}

/-! ## The questions of a logout -/

/-- The other world has these refresh tokens, and the same nonces and users. -/
structure Beside (w : World) (s : RefreshStore) (w' : World) : Prop where
  refreshTokens : w'.refreshTokens = s
  nonces : w'.nonces = w.nonces
  users : w'.users = w.users

/-- The refresh tokens that a logout leaves behind. -/
def loggedOut (w : World) (cookie : Option String) (σ : ℕ → Surroundings) : RefreshStore :=
  match Service.presented? cookie with
  | none => w.refreshTokens
  | some secret =>
    match (w.within (σ 0)).validateRefresh secret with
    | .error _ => w.refreshTokens
    | .ok v => ((w.within (σ 1)).revokeRefresh w.refreshTokens v.tokenId).2

theorem beside_count (w : World) (σ : ℕ → Surroundings) (e : Event) (cookies : List String) :
    Beside w w.refreshTokens (w.play σ (.ask (.count e) fun _ => .done cookies)) := by
  have hplay : w.play σ (.ask (.count e) fun _ => .done cookies) =
      if w.counting then { w.within (σ 0) with counters := w.counters.increment e }
      else w.within (σ 0) := rfl
  rw [hplay]
  split_ifs <;> exact ⟨rfl, rfl, rfl⟩

/-- A logout never fails, and touches nothing but the refresh store, the counters and the log. -/
theorem play_logout (w : World) (settings : Settings) (cookie : Option String)
    (σ : ℕ → Surroundings) :
    w.rest σ (Service.logout settings cookie) =
        .done [Cookie.clearSession settings, Cookie.clearRefresh settings] ∧
      Beside w (w.loggedOut cookie σ) (w.play σ (Service.logout settings cookie)) := by
  unfold Service.logout loggedOut
  cases Service.presented? cookie with
  | none => exact ⟨rfl, w.beside_count σ _ _⟩
  | some secret =>
  have hvalidate := (w.within (σ 0)).answer_eq_validateRefresh secret
  simp only [Service.revokeQuietly, Script.bind]
  rw [rest_ask hvalidate, play_ask hvalidate]
  cases (w.within (σ 0)).validateRefresh secret with
  | error e =>
    have hcount := beside_count
      { w.within (σ 1) with log := w.log ++ [⟨.debug, "auth.logout.validate"⟩] }
      (fun k => σ (k + 2)) .logoutSuccess
      [Cookie.clearSession settings, Cookie.clearRefresh settings]
    exact ⟨rfl, hcount.refreshTokens, hcount.nonces, hcount.users⟩
  | ok v =>
  have hrevoke := (w.within (σ 1)).answer_eq_revokeRefresh w.refreshTokens (σ 1).entropy v.tokenId
  simp only [Script.bind]
  rw [rest_ask hrevoke, play_ask hrevoke]
  generalize (w.within (σ 1)).revokeRefresh w.refreshTokens v.tokenId = revoked
  have hcount := beside_count { w.within (σ 1) with refreshTokens := revoked.2 }
    (fun k => σ (k + 2)) .logoutSuccess [Cookie.clearSession settings, Cookie.clearRefresh settings]
  cases revoked.1 with
  | ok u => exact ⟨rfl, hcount.refreshTokens, hcount.nonces, hcount.users⟩
  | error e =>
    have hlogged := beside_count
      { w.within (σ 2) with
        refreshTokens := revoked.2, log := w.log ++ [⟨.warn, "auth.logout.revoke"⟩] }
      (fun k => σ (k + 3)) .logoutSuccess
      [Cookie.clearSession settings, Cookie.clearRefresh settings]
    dsimp only
    split_ifs
    · exact ⟨rfl, hcount.refreshTokens, hcount.nonces, hcount.users⟩
    · exact ⟨rfl, hlogged.refreshTokens, hlogged.nonces, hlogged.users⟩

/-! ## What it leaves behind -/

/-- The first answer is that the trimmed value is good, and the second that its token is revoked. -/
def Accepts (w : World) (cookie : Option String) (σ : ℕ → Surroundings) (v : ValidRefresh) : Prop :=
  (∃ value, cookie = some value ∧ (w.within (σ 0)).validateRefresh (Text.trim value) = .ok v) ∧
    ((w.within (σ 1)).revokeRefresh w.refreshTokens v.tokenId).1 = .ok ()

/-- The record of the trimmed value is revoked. -/
def Spent (s : RefreshStore) (cookie : Option String) : Prop :=
  ∃ value r, cookie = some value ∧ s.find? (fingerprint (Text.trim value)) = some r ∧
    r.revokedAt ≠ 0

/-- A secret that is found good has an active record, and is the secret that is presented. -/
theorem exists_active_of_validateRefresh (hs : w.refreshTokens.Sound ∨ w.refreshTokens.IsClosed)
    {u : Surroundings} {value : String}
    (h : (w.within u).validateRefresh (Text.trim value) = .ok v) :
    Service.presented? (some value) = some (Text.trim value) ∧ w.refreshTokens.Sound ∧
      ∃ r, w.refreshTokens.find? (fingerprint (Text.trim value)) = some r ∧
        w.refreshTokens.get? r.tokenId = some r ∧ r.isRevoked = false ∧ v.tokenId = r.tokenId := by
  have hvalid := validate_of_validateRefresh h
  change w.refreshTokens.validate u.clock (Text.trim value) = .ok v at hvalid
  rcases hs with hs | hclosed
  swap
  · obtain ⟨e, he⟩ := RefreshStore.validate_of_closed hclosed u.clock (Text.trim value)
    cases he.symm.trans hvalid
  obtain ⟨hne, r, hr, hhash, hact, -, rfl⟩ :=
    RefreshStore.judge_eq_ok hs ((RefreshStore.validate_eq hs u.clock _).symm.trans hvalid)
  refine ⟨?_, hs, r, ?_, hr, hact, rfl⟩
  · simp [Service.presented?, hne]
  · rw [← hhash, hs.find?_of_get? hr]

/-- Where the record is active, revoking its token fails only by a failure that is set. -/
theorem revokeRefresh_of_error (hs : s.Sound) {r : RefreshRecord} (hr : s.get? r.tokenId = some r)
    (hact : r.isRevoked = false) {e : RefreshError}
    (h : (w.revokeRefresh s r.tokenId).1 = .error e) :
    (w.revokeRefresh s r.tokenId).2 = s := by
  unfold revokeRefresh at h ⊢
  cases hf : w.faults.refreshRevoke with
  | some cause => rfl
  | none =>
    obtain ⟨s', hrevoke, -⟩ := RefreshStore.revoke_of_active hs w.clock hr hact
    simp only [hf, hrevoke] at h
    cases h

theorem loggedOut_of_not_accepts (hs : w.refreshTokens.Sound ∨ w.refreshTokens.IsClosed)
    (h : ∀ v, ¬w.Accepts cookie σ v) : w.loggedOut cookie σ = w.refreshTokens := by
  unfold loggedOut
  split
  · rfl
  · rename_i secret hpresented
    obtain ⟨value, rfl, rfl⟩ := Service.exists_of_presented hpresented
    split
    · rfl
    · rename_i v hv
      obtain ⟨-, hsound, r, -, hr, hact, hid⟩ := exists_active_of_validateRefresh hs hv
      cases hrevoke : ((w.within (σ 1)).revokeRefresh w.refreshTokens v.tokenId).1 with
      | ok u => exact absurd ⟨⟨value, rfl, hv⟩, hrevoke⟩ (h v)
      | error e =>
        rw [hid] at hrevoke ⊢
        exact revokeRefresh_of_error hsound hr hact hrevoke

theorem loggedOut_of_accepts (hs : w.refreshTokens.Sound ∨ w.refreshTokens.IsClosed)
    (h : w.Accepts cookie σ v) : ∃ value r, cookie = some value ∧
      w.refreshTokens.find? (fingerprint (Text.trim value)) = some r ∧ r.revokedAt = 0 ∧
      (w.loggedOut cookie σ).Sound ∧ (w.loggedOut cookie σ).backend = w.refreshTokens.backend ∧
      Spent (w.loggedOut cookie σ) cookie ∧
      ∀ i, (w.loggedOut cookie σ).get? i =
        if i = r.tokenId then some { r with revokedAt := max (σ 1).clock.seconds 1 }
        else w.refreshTokens.get? i := by
  obtain ⟨⟨value, rfl, hv⟩, hrevoked⟩ := h
  obtain ⟨hpresented, hsound, r, hfound, hr, hact, hid⟩ := exists_active_of_validateRefresh hs hv
  have hnone : w.faults.refreshRevoke = none := by
    unfold revokeRefresh at hrevoked
    cases hf : w.faults.refreshRevoke with
    | none => rfl
    | some cause => simp [hf] at hrevoked
  obtain ⟨s', hrevoke, hsound', hkind, hget⟩ :=
    RefreshStore.revoke_of_active hsound (σ 1).clock hr hact
  have hout : w.loggedOut (some value) σ = s' := by
    simp only [loggedOut, hpresented, hv, revokeRefresh, within_faults, hnone, hid]
    exact congrArg Prod.snd hrevoke
  have hfound' :
      s'.find? (fingerprint (Text.trim value)) = some (r.revoke (σ 1).clock.seconds) := by
    refine hsound'.find?_eq_some_iff.2 ⟨?_, (hsound.find?_eq_some_iff.1 hfound).2⟩
    exact (hget r.tokenId).trans (if_pos rfl)
  have hne : (r.revoke (σ 1).clock.seconds).revokedAt ≠ 0 := by
    simp only [RefreshRecord.revoke]
    omega
  rw [hout]
  exact ⟨value, r, rfl, hfound, by simpa [RefreshRecord.isRevoked] using hact, hsound', hkind,
    ⟨value, _, rfl, hfound', hne⟩, hget⟩

/-! ## Again and again -/

/-- The same logout once more, with failures and at moments of its own. -/
def logoutAgain (settings : Settings) (cookie : Option String) (w : World)
    (a : Faults × (ℕ → Surroundings)) : World :=
  { w with faults := a.1 }.play a.2 (Service.logout settings cookie)

/-- The same logout again and again. -/
def logouts (settings : Settings) (cookie : Option String) (w : World)
    (again : List (Faults × (ℕ → Surroundings))) : World :=
  again.foldl (logoutAgain settings cookie) w

theorem Spent.not_accepts (hs : w.refreshTokens.Sound ∨ w.refreshTokens.IsClosed)
    (h : Spent w.refreshTokens cookie) (v : ValidRefresh) : ¬w.Accepts cookie σ v := by
  rintro ⟨⟨value, rfl, hv⟩, -⟩
  obtain ⟨_, q, hvalue, hq, hrevoked⟩ := h
  cases hvalue
  obtain ⟨-, -, r, hr, -, hact, -⟩ := exists_active_of_validateRefresh hs hv
  obtain rfl := Option.some.inj (hq.symm.trans hr)
  exact hrevoked (by simpa [RefreshRecord.isRevoked] using hact)

theorem refreshTokens_logoutAgain (hs : w.refreshTokens.Sound ∨ w.refreshTokens.IsClosed)
    (h : Spent w.refreshTokens cookie) (settings : Settings) (a : Faults × (ℕ → Surroundings)) :
    (w.logoutAgain settings cookie a).refreshTokens = w.refreshTokens := by
  obtain ⟨-, hstore, -⟩ := play_logout { w with faults := a.1 } settings cookie a.2
  rw [logoutAgain, hstore]
  exact loggedOut_of_not_accepts hs fun v =>
    Spent.not_accepts (w := { w with faults := a.1 }) hs h v

/-- No logout changes anything when the record is revoked. -/
theorem refreshTokens_logouts (settings : Settings) (again : List (Faults × (ℕ → Surroundings))) :
    ∀ {w : World}, w.refreshTokens.Sound ∨ w.refreshTokens.IsClosed → Spent w.refreshTokens cookie →
      (w.logouts settings cookie again).refreshTokens = w.refreshTokens := by
  induction again with
  | nil => exact fun _ _ => rfl
  | cons a again ih =>
    intro w hs h
    have hsame := refreshTokens_logoutAgain hs h settings a
    rw [← hsame] at hs h
    exact (ih hs h).trans hsame

/-- A logout that runs alone, with any cookie, any failures of the two questions to the refresh
store and at any readings of the clock. It ends with the two clearing cookies, and leaves nonces and
users alone. The refresh store is left alone too, unless both answers are yes : then the one record
that the trimmed value has is stamped with the second of the revocation, and nothing else.

Once the record is revoked, the same logout changes nothing however often it comes. -/
theorem logout_revokes_one_record (hs : w.refreshTokens.Sound ∨ w.refreshTokens.IsClosed)
    (settings : Settings) (cookie : Option String) (σ : ℕ → Surroundings) :
    let w' := w.play σ (Service.logout settings cookie)
    w.rest σ (Service.logout settings cookie) =
      .done [Cookie.clearSession settings, Cookie.clearRefresh settings] ∧
    w'.nonces = w.nonces ∧ w'.users = w.users ∧
    ((∀ v, ¬w.Accepts cookie σ v) → w'.refreshTokens = w.refreshTokens) ∧
    (∀ v, w.Accepts cookie σ v → ∃ value r, cookie = some value ∧
      w.refreshTokens.find? (fingerprint (Text.trim value)) = some r ∧ r.revokedAt = 0 ∧
      w'.refreshTokens.Sound ∧ w'.refreshTokens.backend = w.refreshTokens.backend ∧
      (∀ i, w'.refreshTokens.get? i =
        if i = r.tokenId then some { r with revokedAt := max (σ 1).clock.seconds 1 }
        else w.refreshTokens.get? i) ∧
      ∀ again, (w'.logouts settings cookie again).refreshTokens = w'.refreshTokens) ∧
    (Spent w.refreshTokens cookie →
      ∀ again, (w.logouts settings cookie again).refreshTokens = w.refreshTokens) := by
  intro w'
  obtain ⟨hrest, hstore, hnonces, husers⟩ := w.play_logout settings cookie σ
  refine ⟨hrest, hnonces, husers, fun h => hstore.trans (loggedOut_of_not_accepts hs h),
    fun v h => ?_, fun h again => refreshTokens_logouts settings again hs h⟩
  obtain ⟨value, r, hvalue, hr, hact, hsound, hkind, hspent, hget⟩ := loggedOut_of_accepts hs h
  rw [← hstore] at hsound hkind hspent hget
  exact ⟨value, r, hvalue, hr, hact, hsound, hkind, hget,
    fun again => refreshTokens_logouts settings again (Or.inl hsound) hspent⟩

end World

namespace FirstLogin

/-- Both answers to a logout with the secret of the login are yes. -/
def isAccepted : Bool :=
  match (orderly.world.within again).validateRefresh (Text.trim secret) with
  | .ok v =>
    ((orderly.world.within again).revokeRefresh orderly.world.refreshTokens v.tokenId).1.isOk
  | .error _ => false

theorem exists_accepted : ∃ v, orderly.world.Accepts (some secret) (fun _ => again) v := by
  have h : isAccepted = true := by decide +kernel
  unfold isAccepted at h
  split at h
  · rename_i v hv
    refine ⟨v, ⟨secret, rfl, hv⟩, ?_⟩
    cases hrevoke :
        ((orderly.world.within again).revokeRefresh orderly.world.refreshTokens v.tokenId).1 with
    | ok u => rfl
    | error e =>
      rw [hrevoke] at h
      cases h
  · cases h

/-- The record of the login is revoked once. -/
theorem logout_revokes_the_login : ∃ r,
    orderly.world.refreshTokens.find? (fingerprint (Text.trim secret)) = some r ∧ r.revokedAt = 0 ∧
    let w := orderly.world.play (fun _ => again) (Service.logout settings (some secret))
    w.refreshTokens.get? r.tokenId = some { r with revokedAt := max again.clock.seconds 1 } ∧
      ∀ later, (w.logouts settings (some secret) later).refreshTokens = w.refreshTokens := by
  have hancestral : Pool.Ancestral settings [.issueNonce, .login "token" nonce true] orderly :=
    (Pool.ancestral_start world .memory .memory).faultyRun _
  obtain ⟨v, hv⟩ := exists_accepted
  obtain ⟨-, -, -, -, haccepted, -⟩ :=
    World.logout_revokes_one_record (Or.inl hancestral.agreed.tokens)
    settings (some secret) fun _ => again
  obtain ⟨_, r, he, hr, hact, -, -, hget, hagain⟩ := haccepted v hv
  cases he
  exact ⟨r, hr, hact, (hget r.tokenId).trans (if_pos rfl), hagain⟩

end FirstLogin

end SignIn
