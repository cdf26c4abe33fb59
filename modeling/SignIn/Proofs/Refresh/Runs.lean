import SignIn.Proofs.Refresh.Operations

/-!
# Runs of a refresh store

A store answers one call after another, each at its own reading of the clock and with its own random
bytes (`serve`). `Effect` says once what a call can do to a sound store : a token is issued and its
record goes in, an active record is stamped, or nothing changes (`effect_of_step`).

Everything else follows from it for whole runs (`Trace`) : a record stays and changes at most once,
when it is revoked (`Trace.becomes`), and a record that was active and is revoked now was revoked by
a call that succeeded (`Trace.exists_revoke`).
-/

namespace SignIn

/-- What a refresh store is asked. -/
inductive RefreshCall where
  | issue (userId : String) (expires : Int) (previous : String)
  | validate (secret : String)
  | revoke (tokenId : String)

/-- A call with its answer. -/
inductive RefreshEvent where
  | issue (userId : String) (expires : Int) (previous : String)
    (answer : Except RefreshError IssuedRefresh)
  | validate (secret : String) (answer : Except RefreshError ValidRefresh)
  | revoke (tokenId : String) (answer : Except RefreshError Unit)

/-! ## Records over time -/

namespace RefreshRecord

theorem isRevoked_revoke (r : RefreshRecord) (now : Int) : (r.revoke now).isRevoked = true := by
  have hne : max now 1 ≠ 0 := by omega
  simpa [isRevoked, revoke] using hne

/-- The record later on : as it was, or revoked in the meantime. -/
def Becomes (r r' : RefreshRecord) : Prop :=
  r' = r ∨ r.isRevoked = false ∧ ∃ now, r' = r.revoke now

theorem Becomes.refl (r : RefreshRecord) : r.Becomes r := Or.inl rfl

/-- A record changes once : behind its stamp there is nothing further. -/
theorem Becomes.trans {r r' r'' : RefreshRecord} (h : r.Becomes r') (h' : r'.Becomes r'') :
    r.Becomes r'' := by
  rcases h' with rfl | ⟨hr', now', rfl⟩
  · exact h
  · rcases h with rfl | ⟨hr, now, rfl⟩
    · exact Or.inr ⟨hr', now', rfl⟩
    · rw [isRevoked_revoke] at hr'
      cases hr'

/-- A record that was revoked is as it was. -/
theorem Becomes.eq_of_isRevoked {r r' : RefreshRecord} (h : r.Becomes r')
    (hr : r.isRevoked = true) : r' = r := by
  rcases h with rfl | ⟨hr', -⟩
  · rfl
  · rw [hr] at hr'
    cases hr'

/-- Only the stamp changes. -/
theorem Becomes.eq_with {r r' : RefreshRecord} (h : r.Becomes r') :
    r' = { r with revokedAt := r'.revokedAt } := by
  rcases h with rfl | ⟨-, now, rfl⟩ <;> rfl

theorem Becomes.tokenHash_eq {r r' : RefreshRecord} (h : r.Becomes r') :
    r'.tokenHash = r.tokenHash := by
  rcases h with rfl | ⟨-, now, rfl⟩ <;> rfl

theorem Becomes.previous_eq {r r' : RefreshRecord} (h : r.Becomes r') :
    r'.previous = r.previous := by
  rcases h with rfl | ⟨-, now, rfl⟩ <;> rfl

end RefreshRecord

namespace RefreshStore

variable {s s' : RefreshStore} {now : Instant} {e : RefreshEvent}

/-! ## One call -/

/-- A call with its answer, and the store behind it. -/
def serve (s : RefreshStore) (now : Instant) (entropy : Entropy) :
    RefreshCall → RefreshEvent × RefreshStore
  | .issue userId expires previous =>
    let (answer, s', _) := s.issue now entropy userId expires previous
    (.issue userId expires previous answer, s')
  | .validate secret => (.validate secret (s.validate now secret), s)
  | .revoke tokenId =>
    let (answer, s') := s.revoke now tokenId
    (.revoke tokenId answer, s')

/-- The store `s` answers so at `now`, and `s'` is behind it. -/
def Step (s : RefreshStore) (now : Instant) (e : RefreshEvent) (s' : RefreshStore) : Prop :=
  ∃ entropy call, s.serve now entropy call = (e, s')

/-- What a sound store says about a secret. -/
def judge (s : RefreshStore) (now : Instant) (secret : String) : Except RefreshError ValidRefresh :=
  (if secret = "" then .error .emptySecret
    else RefreshRecord.judge now.seconds (s.find? (fingerprint secret))).mapError (s.fail .validate)

/-- All that one call can do to a sound store. -/
inductive Effect (s : RefreshStore) (now : Instant) : RefreshEvent → RefreshStore → Prop
  /-- A token is drawn, and its record goes in. -/
  | issued {userId expires previous issued s'} (entropy : Entropy)
      (drawn : issued = (IssuedRefresh.draw now entropy).1)
      (free : ¬s.Taken (issued.record now userId expires previous))
      (sound : s'.Sound) (kind : s'.backend = s.backend)
      (get : ∀ i, s'.get? i =
        if i = issued.tokenId then some (issued.record now userId expires previous) else s.get? i) :
      Effect s now (.issue userId expires previous (.ok issued)) s'
  /-- The token that is drawn is in use. -/
  | duplicate {userId expires previous} :
      Effect s now (.issue userId expires previous (.error (s.fail .issue .duplicate))) s
  | judged {secret} : Effect s now (.validate secret (s.judge now secret)) s
  /-- An active record is stamped. -/
  | revoked {tokenId r s'} (found : s.get? tokenId = some r) (active : r.isRevoked = false)
      (sound : s'.Sound) (kind : s'.backend = s.backend)
      (get : ∀ i, s'.get? i = if i = tokenId then some (r.revoke now.seconds) else s.get? i) :
      Effect s now (.revoke tokenId (.ok ())) s'
  | unknown {tokenId} (unfound : s.get? tokenId = none) :
      Effect s now (.revoke tokenId (.error (s.fail .revoke .notFound))) s
  | alreadyRevoked {tokenId r} (found : s.get? tokenId = some r) (revoked : r.isRevoked = true) :
      Effect s now (.revoke tokenId (.error (s.fail .revoke .alreadyRevoked))) s

section Serve

variable (h : s.Sound) (now : Instant) (entropy : Entropy)
include h

/-- A token whose id or hash is taken is refused, and nothing changes. -/
theorem serve_issue_of_taken {userId previous : String} {expires : Int}
    (hr : s.Taken ((IssuedRefresh.draw now entropy).1.record now userId expires previous)) :
    s.serve now entropy (.issue userId expires previous) =
      (.issue userId expires previous (.error (s.fail .issue .duplicate)), s) := by
  simp only [serve, issue]
  rw [insert_of_taken h hr]

/-- A token that can go in goes in, under its own id, and no other record changes. -/
theorem serve_issue_of_free {userId previous : String} {expires : Int}
    (hr : ¬s.Taken ((IssuedRefresh.draw now entropy).1.record now userId expires previous)) :
    ∃ s', s.serve now entropy (.issue userId expires previous) =
        (.issue userId expires previous (.ok (IssuedRefresh.draw now entropy).1), s') ∧
      s'.Sound ∧ s'.backend = s.backend ∧
      ∀ i, s'.get? i = if i = (IssuedRefresh.draw now entropy).1.tokenId then
        some ((IssuedRefresh.draw now entropy).1.record now userId expires previous)
      else s.get? i := by
  obtain ⟨s', hissue, hs'⟩ := issue_of_free h hr
  exact ⟨s', by simp only [serve, hissue], hs'⟩

/-- Validating a secret changes nothing. -/
theorem serve_validate (secret : String) :
    s.serve now entropy (.validate secret) = (.validate secret (s.judge now secret), s) := by
  rw [serve, validate_eq h, judge]

theorem serve_revoke_of_none {i : String} (hi : s.get? i = none) :
    s.serve now entropy (.revoke i) = (.revoke i (.error (s.fail .revoke .notFound)), s) := by
  simp only [serve]
  rw [revoke_of_none h now hi]

theorem serve_revoke_of_revoked {i : String} {r : RefreshRecord} (hi : s.get? i = some r)
    (hr : r.isRevoked = true) :
    s.serve now entropy (.revoke i) = (.revoke i (.error (s.fail .revoke .alreadyRevoked)), s) := by
  simp only [serve]
  rw [revoke_of_revoked h now hi hr]

/-- An active record is stamped, and no other record changes. -/
theorem serve_revoke_of_active {i : String} {r : RefreshRecord} (hi : s.get? i = some r)
    (hr : r.isRevoked = false) :
    ∃ s', s.serve now entropy (.revoke i) = (.revoke i (.ok ()), s') ∧ s'.Sound ∧
      s'.backend = s.backend ∧
      ∀ j, s'.get? j = if j = i then some (r.revoke now.seconds) else s.get? j := by
  obtain ⟨s', hrev, hsound, hkind, hget⟩ := revoke_of_active h now hi hr
  refine ⟨s', ?_, hsound, hkind, hget⟩
  simp only [serve]
  rw [hrev]

end Serve

/-- Each call of a sound store has one of the effects above. The trace lemmas below rest on this
alone. -/
theorem effect_of_step (h : s.Sound) (hs : s.Step now e s') : s.Effect now e s' := by
  obtain ⟨entropy, call, hserve⟩ := hs
  cases call with
  | issue userId expires previous =>
    by_cases hr : s.Taken ((IssuedRefresh.draw now entropy).1.record now userId expires previous)
    · rw [serve_issue_of_taken h now entropy hr] at hserve
      cases hserve
      exact .duplicate
    · obtain ⟨s₁, hs₁, hsound, hkind, hget⟩ := serve_issue_of_free h now entropy hr
      rw [hs₁] at hserve
      cases hserve
      exact .issued entropy rfl hr hsound hkind hget
  | validate secret =>
    rw [serve_validate h] at hserve
    cases hserve
    exact .judged
  | revoke tokenId =>
    cases hi : s.get? tokenId with
    | none =>
      rw [serve_revoke_of_none h now entropy hi] at hserve
      cases hserve
      exact .unknown hi
    | some r =>
      cases hr : r.isRevoked with
      | true =>
        rw [serve_revoke_of_revoked h now entropy hi hr] at hserve
        cases hserve
        exact .alreadyRevoked hi hr
      | false =>
        obtain ⟨s₁, hs₁, hsound, hkind, hget⟩ := serve_revoke_of_active h now entropy hi hr
        rw [hs₁] at hserve
        cases hserve
        exact .revoked hi hr hsound hkind hget

/-- No call makes a sound store unsound. -/
theorem Effect.sound (h : s.Sound) (he : s.Effect now e s') : s'.Sound := by
  cases he with
  | issued entropy drawn free sound kind get => exact sound
  | revoked found active sound kind get => exact sound
  | duplicate | judged | unknown | alreadyRevoked => exact h

theorem Effect.backend_eq (he : s.Effect now e s') : s'.backend = s.backend := by
  cases he with
  | issued entropy drawn free sound kind get => exact kind
  | revoked found active sound kind get => exact kind
  | duplicate | judged | unknown | alreadyRevoked => rfl

/-- A token that can go in has another id than any record there is. -/
theorem ne_tokenId_of_free {issued : IssuedRefresh} {userId previous : String} {expires : Int}
    (free : ¬s.Taken (issued.record now userId expires previous)) {i : String} {r : RefreshRecord}
    (hr : s.get? i = some r) : i ≠ issued.tokenId := by
  rintro rfl
  have hne : s.get? issued.tokenId ≠ none := by
    rw [hr]
    exact Option.some_ne_none r
  exact free (Or.inl hne)

/-- A record is as it was, unless it was active and the call has revoked it. -/
theorem Effect.exists_of_get? (he : s.Effect now e s') {i : String} {r : RefreshRecord}
    (hr : s.get? i = some r) : ∃ r', s'.get? i = some r' ∧
      (r' = r ∨ r.isRevoked = false ∧ e = .revoke i (.ok ()) ∧ r' = r.revoke now.seconds) := by
  cases he with
  | issued entropy drawn free sound kind get =>
    exact ⟨r, by rw [get, if_neg (ne_tokenId_of_free free hr), hr], Or.inl rfl⟩
  | @revoked tokenId q s' found active sound kind get =>
    rcases eq_or_ne i tokenId with rfl | hne
    · obtain rfl : q = r := Option.some.inj (found.symm.trans hr)
      exact ⟨_, by rw [get, if_pos rfl], Or.inr ⟨active, rfl, rfl⟩⟩
    · exact ⟨r, by rw [get, if_neg hne, hr], Or.inl rfl⟩
  | duplicate | judged | unknown | alreadyRevoked => exact ⟨r, hr, Or.inl rfl⟩

/-- A record stays, and changes only when it is revoked. -/
theorem Effect.becomes (he : s.Effect now e s') {i : String} {r : RefreshRecord}
    (hr : s.get? i = some r) : ∃ r', s'.get? i = some r' ∧ r.Becomes r' := by
  obtain ⟨r', hr', rfl | ⟨hact, -, rfl⟩⟩ := he.exists_of_get? hr
  · exact ⟨r', hr', .refl r'⟩
  · exact ⟨_, hr', Or.inr ⟨hact, _, rfl⟩⟩

/-- An active record is revoked by a successful call for its id and by nothing else. -/
theorem Effect.eq_revoke (he : s.Effect now e s') {i : String} {r r' : RefreshRecord}
    (hr : s.get? i = some r) (hact : r.isRevoked = false) (hr' : s'.get? i = some r')
    (hrev : r'.isRevoked = true) : e = .revoke i (.ok ()) := by
  obtain ⟨r₁, hr₁, hcases⟩ := he.exists_of_get? hr
  obtain rfl : r' = r₁ := Option.some.inj (hr'.symm.trans hr₁)
  rcases hcases with rfl | ⟨-, hrevoke, -⟩
  · rw [hact] at hrev
    cases hrev
  · exact hrevoke

/-! ## One call after another -/

/-- The store `s` answers so, call by call, and `s'` is behind the last. -/
def Trace : RefreshStore → List RefreshEvent → RefreshStore → Prop
  | s, [], s' => s' = s
  | s, e :: es, s' => ∃ now s₁, s.Step now e s₁ ∧ Trace s₁ es s'

theorem trace_serve (s : RefreshStore) (now : Instant) (entropy : Entropy) (call : RefreshCall) :
    Trace s [(s.serve now entropy call).1] (s.serve now entropy call).2 :=
  ⟨now, _, ⟨entropy, call, rfl⟩, rfl⟩

variable {es fs : List RefreshEvent}

/-- A trace can be taken apart at any of its calls. -/
theorem trace_append : ∀ {s : RefreshStore} {es : List RefreshEvent},
    Trace s (es ++ fs) s' ↔ ∃ s₁, Trace s es s₁ ∧ Trace s₁ fs s'
  | s, [] => by simp [Trace]
  | s, e :: es => by
    constructor
    · rintro ⟨now, s₁, hs, ht⟩
      obtain ⟨s₂, h₁, h₂⟩ := trace_append.1 ht
      exact ⟨s₂, ⟨now, s₁, hs, h₁⟩, h₂⟩
    · rintro ⟨s₂, ⟨now, s₁, hs, h₁⟩, h₂⟩
      exact ⟨now, s₁, hs, trace_append.2 ⟨s₂, h₁, h₂⟩⟩

/-- One call more. -/
theorem Trace.snoc {s₁ : RefreshStore} (h : Trace s es s₁) (hs : s₁.Step now e s') :
    Trace s (es ++ [e]) s' :=
  trace_append.2 ⟨s₁, h, now, s', hs, rfl⟩

/-- A trace leads from a sound store to a sound one. -/
theorem Trace.sound : ∀ {s : RefreshStore} {es : List RefreshEvent}, s.Sound → Trace s es s' →
    s'.Sound
  | s, [], h, ht => by
    obtain rfl : s' = s := ht
    exact h
  | s, e :: es, h, ht => by
    obtain ⟨now, s₁, hs, ht⟩ := ht
    exact Trace.sound ((effect_of_step h hs).sound h) ht

theorem Trace.backend_eq : ∀ {s : RefreshStore} {es : List RefreshEvent}, s.Sound →
    Trace s es s' → s'.backend = s.backend
  | s, [], h, ht => by
    obtain rfl : s' = s := ht
    rfl
  | s, e :: es, h, ht => by
    obtain ⟨now, s₁, hs, ht⟩ := ht
    have he := effect_of_step h hs
    rw [Trace.backend_eq (he.sound h) ht, he.backend_eq]

/-- A record stays, and changes only when it is revoked. -/
theorem Trace.becomes : ∀ {s : RefreshStore} {es : List RefreshEvent}, s.Sound → Trace s es s' →
    ∀ {i : String} {r : RefreshRecord}, s.get? i = some r →
      ∃ r', s'.get? i = some r' ∧ r.Becomes r'
  | s, [], h, ht, i, r, hr => by
    obtain rfl : s' = s := ht
    exact ⟨r, hr, .refl r⟩
  | s, e :: es, h, ht, i, r, hr => by
    obtain ⟨now, s₁, hs, ht⟩ := ht
    have he := effect_of_step h hs
    obtain ⟨r₁, hr₁, hb₁⟩ := he.becomes hr
    obtain ⟨r₂, hr₂, hb₂⟩ := Trace.becomes (he.sound h) ht hr₁
    exact ⟨r₂, hr₂, hb₁.trans hb₂⟩

/-- A revoked record stays as it is. -/
theorem Trace.get?_of_isRevoked (h : s.Sound) (ht : Trace s es s') {i : String} {r : RefreshRecord}
    (hr : s.get? i = some r) (hrev : r.isRevoked = true) : s'.get? i = some r := by
  obtain ⟨r', hr', hb⟩ := Trace.becomes h ht hr
  rw [hr', hb.eq_of_isRevoked hrev]

/-- An active record that ends up revoked was revoked by a call that succeeded. -/
theorem Trace.exists_revoke : ∀ {s : RefreshStore} {es : List RefreshEvent}, s.Sound →
    Trace s es s' → ∀ {i : String} {r r' : RefreshRecord}, s.get? i = some r →
      r.isRevoked = false → s'.get? i = some r' → r'.isRevoked = true →
        .revoke i (.ok ()) ∈ es
  | s, [], h, ht, i, r, r', hr, hact, hr', hrev => by
    obtain rfl : s' = s := ht
    obtain rfl : r = r' := Option.some.inj (hr.symm.trans hr')
    rw [hact] at hrev
    cases hrev
  | s, e :: es, h, ht, i, r, r', hr, hact, hr', hrev => by
    obtain ⟨now, s₁, hs, ht⟩ := ht
    have he := effect_of_step h hs
    obtain ⟨r₁, hr₁, -⟩ := he.becomes hr
    cases hact₁ : r₁.isRevoked with
    | false =>
      exact List.mem_cons_of_mem _ (Trace.exists_revoke (he.sound h) ht hr₁ hact₁ hr' hrev)
    | true =>
      rw [he.eq_revoke hr hact hr₁ hact₁]
      exact List.mem_cons_self

end RefreshStore

end SignIn
