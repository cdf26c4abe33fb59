import SignIn.Proofs.Refresh.Secrets

/-!
# Lookups in a refresh store

A record is looked up by its id (`get?`) or by its hash (`find?`), and the calls look at a record or
two and at nothing else. To issue a token is to put its record where nobody is found by its id and
its hash (`find?_issue_of_free`), and is refused otherwise (`issue_of_taken`). To revoke a token is
to change its record (`get?_revoke`, `find?_revoke`).

Stores of one kind that agree in what a call looks at therefore answer it alike and agree in it
afterwards (`issue_alike`, `validate_congr`, `revoke_congr`).
-/

namespace SignIn

namespace RefreshStore

variable {s s' : RefreshStore}

/-- Records that are changed, but for their ids and hashes. -/
theorem find?_of_map (h : s.Sound) (h' : s'.Sound) {f : RefreshRecord → RefreshRecord}
    (hid : ∀ r, (f r).tokenId = r.tokenId) (hhash : ∀ r, (f r).tokenHash = r.tokenHash)
    (hget : ∀ i, s'.get? i = (s.get? i).map f) (k : String) : s'.find? k = (s.find? k).map f := by
  ext q
  rw [h'.find?_eq_some_iff, hget, Option.map_eq_some_iff, Option.map_eq_some_iff]
  constructor
  · rintro ⟨⟨r, hr, rfl⟩, rfl⟩
    rw [hid] at hr
    exact ⟨r, h.find?_eq_some_iff.2 ⟨hr, (hhash r).symm⟩, rfl⟩
  · rintro ⟨r, hr, rfl⟩
    obtain ⟨hr, rfl⟩ := h.find?_eq_some_iff.1 hr
    exact ⟨⟨r, by rwa [hid], rfl⟩, hhash r⟩

section Issue

variable (now : Instant) (entropy : Entropy) (userId : String) (expires : Int) (previous : String)

/-- Issuing a token uses up the same random bytes, whether it goes in or not. -/
theorem entropy_issue (s : RefreshStore) :
    (s.issue now entropy userId expires previous).2.2 = (IssuedRefresh.draw now entropy).2 := by
  simp only [issue]
  split <;> rfl

/-- A token that is in use is not issued. -/
theorem issue_of_taken (h : s.Sound)
    (hr : s.Taken ((IssuedRefresh.draw now entropy).1.record now userId expires previous)) :
    s.issue now entropy userId expires previous =
      (.error (s.fail .issue .duplicate), s, (IssuedRefresh.draw now entropy).2) := by
  simp only [issue]
  rw [insert_of_taken h hr]

/-- A token that is issued goes into the two places drawn for it. -/
theorem find?_issue_of_free (h : s.Sound)
    (hr : ¬s.Taken ((IssuedRefresh.draw now entropy).1.record now userId expires previous))
    (k : String) :
    (s.issue now entropy userId expires previous).2.1.find? k =
      if k = fingerprint (IssuedRefresh.draw now entropy).1.secret then
        some ((IssuedRefresh.draw now entropy).1.record now userId expires previous)
      else s.find? k := by
  obtain ⟨s', hissue, hsound, -, hget⟩ := issue_of_free h hr
  rw [hissue]
  generalize (IssuedRefresh.draw now entropy).1 = issued at hr hget ⊢
  split_ifs with hk
  · rw [hsound.find?_eq_some_iff, hget, hk]
    exact ⟨if_pos rfl, rfl⟩
  · ext q
    rw [hsound.find?_eq_some_iff, h.find?_eq_some_iff, hget]
    split_ifs with hi
    · constructor
      · rintro ⟨heq, hhash⟩
        obtain rfl := Option.some.inj heq
        exact absurd hhash.symm hk
      · rintro ⟨hq, -⟩
        exact absurd hi (ne_tokenId_of_free hr hq)
    · rfl

/-- A record that is there stays when a token is issued. -/
theorem get?_issue_of_some (h : s.Sound) {i : String} {r : RefreshRecord} (hr : s.get? i = some r) :
    (s.issue now entropy userId expires previous).2.1.get? i = some r := by
  by_cases ht : s.Taken ((IssuedRefresh.draw now entropy).1.record now userId expires previous)
  · rw [issue_of_taken _ _ _ _ _ h ht, hr]
  · obtain ⟨s', hissue, -, -, hget⟩ := issue_of_free h ht
    rw [hissue, hget, if_neg (ne_tokenId_of_free ht hr), hr]

end Issue

/-- A secret that is good is that of a record. -/
theorem exists_of_validate (h : s.Sound) {now : Instant} {secret : String} {v : ValidRefresh}
    (hv : s.validate now secret = .ok v) :
    ∃ r, s.find? (fingerprint secret) = some r ∧ v = ⟨r.userId, r.tokenId, r.expires⟩ := by
  obtain ⟨-, r, hr, hhash, -, -, heq⟩ := judge_eq_ok h ((validate_eq h now secret).symm.trans hv)
  exact ⟨r, by rw [← hhash, h.find?_of_get? hr], heq⟩

/-- The record, revoked if it has the id. -/
def ended (now : Instant) (id : String) (r : RefreshRecord) : RefreshRecord :=
  if r.tokenId = id ∧ r.isRevoked = false then r.revoke now.seconds else r

theorem tokenId_ended (now : Instant) (id : String) (r : RefreshRecord) :
    (ended now id r).tokenId = r.tokenId := by
  unfold ended
  split_ifs <;> rfl

theorem tokenHash_ended (now : Instant) (id : String) (r : RefreshRecord) :
    (ended now id r).tokenHash = r.tokenHash := by
  unfold ended
  split_ifs <;> rfl

/-- To revoke a token changes its record, if there is one. -/
theorem get?_revoke (h : s.Sound) (now : Instant) (id i : String) :
    (s.revoke now id).2.get? i = (s.get? i).map (ended now id) := by
  have hother : ∀ {r}, s.get? i = some r → i ≠ id → ended now id r = r := fun hr hi =>
    if_neg fun hc => hi ((h.tokenId_of_get? hr).symm.trans hc.1)
  cases hid : s.get? id with
  | none =>
    rw [revoke_of_none h now hid]
    cases hr : s.get? i with
    | none => rfl
    | some r =>
      rw [Option.map_some, hother hr]
      rintro rfl
      rw [hid] at hr
      cases hr
  | some q =>
    cases hq : q.isRevoked with
    | true =>
      rw [revoke_of_revoked h now hid hq]
      cases hr : s.get? i with
      | none => rfl
      | some r =>
        rw [Option.map_some, ended, if_neg]
        rintro ⟨hc, hact⟩
        rw [← hc, h.tokenId_of_get? hr, hr] at hid
        rw [Option.some.inj hid, hq] at hact
        cases hact
    | false =>
      obtain ⟨s', hrevoke, -, -, hget⟩ := revoke_of_active h now hid hq
      rw [hrevoke, hget]
      split_ifs with hi
      · rw [hi, hid, Option.map_some, ended, if_pos ⟨h.tokenId_of_get? hid, hq⟩]
      · cases hr : s.get? i with
        | none => rfl
        | some r => rw [Option.map_some, hother hr hi]

/-- The answer to a revocation says what is in the place of the token. -/
theorem revoke_eq (h : s.Sound) (now : Instant) (id : String) : (s.revoke now id).1 =
    match s.get? id with
    | none => .error (s.fail .revoke .notFound)
    | some r => if r.isRevoked then .error (s.fail .revoke .alreadyRevoked) else .ok () := by
  cases hid : s.get? id with
  | none => rw [revoke_of_none h now hid]
  | some r =>
    cases hr : r.isRevoked with
    | true =>
      rw [revoke_of_revoked h now hid hr]
      simp only [hr, if_true]
    | false =>
      obtain ⟨s', hrevoke, -⟩ := revoke_of_active h now hid hr
      rw [hrevoke]
      simp only [hr, Bool.false_eq_true, if_false]

/-! Stores of one kind that agree in what a call looks at. -/

variable {t : RefreshStore}

theorem taken_congr {r : RefreshRecord} (hget : s.get? r.tokenId = t.get? r.tokenId)
    (hfind : s.find? r.tokenHash = t.find? r.tokenHash) : s.Taken r ↔ t.Taken r := by
  rw [Taken, Taken, hget, hfind]

/-- Two sound stores that agree on what is drawn answer alike, and agree on it afterwards. -/
theorem issue_alike (hs : s.Sound) (ht : t.Sound) (hb : s.backend = t.backend) (now : Instant)
    (entropy : Entropy) (userId : String) (expires : Int) (previous : String)
    {issued : IssuedRefresh}
    (hdraw : (IssuedRefresh.draw now entropy).1 = issued)
    (hget : s.get? issued.tokenId = t.get? issued.tokenId)
    (hfind : s.find? (fingerprint issued.secret) = t.find? (fingerprint issued.secret)) :
    (s.issue now entropy userId expires previous).1 =
        (t.issue now entropy userId expires previous).1 ∧
      (s.issue now entropy userId expires previous).2.1.get? issued.tokenId =
        (t.issue now entropy userId expires previous).2.1.get? issued.tokenId ∧
      (s.issue now entropy userId expires previous).2.1.find? (fingerprint issued.secret) =
        (t.issue now entropy userId expires previous).2.1.find? (fingerprint issued.secret) := by
  have htaken : s.Taken (issued.record now userId expires previous) ↔
    t.Taken (issued.record now userId expires previous) := taken_congr hget hfind
  subst hdraw
  by_cases hr : s.Taken ((IssuedRefresh.draw now entropy).1.record now userId expires previous)
  · rw [issue_of_taken _ _ _ _ _ hs hr, issue_of_taken _ _ _ _ _ ht (htaken.1 hr), fail, fail, hb]
    exact ⟨rfl, hget, hfind⟩
  · have hr' := mt htaken.2 hr
    rw [find?_issue_of_free _ _ _ _ _ hs hr, find?_issue_of_free _ _ _ _ _ ht hr', if_pos rfl,
      if_pos rfl]
    obtain ⟨s₁, hs₁, -, -, hgets⟩ := issue_of_free hs hr
    obtain ⟨t₁, ht₁, -, -, hgett⟩ := issue_of_free ht hr'
    rw [hs₁, ht₁, hgets, hgett, if_pos rfl, if_pos rfl]
    exact ⟨rfl, rfl, rfl⟩

/-- What is said of a secret depends on the record with its hash and on nothing else. -/
theorem validate_congr (hs : s.Sound) (ht : t.Sound) (hb : s.backend = t.backend) (now : Instant)
    {secret : String} (hfind : s.find? (fingerprint secret) = t.find? (fingerprint secret)) :
    s.validate now secret = t.validate now secret := by
  have hfail : s.fail = t.fail := by
    funext operation cause
    rw [fail, fail, hb]
  rw [validate_eq hs, validate_eq ht, hfind, hfail]

/-- What is answered to a revocation depends on the record with this id and on nothing else. -/
theorem revoke_congr (hs : s.Sound) (ht : t.Sound) (hb : s.backend = t.backend) (now : Instant)
    {id : String} (hget : s.get? id = t.get? id) : (s.revoke now id).1 = (t.revoke now id).1 := by
  rw [revoke_eq hs, revoke_eq ht, hget, fail, fail, fail, fail, hb]

/-- A revocation stamps the record of this id wherever it is found, and moves none. -/
theorem find?_revoke (h : s.Sound) (now : Instant) (id k : String) :
    (s.revoke now id).2.find? k = (s.find? k).map (ended now id) := by
  have hstep : s.Step now (.revoke id (s.revoke now id).1) (s.revoke now id).2 :=
    ⟨⟨[], 0⟩, .revoke id, rfl⟩
  have hsound : (s.revoke now id).2.Sound := (effect_of_step h hstep).sound h
  exact find?_of_map h hsound (tokenId_ended now id) (tokenHash_ended now id)
    (get?_revoke h now id) k

end RefreshStore

end SignIn
