import SignIn.Proofs.Refresh.Runs

/-!
# Secrets over time

A secret `Names` the record that stands under its fingerprint. Once it does, it names this record
for good, and no other (`Names.trace`, `Names.unique`), and once the record is revoked, it stays so
(`Revoked.trace`). So the answers of a store come in an order : of the calls that revoke one record,
only the first succeeds (`Revoked.not_mem`), and after it the secret of the record is refused as
revoked (`Names.eq_of_mem`). Such a secret is `Spent`, and it is as soon as its record was to be
revoked by anyone who had found it good (`Trace.spent`).
-/

namespace SignIn

namespace RefreshStore

variable {s s' : RefreshStore} {now : Instant} {secret i j : String} {es : List RefreshEvent}

/-- The secret belongs to the record with the id. -/
def Names (s : RefreshStore) (secret i : String) : Prop :=
  ∃ r, s.get? i = some r ∧ r.tokenHash = fingerprint secret

/-- The record with the id is there and can be used. -/
def Active (s : RefreshStore) (i : String) : Prop := ∃ r, s.get? i = some r ∧ r.isRevoked = false

/-- The record with the id is there and is revoked. -/
def Revoked (s : RefreshStore) (i : String) : Prop := ∃ r, s.get? i = some r ∧ r.isRevoked = true

/-- A record is not both active and revoked. -/
theorem Active.not_revoked (h : s.Active i) : ¬s.Revoked i := by
  rintro ⟨r, hr, hrev⟩
  obtain ⟨q, hq, hact⟩ := h
  rw [Option.some.inj (hr.symm.trans hq), hact] at hrev
  cases hrev

/-! ## What stays -/

/-- A secret names one record. -/
theorem Names.unique (hs : s.Sound) (h : s.Names secret i) (h' : s.Names secret j) : i = j := by
  obtain ⟨q, hq, hhash⟩ := h
  obtain ⟨r, hr, hhash'⟩ := h'
  rw [← hs.tokenId_of_get? hq, ← hs.tokenId_of_get? hr,
    hs.eq_of_hash_eq hq hr (hhash.trans hhash'.symm)]

/-- It names this record ever after. -/
theorem Names.trace (hs : s.Sound) (h : s.Names secret i) (ht : Trace s es s') :
    s'.Names secret i := by
  obtain ⟨r, hr, hhash⟩ := h
  obtain ⟨r', hr', hb⟩ := ht.becomes hs hr
  exact ⟨r', hr', hb.tokenHash_eq.trans hhash⟩

/-- A secret that names a record in the end names it as soon as it is there. -/
theorem Names.of_trace (hs : s.Sound) (hr : s.Revoked i) (ht : Trace s es s')
    (h : s'.Names secret i) : s.Names secret i := by
  obtain ⟨r, hr, hrev⟩ := hr
  obtain ⟨r', hr', hhash⟩ := h
  obtain rfl := Option.some.inj ((ht.get?_of_isRevoked hs hr hrev).symm.trans hr')
  exact ⟨r, hr, hhash⟩

/-- A record that is revoked is revoked ever after. -/
theorem Revoked.trace (hs : s.Sound) (h : s.Revoked i) (ht : Trace s es s') : s'.Revoked i := by
  obtain ⟨r, hr, hrev⟩ := h
  exact ⟨r, ht.get?_of_isRevoked hs hr hrev, hrev⟩

/-! ## What an answer says about the store -/

/-- A secret that is good names an active record, which has not expired. -/
theorem judge_eq_ok {v : ValidRefresh} (hs : s.Sound) (h : s.judge now secret = .ok v) :
    secret ≠ "" ∧ ∃ r, s.get? v.tokenId = some r ∧ r.tokenHash = fingerprint secret ∧
      r.isRevoked = false ∧ now.seconds < r.expires ∧ v = ⟨r.userId, r.tokenId, r.expires⟩ := by
  unfold judge at h
  split_ifs at h with hne
  · cases h
  · refine ⟨hne, ?_⟩
    cases hf : s.find? (fingerprint secret) with
    | none =>
      rw [hf] at h
      cases h
    | some r =>
      rw [hf, RefreshRecord.judge] at h
      obtain ⟨hget, hhash⟩ := hs.find?_eq_some_iff.1 hf
      split_ifs at h with hrev hexp
      · cases h
      · cases h
      · cases h
        exact ⟨r, hget, hhash, by simpa using hrev, by omega, rfl⟩

/-- The secret of a revoked record is refused as revoked, expired or not. -/
theorem judge_of_revoked (hs : s.Sound) (hne : secret ≠ "") (hn : s.Names secret i)
    (hr : s.Revoked i) : s.judge now secret = .error (s.fail .validate .revoked) := by
  obtain ⟨r, hr, hrev⟩ := hr
  obtain ⟨q, hq, hhash⟩ := hn
  obtain rfl : r = q := Option.some.inj (hr.symm.trans hq)
  rw [judge, if_neg hne, ← hhash, hs.find?_of_get? hr, RefreshRecord.judge, if_pos hrev]
  rfl

/-- A validation answers what the store says of the secret, and changes nothing. -/
theorem Step.validate_eq {a : Except RefreshError ValidRefresh} (hs : s.Sound)
    (h : s.Step now (.validate secret a) s') : s' = s ∧ a = s.judge now secret := by
  cases effect_of_step hs h
  exact ⟨rfl, rfl⟩

/-- A secret that is good names an active record. -/
theorem Step.active_of_validate {v : ValidRefresh} (hs : s.Sound)
    (h : s.Step now (.validate secret (.ok v)) s') :
    s' = s ∧ secret ≠ "" ∧ s.Names secret v.tokenId ∧ s.Active v.tokenId := by
  obtain ⟨rfl, hv⟩ := h.validate_eq hs
  obtain ⟨hne, r, hr, hhash, hact, -⟩ := judge_eq_ok hs hv.symm
  exact ⟨rfl, hne, ⟨r, hr, hhash⟩, r, hr, hact⟩

/-- A revocation that succeeds finds the record active and leaves it revoked. -/
theorem Step.active_of_revoke (hs : s.Sound) (h : s.Step now (.revoke i (.ok ())) s') :
    s.Active i ∧ s'.Revoked i := by
  cases effect_of_step hs h with
  | @revoked i r s' found active sound kind get =>
    exact ⟨⟨r, found, active⟩, r.revoke now.seconds, by rw [get, if_pos rfl],
      r.isRevoked_revoke now.seconds⟩

/-- One that comes too late finds it revoked. -/
theorem Step.revoked_of_alreadyRevoked {e : RefreshError} (hs : s.Sound)
    (h : s.Step now (.revoke i (.error e)) s') (he : e.cause = .alreadyRevoked) : s.Revoked i := by
  cases effect_of_step hs h with
  | unknown unfound => cases he
  | @alreadyRevoked i r found revoked => exact ⟨r, found, revoked⟩

/-! ## In which order answers come -/

/-- A trace stops at each of its calls. -/
theorem Trace.of_mem {e : RefreshEvent} (ht : Trace s es s') (he : e ∈ es) :
    ∃ fs gs now s₁ s₂, es = fs ++ e :: gs ∧ Trace s fs s₁ ∧ s₁.Step now e s₂ ∧ Trace s₂ gs s' := by
  obtain ⟨fs, gs, rfl⟩ := List.append_of_mem he
  obtain ⟨s₁, h₁, now, s₂, hs, h₂⟩ := trace_append.1 ht
  exact ⟨fs, gs, now, s₁, s₂, rfl, h₁, hs, h₂⟩

/-- A secret that was good at some call names its record ever after. -/
theorem Trace.names_of_mem {v : ValidRefresh} (hs : s.Sound) (ht : Trace s es s')
    (hv : .validate secret (.ok v) ∈ es) : secret ≠ "" ∧ s'.Names secret v.tokenId := by
  obtain ⟨fs, gs, now, s₁, s₂, rfl, h₁, hstep, h₂⟩ := ht.of_mem hv
  have hs₁ := h₁.sound hs
  obtain ⟨rfl, hne, hn, -⟩ := hstep.active_of_validate hs₁
  exact ⟨hne, hn.trace hs₁ h₂⟩

/-- No call revokes a record once more. -/
theorem Revoked.not_mem (hs : s.Sound) (h : s.Revoked i) (ht : Trace s es s') :
    .revoke i (.ok ()) ∉ es := by
  intro hr
  obtain ⟨fs, gs, now, s₁, s₂, rfl, h₁, hstep, -⟩ := ht.of_mem hr
  exact (hstep.active_of_revoke (h₁.sound hs)).1.not_revoked (h.trace hs h₁)

/-- The secret of a revoked record is refused. -/
theorem Names.eq_of_mem {a : Except RefreshError ValidRefresh} (hs : s.Sound) (hne : secret ≠ "")
    (hn : s.Names secret i) (hr : s.Revoked i) (ht : Trace s es s') (ha : .validate secret a ∈ es) :
    a = .error (s.fail .validate .revoked) := by
  obtain ⟨fs, gs, now, s₁, s₂, rfl, h₁, hstep, -⟩ := ht.of_mem ha
  have hs₁ := h₁.sound hs
  rw [(hstep.validate_eq hs₁).2, judge_of_revoked hs₁ hne (hn.trace hs h₁) (hr.trace hs h₁), fail,
    fail, h₁.backend_eq hs]

/-- Between a call that finds a record active and a call that finds it revoked, a call revokes
it. -/
theorem Trace.revoke_mem {e : RefreshError} (hs : s.Sound) (ha : s.Active i) (ht : Trace s es s')
    {s₁ : RefreshStore} (hstep : s'.Step now (.revoke i (.error e)) s₁)
    (he : e.cause = .alreadyRevoked) : .revoke i (.ok ()) ∈ es := by
  obtain ⟨r, hr, hact⟩ := ha
  obtain ⟨r', hr', hrev⟩ := hstep.revoked_of_alreadyRevoked (ht.sound hs) he
  exact ht.exists_revoke hs hr hact hr' hrev

/-! ## Spent secrets -/

/-- The secret belongs to a record that is revoked. -/
def Spent (s : RefreshStore) (secret : String) : Prop :=
  secret ≠ "" ∧ ∃ i, s.Names secret i ∧ s.Revoked i

/-- After a call to revoke a record that is there, the record is revoked, whatever the answer. -/
theorem Step.revoked_of_revoke {a : Except RefreshError Unit} (hs : s.Sound)
    (h : s.Step now (.revoke i a) s') (hi : s.get? i ≠ none) : s'.Revoked i := by
  cases effect_of_step hs h with
  | @revoked i r s' found active sound kind get =>
    exact ⟨r.revoke now.seconds, by rw [get, if_pos rfl], r.isRevoked_revoke now.seconds⟩
  | unknown unfound => exact absurd unfound hi
  | @alreadyRevoked i r found revoked => exact ⟨r, found, revoked⟩

/-- A secret that was found good and whose record was then to be revoked is spent. -/
theorem Trace.spent {v : ValidRefresh} {a : Except RefreshError Unit} (hs : s.Sound)
    (ht : Trace s es s')
    (hsub : [.validate secret (.ok v), .revoke v.tokenId a].Sublist es) : s'.Spent secret := by
  obtain ⟨fs, gs, rfl, hv, hr⟩ := List.cons_sublist_iff.1 hsub
  obtain ⟨s₁, h₁, h₂⟩ := trace_append.1 ht
  obtain ⟨hne, hn⟩ := h₁.names_of_mem hs hv
  have hs₁ := h₁.sound hs
  obtain ⟨gs₁, gs₂, now, s₂, s₃, rfl, h₃, hstep, h₄⟩ := h₂.of_mem (List.singleton_sublist.1 hr)
  have hs₂ := h₃.sound hs₁
  obtain ⟨r, hr, -⟩ := hn.trace hs₁ h₃
  have hrev := hstep.revoked_of_revoke hs₂ (by rw [hr]; exact Option.some_ne_none r)
  have hs₃ := (effect_of_step hs₂ hstep).sound hs₂
  exact ⟨hne, v.tokenId, hn.trace hs₁ h₂, hrev.trace hs₃ h₄⟩

/-- A spent secret is refused as revoked at every later call. -/
theorem Spent.eq_of_mem {a : Except RefreshError ValidRefresh} (hs : s.Sound) (h : s.Spent secret)
    (ht : Trace s es s') (ha : .validate secret a ∈ es) :
    a = .error (s.fail .validate .revoked) := by
  obtain ⟨hne, i, hn, hr⟩ := h
  exact hn.eq_of_mem hs hne hr ht ha

end RefreshStore

end SignIn
