import SignIn.Proofs.Refresh.Agreement

/-!
# The history of a refresh store

A store is called, and the connection of a table may be closed (`RefreshAction`). On a closed
connection every call is refused and nothing changes (`serve_of_closed`), so that a closed table is
as sound as it was before (`reopen`).

What one action leaves behind (`Kept.act`) is carried through a run (`Kept.after`) : records are
only added, and the stamp of a record is set once, by a call that succeeds (`exists_of_mem`).

While the connection is open, the answers to one secret come in an order : unknown, good, expired,
revoked. `progress` numbers them, and the number of a later answer is never less
(`rank_le_of_becomes`).
-/

namespace SignIn

/-- What happens to a refresh store. -/
inductive RefreshAction where
  | call (request : RefreshRequest)
  /-- The connection is closed ; a memory has none. -/
  | close

/-- The call was answered with an error. -/
def RefreshEvent.Refused : RefreshEvent → Prop
  | .issue _ _ _ answer => ∃ e, answer = .error e
  | .validate _ answer => ∃ e, answer = .error e
  | .revoke _ answer => ∃ e, answer = .error e

namespace RefreshRecord

/-- The record is active, or its stamp is a second after the start of 1970. -/
def IsStamped (r : RefreshRecord) : Prop := r.revokedAt = 0 ∨ 1 ≤ r.revokedAt

theorem isRevoked_eq_false_iff {r : RefreshRecord} : r.isRevoked = false ↔ r.revokedAt = 0 := by
  simp [isRevoked]

theorem Becomes.isStamped {r r' : RefreshRecord} (h : r.Becomes r') (hr : r.IsStamped) :
    r'.IsStamped := by
  rcases h with rfl | ⟨-, now, rfl⟩
  · exact hr
  · exact Or.inr (Int.le_max_right now 1)

end RefreshRecord

namespace RefreshStore

variable {s s' : RefreshStore}

/-! ## Closed connections -/

/-- Closes the connection of a table. -/
def close : RefreshStore → RefreshStore
  | .memory m => .memory m
  | .table t => .table t.close

/-- The same records on an open connection. -/
def reopen : RefreshStore → RefreshStore
  | .memory m => .memory m
  | .table t => .table { t with isOpen := true }

/-- The store is a table whose connection is closed. -/
def IsClosed : RefreshStore → Prop
  | .memory _ => False
  | .table t => t.isOpen = false

@[simp] theorem records_reopen (s : RefreshStore) : s.reopen.records = s.records := by
  cases s <;> rfl

@[simp] theorem records_close (s : RefreshStore) : s.close.records = s.records := by
  cases s <;> rfl

@[simp] theorem reopen_close (s : RefreshStore) : s.close.reopen = s.reopen := by
  cases s <;> rfl

theorem reopen_of_not_isClosed (h : ¬s.IsClosed) : s.reopen = s := by
  cases s with
  | memory m => rfl
  | table t =>
    obtain ⟨rows, isOpen⟩ := t
    have hopen : isOpen = true := by simpa [IsClosed] using h
    rw [hopen]
    rfl

/-- A store whose connection is closed validates nothing. -/
theorem validate_of_closed (h : s.IsClosed) (now : Instant) (secret : String) :
    ∃ e, s.validate now secret = .error e := by
  cases s with
  | memory m => exact h.elim
  | table t =>
    obtain ⟨rows, isOpen⟩ := t
    obtain rfl : isOpen = false := h
    by_cases hs : secret = ""
    · rw [validate, RefreshTable.validate, if_pos hs]
      exact ⟨_, rfl⟩
    · rw [validate, RefreshTable.validate, if_neg hs]
      exact ⟨_, rfl⟩

/-- On a closed connection every call is refused and nothing changes. -/
theorem serve_of_closed (h : s.IsClosed) (now : Instant) (entropy : Entropy) (call : RefreshCall) :
    (s.serve now entropy call).1.Refused ∧ (s.serve now entropy call).2 = s := by
  cases s with
  | memory m => exact h.elim
  | table t =>
    cases call with
    | validate secret => exact ⟨validate_of_closed h now secret, rfl⟩
    | issue userId expires previous =>
      obtain ⟨rows, isOpen⟩ := t
      obtain rfl : isOpen = false := h
      exact ⟨⟨_, rfl⟩, rfl⟩
    | revoke tokenId =>
      obtain ⟨rows, isOpen⟩ := t
      obtain rfl : isOpen = false := h
      exact ⟨⟨_, rfl⟩, rfl⟩

theorem Sound.not_isClosed (h : s.Sound) : ¬s.IsClosed := by
  cases s with
  | memory m => exact id
  | table t =>
    intro hc
    have hopen : t.isOpen = true := RefreshTable.Consistent.isOpen h
    rw [hc] at hopen
    cases hopen

/-! ## One call -/

section Step

variable {now : Instant} {e : RefreshEvent}

/-- A call that is refused changes nothing. -/
theorem Effect.eq_of_refused (he : s.Effect now e s') (hr : e.Refused) : s' = s := by
  cases he with
  | issued entropy drawn free sound kind get =>
    obtain ⟨_, h⟩ := hr
    cases h
  | revoked found active sound kind get =>
    obtain ⟨_, h⟩ := hr
    cases h
  | duplicate | judged | unknown | alreadyRevoked => rfl

/-- Every record was there before, or is new and active. -/
theorem Effect.origin (he : s.Effect now e s') {i : String} {r' : RefreshRecord}
    (hr : s'.get? i = some r') : (∃ r, s.get? i = some r ∧ r.Becomes r') ∨ r'.revokedAt = 0 := by
  cases he with
  | issued entropy drawn free sound kind get =>
    rw [get] at hr
    split_ifs at hr
    · cases hr
      exact Or.inr rfl
    · exact Or.inl ⟨r', hr, .refl r'⟩
  | @revoked tokenId q s' found active sound kind get =>
    rw [get] at hr
    split_ifs at hr with hi
    · cases hr
      exact Or.inl ⟨q, hi ▸ found, Or.inr ⟨active, _, rfl⟩⟩
    · exact Or.inl ⟨r', hr, .refl r'⟩
  | duplicate | judged | unknown | alreadyRevoked => exact Or.inl ⟨r', hr, .refl r'⟩

end Step

/-! ## One action after another -/

/-- The store behind an action. -/
def act (s : RefreshStore) : RefreshAction → RefreshStore
  | .call q => (s.serve q.now q.entropy q.call).2
  | .close => s.close

/-- The store behind a run. -/
def after (s : RefreshStore) (actions : List RefreshAction) : RefreshStore := actions.foldl act s

/-- The store is sound while its connection is open, and the stamps are as they should be. -/
structure Kept (s : RefreshStore) : Prop where
  sound : s.reopen.Sound
  isStamped : ∀ r ∈ s.records, r.IsStamped

/-- What the call has to do with a record : it revokes it. -/
def Revokes (s : RefreshStore) (q : RefreshRequest) (r : RefreshRecord) : Prop :=
  (s.serve q.now q.entropy q.call).1 = .revoke r.tokenId (.ok ())

theorem kept_empty (b : Backend) : (empty b).Kept := by
  cases b with
  | memory => exact ⟨RefreshMemory.consistent_empty, fun r hr => absurd hr List.not_mem_nil⟩
  | sqlite => exact ⟨RefreshTable.consistent_empty, fun r hr => absurd hr List.not_mem_nil⟩

namespace Kept

/-- Either the connection is closed and nothing happens, or a sound store is called. -/
theorem effect (h : s.Kept) (q : RefreshRequest) :
    s.IsClosed ∨ s.Sound ∧ s.Effect q.now (s.serve q.now q.entropy q.call).1 (s.act (.call q)) := by
  by_cases hc : s.IsClosed
  · exact Or.inl hc
  · have hs := h.sound
    rw [reopen_of_not_isClosed hc] at hs
    exact Or.inr ⟨hs, effect_of_step hs ⟨q.entropy, q.call, rfl⟩⟩

/-- A call that is refused leaves the store as it was, closed or not. -/
theorem eq_of_refused (h : s.Kept) (q : RefreshRequest)
    (hr : (s.serve q.now q.entropy q.call).1.Refused) :
    (s.serve q.now q.entropy q.call).2 = s := by
  rcases h.effect q with hc | ⟨-, he⟩
  · exact (serve_of_closed hc q.now q.entropy q.call).2
  · exact he.eq_of_refused hr

/-- No two records share their id or their hash. -/
theorem pairwise_records (h : s.Kept) :
    s.records.Pairwise fun q r => q.tokenId ≠ r.tokenId ∧ q.tokenHash ≠ r.tokenHash := by
  have hs := h.sound
  have hnodup : s.records.Pairwise (· ≠ ·) := records_reopen s ▸ hs.nodup_records
  have hget : ∀ {r}, r ∈ s.records → s.reopen.get? r.tokenId = some r := fun {r} hr =>
    hs.mem_records_iff.1 ((records_reopen s).symm ▸ hr)
  refine hnodup.imp_of_mem fun {q r} hq hr hne => ⟨fun hid => hne ?_, fun hhash => hne ?_⟩
  · have hq := hget hq
    rw [hid, hget hr] at hq
    exact (Option.some.inj hq).symm
  · exact hs.eq_of_hash_eq (hget hq) (hget hr) hhash

/-- No action takes a store out of its good state, and none leaves a record without its stamp. -/
theorem act (h : s.Kept) : ∀ a : RefreshAction, (s.act a).Kept
  | .close => ⟨(reopen_close s).symm ▸ h.sound, (records_close s).symm ▸ h.isStamped⟩
  | .call q => by
    rcases h.effect q with hc | ⟨hs, he⟩
    · have hsame : s.act (.call q) = s := (serve_of_closed hc q.now q.entropy q.call).2
      rwa [hsame]
    · have hs' := he.sound hs
      refine ⟨(reopen_of_not_isClosed hs'.not_isClosed).symm ▸ hs', fun r' hr' => ?_⟩
      rcases he.origin (hs'.mem_records_iff.1 hr') with ⟨r, hr, hb⟩ | hnew
      · rw [← hs.tokenId_of_get? hr] at hr
        exact hb.isStamped (h.isStamped r (hs.mem_records_iff.2 hr))
      · exact Or.inl hnew

/-- A record is as it was, unless it was active and the action is a call that has revoked it. -/
theorem exists_of_act (h : s.Kept) (a : RefreshAction) {r : RefreshRecord} (hr : r ∈ s.records) :
    ∃ r' ∈ (s.act a).records, r' = r ∨ r.revokedAt = 0 ∧
      ∃ q, a = .call q ∧ s.Revokes q r ∧ r' = r.revoke q.now.seconds := by
  cases a with
  | close => exact ⟨r, (records_close s).symm ▸ hr, Or.inl rfl⟩
  | call q =>
    rcases h.effect q with hc | ⟨hs, he⟩
    · have hsame : s.act (.call q) = s := (serve_of_closed hc q.now q.entropy q.call).2
      exact ⟨r, hsame.symm ▸ hr, Or.inl rfl⟩
    · obtain ⟨r', hr', hb⟩ := he.exists_of_get? (hs.mem_records_iff.1 hr)
      have hs' := he.sound hs
      have hid := hs'.tokenId_of_get? hr'
      refine ⟨r', hs'.mem_records_iff.2 (hid.symm ▸ hr'), ?_⟩
      rcases hb with rfl | ⟨hact, he, rfl⟩
      · exact Or.inl rfl
      · exact Or.inr ⟨RefreshRecord.isRevoked_eq_false_iff.1 hact, q, rfl, he, rfl⟩

theorem after : ∀ (actions : List RefreshAction) {s : RefreshStore}, s.Kept → (s.after actions).Kept
  | [], _, h => h
  | a :: actions, _, h => Kept.after actions (h.act a)

/-- A record is as it was, unless it was active and one call of the run has revoked it. -/
theorem exists_of_mem : ∀ (actions : List RefreshAction) {s : RefreshStore}, s.Kept →
    ∀ {r : RefreshRecord}, r ∈ s.records → ∃ r' ∈ (s.after actions).records,
      r' = r ∨ r.revokedAt = 0 ∧ ∃ earlier q later, actions = earlier ++ .call q :: later ∧
        (s.after earlier).Revokes q r ∧ r' = r.revoke q.now.seconds
  | [], s, _, r, hr => ⟨r, hr, Or.inl rfl⟩
  | a :: actions, s, h, r, hr => by
    obtain ⟨r₁, hr₁, hact⟩ := h.exists_of_act a hr
    obtain ⟨r', hr', hrun⟩ := exists_of_mem actions (h.act a) hr₁
    refine ⟨r', hr', ?_⟩
    rcases hact with rfl | ⟨hzero, q, rfl, hq, rfl⟩
    · rcases hrun with rfl | ⟨hzero, earlier, q, later, rfl, hq, rfl⟩
      · exact Or.inl rfl
      · exact Or.inr ⟨hzero, a :: earlier, q, later, rfl, hq, rfl⟩
    · rcases hrun with rfl | ⟨hzero', -⟩
      · exact Or.inr ⟨hzero, [], q, actions, rfl, hq, rfl⟩
      · have hstamp : 1 ≤ (r.revoke q.now.seconds).revokedAt := Int.le_max_right _ _
        omega

end Kept

/-! ## Answers to one secret -/

/-- How far a secret has come, by the answer to it : unknown, good, expired, revoked. -/
def progress : Except RefreshError ValidRefresh → Option Nat
  | .error ⟨_, _, .notFound⟩ => some 0
  | .ok _ => some 1
  | .error ⟨_, _, .expired⟩ => some 2
  | .error ⟨_, _, .revoked⟩ => some 3
  | .error _ => none

/-- How far a record has come at a second. -/
def rank (now : Int) : Option RefreshRecord → Nat
  | none => 0
  | some r => if r.isRevoked then 3 else if r.expires ≤ now then 2 else 1

/-- How far a secret has come can be told from the answer about it. -/
theorem progress_validate (h : s.Sound) {secret : String} (hne : secret ≠ "") (now : Instant) :
    progress (s.validate now secret) = some (rank now.seconds (s.find? (fingerprint secret))) := by
  rw [validate_eq h, if_neg hne]
  cases s.find? (fingerprint secret) with
  | none => rfl
  | some r =>
    rw [RefreshRecord.judge, rank]
    split_ifs <;> rfl

/-- A record that stays or is revoked has come as far at any later second. -/
theorem rank_le_of_becomes {r r' : RefreshRecord} (h : r.Becomes r') {now now' : Int}
    (hle : now ≤ now') : rank now (some r) ≤ rank now' (some r') := by
  rcases h with rfl | ⟨-, stamp, rfl⟩
  · simp only [rank]
    split_ifs <;> omega
  · simp only [rank, r.isRevoked_revoke stamp, if_true]
    split_ifs <;> omega

/-- Requests in any order are a trace of the store. -/
theorem exists_trace : ∀ (rs : List RefreshRequest) (s : RefreshStore),
    ∃ es, Trace s es (s.after (rs.map .call))
  | [], _ => ⟨[], rfl⟩
  | q :: rs, s => by
    obtain ⟨es, ht⟩ := exists_trace rs (s.act (.call q))
    exact ⟨_ :: es, q.now, _, ⟨q.entropy, q.call, rfl⟩, ht⟩

/-- Through a run of calls a secret comes no less far. -/
theorem rank_le_after (h : s.Sound) (rs : List RefreshRequest) (k : String) {now now' : Int}
    (hle : now ≤ now') :
    rank now (s.find? k) ≤ rank now' ((s.after (rs.map .call)).find? k) := by
  obtain ⟨es, ht⟩ := exists_trace rs s
  cases hk : s.find? k with
  | none => exact Nat.zero_le _
  | some r =>
    obtain ⟨hr, rfl⟩ := h.find?_eq_some_iff.1 hk
    obtain ⟨r', hr', hb⟩ := ht.becomes h hr
    rw [← hb.tokenHash_eq, (ht.sound h).find?_of_get? hr']
    exact rank_le_of_becomes hb hle

/-- Records are only added. At any moment of any history of either store a record differs from the
others in id and in hash, its stamp is 0 or a second after the start of 1970, and from then on it is
found with all its fields. Only its stamp may differ, if it was 0, and then one successful call has
revoked it at the second it says, or at 1. A call that is refused leaves the store as it was.

While connections stay open, the answer to a secret at a later instant never goes back in the order
of unknown, good, expired and revoked. -/
theorem records_are_append_only (b : Backend) :
    (∀ earlier later : List RefreshAction,
      let s := (empty b).after earlier
      (∀ r ∈ s.records, (r.revokedAt = 0 ∨ 1 ≤ r.revokedAt) ∧
        ∃ r' ∈ (s.after later).records, r' = r ∨ r.revokedAt = 0 ∧
          ∃ before q behind, later = before ++ .call q :: behind ∧
            ((s.after before).serve q.now q.entropy q.call).1 = .revoke r.tokenId (.ok ()) ∧
            r' = { r with revokedAt := max q.now.seconds 1 }) ∧
      s.records.Pairwise (fun q r => q.tokenId ≠ r.tokenId ∧ q.tokenHash ≠ r.tokenHash) ∧
      ∀ q : RefreshRequest, (s.serve q.now q.entropy q.call).1.Refused →
        (s.serve q.now q.entropy q.call).2 = s) ∧
    ∀ (earlier later : List RefreshRequest) (secret : String) (t t' : Instant),
      secret ≠ "" → t ≤ t' →
      let s := (empty b).after (earlier.map .call)
      ∃ m n, progress (s.validate t secret) = some m ∧
        progress ((s.after (later.map .call)).validate t' secret) = some n ∧ m ≤ n := by
  refine ⟨fun earlier later => ?_, fun earlier later secret t t' hne hle => ?_⟩
  · have hkept := Kept.after earlier (kept_empty b)
    refine ⟨fun r hr => ⟨hkept.isStamped r hr, hkept.exists_of_mem later hr⟩,
      hkept.pairwise_records, hkept.eq_of_refused⟩
  · obtain ⟨es, ht⟩ := exists_trace earlier (empty b)
    have hs := ht.sound (sound_empty b)
    obtain ⟨fs, ht'⟩ := exists_trace later ((empty b).after (earlier.map .call))
    exact ⟨_, _, progress_validate hs hne t, progress_validate (ht'.sound hs) hne t',
      rank_le_after hs later _ (Instant.seconds_le_seconds hle)⟩

end RefreshStore

end SignIn
