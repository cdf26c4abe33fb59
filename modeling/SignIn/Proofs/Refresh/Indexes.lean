import SignIn.Proofs.Refresh.History
import SignIn.Proofs.Refresh.Lookups

/-!
# The two indexes of a memory

A memory finds a record by its id, and the id by the hash of its secret. The two dictionaries are
written one after the other, and a revocation writes to the first alone, but read the other way
round they have the same entries (`RefreshMemory.Consistent.perm_byHash`). So they have the same
size, a secret is unknown only if no record has its hash, and an id that a secret has led to is that
of a record, which stays (`RefreshMemory.indexes_stay_in_step`).
-/

namespace SignIn

namespace RefreshMemory

variable {m : RefreshMemory}

/-- An entry by hash is there for each record by id, and for nothing else. -/
theorem Consistent.mem_byHash_iff (h : m.Consistent) {k i : String} :
    (k, i) ∈ m.byHash.entries ↔ ∃ r, (i, r) ∈ m.byId.entries ∧ r.tokenHash = k := by
  rw [← Dict.get?_eq_some_iff h.hashesDistinct]
  constructor
  · intro hi
    obtain ⟨r, hr, hk⟩ := h.idOfHash hi
    exact ⟨r, (Dict.get?_eq_some_iff h.idsDistinct).1 hr, hk⟩
  · rintro ⟨r, hr, rfl⟩
    exact h.hashOfId ((Dict.get?_eq_some_iff h.idsDistinct).2 hr)

/-- The ids by hash are the records by id, read the other way round. -/
theorem Consistent.perm_byHash (h : m.Consistent) :
    (m.byId.entries.map fun e => (e.2.tokenHash, e.1)).Perm m.byHash.entries := by
  have hids : (m.byId.entries.map fun e => (e.2.tokenHash, e.1)).Nodup :=
    List.pairwise_map.2 (h.idsDistinct.imp fun hne heq => hne (congrArg Prod.snd heq))
  have hhashes : m.byHash.entries.Nodup :=
    h.hashesDistinct.imp fun hne heq => hne (congrArg Prod.fst heq)
  -- no entry stands twice in either, so it is enough that they have the same ones
  refine (List.perm_ext_iff_of_nodup hids hhashes).2 fun ⟨k, i⟩ => ?_
  rw [h.mem_byHash_iff, List.mem_map]
  constructor
  · rintro ⟨⟨j, r⟩, hr, heq⟩
    obtain ⟨rfl, rfl⟩ := Prod.mk.inj heq
    exact ⟨r, hr, rfl⟩
  · rintro ⟨r, hr, rfl⟩
    exact ⟨(i, r), hr, rfl⟩

/-- The two dictionaries are of one size. -/
theorem Consistent.size_eq (h : m.Consistent) : m.byId.size = m.byHash.size := by
  have hlength := h.perm_byHash.length_eq
  rwa [List.length_map] at hlength

end RefreshMemory

namespace RefreshStore

variable {s : RefreshStore}

/-- A hash is not found if and only if no record has it. -/
theorem find?_eq_none_iff (h : s.Sound) (k : String) :
    s.find? k = none ↔ ∀ r ∈ s.records, r.tokenHash ≠ k := by
  simp only [Option.eq_none_iff_forall_ne_some, ne_eq, h.find?_eq_some_iff, h.mem_records_iff,
    not_and]

/-- A secret is unknown only if no record has its hash. -/
theorem validate_eq_notFound_iff (h : s.Sound) (now : Instant) (secret : String) :
    s.validate now secret = .error (s.fail .validate .notFound) ↔
      secret ≠ "" ∧ ∀ r ∈ s.records, r.tokenHash ≠ fingerprint secret := by
  rw [validate_eq h, ← find?_eq_none_iff h]
  split_ifs with hempty
  · simp [hempty, Except.mapError, fail]
  · cases s.find? (fingerprint secret) with
    | none => simp [hempty, RefreshRecord.judge, Except.mapError]
    | some r =>
      have hjudge : RefreshRecord.judge now.seconds (some r) ≠ .error .notFound := by
        rw [RefreshRecord.judge]
        split_ifs <;> simp
      cases hanswer : RefreshRecord.judge now.seconds (some r) with
      | error cause =>
        rw [hanswer] at hjudge
        simpa [Except.mapError, fail] using hjudge
      | ok v => simp [Except.mapError]

/-- An id that a secret has led to is that of an active record. -/
theorem revoke_of_validate (h : s.Sound) {now : Instant} {secret : String} {v : ValidRefresh}
    (hv : s.validate now secret = .ok v) (now' : Instant) :
    (s.revoke now' v.tokenId).1 = .ok () := by
  obtain ⟨-, r, hr, -, hactive, -, rfl⟩ := judge_eq_ok h ((validate_eq h now secret).symm.trans hv)
  obtain ⟨s', hrevoke, -⟩ := revoke_of_active h now' hr hactive
  rw [hrevoke]

/-- The id of a record is found at any later time. -/
theorem revoke_ne_notFound (h : s.Sound) {i : String} {r : RefreshRecord} (hr : s.get? i = some r)
    (later : List RefreshRequest) (now : Instant) :
    ((s.after (later.map .call)).revoke now i).1 ≠ .error (s.fail .revoke .notFound) := by
  obtain ⟨es, ht⟩ := exists_trace later s
  obtain ⟨r', hr', -⟩ := ht.becomes h hr
  rw [revoke_eq (ht.sound h), hr']
  dsimp only
  split_ifs <;> simp [fail]

end RefreshStore

namespace RefreshMemory

open RefreshStore

/-- The two indexes of a memory stay in step. Whatever it was asked so far, no key stands twice in
either ; each record stands under its own id, and under its hash there is this id ; each hash leads
to a record with this hash ; and the two have the same size. So a secret, unless it is empty, is
unknown if and only if no record has its hash. An id that a secret has led to can be revoked, and
whatever happens in between, it is never unknown. -/
theorem indexes_stay_in_step (run : List RefreshRequest) :
    ∃ m, (RefreshStore.empty .memory).after (run.map .call) = .memory m ∧
      m.byId.Distinct ∧ m.byHash.Distinct ∧
      (∀ i r, (i, r) ∈ m.byId.entries → r.tokenId = i ∧ m.byHash.get? r.tokenHash = some i) ∧
      (∀ k i, (k, i) ∈ m.byHash.entries → ∃ r, m.byId.get? i = some r ∧ r.tokenHash = k) ∧
      m.byId.size = m.byHash.size ∧
      (∀ now secret, (memory m).validate now secret = .error ⟨.memory, .validate, .notFound⟩ ↔
        secret ≠ "" ∧ ∀ i r, (i, r) ∈ m.byId.entries → r.tokenHash ≠ fingerprint secret) ∧
      ∀ now secret v, (memory m).validate now secret = .ok v →
        (∀ now', ((memory m).revoke now' v.tokenId).1 = .ok ()) ∧
        ∀ (later : List RefreshRequest) now',
          (((memory m).after (later.map .call)).revoke now' v.tokenId).1 ≠
            .error ⟨.memory, .revoke, .notFound⟩ := by
  obtain ⟨es, ht⟩ := exists_trace run (RefreshStore.empty .memory)
  have hs := ht.sound (sound_empty .memory)
  have hkind := ht.backend_eq (sound_empty .memory)
  cases hafter : (RefreshStore.empty .memory).after (run.map .call) with
  | table t =>
    rw [hafter] at hkind
    cases hkind
  | memory m =>
    rw [hafter] at hs
    have h : m.Consistent := hs
    refine ⟨m, rfl, h.idsDistinct, h.hashesDistinct, fun i r hr => ?_, fun k i hi => ?_, h.size_eq,
      fun now secret => ?_, fun now secret v hv => ⟨fun now' => revoke_of_validate hs hv now', ?_⟩⟩
    · have hget := (Dict.get?_eq_some_iff h.idsDistinct).2 hr
      exact ⟨h.ownId hget, h.hashOfId hget⟩
    · exact h.idOfHash ((Dict.get?_eq_some_iff h.hashesDistinct).2 hi)
    · refine (validate_eq_notFound_iff hs now secret).trans (and_congr_right fun _ => ?_)
      simp only [records, List.mem_map, Prod.exists]
      constructor
      · exact fun hne i r hr => hne r ⟨i, r, hr, rfl⟩
      · rintro hne r ⟨i, q, hr, rfl⟩
        exact hne i q hr
    · obtain ⟨-, r, hr, -⟩ := judge_eq_ok hs ((validate_eq hs now secret).symm.trans hv)
      exact fun later now' => revoke_ne_notFound hs hr later now'

end RefreshMemory

end SignIn
