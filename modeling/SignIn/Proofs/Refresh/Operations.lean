import SignIn.Proofs.Refresh.Records

/-!
# Operations of a sound refresh store

What each operation of a sound store answers and what the store holds afterwards, in terms of `get?`
and `find?` alone, so that the two kinds of stores need not be told apart any more. An operation
that is refused leaves the store as it was.
-/

namespace SignIn

namespace RefreshStore

variable {s : RefreshStore}

/-! ## Statements on an open table -/

/-- An insertion is refused if a row has the id or the hash, and adds a row otherwise. -/
theorem execute_insert {t : Table RefreshRecord} (ho : t.isOpen = true) (r : RefreshRecord) :
    RefreshTable.execute (.insert r) t =
      match RefreshTable.clash t.rows r with
      | some column => (.error (.taken column), t)
      | none => (.ok (), { t with rows := t.rows ++ [r] }) := by
  obtain ⟨rows, isOpen⟩ := t
  obtain rfl : isOpen = true := ho
  rw [RefreshTable.execute, Table.onOpen, if_pos rfl]
  cases RefreshTable.clash rows r <;> rfl

theorem execute_selectById {t : Table RefreshRecord} (ho : t.isOpen = true) (i : String) :
    RefreshTable.execute (.selectById i) t = (.ok ((table t).get? i), t) := by
  obtain ⟨rows, isOpen⟩ := t
  obtain rfl : isOpen = true := ho
  rfl

theorem execute_selectByHash {t : Table RefreshRecord} (ho : t.isOpen = true) (k : String) :
    RefreshTable.execute (.selectByHash k) t = (.ok ((table t).find? k), t) := by
  obtain ⟨rows, isOpen⟩ := t
  obtain rfl : isOpen = true := ho
  rfl

theorem isActive_iff {i : String} {r : RefreshRecord} :
    RefreshTable.isActive i r = true ↔ r.tokenId = i ∧ r.isRevoked = false := by
  simp [RefreshTable.isActive, RefreshRecord.isRevoked]

/-- A row, stamped when it is the active one with the id. -/
def stamped (i : String) (stamp : Int) (r : RefreshRecord) : RefreshRecord :=
  if RefreshTable.isActive i r then { r with revokedAt := stamp } else r

theorem tokenId_stamped (i : String) (stamp : Int) (r : RefreshRecord) :
    (stamped i stamp r).tokenId = r.tokenId := by
  unfold stamped
  split_ifs <;> rfl

theorem tokenHash_stamped (i : String) (stamp : Int) (r : RefreshRecord) :
    (stamped i stamp r).tokenHash = r.tokenHash := by
  unfold stamped
  split_ifs <;> rfl

/-- The update stamps the row of this id if it is active, and counts how many that were. -/
theorem execute_stampActive {t : Table RefreshRecord} (ho : t.isOpen = true) (i : String)
    (stamp : Int) :
    RefreshTable.execute (.stampActive i stamp) t =
      (.ok (t.rows.filter (RefreshTable.isActive i)).length,
        { t with rows := t.rows.map (stamped i stamp) }) := by
  obtain ⟨rows, isOpen⟩ := t
  obtain rfl : isOpen = true := ho
  rfl

/-- Stamping changes nothing when no row with the id is active. -/
theorem execute_stampActive_of_none {t : Table RefreshRecord} (ho : t.isOpen = true) {i : String}
    (h : ∀ r ∈ t.rows, RefreshTable.isActive i r = false) (stamp : Int) :
    RefreshTable.execute (.stampActive i stamp) t = (.ok 0, t) := by
  have hnone : t.rows.filter (RefreshTable.isActive i) = [] :=
    List.filter_eq_nil_iff.2 fun r hr => by simp [h r hr]
  have hsame : t.rows.map (stamped i stamp) = t.rows := by
    refine (List.map_congr_left fun r hr => ?_).trans (List.map_id' t.rows)
    simp [stamped, h r hr]
  rw [execute_stampActive ho, hnone, hsame, List.length_nil]

/-- Stamping reaches the row with the id, if it is active, and no other. -/
theorem get?_map_stamped (t : Table RefreshRecord) (i : String) (stamp : Int) (j : String) :
    (table { t with rows := t.rows.map (stamped i stamp) }).get? j =
      ((table t).get? j).map (stamped i stamp) := by
  simp only [get?, List.find?_map]
  congr 2
  funext q
  simp [tokenId_stamped]

/-- Ids do not repeat, so one active row with the id is all there is. -/
theorem length_filter_isActive {rows : List RefreshRecord}
    (h : rows.Pairwise fun q r => q.tokenId ≠ r.tokenId) {r : RefreshRecord} (hr : r ∈ rows)
    {i : String} (ha : RefreshTable.isActive i r = true) :
    (rows.filter (RefreshTable.isActive i)).length = 1 := by
  have hp := h.filter (RefreshTable.isActive i)
  have hid : ∀ q ∈ rows.filter (RefreshTable.isActive i), q.tokenId = i := fun q hq => by
    have hq := (List.mem_filter.1 hq).2
    simp only [RefreshTable.isActive, Bool.and_eq_true, beq_iff_eq] at hq
    exact hq.1
  have hmem : r ∈ rows.filter (RefreshTable.isActive i) := List.mem_filter.2 ⟨hr, ha⟩
  rcases hl : rows.filter (RefreshTable.isActive i) with _ | ⟨p, _ | ⟨q, l⟩⟩
  · rw [hl] at hmem
    exact absurd hmem List.not_mem_nil
  · rfl
  · rw [hl] at hp hid
    have hne := (List.pairwise_cons.1 hp).1 q List.mem_cons_self
    exact absurd ((hid p (by simp)).trans (hid q (by simp)).symm) hne

/-! ## Storing a record -/

/-- The id or the hash of a record is in use. -/
def Taken (s : RefreshStore) (r : RefreshRecord) : Prop :=
  s.get? r.tokenId ≠ none ∨ s.find? r.tokenHash ≠ none

/-- A record unlike all there are can go in. -/
theorem not_taken (hs : s.Sound) {r : RefreshRecord}
    (h : ∀ q ∈ s.records, q.tokenId ≠ r.tokenId ∧ q.tokenHash ≠ r.tokenHash) : ¬s.Taken r := by
  rintro (hid | hhash)
  · obtain ⟨q, hq⟩ := Option.ne_none_iff_exists'.1 hid
    have hqid := hs.tokenId_of_get? hq
    rw [← hqid] at hq
    exact (h q (hs.mem_records_iff.2 hq)).1 hqid
  · obtain ⟨q, hq⟩ := Option.ne_none_iff_exists'.1 hhash
    obtain ⟨hget, hqhash⟩ := hs.find?_eq_some_iff.1 hq
    exact (h q (hs.mem_records_iff.2 hget)).2 hqhash

theorem memory_contains_hash {m : RefreshMemory} (h : m.Consistent) (k : String) :
    m.byHash.contains k = (m.find? k).isSome := by
  rw [Dict.contains_eq_isSome, RefreshMemory.find?]
  cases hk : m.byHash.get? k with
  | none => rfl
  | some i =>
    obtain ⟨r, hr, -⟩ := h.idOfHash hk
    simp [hr]

/-- In memory a record goes in if its hash and its id are both free. -/
theorem memory_insert_eq {m : RefreshMemory} (h : m.Consistent) (r : RefreshRecord) :
    m.insert r =
      if (m.find? r.tokenHash).isSome || (m.byId.get? r.tokenId).isSome then (.error .duplicate, m)
      else (.ok (), ⟨m.byId.insert r.tokenId r, m.byHash.insert r.tokenHash r.tokenId⟩) := by
  rw [RefreshMemory.insert, memory_contains_hash h, Dict.contains_eq_isSome]

/-- A row goes into a table under the same condition under which a record goes into memory. -/
theorem table_clash_eq_none {t : Table RefreshRecord} {r : RefreshRecord} :
    RefreshTable.clash t.rows r = none ↔ ¬(table t).Taken r := by
  rw [RefreshTable.clash_eq_none_iff, Taken, not_or, not_not, not_not]
  simp only [get?, find?, List.find?_eq_none, beq_iff_eq]
  constructor
  · exact fun h => ⟨fun q hq => (h q hq).1, fun q hq => (h q hq).2⟩
  · exact fun h q hq => ⟨h.1 q hq, h.2 q hq⟩

/-- A record whose id or hash is in use is refused. -/
theorem insert_of_taken (h : s.Sound) {r : RefreshRecord} (hr : s.Taken r) :
    s.insert r = (.error .duplicate, s) := by
  cases s with
  | memory m =>
    have hc : ((m.find? r.tokenHash).isSome || (m.byId.get? r.tokenId).isSome) = true := by
      rw [Bool.or_eq_true, Option.isSome_iff_ne_none, Option.isSome_iff_ne_none]
      exact hr.symm
    rw [insert, memory_insert_eq h, if_pos hc]
  | table t =>
    cases hc : RefreshTable.clash t.rows r with
    | none => exact absurd hr (table_clash_eq_none.1 hc)
    | some column =>
      have hx := execute_insert (RefreshTable.Consistent.isOpen h) r
      rw [hc] at hx
      simp only [insert, RefreshTable.insert, Script.run, hx]

/-- A record whose id and hash are free goes in, and nothing else changes. -/
theorem insert_of_free (h : s.Sound) {r : RefreshRecord} (hr : ¬s.Taken r) :
    ∃ s', s.insert r = (.ok (), s') ∧ s'.Sound ∧ s'.backend = s.backend ∧
      ∀ i, s'.get? i = if i = r.tokenId then some r else s.get? i := by
  obtain ⟨hid, hhash⟩ := not_or.1 hr
  rw [not_not] at hid hhash
  cases s with
  | memory m =>
    have hfree : m.byHash.get? r.tokenHash = none := by
      have hc := memory_contains_hash h r.tokenHash
      rw [show m.find? r.tokenHash = none from hhash, Dict.contains_eq_isSome] at hc
      simpa using hc
    have hc : ((m.find? r.tokenHash).isSome || (m.byId.get? r.tokenId).isSome) = false := by
      rw [show m.find? r.tokenHash = none from hhash, show m.byId.get? r.tokenId = none from hid]
      rfl
    have hins : (memory m).insert r =
        (.ok (), memory ⟨m.byId.insert r.tokenId r, m.byHash.insert r.tokenHash r.tokenId⟩) := by
      rw [insert, memory_insert_eq h, hc]
      rfl
    exact ⟨_, hins, RefreshMemory.Consistent.put h hid hfree, rfl, fun i =>
      Dict.get?_insert _ _ _ _⟩
  | table t =>
    have hc := table_clash_eq_none.2 hr
    have hx := execute_insert (RefreshTable.Consistent.isOpen h) r
    rw [hc] at hx
    have hins : (table t).insert r = (.ok (), table { t with rows := t.rows ++ [r] }) := by
      simp only [insert, RefreshTable.insert, Script.run, hx]
    refine ⟨_, hins, RefreshTable.Consistent.put h hc, rfl, fun i => ?_⟩
    simp only [get?, List.find?_append] at hid ⊢
    rcases eq_or_ne i r.tokenId with rfl | hi
    · simp [hid]
    · have hb : (r.tokenId == i) = false := by simpa using hi.symm
      simp [hb, hi]

/-- A token that is drawn anew is issued. -/
theorem issue_of_free (h : s.Sound) {now : Instant} {entropy : Entropy} {userId previous : String}
    {expires : Int}
    (hr : ¬s.Taken ((IssuedRefresh.draw now entropy).1.record now userId expires previous)) :
    ∃ s', s.issue now entropy userId expires previous =
        (.ok (IssuedRefresh.draw now entropy).1, s', (IssuedRefresh.draw now entropy).2) ∧
      s'.Sound ∧ s'.backend = s.backend ∧
      ∀ i, s'.get? i = if i = (IssuedRefresh.draw now entropy).1.tokenId then
        some ((IssuedRefresh.draw now entropy).1.record now userId expires previous)
      else s.get? i := by
  obtain ⟨s', hins, hsound, hkind, hget⟩ := insert_of_free h hr
  refine ⟨s', ?_, hsound, hkind, hget⟩
  simp only [issue]
  rw [hins]

/-! ## Looking a secret up -/

/-- A secret is judged by the record with its hash. -/
theorem validate_eq (h : s.Sound) (now : Instant) (secret : String) :
    s.validate now secret =
      (if secret = "" then .error .emptySecret
        else RefreshRecord.judge now.seconds (s.find? (fingerprint secret))).mapError
          (s.fail .validate) := by
  cases s with
  | memory m => rfl
  | table t =>
    have hx := execute_selectByHash (RefreshTable.Consistent.isOpen h) (fingerprint secret)
    unfold validate RefreshTable.validate
    split_ifs with hs
    · rfl
    · simp only [Script.run, hx]

/-- The secret of a record is good as long as the record is neither revoked nor expired. -/
theorem validate_of_active (h : s.Sound) {now : Instant} {secret i : String} {r : RefreshRecord}
    (hne : secret ≠ "") (hr : s.get? i = some r) (hhash : r.tokenHash = fingerprint secret)
    (hact : r.isRevoked = false) (hexp : now.seconds < r.expires) :
    s.validate now secret = .ok ⟨r.userId, r.tokenId, r.expires⟩ := by
  rw [validate_eq h, if_neg hne, ← hhash, h.find?_of_get? hr, RefreshRecord.judge,
    if_neg (by rw [hact]; exact Bool.false_ne_true), if_neg (by omega)]
  rfl

/-! ## Revoking a record -/

/-- When no row with the id is active, the look at the row decides the answer. -/
theorem table_revoke_of_inactive {t : Table RefreshRecord} (ho : t.isOpen = true) {i : String}
    (h : ∀ r ∈ t.rows, RefreshTable.isActive i r = false) (now : Int) :
    (RefreshTable.revoke now i).run RefreshTable.execute t =
      (match (table t).get? i with
        | none => .error .notFound
        | some _ => .error .alreadyRevoked, t) := by
  have hx := execute_stampActive_of_none ho h (max now 1)
  have hsel := execute_selectById ho i
  have hne : ¬(0 = 1) := by decide
  simp only [RefreshTable.revoke, Script.run, hx, if_neg hne, hsel]
  cases (table t).get? i <;> rfl

/-- An unknown id is refused. -/
theorem revoke_of_none (h : s.Sound) (now : Instant) {i : String} (hi : s.get? i = none) :
    s.revoke now i = (.error (s.fail .revoke .notFound), s) := by
  cases s with
  | memory m =>
    have hm : m.byId.get? i = none := hi
    simp only [revoke, RefreshMemory.revoke, hm]
    rfl
  | table t =>
    have hnone : ∀ r ∈ t.rows, RefreshTable.isActive i r = false := fun r hr => by
      have hne : ¬r.tokenId = i := by simpa using List.find?_eq_none.1 hi r hr
      rw [Bool.eq_false_iff, ne_eq, isActive_iff]
      exact fun ha => hne ha.1
    have hrun := table_revoke_of_inactive (RefreshTable.Consistent.isOpen h) hnone now.seconds
    rw [hi] at hrun
    simp only [revoke, hrun]
    rfl

/-- A record that is revoked is refused. -/
theorem revoke_of_revoked (h : s.Sound) (now : Instant) {i : String} {r : RefreshRecord}
    (hi : s.get? i = some r) (hr : r.isRevoked = true) :
    s.revoke now i = (.error (s.fail .revoke .alreadyRevoked), s) := by
  cases s with
  | memory m =>
    have hm : m.byId.get? i = some r := hi
    simp only [revoke, RefreshMemory.revoke, hm, hr, if_true]
    rfl
  | table t =>
    have hnone : ∀ q ∈ t.rows, RefreshTable.isActive i q = false := fun q hq => by
      rw [Bool.eq_false_iff, ne_eq, isActive_iff]
      rintro ⟨hqi, hqr⟩
      have hget := h.mem_records_iff.1 hq
      rw [hqi, hi] at hget
      rw [← Option.some.inj hget, hr] at hqr
      cases hqr
    have hrun := table_revoke_of_inactive (RefreshTable.Consistent.isOpen h) hnone now.seconds
    rw [hi] at hrun
    simp only [revoke, hrun]
    rfl

/-- An active record is stamped, and nothing else changes. -/
theorem revoke_of_active (h : s.Sound) (now : Instant) {i : String} {r : RefreshRecord}
    (hi : s.get? i = some r) (hr : r.isRevoked = false) :
    ∃ s', s.revoke now i = (.ok (), s') ∧ s'.Sound ∧ s'.backend = s.backend ∧
      ∀ j, s'.get? j = if j = i then some (r.revoke now.seconds) else s.get? j := by
  have hid := h.tokenId_of_get? hi
  subst hid
  cases s with
  | memory m =>
    have hm : m.byId.get? r.tokenId = some r := hi
    have hrev : (memory m).revoke now r.tokenId =
        (.ok (), memory { m with byId := m.byId.insert r.tokenId (r.revoke now.seconds) }) := by
      simp only [revoke, RefreshMemory.revoke, hm, hr]
      rfl
    exact ⟨_, hrev, RefreshMemory.Consistent.replace h hm rfl rfl, rfl, fun j =>
      Dict.get?_insert _ _ _ _⟩
  | table t =>
    have hactive : RefreshTable.isActive r.tokenId r = true := isActive_iff.2 ⟨rfl, hr⟩
    have hlen := length_filter_isActive (RefreshTable.Consistent.ids h) (h.mem_records_iff.2 hi)
      hactive
    have hx := execute_stampActive (RefreshTable.Consistent.isOpen h) r.tokenId (max now.seconds 1)
    rw [hlen] at hx
    have hrev : (table t).revoke now r.tokenId = (.ok (),
        table { t with rows := t.rows.map (stamped r.tokenId (max now.seconds 1)) }) := by
      simp only [revoke, RefreshTable.revoke, Script.run, hx, if_true]
      rfl
    refine ⟨_, hrev, RefreshTable.Consistent.map h (tokenId_stamped _ _) (tokenHash_stamped _ _),
      rfl, fun j => ?_⟩
    rw [get?_map_stamped]
    rcases eq_or_ne j r.tokenId with rfl | hj
    · rw [hi, if_pos rfl, Option.map_some, stamped, if_pos hactive]
      rfl
    · rw [if_neg hj]
      cases hq : (table t).get? j with
      | none => rfl
      | some q =>
        have hqj := h.tokenId_of_get? hq
        refine congrArg some (if_neg fun ha => hj ?_)
        rw [← hqj, (isActive_iff.1 ha).1]

end RefreshStore

end SignIn
