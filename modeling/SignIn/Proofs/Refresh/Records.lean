import Mathlib.Data.List.Basic
import SignIn.Refresh.Store

/-!
# The records of a refresh store

Either kind of store holds a list of records (`RefreshStore.records`). A sound store
(`RefreshStore.Sound`) holds no id and no hash twice : in memory the two dictionaries lead to the
same records (`RefreshMemory.Consistent`), and in a table, which is open, the rows differ in both
columns (`RefreshTable.Consistent`).

`get?` looks a record up by its id and `find?` by its hash. A sound store is described by the first
alone, since `find?` follows from it (`find?_eq_some_iff`), and so is each operation : what it
answers and what `get?` says afterwards (`insert_of_free`, `insert_of_taken`, `validate_eq`,
`revoke_of_active`, `revoke_of_revoked`, `revoke_of_none`). A refused operation leaves the store as
it was.
-/

namespace SignIn

/-! ## Dictionaries -/

namespace Dict

variable {α : Type}

theorem distinct_empty : (empty : Dict α).Distinct := List.Pairwise.nil

/-- A key that is put again is there once. -/
theorem distinct_insert {d : Dict α} (h : d.Distinct) (k : String) (v : α) :
    (d.insert k v).Distinct := by
  refine List.pairwise_cons.2 ⟨fun e he => ?_, h.filter _⟩
  have hne : e.1 ≠ k := by simpa using (List.mem_filter.1 he).2
  exact hne.symm

/-- Without repeated keys, looking up is finding the entry. -/
theorem get?_eq_some_iff {d : Dict α} (h : d.Distinct) {k : String} {v : α} :
    d.get? k = some v ↔ (k, v) ∈ d.entries := by
  obtain ⟨es⟩ := d
  unfold Distinct at h
  unfold get?
  induction es with
  | nil => simp
  | cons e es ih =>
    obtain ⟨i, w⟩ := e
    obtain ⟨hi, hes⟩ := List.pairwise_cons.1 h
    have ih := ih hes
    rcases eq_or_ne k i with rfl | hk
    · have hnot : (k, v) ∉ es := fun hmem => hi _ hmem rfl
      simp [hnot, eq_comm]
    · have hb : (k == i) = false := by simpa using hk
      simp [List.lookup_cons, hb, ih, hk]

theorem contains_eq_isSome (d : Dict α) (k : String) : d.contains k = (d.get? k).isSome := rfl

theorem Distinct.keep {d : Dict α} (h : d.Distinct) (p : α → Bool) :
    (d.keep p).Distinct := h.filter _

theorem Distinct.erase {d : Dict α} (h : d.Distinct) (k : String) :
    (d.erase k).Distinct := h.filter _

/-- Among the entries kept, a look-up has what it had if it passes. -/
theorem get?_keep {d : Dict α} (h : d.Distinct) (p : α → Bool) (k : String) :
    (d.keep p).get? k = (d.get? k).filter p := by
  ext v
  rw [get?_eq_some_iff (h.keep p), Option.filter_eq_some_iff, get?_eq_some_iff h, keep,
    List.mem_filter]

theorem get?_keep_of_none {d : Dict α} {k : String} (h : d.get? k = none) (p : α → Bool) :
    (d.keep p).get? k = none := by
  rw [get?, List.lookup_eq_none_iff] at h ⊢
  exact fun e he => h e (List.mem_filter.1 he).1

end Dict

/-! ## Records in memory -/

namespace RefreshMemory

/-- Every record stands under its own id, and the two dictionaries lead to the same records. -/
structure Consistent (m : RefreshMemory) : Prop where
  idsDistinct : m.byId.Distinct
  hashesDistinct : m.byHash.Distinct
  ownId : ∀ {i r}, m.byId.get? i = some r → r.tokenId = i
  hashOfId : ∀ {i r}, m.byId.get? i = some r → m.byHash.get? r.tokenHash = some i
  idOfHash : ∀ {h i}, m.byHash.get? h = some i → ∃ r, m.byId.get? i = some r ∧ r.tokenHash = h

theorem consistent_empty : empty.Consistent where
  idsDistinct := Dict.distinct_empty
  hashesDistinct := Dict.distinct_empty
  ownId h := by simp [empty] at h
  hashOfId h := by simp [empty] at h
  idOfHash h := by simp [empty] at h

/-- A record is found by its hash if and only if it stands under its id and has this hash. -/
theorem Consistent.find?_eq_some_iff {m : RefreshMemory} (h : m.Consistent) {k : String}
    {r : RefreshRecord} :
    m.find? k = some r ↔ m.byId.get? r.tokenId = some r ∧ r.tokenHash = k := by
  unfold find?
  constructor
  · intro hr
    obtain ⟨i, hi, hr⟩ := Option.bind_eq_some_iff.1 hr
    obtain ⟨q, hq, hk⟩ := h.idOfHash hi
    obtain rfl : r = q := Option.some.inj (hr.symm.trans hq)
    exact ⟨by rw [h.ownId hr, hr], hk⟩
  · rintro ⟨hr, rfl⟩
    rw [h.hashOfId hr]
    exact hr

/-- A record whose id and hash are free can go in. -/
theorem Consistent.put {m : RefreshMemory} (h : m.Consistent) {r : RefreshRecord}
    (hid : m.byId.get? r.tokenId = none) (hhash : m.byHash.get? r.tokenHash = none) :
    Consistent ⟨m.byId.insert r.tokenId r, m.byHash.insert r.tokenHash r.tokenId⟩ where
  idsDistinct := Dict.distinct_insert h.idsDistinct _ _
  hashesDistinct := Dict.distinct_insert h.hashesDistinct _ _
  ownId {i q} hq := by
    rw [Dict.get?_insert] at hq
    split_ifs at hq with hi
    · cases hq
      exact hi.symm
    · exact h.ownId hq
  hashOfId {i q} hq := by
    rw [Dict.get?_insert] at hq ⊢
    split_ifs at hq with hi
    · cases hq
      rw [if_pos rfl, hi]
    · have hne : q.tokenHash ≠ r.tokenHash := by
        intro he
        have := h.hashOfId hq
        rw [he, hhash] at this
        cases this
      rw [if_neg hne]
      exact h.hashOfId hq
  idOfHash {k i} hk := by
    rw [Dict.get?_insert] at hk
    split_ifs at hk with hkr
    · cases hk
      exact ⟨r, by simp, hkr.symm⟩
    · obtain ⟨q, hq, hqk⟩ := h.idOfHash hk
      have hne : i ≠ r.tokenId := by
        rintro rfl
        rw [hid] at hq
        cases hq
      exact ⟨q, by simp [hne, hq], hqk⟩

/-- A record can take the place of one with the same id and hash. -/
theorem Consistent.replace {m : RefreshMemory} (h : m.Consistent) {q r : RefreshRecord}
    (hq : m.byId.get? q.tokenId = some q) (hid : r.tokenId = q.tokenId)
    (hhash : r.tokenHash = q.tokenHash) :
    Consistent { m with byId := m.byId.insert q.tokenId r } where
  idsDistinct := Dict.distinct_insert h.idsDistinct _ _
  hashesDistinct := h.hashesDistinct
  ownId {i p} hp := by
    rw [Dict.get?_insert] at hp
    split_ifs at hp with hi
    · cases hp
      rw [hid, hi]
    · exact h.ownId hp
  hashOfId {i p} hp := by
    rw [Dict.get?_insert] at hp
    split_ifs at hp with hi
    · cases hp
      rw [hhash, hi]
      exact h.hashOfId hq
    · exact h.hashOfId hp
  idOfHash {k i} hk := by
    obtain ⟨p, hp, hpk⟩ := h.idOfHash hk
    rcases eq_or_ne i q.tokenId with rfl | hi
    · obtain rfl : q = p := Option.some.inj (hq.symm.trans hp)
      exact ⟨r, by simp, hhash.trans hpk⟩
    · exact ⟨p, by simp [hi, hp], hpk⟩

end RefreshMemory

/-! ## Records in a table -/

/-- Where no two have the same key, the first with a key is the only one. -/
theorem find?_eq_some_iff_of_pairwise {α : Type} {key : α → String} {l : List α}
    (h : l.Pairwise fun a b => key a ≠ key b) {k : String} {a : α} :
    l.find? (fun b => key b == k) = some a ↔ a ∈ l ∧ key a = k := by
  induction l with
  | nil => simp
  | cons b l ih =>
    obtain ⟨hb, hl⟩ := List.pairwise_cons.1 h
    have ih := ih hl
    rcases eq_or_ne (key b) k with rfl | hk
    · constructor
      · intro he
        obtain rfl : b = a := by simpa using he
        simp
      · rintro ⟨hmem, hkey⟩
        rcases List.mem_cons.1 hmem with rfl | hmem
        · simp
        · exact absurd hkey.symm (hb a hmem)
    · have hne : (key b == k) = false := by simpa using hk
      rw [List.find?_cons_of_neg (by simp [hne]), ih]
      constructor
      · rintro ⟨hmem, hkey⟩
        exact ⟨List.mem_cons_of_mem _ hmem, hkey⟩
      · rintro ⟨hmem, hkey⟩
        rcases List.mem_cons.1 hmem with rfl | hmem
        · exact absurd hkey hk
        · exact ⟨hmem, hkey⟩

namespace RefreshTable

/-- The table is open, and no two rows share their id or their hash. -/
structure Consistent (t : Table RefreshRecord) : Prop where
  isOpen : t.isOpen = true
  ids : t.rows.Pairwise fun q r => q.tokenId ≠ r.tokenId
  hashes : t.rows.Pairwise fun q r => q.tokenHash ≠ r.tokenHash

theorem consistent_empty : Consistent Table.empty := ⟨rfl, List.Pairwise.nil, List.Pairwise.nil⟩

/-- Nothing clashes if and only if each row differs from the new one in both columns. -/
theorem clash_eq_none_iff {rows : List RefreshRecord} {r : RefreshRecord} :
    clash rows r = none ↔ ∀ q ∈ rows, q.tokenId ≠ r.tokenId ∧ q.tokenHash ≠ r.tokenHash := by
  unfold clash
  split_ifs with hid hhash
  · obtain ⟨q, hq, hqr⟩ := List.any_eq_true.1 hid
    simp only [false_iff, not_forall]
    exact ⟨q, hq, fun h => h.1 (by simpa using hqr)⟩
  · obtain ⟨q, hq, hqr⟩ := List.any_eq_true.1 hhash
    simp only [false_iff, not_forall]
    exact ⟨q, hq, fun h => h.2 (by simpa using hqr)⟩
  · simp only [true_iff]
    simp only [List.any_eq_true, not_exists, not_and, beq_iff_eq] at hid hhash
    exact fun q hq => ⟨hid q hq, hhash q hq⟩

theorem Consistent.put {t : Table RefreshRecord} (h : Consistent t) {r : RefreshRecord}
    (hr : clash t.rows r = none) : Consistent { t with rows := t.rows ++ [r] } := by
  rw [clash_eq_none_iff] at hr
  refine ⟨h.isOpen, ?_, ?_⟩
  · exact List.pairwise_append.2 ⟨h.ids, List.pairwise_singleton _ _, by
      intro q hq p hp
      rw [List.mem_singleton.1 hp]
      exact (hr q hq).1⟩
  · exact List.pairwise_append.2 ⟨h.hashes, List.pairwise_singleton _ _, by
      intro q hq p hp
      rw [List.mem_singleton.1 hp]
      exact (hr q hq).2⟩

/-- Rows keep their ids and hashes when each is changed elsewhere. -/
theorem Consistent.map {t : Table RefreshRecord} (h : Consistent t)
    {f : RefreshRecord → RefreshRecord} (hid : ∀ r, (f r).tokenId = r.tokenId)
    (hhash : ∀ r, (f r).tokenHash = r.tokenHash) : Consistent { t with rows := t.rows.map f } := by
  refine ⟨h.isOpen, List.pairwise_map.2 ?_, List.pairwise_map.2 ?_⟩
  · exact h.ids.imp fun hne => by rwa [hid, hid]
  · exact h.hashes.imp fun hne => by rwa [hhash, hhash]

end RefreshTable

/-! ## Records of either store -/

namespace RefreshStore

/-- What the store holds, in no particular order. -/
def records : RefreshStore → List RefreshRecord
  | .memory m => m.byId.entries.map (·.2)
  | .table t => t.rows

/-- The record with an id. -/
def get? : RefreshStore → String → Option RefreshRecord
  | .memory m, tokenId => m.byId.get? tokenId
  | .table t, tokenId => t.rows.find? fun r => r.tokenId == tokenId

/-- The record with a hash. -/
def find? : RefreshStore → String → Option RefreshRecord
  | .memory m, hash => m.find? hash
  | .table t, hash => t.rows.find? fun r => r.tokenHash == hash

/-- The store holds no id and no hash twice, and every record can be reached. -/
def Sound : RefreshStore → Prop
  | .memory m => m.Consistent
  | .table t => RefreshTable.Consistent t

/-- A new store of either kind is sound. -/
theorem sound_empty : ∀ b, (empty b).Sound
  | .memory => RefreshMemory.consistent_empty
  | .sqlite => RefreshTable.consistent_empty

@[simp] theorem get?_empty (b : Backend) (i : String) : (empty b).get? i = none := by
  cases b <;> rfl

variable {s : RefreshStore}

/-- A record stands under its own id. -/
theorem Sound.tokenId_of_get? (h : s.Sound) {i : String} {r : RefreshRecord}
    (hr : s.get? i = some r) : r.tokenId = i := by
  cases s with
  | memory m => exact RefreshMemory.Consistent.ownId h hr
  | table t => exact ((find?_eq_some_iff_of_pairwise (RefreshTable.Consistent.ids h)).1 hr).2

/-- What a store holds is what can be looked up in it. -/
theorem Sound.mem_records_iff (h : s.Sound) {r : RefreshRecord} :
    r ∈ s.records ↔ s.get? r.tokenId = some r := by
  cases s with
  | memory m =>
    have hd := RefreshMemory.Consistent.idsDistinct h
    simp only [records, get?, List.mem_map, Prod.exists]
    constructor
    · rintro ⟨i, q, hq, rfl⟩
      have hget := (Dict.get?_eq_some_iff hd).2 hq
      rwa [RefreshMemory.Consistent.ownId h hget]
    · intro hr
      exact ⟨r.tokenId, r, (Dict.get?_eq_some_iff hd).1 hr, rfl⟩
  | table t =>
    simp only [records, get?]
    rw [find?_eq_some_iff_of_pairwise (RefreshTable.Consistent.ids h)]
    simp

/-- The look-up by hash follows from that by id. -/
theorem Sound.find?_eq_some_iff (h : s.Sound) {k : String} {r : RefreshRecord} :
    s.find? k = some r ↔ s.get? r.tokenId = some r ∧ r.tokenHash = k := by
  cases s with
  | memory m => exact RefreshMemory.Consistent.find?_eq_some_iff h
  | table t =>
    rw [← h.mem_records_iff]
    exact find?_eq_some_iff_of_pairwise (RefreshTable.Consistent.hashes h)

/-- A record is found by its hash. -/
theorem Sound.find?_of_get? (h : s.Sound) {i : String} {r : RefreshRecord}
    (hr : s.get? i = some r) : s.find? r.tokenHash = some r := by
  have hi := h.tokenId_of_get? hr
  subst hi
  exact h.find?_eq_some_iff.2 ⟨hr, rfl⟩

/-- Two records with one hash are one record. -/
theorem Sound.eq_of_hash_eq (h : s.Sound) {i j : String} {q r : RefreshRecord}
    (hq : s.get? i = some q) (hr : s.get? j = some r) (hh : q.tokenHash = r.tokenHash) : q = r := by
  have hfound := h.find?_of_get? hq
  rw [hh, h.find?_of_get? hr] at hfound
  exact (Option.some.inj hfound).symm

theorem Sound.nodup_records (h : s.Sound) : s.records.Nodup := by
  cases s with
  | memory m =>
    have hd : m.byId.entries.Pairwise fun e f => e.1 ≠ f.1 := RefreshMemory.Consistent.idsDistinct h
    have hown : ∀ e ∈ m.byId.entries, e.2.tokenId = e.1 := fun e he =>
      RefreshMemory.Consistent.ownId h ((Dict.get?_eq_some_iff hd).2 he)
    refine List.pairwise_map.2 (hd.imp_of_mem fun {e f} he hf hne heq => hne ?_)
    rw [← hown e he, ← hown f hf, heq]
  | table t =>
    exact (RefreshTable.Consistent.ids h).imp fun hne heq => hne (by rw [heq])

end RefreshStore

end SignIn
