import Mathlib.Data.List.Forall2
import Mathlib.Data.List.Perm.Basic
import SignIn.Proofs.Refresh.Runs

/-!
# The two kinds of refresh stores agree

Two sound stores that hold the same records (`RefreshStore.Agree`) answer a call alike and hold the
same records again (`Agree.serve`). The answers differ in nothing but the kind of store that an
error names, and `reportedBy` evens that out. Hence no sequence of calls tells the memory and the
table apart, whatever the clock reads and whichever ids and secrets are drawn again
(`memory_and_table_agree`).
-/

namespace SignIn

/-- A call with the reading of the clock and the random bytes that it meets. -/
structure RefreshRequest where
  now : Instant
  entropy : Entropy
  call : RefreshCall

/-- The error as a store of a kind reports it. -/
def RefreshError.reportedBy (b : Backend) (e : RefreshError) : RefreshError :=
  { e with backend := b }

/-- The event as a store of a kind reports it. -/
def RefreshEvent.reportedBy (b : Backend) : RefreshEvent → RefreshEvent
  | .issue userId expires previous answer =>
    .issue userId expires previous (answer.mapError (·.reportedBy b))
  | .validate secret answer => .validate secret (answer.mapError (·.reportedBy b))
  | .revoke tokenId answer => .revoke tokenId (answer.mapError (·.reportedBy b))

namespace RefreshStore

/-- Every call of a sequence with its answer and the store behind it. -/
def history : RefreshStore → List RefreshRequest → List (RefreshEvent × RefreshStore)
  | _, [] => []
  | s, r :: rs =>
    let answered := s.serve r.now r.entropy r.call
    answered :: history answered.2 rs

/-- Both stores are sound and hold the same records. -/
structure Agree (s t : RefreshStore) : Prop where
  left : s.Sound
  right : t.Sound
  get : ∀ i, s.get? i = t.get? i

namespace Agree

variable {s t : RefreshStore}

theorem empty (b c : Backend) : Agree (RefreshStore.empty b) (RefreshStore.empty c) :=
  ⟨sound_empty b, sound_empty c, fun i => by rw [get?_empty, get?_empty]⟩

/-- The records by hash are the same, too. -/
theorem find (h : Agree s t) (k : String) : s.find? k = t.find? k := by
  ext r
  rw [h.left.find?_eq_some_iff, h.right.find?_eq_some_iff, h.get]

/-- Stores that agree have the same ids and hashes taken. -/
theorem taken_iff (h : Agree s t) (r : RefreshRecord) : s.Taken r ↔ t.Taken r := by
  rw [Taken, Taken, h.get, h.find]

/-- Stores that agree hold the same records, if in another order. -/
theorem perm_records (h : Agree s t) : s.records.Perm t.records := by
  rw [List.perm_ext_iff_of_nodup h.left.nodup_records h.right.nodup_records]
  intro r
  rw [h.left.mem_records_iff, h.right.mem_records_iff, h.get]

/-- Agreeing stores answer a call alike and agree behind it. -/
theorem serve (h : Agree s t) (now : Instant) (entropy : Entropy) (c : RefreshCall) :
    (s.serve now entropy c).1.reportedBy t.backend = (t.serve now entropy c).1 ∧
      Agree (s.serve now entropy c).2 (t.serve now entropy c).2 := by
  cases c with
  | issue userId expires previous =>
    let r := (IssuedRefresh.draw now entropy).1.record now userId expires previous
    by_cases hr : s.Taken r
    · have hr' := (h.taken_iff r).1 hr
      rw [serve_issue_of_taken h.left now entropy hr, serve_issue_of_taken h.right now entropy hr']
      exact ⟨rfl, h⟩
    · have hr' := fun ht => hr ((h.taken_iff r).2 ht)
      obtain ⟨s', hs, hs', -, hget⟩ := serve_issue_of_free h.left now entropy hr
      obtain ⟨t', ht, ht', -, hget'⟩ := serve_issue_of_free h.right now entropy hr'
      rw [hs, ht]
      exact ⟨rfl, hs', ht', fun i => by rw [hget, hget', h.get]⟩
  | validate secret =>
    rw [serve_validate h.left, serve_validate h.right]
    refine ⟨?_, h⟩
    simp only [RefreshEvent.reportedBy, judge, h.find]
    split_ifs
    · rfl
    · cases RefreshRecord.judge now.seconds (t.find? (fingerprint secret)) <;> rfl
  | revoke tokenId =>
    cases hi : s.get? tokenId with
    | none =>
      have hi' := (h.get tokenId).symm.trans hi
      rw [serve_revoke_of_none h.left now entropy hi, serve_revoke_of_none h.right now entropy hi']
      exact ⟨rfl, h⟩
    | some r =>
      have hi' := (h.get tokenId).symm.trans hi
      cases hr : r.isRevoked with
      | true =>
        rw [serve_revoke_of_revoked h.left now entropy hi hr,
          serve_revoke_of_revoked h.right now entropy hi' hr]
        exact ⟨rfl, h⟩
      | false =>
        obtain ⟨s', hs, hs', -, hget⟩ := serve_revoke_of_active h.left now entropy hi hr
        obtain ⟨t', ht, ht', -, hget'⟩ := serve_revoke_of_active h.right now entropy hi' hr
        rw [hs, ht]
        exact ⟨rfl, hs', ht', fun i => by rw [hget, hget', h.get]⟩

/-- Agreeing stores answer every sequence of calls alike and agree behind each. -/
theorem history (b : Backend) (rs : List RefreshRequest) :
    ∀ {s t : RefreshStore}, Agree s t → t.backend = b →
      List.Forall₂ (fun p q => p.1.reportedBy b = q.1 ∧ Agree p.2 q.2) (s.history rs)
        (t.history rs) := by
  induction rs with
  | nil => exact fun _ _ => .nil
  | cons r rs ih =>
    intro s t h hb
    have hstep := h.serve r.now r.entropy r.call
    have hserve :
        t.Step r.now (t.serve r.now r.entropy r.call).1 (t.serve r.now r.entropy r.call).2 :=
      ⟨r.entropy, r.call, rfl⟩
    have hkind := (effect_of_step h.right hserve).backend_eq
    rw [hb] at hstep hkind
    exact .cons hstep (ih hstep.2 hkind)

end Agree

/-- A memory and a table that start empty cannot be told apart. At every call of every sequence the
answers are the same, but for the kind of store that an error names, and the same records are held
afterwards. -/
theorem memory_and_table_agree (rs : List RefreshRequest) :
    List.Forall₂ (fun p q => p.1.reportedBy .sqlite = q.1 ∧ p.2.records.Perm q.2.records)
      ((empty .memory).history rs) ((empty .sqlite).history rs) :=
  (Agree.history .sqlite rs (Agree.empty .memory .sqlite) rfl).imp fun _ _ h =>
    ⟨h.1, h.2.perm_records⟩

end RefreshStore

end SignIn
