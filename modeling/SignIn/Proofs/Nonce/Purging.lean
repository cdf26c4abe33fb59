import Mathlib.Data.List.Induction
import SignIn.Nonce.Store
import SignIn.Proofs.Refresh.Records

/-!
# Nonces past their expiry

Every call of a store drops what is past its expiry, and a store that dropped nothing
(`serveKeeping`) would accept the same nonces. It holds all that the store holds, and besides only
what is past its expiry (`NonceStore.Shadows`). This is so of any drop, put and take, hence after
every call (`Shadows.serve`) and after every run by a clock that does not go back (`shadows_after`).
All that an expired nonce can change is the wording of a refusal (`Shadows.answer_cases`).

What the store that drops nothing holds can be read off the run : a nonce stands there from its
latest issue until it is consumed (`get?_afterKeeping`). So a nonce is accepted exactly if it is
`Outstanding` and not past its expiry (`purging_changes_no_acceptance`).
-/

namespace SignIn

/-- What a store of nonces is asked : to put in a nonce that was drawn, or to take one out. -/
inductive NonceCall where
  | issue (nonce : String)
  | consume (nonce : String)

/-- A call, and the reading of the clock. -/
structure NonceRequest where
  now : Instant
  call : NonceCall

/-- The answer to a call. -/
inductive NonceAnswer where
  | issued
  /-- The nonce would expire outside the calendar, and the call does not return. -/
  | stopped
  | consumed (answer : Except NonceError Unit)

namespace NonceStore

/-! ## Calls and runs -/

/-- Answers a call. -/
def serve (s : NonceStore) (q : NonceRequest) : NonceAnswer × NonceStore :=
  match q.call with
  | .issue n =>
    match s.issue q.now n with
    | (some _, s') => (.issued, s')
    | (none, s') => (.stopped, s')
  | .consume n =>
    let (answer, s') := s.consume q.now n
    (.consumed answer, s')

/-- Answers a call and drops nothing. -/
def serveKeeping (s : NonceStore) (q : NonceRequest) : NonceAnswer × NonceStore :=
  match q.call with
  | .issue n =>
    match q.now.add? s.lifetime with
    | some expires => (.issued, s.put n expires)
    | none => (.stopped, s)
  | .consume n => (.consumed (judge q.now (s.entries.get? n)), s.take n)

/-- The store after a run. -/
def after (s : NonceStore) (qs : List NonceRequest) : NonceStore :=
  qs.foldl (fun s q => (s.serve q).2) s

/-- The store after a run in which nothing is dropped. -/
def afterKeeping (s : NonceStore) (qs : List NonceRequest) : NonceStore :=
  qs.foldl (fun s q => (s.serveKeeping q).2) s

variable {s p : NonceStore} {now later expires : Instant} {n : String} {q : NonceRequest}
  {qs : List NonceRequest} {lifetime : Span}

theorem after_concat (s : NonceStore) (qs : List NonceRequest) (q : NonceRequest) :
    s.after (qs ++ [q]) = ((s.after qs).serve q).2 := by
  simp [after]

theorem afterKeeping_concat (s : NonceStore) (qs : List NonceRequest) (q : NonceRequest) :
    s.afterKeeping (qs ++ [q]) = ((s.afterKeeping qs).serveKeeping q).2 := by
  simp [afterKeeping]

/-- All that a call can do : it drops what is past its expiry, and puts a nonce in or takes one
out. -/
theorem serve_cases (s : NonceStore) (q : NonceRequest) :
    (∃ n expires, q.call = .issue n ∧ q.now.add? s.lifetime = some expires ∧
      s.serve q = (.issued, (s.purge q.now).put n expires)) ∨
    (∃ n, q.call = .issue n ∧ q.now.add? s.lifetime = none ∧
      s.serve q = (.stopped, s.purge q.now)) ∨
    ∃ n, q.call = .consume n ∧
      s.serve q = (.consumed (judge q.now (s.entries.get? n)), (s.take n).purge q.now) := by
  obtain ⟨now, call⟩ := q
  cases call with
  | consume n => exact Or.inr (Or.inr ⟨n, rfl, rfl⟩)
  | issue n =>
    cases h : now.add? s.lifetime with
    | some expires => exact Or.inl ⟨n, expires, rfl, rfl, by simp only [serve, issue_of_some h]⟩
    | none => exact Or.inr (Or.inl ⟨n, rfl, rfl, by simp only [serve, issue_of_none h]⟩)

/-- A nonce that is still there after the purge has not expired. -/
theorem le_of_mem_purge {e : String × Instant} (he : e ∈ (s.purge now).entries.entries) :
    now ≤ e.2 := by
  simpa using (List.mem_filter.1 he).2

/-- A call leaves nothing that is past its expiry. -/
theorem le_of_mem_serve (hl : 0 ≤ s.lifetime.nanos) {e : String × Instant}
    (he : e ∈ (s.serve q).2.entries.entries) : q.now ≤ e.2 := by
  obtain ⟨n, expires, -, hadd, hs⟩ | ⟨n, -, -, hs⟩ | ⟨n, -, hs⟩ := s.serve_cases q
  · rw [hs] at he
    obtain rfl | hmem := List.mem_cons.1 he
    · exact Instant.le_of_add? hl hadd
    · exact le_of_mem_purge (List.mem_filter.1 hmem).1
  · rw [hs] at he
    exact le_of_mem_purge he
  · rw [hs] at he
    exact le_of_mem_purge he

/-! ## The store and the one that drops nothing -/

/-- The other store has what the store has, and besides only what is past its expiry. -/
structure Shadows (now : Instant) (s p : NonceStore) : Prop where
  lifetime : s.lifetime = p.lifetime
  distinct : s.entries.Distinct
  held : ∀ {n expires}, s.entries.get? n = some expires → p.entries.get? n = some expires
  kept : ∀ {n expires}, p.entries.get? n = some expires → now ≤ expires →
    s.entries.get? n = some expires

/-- At first neither store holds anything. -/
theorem shadows_empty (now : Instant) (lifetime : Span) :
    Shadows now (empty lifetime) (empty lifetime) where
  lifetime := rfl
  distinct := Dict.distinct_empty
  held h := h
  kept h _ := h

/-- Time may pass : what has expired stays so. -/
theorem Shadows.mono (h : Shadows now s p) (hle : now ≤ later) : Shadows later s p where
  lifetime := h.lifetime
  distinct := h.distinct
  held := h.held
  kept hp hlater := h.kept hp (Int.le_trans hle hlater)

/-- One of the stores may be purged. -/
theorem Shadows.purge (h : Shadows now s p) : Shadows now (s.purge now) p where
  lifetime := h.lifetime
  distinct := h.distinct.keep _
  held hs := by
    rw [NonceStore.purge, Dict.get?_keep h.distinct, Option.filter_eq_some_iff] at hs
    exact h.held hs.1
  kept hp hnow := by
    rw [NonceStore.purge, Dict.get?_keep h.distinct, Option.filter_eq_some_iff]
    exact ⟨h.kept hp hnow, decide_eq_true hnow⟩

/-- A nonce may go into both. -/
theorem Shadows.put (h : Shadows now s p) (n : String) (expires : Instant) :
    Shadows now (s.put n expires) (p.put n expires) where
  lifetime := h.lifetime
  distinct := Dict.distinct_insert h.distinct n expires
  held {m _} hs := by
    simp only [NonceStore.put, Dict.get?_insert] at hs ⊢
    split_ifs at hs ⊢
    · exact hs
    · exact h.held hs
  kept {m _} hp hnow := by
    simp only [NonceStore.put, Dict.get?_insert] at hp ⊢
    split_ifs at hp ⊢
    · exact hp
    · exact h.kept hp hnow

/-- A nonce may go out of both. -/
theorem Shadows.take (h : Shadows now s p) (n : String) : Shadows now (s.take n) (p.take n) where
  lifetime := h.lifetime
  distinct := h.distinct.erase n
  held {m _} hs := by
    simp only [NonceStore.take, Dict.get?_erase] at hs ⊢
    split_ifs at hs ⊢
    exact h.held hs
  kept {m _} hp hnow := by
    simp only [NonceStore.take, Dict.get?_erase] at hp ⊢
    split_ifs at hp ⊢
    exact h.kept hp hnow

/-- A call. -/
theorem Shadows.serve (h : Shadows q.now s p) :
    Shadows q.now (s.serve q).2 (p.serveKeeping q).2 := by
  obtain ⟨n, expires, hcall, hadd, hs⟩ | ⟨n, hcall, hadd, hs⟩ | ⟨n, hcall, hs⟩ := s.serve_cases q
  · rw [h.lifetime] at hadd
    simp only [hs, serveKeeping, hcall, hadd]
    exact h.purge.put n expires
  · rw [h.lifetime] at hadd
    simp only [hs, serveKeeping, hcall, hadd]
    exact h.purge
  · simp only [hs, serveKeeping, hcall]
    exact (h.take n).purge

/-- A run by a clock that does not go back. -/
theorem shadows_after (lifetime : Span) (hclock : qs.Pairwise fun p q => p.now ≤ q.now) :
    ∀ {now : Instant}, (∀ q ∈ qs, q.now ≤ now) →
      Shadows now ((empty lifetime).after qs) ((empty lifetime).afterKeeping qs) := by
  induction qs using List.reverseRecOn with
  | nil => exact fun _ => shadows_empty _ lifetime
  | append_singleton qs q ih =>
    intro now hnow
    obtain ⟨hqs, -, hq⟩ := List.pairwise_append.1 hclock
    rw [after_concat, afterKeeping_concat]
    have hbefore := ih hqs fun p hp => hq p hp q (List.mem_singleton_self q)
    exact hbefore.serve.mono (hnow q (List.mem_append_right _ (List.mem_singleton_self q)))

/-- A nonce is accepted if and only if it is there and its expiry has not passed. -/
theorem judge_eq_ok_iff {o : Option Instant} :
    judge now o = .ok () ↔ ∃ expires, o = some expires ∧ now ≤ expires := by
  cases o with
  | none => simp [judge]
  | some expires =>
    have hle : expires < now ↔ ¬now ≤ expires := Int.not_le.symm
    by_cases h : now ≤ expires <;> simp [judge, hle, h]

/-- The answers are the same, but for an expired nonce that was dropped before. -/
theorem Shadows.answer_cases (h : Shadows q.now s p) :
    (s.serve q).1 = (p.serveKeeping q).1 ∨
      (s.serve q).1 = .consumed (.error .notFound) ∧
        (p.serveKeeping q).1 = .consumed (.error .expired) := by
  obtain ⟨n, expires, hcall, hadd, hs⟩ | ⟨n, hcall, hadd, hs⟩ | ⟨n, hcall, hs⟩ := s.serve_cases q
  · rw [h.lifetime] at hadd
    simp only [hs, serveKeeping, hcall, hadd, true_or]
  · rw [h.lifetime] at hadd
    simp only [hs, serveKeeping, hcall, hadd, true_or]
  · simp only [hs, serveKeeping, hcall]
    cases hn : s.entries.get? n with
    | some expires => exact Or.inl (by rw [h.held hn])
    | none =>
      cases hp : p.entries.get? n with
      | none => exact Or.inl rfl
      | some expires =>
        -- what the store has no longer is past its expiry
        have hpast : expires < q.now := by
          refine Int.not_le.1 fun hle => ?_
          cases hn.symm.trans (h.kept hp hle)
        exact Or.inr ⟨rfl, by rw [judge, if_pos hpast]⟩

/-! ## What has been issued -/

/-- The nonce is issued with an expiry, and then neither issued again nor consumed. An issue that
does not return is none. -/
def Outstanding (lifetime : Span) (n : String) (qs : List NonceRequest) (expires : Instant) :
    Prop :=
  ∃ before issued between, qs = before ++ issued :: between ∧ issued.call = .issue n ∧
    issued.now.add? lifetime = some expires ∧
    ∀ q ∈ between, q.call ≠ .consume n ∧ (q.call = .issue n → q.now.add? lifetime = none)

/-- Before any request no nonce is outstanding. -/
theorem not_outstanding_nil : ¬Outstanding lifetime n [] expires := by
  rintro ⟨before, issued, between, hqs, -⟩
  simp at hqs

/-- One more call : it is the issue, or it leaves the nonce alone. -/
theorem outstanding_concat : Outstanding lifetime n (qs ++ [q]) expires ↔
    q.call = .issue n ∧ q.now.add? lifetime = some expires ∨
      Outstanding lifetime n qs expires ∧ q.call ≠ .consume n ∧
        (q.call = .issue n → q.now.add? lifetime = none) := by
  constructor
  · rintro ⟨before, issued, between, hqs, hcall, hadd, hlater⟩
    rcases List.eq_nil_or_concat between with rfl | ⟨between, r, rfl⟩
    · obtain ⟨-, hq⟩ := List.append_inj' hqs rfl
      obtain rfl := List.singleton_inj.1 hq
      exact Or.inl ⟨hcall, hadd⟩
    · rw [List.concat_eq_append, ← List.cons_append, ← List.append_assoc] at hqs
      obtain ⟨rfl, hq⟩ := List.append_inj' hqs rfl
      obtain rfl := List.singleton_inj.1 hq
      exact Or.inr ⟨⟨before, issued, between, rfl, hcall, hadd,
        fun r hr => hlater r (by simp [hr])⟩, hlater q (by simp)⟩
  · rintro (⟨hcall, hadd⟩ | ⟨⟨before, issued, between, rfl, hcall, hadd, hlater⟩, hq⟩)
    · exact ⟨qs, q, [], rfl, hcall, hadd, by simp⟩
    · refine ⟨before, issued, between ++ [q], by simp, hcall, hadd, fun r hr => ?_⟩
      rcases List.mem_append.1 hr with hr | hr
      · exact hlater r hr
      · rwa [List.mem_singleton.1 hr]

theorem lifetime_afterKeeping (lifetime : Span) (qs : List NonceRequest) :
    ((empty lifetime).afterKeeping qs).lifetime = lifetime := by
  induction qs using List.reverseRecOn with
  | nil => rfl
  | append_singleton qs q ih =>
    rw [afterKeeping_concat, serveKeeping]
    split
    · split <;> exact ih
    · exact ih

/-- Where nothing is dropped, a nonce stands from its latest issue until it is consumed. -/
theorem get?_afterKeeping (lifetime : Span) (n : String) (qs : List NonceRequest)
    (expires : Instant) :
    ((empty lifetime).afterKeeping qs).entries.get? n = some expires ↔
      Outstanding lifetime n qs expires := by
  induction qs using List.reverseRecOn with
  | nil => exact ⟨nofun, fun h => absurd h not_outstanding_nil⟩
  | append_singleton qs q ih =>
    obtain ⟨now, call⟩ := q
    rw [afterKeeping_concat, outstanding_concat, ← ih]
    cases call with
    | consume m =>
      by_cases hm : n = m
      · simp [serveKeeping, take, hm]
      · simp [serveKeeping, take, hm, Ne.symm hm]
    | issue m =>
      simp only [serveKeeping, lifetime_afterKeeping]
      cases hadd : now.add? lifetime with
      | none => simp
      | some e =>
        by_cases hm : n = m
        · simp [put, hm]
        · simp [put, hm, Ne.symm hm]

/-- A store of nonces after any run by a clock that does not go back, and the next call. The same
run where nothing is dropped ends in the same answer, except that an expired nonce that was dropped
is unknown to the store and not expired. A nonce is accepted exactly if it was issued, was not
consumed after its latest issue and is not past its expiry. The call leaves nothing that is past its
expiry. -/
theorem purging_changes_no_acceptance (hlifetime : 0 ≤ lifetime.nanos)
    (hclock : (qs ++ [q]).Pairwise fun p q => p.now ≤ q.now) :
    let s := (empty lifetime).after qs
    let p := (empty lifetime).afterKeeping qs
    ((s.serve q).1 = (p.serveKeeping q).1 ∨
      (s.serve q).1 = .consumed (.error .notFound) ∧
        (p.serveKeeping q).1 = .consumed (.error .expired)) ∧
    (∀ n, q.call = .consume n → ((s.serve q).1 = .consumed (.ok ()) ↔
      ∃ expires, Outstanding lifetime n qs expires ∧ q.now ≤ expires)) ∧
    ∀ e ∈ (s.serve q).2.entries.entries, q.now ≤ e.2 := by
  intro s p
  obtain ⟨hqs, -, hq⟩ := List.pairwise_append.1 hclock
  have h : Shadows q.now s p :=
    shadows_after lifetime hqs fun r hr => hq r hr q (List.mem_singleton_self q)
  have hl : s.lifetime = lifetime := h.lifetime.trans (lifetime_afterKeeping lifetime qs)
  refine ⟨h.answer_cases, fun n hcall => ?_, fun e he => le_of_mem_serve (hl ▸ hlifetime) he⟩
  have hanswer : (s.serve q).1 = .consumed (judge q.now (s.entries.get? n)) := by
    simp only [serve, hcall, consume]
  rw [hanswer, NonceAnswer.consumed.injEq, judge_eq_ok_iff]
  simp only [← get?_afterKeeping]
  constructor
  · rintro ⟨expires, hs, hnow⟩
    exact ⟨expires, h.held hs, hnow⟩
  · rintro ⟨expires, hp, hnow⟩
    exact ⟨expires, h.kept hp hnow, hnow⟩

/-- A lifetime of a minute. -/
def minute : Span := ⟨60000000000, by decide⟩

/-- Two nonces, the second half a minute after the first. -/
def twoIssues : List NonceRequest :=
  [⟨.epoch, .issue "n"⟩, ⟨⟨30000000000, by decide, by decide⟩, .issue "m"⟩]

/-- The first is asked for when its minute ends. -/
def onTheMinute : NonceRequest := ⟨⟨60000000000, by decide, by decide⟩, .consume "n"⟩

/-- A third is issued when the others are past their expiry. -/
def thirdIssue : NonceRequest := ⟨⟨90000000001, by decide, by decide⟩, .issue "k"⟩

/-- The first is accepted at the very end of its minute, and the third stands alone. -/
theorem twoIssues_on_the_minute :
    (((empty minute).after twoIssues).serve onTheMinute).1 = .consumed (.ok ()) ∧
    ∀ e ∈ (((empty minute).after twoIssues).serve thirdIssue).2.entries.entries,
      thirdIssue.now ≤ e.2 := by
  have hminute : 0 ≤ minute.nanos := by decide
  have hintime : (twoIssues ++ [onTheMinute]).Pairwise fun p q => p.now ≤ q.now := by decide
  have hlate : (twoIssues ++ [thirdIssue]).Pairwise fun p q => p.now ≤ q.now := by decide
  obtain ⟨-, haccepted, -⟩ := purging_changes_no_acceptance hminute hintime
  obtain ⟨-, -, hpurged⟩ := purging_changes_no_acceptance hminute hlate
  exact ⟨(haccepted "n" rfl).2 ⟨onTheMinute.now, ⟨[], _, _, rfl, rfl, rfl, by simp⟩, by decide⟩,
    hpurged⟩

end NonceStore

end SignIn
