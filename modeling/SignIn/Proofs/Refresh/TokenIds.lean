import Mathlib.Data.List.GetD
import SignIn.Proofs.Encoding.Base64Url
import SignIn.Proofs.Refresh.History
import SignIn.Proofs.Time.Timestamp

/-!
# Token ids

A token id is a timestamp in base64, a hyphen, and six characters of Crockford's alphabet. There may
be hyphens in the base64 but none in the alphabet, so the id is cut at its last one, and what stands
before it is decoded and read (`Identifier.cutLast?_token`). Two ids are therefore the same only if
their instants and their six characters are (`Identifier.token_eq_iff`).

Every record of a store has an id from the instant at which it was issued
(`RefreshStore.Kept.issue_of_after`). A token that is issued at another instant than all before it
does not find its id taken (`Identifier.token_determines_its_instant`).
-/

namespace SignIn

namespace Identifier

/-! ## Crockford's alphabet -/

/-- Each byte gives a character of the alphabet. -/
theorem character_mem (b : UInt8) : character b ∈ alphabet := by
  have hlt : b.toNat % 32 < alphabet.length := Nat.mod_lt _ (by decide)
  rw [character, List.getD_eq_getElem _ _ hlt]
  exact List.getElem_mem hlt

/-- Every character of the alphabet is that of some byte. -/
theorem exists_character_eq {c : Char} (h : c ∈ alphabet) : ∃ b, character b = c := by
  obtain ⟨i, hi, rfl⟩ := List.mem_iff_getElem.1 h
  have hlt : i < 32 := hi
  have hbyte : (UInt8.ofNat i).toNat % 32 = i := by
    rw [UInt8.toNat_ofNat']
    omega
  exact ⟨UInt8.ofNat i, by rw [character, hbyte, List.getD_eq_getElem _ _ hi]⟩

/-- Any characters of the alphabet are drawn from some bytes. -/
theorem exists_map_character_eq : ∀ {cs : List Char}, (∀ c ∈ cs, c ∈ alphabet) →
    ∃ bs : Bytes, bs.length = cs.length ∧ bs.map character = cs
  | [], _ => ⟨[], rfl, rfl⟩
  | c :: cs, h => by
    obtain ⟨b, rfl⟩ := exists_character_eq (h c List.mem_cons_self)
    obtain ⟨bs, hlength, rfl⟩ := exists_map_character_eq fun d hd => h d (List.mem_cons_of_mem _ hd)
    exact ⟨b :: bs, congrArg (· + 1) hlength, rfl⟩

/-- The random part has no hyphen, so the last hyphen of an id stands before it. -/
theorem hyphen_not_mem_raw (bs : Bytes) : '-' ∉ (raw bs).toList := by
  rw [raw, String.toList_ofList, List.mem_map]
  rintro ⟨b, -, hb⟩
  have hmem := character_mem b
  rw [hb] at hmem
  exact absurd hmem (by decide)

/-! ## Stamps -/

/-- The part of a token id that tells its instant. -/
def stamp (t : Instant) : List Char :=
  Base64Url.encode (Utf8.bytes (String.ofList (Stamp.toNanos t)))

/-- The stamp is read back as the text of its instant. -/
theorem decode?_stamp (t : Instant) :
    Base64Url.decode? (stamp t) = some (Utf8.bytes (String.ofList (Stamp.toNanos t))) :=
  Base64Url.decode?_encode _

/-- Different instants have different stamps. -/
theorem stamp_injective : Function.Injective stamp := by
  intro s t h
  have hdecoded := congrArg Base64Url.decode? h
  rw [decode?_stamp, decode?_stamp] at hdecoded
  have htext := Utf8.bytes_injective (Option.some.inj hdecoded)
  exact Timestamp.toNanos_injective (String.ofList_injective htext)

/-- A token id is cut at its last hyphen into its stamp and its suffix. -/
theorem cutLast?_token (t : Instant) (bs : Bytes) :
    Text.cutLast? '-' (token t bs).toList = some (stamp t, (raw bs).toList) := by
  have htext : (token t bs).toList = stamp t ++ '-' :: (raw bs).toList := by
    simp [token, Base64Url.encodeText, stamp]
  -- the stamp may hold hyphens, so it is for the suffix to be free of them
  rw [htext, Text.cutLast?_append _ (hyphen_not_mem_raw bs)]

/-- Two token ids are the same only if their instants and their suffixes are. -/
theorem token_eq_iff {t t' : Instant} {bs bs' : Bytes} :
    token t bs = token t' bs' ↔ t = t' ∧ raw bs = raw bs' := by
  constructor
  · intro h
    have hcut := congrArg (fun id => Text.cutLast? '-' id.toList) h
    rw [cutLast?_token, cutLast?_token] at hcut
    obtain ⟨hstamp, hraw⟩ := Prod.mk.inj (Option.some.inj hcut)
    exact ⟨stamp_injective hstamp, String.toList_inj.1 hraw⟩
  · rintro ⟨rfl, hraw⟩
    rw [token, token, hraw]

end Identifier

/-! ## Ids of records -/

/-- The call issues a token. -/
def RefreshRequest.IsIssue (q : RefreshRequest) : Prop :=
  ∃ userId expires previous, q.call = .issue userId expires previous

/-- The id of a token is of the instant at which it is drawn. -/
theorem IssuedRefresh.exists_tokenId_draw (now : Instant) (entropy : Entropy) :
    ∃ bs, (draw now entropy).1.tokenId = Identifier.token now bs :=
  ⟨_, rfl⟩

namespace RefreshStore

variable {s s' : RefreshStore} {i : String}

/-- An id comes into use only if a token is issued, and then it is of this instant. -/
theorem Effect.issue_of_new {now : Instant} {e : RefreshEvent} (he : s.Effect now e s')
    (hnew : s.get? i = none) (hthere : s'.get? i ≠ none) :
    (∃ userId expires previous answer, e = .issue userId expires previous answer) ∧
      ∃ bs, i = Identifier.token now bs := by
  cases he with
  | issued entropy drawn free sound kind get =>
    rw [get] at hthere
    split_ifs at hthere with hi
    · obtain ⟨bs, hbs⟩ := IssuedRefresh.exists_tokenId_draw now entropy
      exact ⟨⟨_, _, _, _, rfl⟩, bs, by rw [hi, drawn, hbs]⟩
    · exact absurd hnew hthere
  | revoked found active sound kind get =>
    rw [get] at hthere
    split_ifs at hthere with hi
    · -- the record that is stamped was there before
      rw [← hi, hnew] at found
      cases found
    · exact absurd hnew hthere
  | duplicate | judged | unknown | alreadyRevoked => exact absurd hnew hthere

theorem get?_close (s : RefreshStore) (i : String) : s.close.get? i = s.get? i := by
  cases s <;> rfl

theorem get?_reopen (s : RefreshStore) (i : String) : s.reopen.get? i = s.get? i := by
  cases s <;> rfl

theorem isIssue_of_event {q : RefreshRequest} {userId previous : String} {expires : Int}
    {answer : Except RefreshError IssuedRefresh}
    (h : (s.serve q.now q.entropy q.call).1 = .issue userId expires previous answer) :
    q.IsIssue := by
  obtain ⟨now, entropy, call⟩ := q
  cases call with
  | issue userId expires previous => exact ⟨_, _, _, rfl⟩
  | validate secret => cases h
  | revoke tokenId => cases h

/-- An id was in use before an action, or the action is a call that has issued it. -/
theorem Kept.issue_of_act (h : s.Kept) (a : RefreshAction) (hthere : (s.act a).get? i ≠ none) :
    s.get? i ≠ none ∨ ∃ q, a = .call q ∧ q.IsIssue ∧ ∃ bs, i = Identifier.token q.now bs := by
  cases a with
  | close => exact Or.inl fun hnone => hthere ((get?_close s i).trans hnone)
  | call q =>
    rcases h.effect q with hc | ⟨-, he⟩
    · have hsame : s.act (.call q) = s := (serve_of_closed hc q.now q.entropy q.call).2
      rw [hsame] at hthere
      exact Or.inl hthere
    · refine or_iff_not_imp_left.2 fun hnew => ?_
      obtain ⟨⟨_, _, _, _, hevent⟩, hid⟩ := he.issue_of_new (not_not.1 hnew) hthere
      exact ⟨q, rfl, isIssue_of_event hevent, hid⟩

/-- An id was in use before a run, or a call of the run has issued it. -/
theorem Kept.issue_of_after : ∀ (actions : List RefreshAction) {s : RefreshStore}, s.Kept →
    (s.after actions).get? i ≠ none →
      s.get? i ≠ none ∨ ∃ q, .call q ∈ actions ∧ q.IsIssue ∧ ∃ bs, i = Identifier.token q.now bs
  | [], _, _, hthere => Or.inl hthere
  | a :: actions, s, h, hthere => by
    rcases Kept.issue_of_after actions (h.act a) hthere with hact | ⟨q, hq, hissued⟩
    · refine (h.issue_of_act a hact).imp_right ?_
      rintro ⟨q, rfl, hissued⟩
      exact ⟨q, List.mem_cons_self, hissued⟩
    · exact Or.inr ⟨q, List.mem_cons_of_mem _ hq, hissued⟩

theorem Kept.get?_of_mem (h : s.Kept) {r : RefreshRecord} (hr : r ∈ s.records) :
    s.get? r.tokenId = some r := by
  rw [← get?_reopen]
  exact h.sound.mem_records_iff.1 ((records_reopen s).symm ▸ hr)

theorem issue_of_closed (h : s.IsClosed) {now : Instant} {entropy : Entropy}
    {userId previous : String} {expires : Int} : (s.issue now entropy userId expires previous).1 =
      .error (s.fail .issue (.storage .closed)) := by
  cases s with
  | memory m => exact h.elim
  | table t =>
    obtain ⟨rows, isOpen⟩ := t
    obtain rfl : isOpen = false := h
    rfl

/-- A token that is refused as a duplicate, although its id is free, has the hash of some record. -/
theorem Kept.exists_hash_of_duplicate (h : s.Kept) {now : Instant} {entropy : Entropy}
    {userId previous : String} {expires : Int}
    (hfree : s.get? (IssuedRefresh.draw now entropy).1.tokenId = none)
    (hduplicate : (s.issue now entropy userId expires previous).1 =
      .error (s.fail .issue .duplicate)) :
    ∃ r ∈ s.records, r.tokenHash = fingerprint (IssuedRefresh.draw now entropy).1.secret := by
  by_cases hc : s.IsClosed
  · rw [issue_of_closed hc] at hduplicate
    simp [fail] at hduplicate
  have hs := h.sound
  rw [reopen_of_not_isClosed hc] at hs
  by_cases htaken : s.Taken ((IssuedRefresh.draw now entropy).1.record now userId expires previous)
  · rcases htaken with hid | hhash
    · exact absurd hfree hid
    · obtain ⟨r, hr⟩ := Option.ne_none_iff_exists'.1 hhash
      obtain ⟨hget, hrhash⟩ := hs.find?_eq_some_iff.1 hr
      exact ⟨r, hs.mem_records_iff.2 hget, hrhash⟩
  · obtain ⟨s', hissue, -⟩ := issue_of_free hs htaken
    rw [hissue] at hduplicate
    cases hduplicate

end RefreshStore

/-- A token id determines its instant. It is cut at its last hyphen into a stamp and six characters
of the alphabet, any six of which there may be ; the stamp is decoded as the text of the instant,
which is read as this instant ; and two ids are the same only if their instants and their six
characters are. So a token that is issued at another instant than all before it, in a store of
either kind, does not find its id taken, and if it is refused as a duplicate, the hash of its secret
is taken. -/
theorem Identifier.token_determines_its_instant :
    (∀ (t : Instant) (bs : Bytes), ∃ stamp text,
      Text.cutLast? '-' (token t bs).toList = some (stamp, (raw bs).toList) ∧
      Base64Url.decode? stamp = some (Utf8.bytes (String.ofList text)) ∧
      text = Stamp.toNanos t ∧ Timestamp.read? text = some t.nanos) ∧
    (∀ suffix : List Char, suffix.length = tokenBytes → (∀ c ∈ suffix, c ∈ alphabet) →
      ∃ bs : Bytes, bs.length = tokenBytes ∧ raw bs = String.ofList suffix) ∧
    (∀ (t t' : Instant) (bs bs' : Bytes), token t bs = token t' bs' ↔ t = t' ∧ raw bs = raw bs') ∧
    ∀ (b : Backend) (earlier : List RefreshAction) (now : Instant) (entropy : Entropy)
      (userId previous : String) (expires : Int),
      (∀ q, .call q ∈ earlier → q.IsIssue → q.now ≠ now) →
        let s := (RefreshStore.empty b).after earlier
        let issued := (IssuedRefresh.draw now entropy).1
        (∀ r ∈ s.records, r.tokenId ≠ issued.tokenId) ∧
        ((s.issue now entropy userId expires previous).1 = .error (s.fail .issue .duplicate) →
          ∃ r ∈ s.records, r.tokenHash = fingerprint issued.secret) := by
  refine ⟨fun t bs => ⟨stamp t, Stamp.toNanos t, cutLast?_token t bs, decode?_stamp t, rfl,
    Timestamp.read?_toNanos t⟩, fun suffix hlength hsuffix => ?_,
    fun t t' bs bs' => token_eq_iff, ?_⟩
  · obtain ⟨bs, hbs, rfl⟩ := exists_map_character_eq hsuffix
    exact ⟨bs, hbs.trans hlength, rfl⟩
  intro b earlier now entropy userId previous expires hinstants
  dsimp only
  have hkept := RefreshStore.Kept.after earlier (RefreshStore.kept_empty b)
  have hfree :
      ((RefreshStore.empty b).after earlier).get? (IssuedRefresh.draw now entropy).1.tokenId =
        none := by
    by_contra hthere
    rcases RefreshStore.Kept.issue_of_after earlier (RefreshStore.kept_empty b) hthere with
      hempty | ⟨q, hq, hissue, bs, hid⟩
    · exact hempty (RefreshStore.get?_empty b _)
    · obtain ⟨bs', hdrawn⟩ := IssuedRefresh.exists_tokenId_draw now entropy
      exact hinstants q hq hissue (token_eq_iff.1 (hdrawn.symm.trans hid)).1.symm
  refine ⟨fun r hr hid => ?_, hkept.exists_hash_of_duplicate hfree⟩
  rw [← hid, hkept.get?_of_mem hr] at hfree
  cases hfree

/-- A token that was issued a nanosecond after the start of 1970. -/
def RefreshRequest.nanosecondLate : RefreshRequest :=
  ⟨⟨1, by decide, by decide⟩, ⟨[], 0⟩, .issue "U_1" 60 ""⟩

/-- The same random bytes make another id a nanosecond before. -/
theorem Identifier.ids_a_nanosecond_apart :
    (∀ q, .call q ∈ [RefreshAction.call .nanosecondLate] → q.IsIssue → q.now ≠ Instant.epoch) ∧
      ∀ r ∈ ((RefreshStore.empty .sqlite).after [.call .nanosecondLate]).records,
        r.tokenId ≠ (IssuedRefresh.draw Instant.epoch ⟨[], 0⟩).1.tokenId := by
  have hinstants : ∀ q, .call q ∈ [RefreshAction.call .nanosecondLate] → q.IsIssue →
      q.now ≠ Instant.epoch := by
    intro q hq _
    cases List.mem_singleton.1 hq
    decide
  obtain ⟨-, -, -, hfree⟩ := token_determines_its_instant
  exact ⟨hinstants, (hfree .sqlite _ Instant.epoch ⟨[], 0⟩ "U_1" "" 60 hinstants).1⟩

end SignIn
