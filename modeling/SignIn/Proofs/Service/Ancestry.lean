import SignIn.Proofs.Refresh.History
import SignIn.Proofs.Service.Grounds
import SignIn.Proofs.Service.LoggedIn
import SignIn.Proofs.Service.Sequence

/-!
# Where records come from

A record says whose place it took, and this leads back from record to record (`RefreshStore.back`).
A new record is written with what its caller was told in three earlier answers, between which
everybody else had turns, and any of these may have failed. Still the answers agree with the stores
(`Agreed`) : a profile is that of the id asked for, and a secret that was good belongs to a record
that is there. So a new record is the first of a login, or it has the user of an older record and
names it (`Pool.origin`).

From this one fact about a turn it follows for every run that each record names one that was there
before it, of the same user, and that the way back from it ends at the record of a login of this
user (`Pool.records_descend_from_logins`).
-/

namespace SignIn

/-! ## The way back -/

namespace RefreshStore

variable {s s' : RefreshStore}

/-- The record that so many steps back from a record lead to. -/
def back (s : RefreshStore) : Nat → RefreshRecord → Option RefreshRecord
  | 0, r => some r
  | n + 1, r => (s.get? r.previous).bind (s.back n)

/-- Where records stay and are only revoked, the way back stays the same. -/
theorem back_of_becomes (h : ∀ {i r}, s.get? i = some r →
    ∃ r', s'.get? i = some r' ∧ r.Becomes r') :
    ∀ {n : Nat} {r r' root : RefreshRecord}, s.back n r = some root → r.Becomes r' →
      ∃ root', s'.back n r' = some root' ∧ root.Becomes root'
  | 0, r, r', root, hr, hb => by
    cases hr
    exact ⟨r', rfl, hb⟩
  | n + 1, r, r', root, hr, hb => by
    obtain ⟨q, hq, hback⟩ := Option.bind_eq_some_iff.1 hr
    obtain ⟨q', hq', hbq⟩ := h hq
    obtain ⟨root', hroot', hbroot⟩ := back_of_becomes h hback hbq
    refine ⟨root', ?_, hbroot⟩
    rw [back, hb.previous_eq, hq']
    exact hroot'

/-- A record was there before, or the call has issued its token. -/
theorem Effect.written {now : Instant} {e : RefreshEvent} (he : s.Effect now e s') {i : String}
    {r : RefreshRecord} (hr : s'.get? i = some r) :
    (∃ q, s.get? i = some q ∧ q.Becomes r) ∨ s.get? i = none ∧ i ≠ "" ∧ ∃ issued : IssuedRefresh,
      issued.tokenId = r.tokenId ∧ e = .issue r.userId r.expires r.previous (.ok issued) := by
  cases he with
  | @issued userId expires previous issued s' entropy drawn free sound kind get =>
    rw [get] at hr
    split_ifs at hr with hi
    · cases hr
      subst hi
      have hfree : s.get? issued.tokenId = none := by
        by_contra hne
        exact free (Or.inl hne)
      have hne : issued.tokenId ≠ "" := drawn ▸ IssuedRefresh.tokenId_ne_empty now entropy
      exact Or.inr ⟨hfree, hne, issued, rfl, rfl⟩
    · exact Or.inl ⟨r, hr, .refl r⟩
  | @revoked tokenId q s' found active sound kind get =>
    rw [get] at hr
    split_ifs at hr with hi
    · cases hr
      exact Or.inl ⟨q, hi ▸ found, Or.inr ⟨active, _, rfl⟩⟩
    · exact Or.inl ⟨r, hr, .refl r⟩
  | duplicate | judged | unknown | alreadyRevoked => exact Or.inl ⟨r, hr, .refl r⟩

end RefreshStore

/-! ## Answers and stores -/

namespace World

variable {w w' : World} {c : Call} {r : c.Reply}

/-- The world without users and records, its stores of the given kinds. -/
def emptied (w : World) (users tokens : Backend) : World :=
  { w with users := UserStore.empty users, refreshTokens := RefreshStore.empty tokens }

/-- The refresh store makes a step, or it is not asked or fails, and then it stays as it was. -/
theorem step_of_answer (h : answer c w = some (r, w')) :
    (∃ now e, (⟨c, r⟩ : Exchange) = e.exchange ∧ w.refreshTokens.Step now e w'.refreshTokens) ∨
      (∀ e : RefreshEvent, (⟨c, r⟩ : Exchange) = e.exchange → e.Refused) ∧
        w'.refreshTokens = w.refreshTokens := by
  unfold answer at h
  split at h
  · rename_i hfault
    cases h
    refine Or.inr ⟨fun e he => ?_, rfl⟩
    cases e <;> cases he <;> obtain ⟨cause, -, hcause⟩ := Option.map_eq_some_iff.1 hfault <;>
      exact ⟨_, hcause.symm⟩
  · have htrace := trace_of_serve h
    rw [refreshEvents_cons] at htrace
    cases he : Exchange.refresh? ⟨c, r⟩ with
    | some e =>
      rw [he] at htrace
      obtain ⟨now, s, hstep, rfl⟩ := htrace
      exact Or.inl ⟨now, e, Exchange.refresh?_eq_some_iff.1 he, hstep⟩
    | none =>
      rw [he] at htrace
      refine Or.inr ⟨fun e hexchange => ?_, htrace⟩
      rw [Exchange.refresh?_eq_some_iff.2 hexchange] at he
      cases he

/-- Whatever is asked, a record stays, and changes only when it is revoked. -/
theorem becomes_of_answer (hs : w.refreshTokens.Sound) (h : answer c w = some (r, w')) {i : String}
    {q : RefreshRecord} (hq : w.refreshTokens.get? i = some q) :
    ∃ q', w'.refreshTokens.get? i = some q' ∧ q.Becomes q' := by
  rcases step_of_answer h with ⟨now, e, -, hstep⟩ | ⟨-, hsame⟩
  · exact (RefreshStore.effect_of_step hs hstep).becomes hq
  · exact ⟨q, hsame ▸ hq, .refl q⟩

/-- A profile that was answered is that of the store. -/
theorem profile_of_answer {id : String} {profile : Profile}
    (h : answer (.userProfile id) w = some (.ok profile, w')) :
    w.users.profile id = .ok profile := by
  unfold answer at h
  split at h
  · rename_i hfault
    cases h
    obtain ⟨e, -, he⟩ := Option.map_eq_some_iff.1 hfault
    cases he
  · exact (congrArg Prod.fst (Option.some.inj h) :)

end World

/-- What was answered agrees with what the stores hold. -/
structure Agreed (w : World) (J : List (Nat × Exchange)) : Prop where
  users : w.users.Sound
  tokens : w.refreshTokens.Sound
  given : ∀ {i id profile}, (i, ⟨.userProfile id, .ok profile⟩) ∈ J → profile.userId = id
  valid : ∀ {i secret v}, (i, ⟨.validateRefresh secret, .ok v⟩) ∈ J →
    ∃ q, w.refreshTokens.get? v.tokenId = some q ∧ q.userId = v.userId
  issued : ∀ {i userId expires previous t},
    (i, ⟨.issueRefresh userId expires previous, .ok t⟩) ∈ J →
    (∃ q, w.refreshTokens.get? t.tokenId = some q ∧ q.tokenHash = fingerprint t.secret) ∧
      ∃ now entropy, t = (IssuedRefresh.draw now entropy).1

theorem agreed_nil {w : World} (users : w.users.Sound) (tokens : w.refreshTokens.Sound) :
    Agreed w [] where
  users := users
  tokens := tokens
  given h := absurd h List.not_mem_nil
  valid h := absurd h List.not_mem_nil
  issued h := absurd h List.not_mem_nil

theorem Agreed.congr {w w' : World} {J : List (Nat × Exchange)} (h : Agreed w J)
    (users : w'.users = w.users) (tokens : w'.refreshTokens = w.refreshTokens) : Agreed w' J where
  users := users ▸ h.users
  tokens := tokens ▸ h.tokens
  given := h.given
  valid hv := tokens ▸ h.valid hv
  issued hi := tokens ▸ h.issued hi

/-- An answer agrees with the stores that it leaves, and the answers before it agree with them
still. -/
theorem Agreed.answer {w w' : World} {J : List (Nat × Exchange)} (h : Agreed w J) {i : Nat}
    {c : Call} {r : c.Reply} (ha : World.answer c w = some (r, w')) :
    Agreed w' (J ++ [(i, ⟨c, r⟩)]) where
  users := by
    rcases World.users_of_answer h.users ha with ⟨d, answer, -, hu⟩ | ⟨-, hsame⟩
    · exact hu.sound h.users
    · exact hsame ▸ h.users
  tokens := by
    rcases World.step_of_answer ha with ⟨now, e, -, hstep⟩ | ⟨-, hsame⟩
    · exact (RefreshStore.effect_of_step h.tokens hstep).sound h.tokens
    · exact hsame ▸ h.tokens
  given {j id profile} hj := by
    rcases List.mem_append.1 hj with hj | hj
    · exact h.given hj
    · cases List.mem_singleton.1 hj
      exact UserStore.userId_of_profile h.users (World.profile_of_answer ha)
  valid {j secret v} hj := by
    rcases List.mem_append.1 hj with hj | hj
    · obtain ⟨q, hq, huser⟩ := h.valid hj
      obtain ⟨q', hq', hb⟩ := World.becomes_of_answer h.tokens ha hq
      exact ⟨q', hq', by rw [hb.eq_with]; exact huser⟩
    · cases List.mem_singleton.1 hj
      rcases World.step_of_answer ha with ⟨now, e, he, hstep⟩ | ⟨hrefused, -⟩
      · cases e <;> cases he
        obtain ⟨hsame, hv⟩ := hstep.validate_eq h.tokens
        obtain ⟨-, q, hq, -, -, -, heq⟩ := RefreshStore.judge_eq_ok h.tokens hv.symm
        exact ⟨q, hsame ▸ hq, by rw [heq]⟩
      · obtain ⟨e, he⟩ := hrefused (.validate secret (.ok v)) rfl
        cases he
  issued {j userId expires previous t} hj := by
    rcases List.mem_append.1 hj with hj | hj
    · obtain ⟨⟨q, hq, hhash⟩, hdrawn⟩ := h.issued hj
      obtain ⟨q', hq', hb⟩ := World.becomes_of_answer h.tokens ha hq
      exact ⟨⟨q', hq', hb.tokenHash_eq.trans hhash⟩, hdrawn⟩
    · cases List.mem_singleton.1 hj
      rcases World.step_of_answer ha with ⟨now, e, he, hstep⟩ | ⟨hrefused, -⟩
      · cases e <;> cases he
        generalize w'.refreshTokens = s' at hstep ⊢
        cases RefreshStore.effect_of_step h.tokens hstep with
        | issued entropy drawn free sound kind get =>
          exact ⟨⟨_, by rw [get, if_pos rfl], rfl⟩, now, entropy, drawn⟩
      · obtain ⟨e, he⟩ := hrefused (.issue userId expires previous (.ok t)) rfl
        cases he

/-! ## New records -/

/-- The record is that of a login, which wrote its user down and was issued the token thereafter. -/
def Begun (requests : List ServiceRequest) (J : List (Nat × Exchange)) (r : RefreshRecord) : Prop :=
  r.previous = "" ∧ ∃ i idToken nonce https d roles issued,
    requests[i]? = some (.login idToken nonce https) ∧ issued.tokenId = r.tokenId ∧
    [(i, (⟨.upsertUser d, .ok (r.userId, roles)⟩ : Exchange)),
      (i, ⟨.issueRefresh r.userId r.expires "", .ok issued⟩)].Sublist J

/-- The way back from the record ends at the record of a login of its user. -/
def Rooted (requests : List ServiceRequest) (s : RefreshStore) (J : List (Nat × Exchange))
    (r : RefreshRecord) : Prop :=
  ∃ n root, s.back n r = some root ∧ root.userId = r.userId ∧ Begun requests J root

section Descent

variable {requests : List ServiceRequest} {J : List (Nat × Exchange)} {r r' : RefreshRecord}

theorem Begun.of_becomes (h : Begun requests J r) (hb : r.Becomes r') (K : List (Nat × Exchange)) :
    Begun requests (J ++ K) r' := by
  obtain ⟨hprevious, i, idToken, nonce, https, d, roles, issued, hi, hissued, hsub⟩ := h
  rw [hb.eq_with]
  exact ⟨hprevious, i, idToken, nonce, https, d, roles, issued, hi, hissued,
    hsub.trans (List.sublist_append_left J K)⟩

/-- The way back stays open while records stay and are at most revoked. -/
theorem Rooted.of_becomes {s s' : RefreshStore}
    (h : ∀ {i r}, s.get? i = some r → ∃ r', s'.get? i = some r' ∧ r.Becomes r')
    (hr : Rooted requests s J r) (hb : r.Becomes r') (K : List (Nat × Exchange)) :
    Rooted requests s' (J ++ K) r' := by
  obtain ⟨n, root, hback, huser, hbegun⟩ := hr
  obtain ⟨root', hback', hbroot⟩ := RefreshStore.back_of_becomes h hback hb
  refine ⟨n, root', hback', ?_, hbegun.of_becomes hbroot K⟩
  rw [hb.eq_with, hbroot.eq_with]
  exact huser

end Descent

namespace Pool

open Operation

variable {settings : Settings} {requests : List ServiceRequest} {p : Pool} {i : String}
  {r : RefreshRecord}

/-- The records of the refresh store. -/
abbrev tokens (p : Pool) : RefreshStore := p.world.refreshTokens

/-- After a turn a record was there before, or it is new : the first of a login, or in the place of
a record of the same user. -/
theorem origin (hled : Led settings requests p) (h : Agreed p.world p.journal) {t : Turn}
    (hr : (p.turn t).tokens.get? i = some r) :
    (∃ q, p.tokens.get? i = some q ∧ q.Becomes r) ∨ p.tokens.get? i = none ∧ i ≠ "" ∧
      (Begun requests (p.turn t).journal r ∨
        ∃ q, p.tokens.get? r.previous = some q ∧ q.userId = r.userId) := by
  rcases turn_cases p t with heq | ⟨c, next, answer, w, hc, ha, heq⟩
  · rw [heq] at hr
    exact Or.inl ⟨r, hr, .refl r⟩
  rw [heq] at hr ⊢
  rcases World.step_of_answer ha with ⟨now, e, he, hstep⟩ | ⟨-, hsame⟩
  · refine ((RefreshStore.effect_of_step h.tokens hstep).written hr).imp_right ?_
    rintro ⟨hfree, hne, issued, hid, rfl⟩
    refine ⟨hfree, hne, ?_⟩
    cases he
    obtain ⟨request, hrequest, hanswered⟩ := hled.asked hc
    -- What the caller was told before it asked for the token.
    cases (request.along_operation settings).answered hanswered with
    | ask hasks _ =>
      have hentitled := hasks r.userId r.expires r.previous rfl
      rw [List.nil_append] at hentitled
      generalize hprevious : r.previous = previous at hentitled
      cases hentitled with
      | @login idToken nonce https d roles written =>
        refine Or.inl ⟨hprevious, t.caller, idToken, nonce, https, d, roles, issued, hrequest,
          hid, ?_⟩
        exact (List.singleton_sublist.2 (mem_callsOf.1 written)).append (.refl _)
      | refresh valid given same =>
        obtain ⟨q, hq, huser⟩ := h.valid (mem_callsOf.1 valid)
        refine Or.inr ⟨q, hq, ?_⟩
        rw [huser, ← h.given (mem_callsOf.1 given), same]
  · have hr : w.refreshTokens.get? i = some r := hr
    rw [hsame] at hr
    exact Or.inl ⟨r, hr, .refl r⟩

/-- Whatever a turn does to the clock and the faults, the answers and the stores agree behind it. -/
theorem agreed_turn (h : Agreed p.world p.journal) (t : Turn) :
    Agreed (p.turn t).world (p.turn t).journal := by
  rcases turn_cases p t with heq | ⟨c, next, answer, w, -, ha, heq⟩
  · rwa [heq]
  · rw [heq]
    exact (h.congr rfl rfl : Agreed (p.world.within t.surroundings) p.journal).answer ha

theorem becomes_turn (h : Agreed p.world p.journal) (t : Turn) {q : RefreshRecord}
    (hq : p.tokens.get? i = some q) : ∃ q', (p.turn t).tokens.get? i = some q' ∧ q.Becomes q' := by
  rcases turn_cases p t with heq | ⟨c, next, answer, w, -, ha, heq⟩
  · rw [heq]
    exact ⟨q, hq, .refl q⟩
  · have hs : (p.world.within t.surroundings).refreshTokens.Sound := h.tokens
    rw [heq]
    exact World.becomes_of_answer hs ha hq

/-! ## Runs -/

/-- All that every turn preserves : callers are where their answers led them, answers agree with the
stores, and the way back from each record ends at the record of a login. -/
structure Ancestral (settings : Settings) (requests : List ServiceRequest) (p : Pool) : Prop where
  led : Led settings requests p
  agreed : Agreed p.world p.journal
  named : p.tokens.get? "" = none
  rooted : ∀ {i r}, p.tokens.get? i = some r → Rooted requests p.tokens p.journal r

/-- A turn writes at most one record, and this has an origin. -/
theorem Ancestral.turn (h : Ancestral settings requests p) (t : Turn) :
    Ancestral settings requests (p.turn t) where
  led := h.led.turn t
  agreed := agreed_turn h.agreed t
  named := by
    by_contra hne
    obtain ⟨r, hr⟩ := Option.ne_none_iff_exists'.1 hne
    rcases origin h.led h.agreed hr with ⟨q, hq, -⟩ | ⟨-, hid, -⟩
    · rw [h.named] at hq
      cases hq
    · exact hid rfl
  rooted {i r} hr := by
    have hbecomes : ∀ {i q}, p.tokens.get? i = some q →
        ∃ q', (p.turn t).tokens.get? i = some q' ∧ q.Becomes q' := becomes_turn h.agreed t
    obtain ⟨new, hnew⟩ : ∃ new, (p.turn t).journal = p.journal ++ new := exists_journal_run [t] p
    rcases origin h.led h.agreed hr with ⟨q, hq, hb⟩ | ⟨-, -, hbegun | ⟨q, hq, huser⟩⟩
    · rw [hnew]
      exact (h.rooted hq).of_becomes hbecomes hb new
    · exact ⟨0, r, rfl, rfl, hbegun⟩
    · obtain ⟨q', hq', hb⟩ := hbecomes hq
      obtain ⟨n, root, hback, hroot, hbegun⟩ := (h.rooted hq).of_becomes hbecomes hb new
      rw [← hnew] at hbegun
      refine ⟨n + 1, root, ?_, ?_, hbegun⟩
      · rw [RefreshStore.back, hq']
        exact hback
      · rw [hroot, hb.eq_with]
        exact huser

/-- Failures that are set change nothing by themselves. -/
theorem Ancestral.faulty (h : Ancestral settings requests p) (f : Faults) :
    Ancestral settings requests { p with world := { p.world with faults := f } } where
  led := ⟨h.led.caller, h.led.request, h.led.mem⟩
  agreed := h.agreed.congr rfl rfl
  named := h.named
  rooted := h.rooted

theorem Ancestral.faultyRun (turns : List FaultyTurn) (h : Ancestral settings requests p) :
    Ancestral settings requests (p.faultyRun turns) :=
  List.foldlRecOn turns faultyTurn h fun _ hp t _ => (hp.faulty t.faults).turn t.turn

/-- A record came in one of the turns, and then the record whose place it took was there. -/
theorem Ancestral.exists_before (h : Ancestral settings requests p)
    (hnone : ∀ i, p.tokens.get? i = none) (turns : List FaultyTurn) :
    ∀ {i r}, (p.faultyRun turns).tokens.get? i = some r →
      ∃ before after, turns = before ++ after ∧ (p.faultyRun before).tokens.get? i = none ∧
        (r.previous = "" ∨
          ∃ q, (p.faultyRun before).tokens.get? r.previous = some q ∧ q.userId = r.userId) := by
  induction turns using List.reverseRecOn with
  | nil =>
    intro i r hr
    rw [show p.faultyRun [] = p from rfl, hnone] at hr
    cases hr
  | append_singleton turns t ih =>
    intro i r hr
    have hturns := (h.faultyRun turns).faulty t.faults
    rw [faultyRun_snoc] at hr
    rcases origin hturns.led hturns.agreed hr with ⟨q, hq, hb⟩ | ⟨hfree, -, hplace⟩
    · obtain ⟨before, after, rfl, hbefore, hplace⟩ := ih hq
      refine ⟨before, after ++ [t], by rw [List.append_assoc], hbefore, ?_⟩
      rw [hb.eq_with]
      exact hplace
    · exact ⟨turns, [t], rfl, hfree, hplace.imp_left And.left⟩

theorem ancestral_start (w : World) (users tokens : Backend) :
    Ancestral settings requests (start settings (w.emptied users tokens) requests) where
  led := led_start
  agreed := agreed_nil (UserStore.sound_empty users) (RefreshStore.sound_empty tokens)
  named := RefreshStore.get?_empty tokens ""
  rooted {i r} hr := by
    have hr : (RefreshStore.empty tokens).get? i = some r := hr
    rw [RefreshStore.get?_empty] at hr
    cases hr

/-- Any requests side by side, over stores of either kind that were empty in the beginning, where in
any turn any collaborator may answer with an error instead of doing its work. Each record that takes
the place of another names a record of the same user that was stored before itself. So some steps
back from any record there is the first record of a login, which wrote this user down and was issued
its token ; no record has the empty id, so the way ends there. -/
theorem records_descend_from_logins (w : World) (users tokens : Backend) (turns : List FaultyTurn) :
    let p := start settings (w.emptied users tokens) requests
    let s := (p.faultyRun turns).tokens
    s.get? "" = none ∧ ∀ r ∈ s.records,
      (r.previous = "" ∨ ∃ before after, turns = before ++ after ∧
        (p.faultyRun before).tokens.get? r.tokenId = none ∧
        ∃ q ∈ (p.faultyRun before).tokens.records, q.tokenId = r.previous ∧ q.userId = r.userId) ∧
      ∃ n root, s.back n r = some root ∧ root.userId = r.userId ∧
        Begun requests (p.faultyRun turns).journal root := by
  intro p s
  have hstart : Ancestral settings requests p := ancestral_start w users tokens
  have h : Ancestral settings requests (p.faultyRun turns) := hstart.faultyRun turns
  refine ⟨h.named, fun r hr => ?_⟩
  have hget := h.agreed.tokens.mem_records_iff.1 hr
  refine ⟨?_, h.rooted hget⟩
  obtain ⟨before, after, hturns, hfree, hplace⟩ :=
    hstart.exists_before (RefreshStore.get?_empty tokens) turns hget
  refine hplace.imp_right fun ⟨q, hq, huser⟩ => ⟨before, after, hturns, hfree, q, ?_⟩
  have hsound := (hstart.faultyRun before).agreed.tokens
  have hid := hsound.tokenId_of_get? hq
  exact ⟨hsound.mem_records_iff.2 (hid.symm ▸ hq), hid, huser⟩

end Pool

end SignIn
