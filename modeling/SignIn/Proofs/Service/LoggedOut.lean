import Mathlib.Logic.Relation
import SignIn.Proofs.Service.Ancestry
import SignIn.Proofs.Service.HandedOut
import SignIn.Proofs.Service.Rotation
import SignIn.Proofs.Session.Issued
import SignIn.Proofs.Web.Lifetime

/-!
# What a logout leaves of a session

A logout cannot take a session token back, but it ends the chain of refresh tokens behind it. Its
record is revoked then or has expired before, and nothing follows it (`RefreshStore.Closed`). Later
visits keep it so (`Orderly.closed_visit`), because a refresh goes on only from a record that is
active and has not expired. All records before it in the chain are revoked, so no secret of the
chain is good any more, and a refresh that is refused mints nothing (`Orderly.not_mints_of_closed`).

Hence every session of the chain was minted before the logout, and it has expired one lifetime after
it (`World.logout_bounds_access`). The time is that of the answers (`World.transcripts`), and all
that is asked of the clock is that it never goes back.
-/

namespace SignIn

namespace RefreshStore

open Relation

variable {s s' : RefreshStore} {es : List RefreshEvent} {i j secret : String} {r : RefreshRecord}
  {now T : Instant}

/-! ## New records of a trace -/

/-- A record was there before, or a call of the trace has issued its token. -/
theorem Trace.written : ∀ {s : RefreshStore} {es : List RefreshEvent}, s.Sound → Trace s es s' →
    s'.get? i = some r → (∃ q, s.get? i = some q ∧ q.Becomes r) ∨
      ∃ issued, .issue r.userId r.expires r.previous (.ok issued) ∈ es
  | s, [], hs, ht, hr => by
    obtain rfl : s' = s := ht
    exact Or.inl ⟨r, hr, .refl r⟩
  | s, e :: es, hs, ht, hr => by
    obtain ⟨now, s₁, hstep, ht⟩ := ht
    have he := effect_of_step hs hstep
    rcases Trace.written (he.sound hs) ht hr with ⟨q, hq, hb⟩ | ⟨issued, hissued⟩
    · rcases he.written hq with ⟨p, hp, hbp⟩ | ⟨-, -, issued, -, rfl⟩
      · exact Or.inl ⟨p, hp, hbp.trans hb⟩
      · rw [hb.eq_with]
        exact Or.inr ⟨issued, List.mem_cons_self⟩
    · exact Or.inr ⟨issued, List.mem_cons_of_mem _ hissued⟩

/-- A token that is issued has an id that no record had. -/
theorem Trace.free_of_mem (hs : s.Sound) (ht : Trace s es s') {userId previous : String}
    {expires : Int} {issued : IssuedRefresh}
    (h : .issue userId expires previous (.ok issued) ∈ es) :
    s.get? issued.tokenId = none ∧ issued.tokenId ≠ "" := by
  obtain ⟨fs, gs, now, s₁, s₂, rfl, h₁, hstep, -⟩ := ht.of_mem h
  cases effect_of_step (h₁.sound hs) hstep with
  | issued entropy drawn free sound kind get =>
    refine ⟨?_, drawn ▸ IssuedRefresh.tokenId_ne_empty now entropy⟩
    cases hq : s.get? issued.tokenId with
    | none => rfl
    | some q =>
      obtain ⟨q', hq', -⟩ := h₁.becomes hs hq
      exact absurd rfl (ne_tokenId_of_free free hq')

/-! ## Chains that are closed -/

/-- From the instant on, the record cannot be used. -/
def Unusable (s : RefreshStore) (T : Instant) (i : String) : Prop :=
  ∃ r, s.get? i = some r ∧ (r.isRevoked = true ∨ r.expires ≤ T.seconds)

/-- From the instant on, the record cannot be used, and nothing follows it. -/
structure Closed (s : RefreshStore) (T : Instant) (i : String) : Prop where
  unusable : s.Unusable T i
  last : ∀ j, ¬s.Follows i j

theorem Revoked.unusable (h : s.Revoked i) (T : Instant) : s.Unusable T i := by
  obtain ⟨r, hr, hrev⟩ := h
  exact ⟨r, hr, Or.inl hrev⟩

/-- A record that cannot be used stays so. -/
theorem Unusable.becomes (h : s.Unusable T i)
    (hb : ∀ {r}, s.get? i = some r → ∃ r', s'.get? i = some r' ∧ r.Becomes r') :
    s'.Unusable T i := by
  obtain ⟨r, hr, hcase⟩ := h
  obtain ⟨r', hr', hb⟩ := hb hr
  refine ⟨r', hr', hcase.imp (fun hrev => ?_) fun hexp => ?_⟩
  · rwa [hb.eq_of_isRevoked hrev]
  · rw [hb.eq_with]
    exact hexp

theorem validate_eq_ok {v : ValidRefresh} (hs : s.Sound) (h : s.validate now secret = .ok v) :
    ∃ r, s.get? v.tokenId = some r ∧ r.tokenHash = fingerprint secret ∧ r.isRevoked = false ∧
      now.seconds < r.expires := by
  have hjudge : s.judge now secret = .ok v := (validate_eq hs now secret).symm.trans h
  obtain ⟨-, r, hr, hhash, hact, hexp, -⟩ := judge_eq_ok hs hjudge
  exact ⟨r, hr, hhash, hact, hexp⟩

/-- A secret that is good is not that of such a record. -/
theorem not_unusable_of_validate {v : ValidRefresh} (hs : s.Sound)
    (h : s.validate now secret = .ok v) (hT : T ≤ now) : ¬s.Unusable T v.tokenId := by
  rintro ⟨r, hr, hcase⟩
  obtain ⟨q, hq, -, hact, hexp⟩ := validate_eq_ok hs h
  obtain rfl := Option.some.inj (hr.symm.trans hq)
  rcases hcase with hrev | hpast
  · rw [hact] at hrev
    cases hrev
  · have hseconds := Instant.seconds_le_seconds hT
    omega

/-- One of the records took the place of the other, directly or by others between. -/
def SameChain (s : RefreshStore) (i j : String) : Prop :=
  ReflTransGen s.Follows i j ∨ ReflTransGen s.Follows j i

/-- When a chain is closed, all its records but the last are revoked, also in the eyes of a later
store. -/
theorem Closed.of_sameChain (h : s.Closed T i) (hl : s.Lineage) (hl' : s'.Lineage)
    (hlast : ∀ j, ¬s'.Follows i j)
    (hb : ∀ {k r}, s.get? k = some r → ∃ r', s'.get? k = some r' ∧ r.Becomes r')
    (hj : s'.SameChain i j) : j = i ∨ j = "" ∨ s.Revoked j := by
  rcases hj with hj | hj
  · rcases hj.cases_head with rfl | ⟨k, hk, -⟩
    · exact Or.inl rfl
    · exact absurd hk (hlast k)
  · -- back along the chain, from its last record
    induction hj using ReflTransGen.head_induction_on with
    | refl => exact Or.inl rfl
    | @head j k hjk _ ih =>
      obtain ⟨r', hr', rfl⟩ := hjk
      have hk : ∃ r, s.get? k = some r := by
        rcases ih with rfl | rfl | ⟨r, hr, -⟩
        · obtain ⟨r, hr, -⟩ := h.unusable
          exact ⟨r, hr⟩
        · rw [hl'.named] at hr'
          cases hr'
        · exact ⟨r, hr⟩
      obtain ⟨r, hr⟩ := hk
      obtain ⟨q, hq, hbq⟩ := hb hr
      obtain rfl := Option.some.inj (hq.symm.trans hr')
      rw [hbq.previous_eq]
      exact Or.inr (hl.known hr)

end RefreshStore

/-! ## Visits -/

/-- An operation that presents a secret begins with the question whether it is good, and does not
look at the clock when it is not. -/
theorem ServiceRequest.operation_of_secret (settings : Settings) {request : ServiceRequest}
    {secret : String} (h : request.secret? = some secret) :
    ∃ next, request.operation settings = .ask (.validateRefresh secret) next ∧
      ∀ e, Operation.Spares .clock (next (.error e)) := by
  cases request with
  | issueNonce | login => cases h
  | refresh cookie =>
    have hsecret : Service.presented? cookie = some secret := h
    rw [operation, Service.refresh, Service.tryRefresh, hsecret]
    refine ⟨_, rfl, fun e => ⟨?_, fun _ => ⟨?_, fun _ => trivial⟩⟩⟩ <;> simp [Call.collaborator]
  | logout cookie =>
    have hsecret : Service.presented? cookie = some secret := h
    rw [operation, Service.logout, hsecret]
    refine ⟨_, rfl, fun e => ⟨?_, fun _ => ⟨?_, fun _ => trivial⟩⟩⟩ <;> simp [Call.collaborator]

section Calls

variable {secret userId previous : String} {expires : Int} {issued : IssuedRefresh}
  {events : List RefreshEvent}

/-- A refresh is issued a token in the place of the record that its secret is good for. -/
theorem Refreshing.valid_of_issue {p : Operation (Except AuthFailure (List String))}
    (hp : Refreshing secret events p) (h : .issue userId expires previous (.ok issued) ∈ events) :
    ∃ v rest, events = .validate secret (.ok v) :: rest ∧ v.tokenId = previous := by
  cases hp with
  | waiting | rejected | accepted | refused => simp at h
  | issued | revoked =>
    simp only [List.mem_cons, reduceCtorEq, RefreshEvent.issue.injEq, false_or, or_false,
      List.not_mem_nil] at h
    exact ⟨_, _, rfl, h.2.2.1.symm⟩

/-- A logout is issued no token. -/
theorem LoggingOut.issue_not_mem {p : Operation Unit} (hp : LoggingOut secret events p)
    (answer : Except RefreshError IssuedRefresh) :
    .issue userId expires previous answer ∉ events := by
  cases hp <;> simp

end Calls

namespace World

open Operation RefreshStore

variable {settings : Settings} {w : World} {v : Visit} {i j secret : String} {T : Instant}

/-- The questions of a visit with their answers, and when they were answered. -/
def told (settings : Settings) (w : World) (v : Visit) : List (Instant × Exchange) :=
  w.transcript v.moments (v.request.operation settings)

/-- The questions of all visits with their answers. -/
def transcripts (settings : Settings) : World → List Visit → List (Instant × Exchange)
  | _, [] => []
  | w, v :: run => w.told settings v ++ (w.visit settings v).transcripts settings run

theorem transcripts_append : ∀ (before : List Visit) {w : World} (after : List Visit),
    w.transcripts settings (before ++ after) =
      w.transcripts settings before ++ (w.visits settings before).transcripts settings after
  | [], _, _ => rfl
  | v :: before, w, after => by
    rw [List.cons_append, transcripts, transcripts, transcripts_append before after,
      List.append_assoc]
    rfl

/-- The clock says when it is read. -/
theorem eq_of_readClock {α : Type} : ∀ {w : World} {σ : Nat → Surroundings} {p : Operation α}
    {t now : Instant}, (t, ⟨.readClock, now⟩) ∈ w.transcript σ p → now = t
  | w, σ, .done _, t, now, h => absurd h List.not_mem_nil
  | w, σ, .ask c next, t, now, h => by
    cases ha : answer c (w.within (σ 0)) with
    | none =>
      simp only [transcript, ha] at h
      exact absurd h List.not_mem_nil
    | some a =>
      obtain ⟨r, w'⟩ := a
      rw [transcript_ask ha] at h
      rcases List.mem_cons.1 h with heq | h
      · cases heq
        cases ha
        rfl
      · exact eq_of_readClock h

/-- A visit that presents a secret is first told whether it is good. -/
theorem Orderly.told_of_secret (h : w.Orderly) (settings : Settings)
    (hs : v.request.secret? = some secret) :
    ∃ next : Except RefreshError ValidRefresh → Operation Outcome,
      (∀ e, Spares .clock (next (.error e))) ∧
      w.told settings v = ((v.moments 0).clock,
          ⟨.validateRefresh secret, w.refreshTokens.validate (v.moments 0).clock secret⟩) ::
        (w.within (v.moments 0)).transcript (fun k => v.moments (k + 1))
          (next (w.refreshTokens.validate (v.moments 0).clock secret)) := by
  obtain ⟨next, hoperation, hrefused⟩ := ServiceRequest.operation_of_secret settings hs
  refine ⟨next, hrefused, ?_⟩
  rw [told, hoperation]
  exact transcript_ask (answer_validateRefresh (w := w.within (v.moments 0)) h.spares secret)

theorem Orderly.answered_told (h : w.Orderly) (settings : Settings) (v : Visit) :
    Answered (v.request.operation settings) ((w.told settings v).map Prod.snd)
        (w.rest v.moments (v.request.operation settings)) ∧
      w.refreshTokens.Trace (refreshEvents ((w.told settings v).map Prod.snd))
        (w.visit settings v).refreshTokens :=
  ⟨(answered_play v.moments _ h.spares).1, (answered_play v.moments _ h.spares).2.1⟩

/-- A record is followed by a new one only if a refresh finds its secret good. -/
theorem Orderly.follows_visit (h : w.Orderly) (hi : i ≠ "")
    (hf : (w.visit settings v).refreshTokens.Follows i j) :
    w.refreshTokens.Follows i j ∨ ∃ secret valid, v.request.secret? = some secret ∧
      w.refreshTokens.validate (v.moments 0).clock secret = .ok valid ∧ valid.tokenId = i := by
  obtain ⟨hes, ht⟩ := h.answered_told settings v
  obtain ⟨r, hr, hprevious⟩ := hf
  rcases ht.written h.sound hr with ⟨q, hq, hb⟩ | ⟨issued, hissued⟩
  · exact Or.inl ⟨q, hq, hb.previous_eq.symm.trans hprevious⟩
  refine Or.inr ?_
  rw [hprevious] at hissued
  cases hrequest : v.request with
  | issueNonce =>
    rw [hrequest] at hes
    rw [ServiceRequest.refreshEvents_of_issueNonce hes] at hissued
    exact absurd hissued List.not_mem_nil
  | login idToken nonce https =>
    rw [hrequest] at hes
    rcases ServiceRequest.refreshEvents_of_login hes with hnone | ⟨userId, expires, answer, hone⟩
    · rw [hnone] at hissued
      exact absurd hissued List.not_mem_nil
    · rw [hone] at hissued
      cases List.mem_singleton.1 hissued
      exact absurd rfl hi
  | refresh cookie =>
    cases hsecret : Service.presented? cookie with
    | none =>
      rw [hrequest] at hes
      rw [ServiceRequest.refreshEvents_of_blank hsecret (Or.inl hes)] at hissued
      exact absurd hissued List.not_mem_nil
    | some secret =>
      have hpresents : v.request.secret? = some secret := hrequest ▸ hsecret
      obtain ⟨next, -, htold⟩ := h.told_of_secret settings hpresents
      rw [hrequest] at hes
      obtain ⟨p, hp, -⟩ := ServiceRequest.refreshing_of_answered hsecret hes
      obtain ⟨valid, rest, hevents, hid⟩ := hp.valid_of_issue hissued
      rw [htold, List.map_cons, refreshEvents_cons] at hevents
      refine ⟨secret, valid, hsecret, ?_, hid⟩
      exact (RefreshEvent.validate.inj (List.cons.inj hevents).1).2
  | logout cookie =>
    rw [hrequest] at hes
    cases hsecret : Service.presented? cookie with
    | none =>
      rw [ServiceRequest.refreshEvents_of_blank hsecret (Or.inr hes)] at hissued
      exact absurd hissued List.not_mem_nil
    | some secret =>
      obtain ⟨cookies, p, hp, -⟩ := ServiceRequest.loggingOut_of_answered hsecret hes
      exact absurd hissued (hp.issue_not_mem _)

/-- A chain that is closed is so after a visit that comes later. -/
theorem Orderly.closed_visit (h : w.Orderly) (hc : w.refreshTokens.Closed T i)
    (hT : ∀ secret, v.request.secret? = some secret → T ≤ (v.moments 0).clock) :
    (w.visit settings v).refreshTokens.Closed T i := by
  refine ⟨hc.unusable.becomes (h.passage v).becomes, fun j hf => ?_⟩
  obtain ⟨r, hr, -⟩ := hc.unusable
  rcases h.follows_visit (h.lineage.ne_empty hr) hf with
    hold | ⟨secret, valid, hsecret, hvalid, hid⟩
  · exact hc.last j hold
  · exact not_unusable_of_validate h.sound hvalid (hT secret hsecret) (hid ▸ hc.unusable)

/-- A visit that presents a secret begins when it is told about the secret. -/
theorem Orderly.le_of_secret (h : w.Orderly) (hT : ∀ e ∈ w.told settings v, T ≤ e.1)
    (hs : v.request.secret? = some secret) : T ≤ (v.moments 0).clock := by
  obtain ⟨next, -, htold⟩ := h.told_of_secret settings hs
  exact hT _ (htold ▸ List.mem_cons_self)

theorem Orderly.closed_visits (run : List Visit) : ∀ {w : World}, w.Orderly →
    w.refreshTokens.Closed T i → (∀ e ∈ w.transcripts settings run, T ≤ e.1) →
      (w.visits settings run).refreshTokens.Closed T i := by
  induction run with
  | nil => exact fun _ hc _ => hc
  | cons v run ih =>
    intro w h hc hT
    obtain ⟨hv, hrun⟩ := List.forall_mem_append.1 hT
    exact ih (h.visit v) (h.closed_visit hc fun secret hs => h.le_of_secret hv hs) hrun

/-- A logout with the secret of the last record of a chain closes the chain. -/
theorem Orderly.closed_of_logout (h : w.Orderly) {cookie : Option String}
    (hcookie : Service.presented? cookie = some secret) {σ : Nat → Surroundings} {r : RefreshRecord}
    (hr : w.refreshTokens.get? i = some r) (hhash : r.tokenHash = fingerprint secret)
    (hlast : ∀ j, ¬w.refreshTokens.Follows i j) :
    (w.visit settings ⟨.logout cookie, σ⟩).refreshTokens.Closed (σ 0).clock i := by
  by_cases hexp : (σ 0).clock.seconds < r.expires
  · have hretired : (w.visit settings ⟨.logout cookie, σ⟩).refreshTokens.Retired i :=
      h.retired_of_logout hcookie hr hhash hexp hlast
    exact ⟨hretired.1.unusable _, hretired.2⟩
  · have hc : w.refreshTokens.Closed (σ 0).clock i := ⟨⟨r, hr, Or.inr (by omega)⟩, hlast⟩
    exact h.closed_visit hc fun _ _ => Int.le_refl _

/-! ## Sessions -/

end World

/-- The id of a token that was issued. -/
def Exchange.issuedId? : Exchange → Option String
  | ⟨.issueRefresh _ _ _, .ok issued⟩ => some issued.tokenId
  | _ => none

/-- The instant that was read from the clock. -/
def Exchange.reading? : Exchange → Option Instant
  | ⟨.readClock, now⟩ => some now
  | _ => none

theorem mem_readings {es : List Exchange} {now : Instant} :
    now ∈ es.filterMap Exchange.reading? ↔ ⟨.readClock, now⟩ ∈ es := by
  rw [List.mem_filterMap]
  constructor
  · rintro ⟨e, he, hread⟩
    unfold Exchange.reading? at hread
    split at hread
    · cases hread
      exact he
    · cases hread
  · exact fun he => ⟨_, he, rfl⟩

/-- The token is that of a session minted at an instant that was read from the clock. -/
def Mints (settings : Settings) (es : List Exchange) (token : String) : Prop :=
  ∃ profile minted, ∃ issuedAt ∈ es.filterMap Exchange.reading?,
    SessionToken.mint profile settings.issuer settings.signingKey issuedAt
      settings.sessionLifetime = .ok (some minted) ∧ token = minted.token

/-- The request presents the secret of a record of the chain, or is issued a token of the chain. -/
def OfChain (s : RefreshStore) (i : String) (request : ServiceRequest) (es : List Exchange) :
    Prop :=
  (∃ secret, ∃ r ∈ s.records, request.secret? = some secret ∧ r.tokenHash = fingerprint secret ∧
    s.SameChain i r.tokenId) ∨ ∃ j ∈ es.filterMap Exchange.issuedId?, s.SameChain i j

/-- Cookies that are handed out hold a session that was minted. -/
theorem HandedOut.exists_mints {settings : Settings} {es : List Exchange} {cookies : List String}
    (h : HandedOut settings es cookies) : ∃ token expires now refresh, Mints settings es token ∧
      cookies = [Cookie.setSession settings token expires now, refresh] := by
  obtain ⟨profile, now, issuedAt, minted, refreshExpires, issued, previous, hmint, -, hsub, rfl⟩ :=
    h
  exact ⟨minted.token, minted.expires, now, _,
    ⟨profile, minted, issuedAt, mem_readings.2 (hsub.subset (by simp)), hmint, rfl⟩, rfl⟩

/-- A session has expired one lifetime after any instant that does not lie before its issue. -/
theorem SessionToken.verify_of_late {profile : Profile} {issuer : String} {key : Bytes}
    {issuedAt T t : Instant} {lifetime : Span} {minted : Minted}
    (h : mint profile issuer key issuedAt lifetime = .ok (some minted)) (hT : issuedAt ≤ T)
    (ht : T.nanos + lifetime.nanos ≤ t.nanos) :
    verify key issuer t minted.token = .error .expired ∨
      verify key issuer t minted.token = .error .invalidToken := by
  obtain ⟨hadd, htoken⟩ := token_of_mint h
  have hlate : minted.expires ≤ t := by
    change issuedAt.nanos ≤ T.nanos at hT
    change minted.expires.nanos ≤ t.nanos
    rw [Instant.nanos_of_add? hadd]
    omega
  have hseconds : (claims profile issuer issuedAt minted.expires).expires ≤ t.seconds :=
    Instant.seconds_le_seconds hlate
  rw [htoken, verify_sign (hasTimes_claims profile issuer issuedAt minted.expires)]
  by_cases hneg : (claims profile issuer issuedAt minted.expires).notBefore < 0 ∨
      (claims profile issuer issuedAt minted.expires).expires < 0
  · rw [if_pos hneg]
    exact Or.inr rfl
  · rw [if_neg hneg, if_neg (by simp [claims]), if_pos hseconds]
    exact Or.inl rfl

theorem Exchange.exists_of_issuedId {e : Exchange} {j : String} (h : e.issuedId? = some j) :
    ∃ userId expires previous issued,
      e = ⟨.issueRefresh userId expires previous, .ok issued⟩ ∧ issued.tokenId = j := by
  unfold issuedId? at h
  split at h
  · cases h
    exact ⟨_, _, _, _, rfl, rfl⟩
  · cases h

namespace World

open Operation RefreshStore

variable {settings : Settings} {w : World} {v : Visit} {i secret token : String} {T : Instant}
  {s : RefreshStore}

/-- A secret whose record cannot be used any more is refused, and a request that presents it does
not look at the clock. -/
theorem Orderly.readClock_not_mem (h : w.Orderly) {j : String}
    (hs : v.request.secret? = some secret) (hn : w.refreshTokens.Names secret j)
    (hj : w.refreshTokens.Unusable T j)
    (hT : T ≤ (v.moments 0).clock) (now : Instant) :
    ⟨.readClock, now⟩ ∉ (w.told settings v).map Prod.snd := by
  obtain ⟨next, hrefused, htold⟩ := h.told_of_secret settings hs
  rw [htold, List.map_cons, List.mem_cons]
  rintro (heq | hmem)
  · cases heq
  · cases hvalid : w.refreshTokens.validate (v.moments 0).clock secret with
    | ok valid =>
      obtain ⟨r, hr, hhash, -⟩ := validate_eq_ok h.sound hvalid
      have hid := hn.unique h.sound ⟨r, hr, hhash⟩
      exact not_unusable_of_validate h.sound hvalid hT (hid ▸ hj)
    | error e =>
      rw [hvalid] at hmem
      have hspares : (w.within (v.moments 0)).faults.SparesRefresh := h.spares
      exact (hrefused e).answered (answered_play _ _ hspares).1 _ hmem rfl

/-- Once a chain is closed, no visit of the chain mints a session. The chain is that of a later
store. -/
theorem Orderly.not_mints_of_closed (h : w.Orderly) (hc : w.refreshTokens.Closed T i) (hs : s.Sound)
    (hl : s.Lineage) (hlast : ∀ j, ¬s.Follows i j)
    (hb : ∀ {k r}, w.refreshTokens.get? k = some r → ∃ r', s.get? k = some r' ∧ r.Becomes r')
    (hT : ∀ e ∈ w.told settings v, T ≤ e.1)
    (hof : OfChain s i v.request ((w.told settings v).map Prod.snd)) :
    ¬Mints settings ((w.told settings v).map Prod.snd) token := by
  rintro ⟨profile, minted, issuedAt, hread, -, -⟩
  rw [mem_readings] at hread
  have hchain : ∀ {j}, s.SameChain i j → j ≠ "" → w.refreshTokens.Unusable T j := fun hj hne => by
    rcases hc.of_sameChain h.lineage hl hlast hb hj with rfl | rfl | hrevoked
    · exact hc.unusable
    · exact absurd rfl hne
    · exact hrevoked.unusable T
  rcases hof with ⟨secret, r, hr, hsecret, hhash, hj⟩ | ⟨j, hissued, hj⟩
  · have hget := hs.get?_of_mem hr
    have hunusable := hchain hj (hl.ne_empty hget)
    have hnames : w.refreshTokens.Names secret r.tokenId := by
      obtain ⟨q, hq, -⟩ := hunusable
      obtain ⟨r', hr', hbq⟩ := hb hq
      obtain rfl := Option.some.inj (hr'.symm.trans hget)
      exact ⟨q, hq, hbq.tokenHash_eq.symm.trans hhash⟩
    exact h.readClock_not_mem hsecret hnames hunusable (h.le_of_secret hT hsecret) issuedAt hread
  · obtain ⟨e, he, hid⟩ := List.mem_filterMap.1 hissued
    obtain ⟨userId, expires, previous, issued, rfl, rfl⟩ := Exchange.exists_of_issuedId hid
    have hevent : .issue userId expires previous (.ok issued) ∈
        refreshEvents ((w.told settings v).map Prod.snd) := List.mem_filterMap.2 ⟨_, he, rfl⟩
    obtain ⟨hfree, hne⟩ := (h.answered_told settings v).2.free_of_mem h.sound hevent
    obtain ⟨q, hq, -⟩ := hchain hj hne
    rw [hfree] at hq
    cases hq

/-- Once a chain is closed, no later visit of the chain mints a session. -/
theorem Orderly.not_mints_of_visits (h : w.Orderly) (hc : w.refreshTokens.Closed T i)
    (between later : List Visit)
    (hT : ∀ e ∈ w.transcripts settings (between ++ v :: later), T ≤ e.1)
    (hof : OfChain (w.visits settings (between ++ v :: later)).refreshTokens i v.request
      (((w.visits settings between).told settings v).map Prod.snd)) :
    ¬Mints settings (((w.visits settings between).told settings v).map Prod.snd) token := by
  rw [transcripts_append] at hT
  obtain ⟨hbetween, hrest⟩ := List.forall_mem_append.1 hT
  have hvisited : (w.visits settings between).Orderly := h.visits between
  have hfinal : ((w.visits settings between).visits settings (v :: later)).Orderly :=
    hvisited.visits (v :: later)
  have hclosed := h.closed_visits between hc hbetween
  have hlast := (hvisited.closed_visits (v :: later) hclosed hrest).last
  rw [visits_append] at hof
  exact hvisited.not_mints_of_closed hclosed hfinal.sound hfinal.lineage hlast
    (fun hq => hvisited.becomes (v :: later) hq)
    (fun e he => hrest e (List.mem_append_left _ he)) hof

/-- Two places in a list : the same, or one before the other. -/
theorem places_cases {α : Type} {l₁ l₂ m₁ m₂ : List α} {x y : α}
    (h : l₁ ++ x :: l₂ = m₁ ++ y :: m₂) :
    (x = y ∧ l₁ = m₁) ∨ (∃ k, m₁ = l₁ ++ x :: k) ∨ ∃ k, l₁ = m₁ ++ y :: k ∧ m₂ = k ++ x :: l₂ := by
  rcases List.append_eq_append_iff.1 h with ⟨k, rfl, hk⟩ | ⟨k, rfl, hk⟩
  · rcases List.cons_eq_append_iff.1 hk with ⟨rfl, heq⟩ | ⟨k', rfl, -⟩
    · exact Or.inl ⟨(List.cons.inj heq).1.symm, by simp⟩
    · exact Or.inr (Or.inl ⟨k', rfl⟩)
  · rcases List.cons_eq_append_iff.1 hk with ⟨rfl, heq⟩ | ⟨k', rfl, hk'⟩
    · exact Or.inl ⟨(List.cons.inj heq).1, by simp⟩
    · exact Or.inr (Or.inr ⟨k', rfl, hk'⟩)

theorem transcripts_place (earlier later : List Visit) :
    w.transcripts settings (earlier ++ v :: later) = w.transcripts settings earlier ++
      ((w.visits settings earlier).told settings v ++
        ((w.visits settings earlier).visit settings v).transcripts settings later) :=
  transcripts_append earlier (v :: later)

/-- A logout does not look at the clock. -/
theorem Orderly.readClock_not_mem_logout (h : w.Orderly) {cookie : Option String}
    {σ : Nat → Surroundings} (now : Instant) :
    ⟨.readClock, now⟩ ∉ (w.told settings ⟨.logout cookie, σ⟩).map Prod.snd := fun hmem => by
  have hspares : Spares .clock (ServiceRequest.operation settings (.logout cookie)) :=
    ((Service.asksOnly_logout settings cookie).spares (by decide)).map Outcome.logout
  exact hspares.answered (h.answered_told settings ⟨.logout cookie, σ⟩).1 _ hmem rfl

/-- In a run of visits without faults, whose clock never goes back, a logout may present the secret
of the last record of a chain, be it active or expired. Then no session that a visit of the chain
has minted, before the logout or after it, is accepted from one session lifetime after the instant
of the logout on. Among these sessions are all that such a visit handed out in cookies. -/
theorem logout_bounds_access (settings : Settings) (b : Backend) (now : Instant) (entropy : Entropy)
    (counting : Bool) (run : List Visit) :
    let w := start settings b now entropy counting
    let s := (w.visits settings run).refreshTokens
    (w.transcripts settings run).Pairwise (fun e f => e.1 ≤ f.1) →
    ∀ before cookie σ after secret, run = before ++ ⟨.logout cookie, σ⟩ :: after →
      Service.presented? cookie = some secret →
      let records := (w.visits settings before).refreshTokens.records
      ∀ r ∈ records, r.tokenHash = fingerprint secret → (∀ q ∈ records, q.previous ≠ r.tokenId) →
      ∀ earlier v later, run = earlier ++ v :: later →
        let es := ((w.visits settings earlier).told settings v).map Prod.snd
        OfChain s r.tokenId v.request es →
        (∀ token, Mints settings es token →
          ∀ t : Instant, (σ 0).clock.nanos + settings.sessionLifetime.nanos ≤ t.nanos →
            SessionToken.verify settings.signingKey settings.issuer t token = .error .expired ∨
            SessionToken.verify settings.signingKey settings.issuer t token =
              .error .invalidToken) ∧
        ∀ o cookies, Answered (v.request.operation settings) es (.done o) →
          o.handedOut? = some cookies → ∃ token expires now refresh, Mints settings es token ∧
            cookies = [Cookie.setSession settings token expires now, refresh] := by
  intro w s hclock before cookie σ after secret hrun hcookie records r hr hhash hlast earlier v
    later hrun' es hof
  refine ⟨fun token hmints t ht => ?_, fun o cookies hes ho =>
    (ServiceRequest.handedOut hes ho).exists_mints⟩
  have hw : w.Orderly := orderly_start settings b now entropy counting
  have hbefore : (w.visits settings before).Orderly := hw.visits before
  have hearlier : (w.visits settings earlier).Orderly := hw.visits earlier
  obtain ⟨profile, minted, issuedAt, hread, hmint, rfl⟩ := id hmints
  rw [mem_readings] at hread
  refine SessionToken.verify_of_late hmint ?_ ht
  obtain ⟨next, -, htold⟩ := hbefore.told_of_secret settings
    (v := ⟨.logout cookie, σ⟩) hcookie
  have hT : (((σ 0).clock, _) : Instant × Exchange) ∈
      (w.visits settings before).told settings ⟨.logout cookie, σ⟩ := htold ▸ List.mem_cons_self
  have htimes := hclock
  rw [hrun, transcripts_place, List.pairwise_append] at htimes
  rcases places_cases (hrun'.symm.trans hrun) with ⟨rfl, rfl⟩ | ⟨k, rfl⟩ | ⟨k, rfl, rfl⟩
  · exact absurd hread (hearlier.readClock_not_mem_logout issuedAt)
  · -- before the logout : the clock was read then
    obtain ⟨⟨t', e⟩, hmem, he⟩ := List.mem_map.1 hread
    cases he
    obtain rfl := eq_of_readClock hmem
    have hmem : (issuedAt, (⟨.readClock, issuedAt⟩ : Exchange)) ∈
        w.transcripts settings (earlier ++ v :: k) := by
      rw [transcripts_place]
      exact List.mem_append_right _ (List.mem_append_left _ hmem)
    exact htimes.2.2 _ hmem _ (List.mem_append_left _ hT)
  · -- after the logout : no session is minted
    have hclosed :
        ((w.visits settings before).visit settings ⟨.logout cookie, σ⟩).refreshTokens.Closed
          (σ 0).clock r.tokenId := by
      refine hbefore.closed_of_logout hcookie (hbefore.sound.get?_of_mem hr) hhash ?_
      rintro j ⟨p, hp, hprev⟩
      exact hlast p
        (hbefore.sound.mem_records_iff.2 (by rwa [hbefore.sound.tokenId_of_get? hp])) hprev
    rw [htold, List.cons_append, List.pairwise_cons] at htimes
    have hsame : ∀ visits, w.visits settings (before ++ ⟨.logout cookie, σ⟩ :: visits) =
        ((w.visits settings before).visit settings ⟨.logout cookie, σ⟩).visits settings visits :=
      fun visits => visits_append settings w before _
    have hs : s = (((w.visits settings before).visit settings ⟨.logout cookie, σ⟩).visits settings
        (k ++ v :: later)).refreshTokens := by rw [← hsame, ← hrun]
    have hes : es = ((((w.visits settings before).visit settings ⟨.logout cookie, σ⟩).visits
        settings k).told settings v).map Prod.snd := by rw [← hsame]
    rw [hes] at hmints hof
    rw [hs] at hof
    exact absurd hmints ((hbefore.visit _).not_mints_of_visits hclosed k later
      (fun e he => htimes.2.1.1 e (List.mem_append_right _ he)) hof)

end World

/-! ## One logout -/

namespace FirstLogout

open SessionToken (noon)
open FirstLogin (nonce settings surroundings twentyPast)

/-- The secret of the token that the login is issued. -/
def secret : String := (IssuedRefresh.draw noon ⟨[], 0⟩).1.secret

/-- A login that presents the nonce. -/
def login : Visit := ⟨.login "token" nonce true, fun _ => surroundings noon⟩

/-- A nonce is issued before it. -/
def before : List Visit := [⟨.issueNonce, fun _ => surroundings noon⟩, login]

/-- A logout that presents the secret. -/
def logout : Visit := ⟨.logout (some secret), fun _ => surroundings noon⟩

/-- All at noon. -/
def run : List Visit := before ++ [logout]

theorem clock_eq : (FirstLogin.world.transcripts settings run).Pairwise fun e f => e.1 ≤ f.1 := by
  decide +kernel

/-- What the login is told. -/
def told : List Exchange :=
  ((FirstLogin.world.visits settings [⟨.issueNonce, fun _ => surroundings noon⟩]).told
    settings login).map Prod.snd

/-- The records that the logout finds. -/
def records : List RefreshRecord := (FirstLogin.world.visits settings before).refreshTokens.records

theorem exists_record : ∃ r ∈ records, r.tokenHash = fingerprint secret ∧
    (∀ q ∈ records, q.previous ≠ r.tokenId) ∧ r.tokenId ∈ told.filterMap Exchange.issuedId? := by
  decide +kernel

theorem presented_secret : Service.presented? (some secret) = some secret := by
  decide +kernel

theorem noon_mem : noon ∈ told.filterMap Exchange.reading? := by
  decide +kernel

/-- A session from noon is not accepted twenty minutes later. -/
theorem session_ends_after_logout : ∃ r token, run = before ++ logout :: [] ∧ r ∈ records ∧
    (FirstLogin.world.transcripts settings run).Pairwise (fun e f => e.1 ≤ f.1) ∧
    r.tokenHash = fingerprint secret ∧ (∀ q ∈ records, q.previous ≠ r.tokenId) ∧
    OfChain (FirstLogin.world.visits settings run).refreshTokens r.tokenId login.request told ∧
    Mints settings told token ∧
    (SessionToken.verify settings.signingKey settings.issuer twentyPast token = .error .expired ∨
      SessionToken.verify settings.signingKey settings.issuer twentyPast token =
        .error .invalidToken) := by
  obtain ⟨r, hr, hhash, hlast, hissued⟩ := exists_record
  have hof :
      OfChain (FirstLogin.world.visits settings run).refreshTokens r.tokenId login.request told :=
    Or.inr ⟨r.tokenId, hissued, Or.inl .refl⟩
  have hmint : SessionToken.mint SessionToken.ada settings.issuer settings.signingKey noon
      settings.sessionLifetime = _ :=
    SessionToken.mint_eq (by decide) (by decide)
      (rfl : noon.add? settings.sessionLifetime = some twentyPast)
  have hmints : Mints settings told _ := ⟨SessionToken.ada, _, noon, noon_mem, hmint, rfl⟩
  obtain ⟨hexpired, -⟩ :=
    World.logout_bounds_access settings .memory noon ⟨[], 0⟩ false run clock_eq
    before (some secret) _ [] secret rfl presented_secret r hr hhash hlast
    [⟨.issueNonce, fun _ => surroundings noon⟩] login [logout] rfl hof
  exact ⟨r, _, rfl, hr, clock_eq, hhash, hlast, hof, hmints,
    hexpired _ hmints twentyPast (by decide)⟩

end FirstLogout
end SignIn
