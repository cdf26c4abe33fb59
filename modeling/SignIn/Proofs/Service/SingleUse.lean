import Mathlib.Data.Set.Card
import SignIn.Proofs.Service.Journal

/-!
# A nonce is used once

A nonce that the store holds can be used once more, so the uses of a nonce and what is held of it
are together no more than the times it was issued. One answer of the world preserves this, whatever
the clock reads, the verifier says and the random bytes repeat (`World.held_of_answer`), hence every
run does (`Pool.countP_uses_le`).

In a run only a login asks to use a nonce, and it goes on only if the store says yes
(`ServiceRequest.login_of_answered`) ; only the issue of a nonce asks for one, once, and ends with
it (`ServiceRequest.issueNonce_of_answered`). So the callers can be counted in the place of the
calls (`Pool.nonces_are_single_use`).
-/

namespace SignIn

/-! ## What is held of a nonce -/

namespace NonceStore

variable {s s' : NonceStore} {now : Instant} {m : String} (n : String)

/-- 1 while the nonce can be used, else 0. -/
def held (s : NonceStore) : Nat := if s.entries.get? n = none then 0 else 1

theorem held_purge_le (s : NonceStore) (now : Instant) : (s.purge now).held n ≤ s.held n := by
  by_cases h : s.entries.get? n = none
  · have hkept : (s.purge now).entries.get? n = none := Dict.get?_keep_of_none h _
    rw [held, if_pos hkept]
    exact Nat.zero_le _
  · rw [held, held, if_neg h]
    split_ifs <;> decide

/-- At most the nonce that is issued is held besides. -/
theorem held_issue_le (s : NonceStore) (now : Instant) (m : String) :
    (s.issue now m).2.held n ≤ (if (s.issue now m).1 = some n then 1 else 0) + s.held n := by
  have hpurge := held_purge_le n s now
  cases h : now.add? s.lifetime with
  | none =>
    rw [issue_of_none h, if_neg nofun, Nat.zero_add]
    exact hpurge
  | some expires =>
    rw [issue_of_some h]
    simp only [held, put, Dict.get?_insert] at hpurge ⊢
    rcases eq_or_ne n m with rfl | hne
    · simp
    · rw [if_neg hne, if_neg fun heq => hne (Option.some.inj heq).symm, Nat.zero_add]
      exact hpurge

/-- A nonce that was used is no longer held. -/
theorem held_consume_le (s : NonceStore) (now : Instant) (m : String) :
    (if m = n ∧ (s.consume now m).1 = .ok () then 1 else 0) + (s.consume now m).2.held n ≤
      s.held n := by
  have hpurge := held_purge_le n (s.take m) now
  rcases eq_or_ne n m with rfl | hne
  · have htaken : (s.take n).held n = 0 := by simp [held, take]
    rw [htaken] at hpurge
    rw [consume, Nat.le_zero.1 hpurge]
    cases hn : s.entries.get? n with
    | none => simp [judge]
    | some expires =>
      rw [held, hn]
      split_ifs <;> simp_all
  · have hkept : (s.take m).held n = s.held n := by simp [held, take, hne]
    rw [hkept] at hpurge
    rw [if_neg fun h => hne h.1.symm, Nat.zero_add]
    exact hpurge

end NonceStore

/-! ## Issues and uses -/

namespace Exchange

variable {n : String} {e : Exchange}

/-- The nonce is issued. -/
def issues (n : String) : Exchange → Bool
  | ⟨.issueNonce, .ok (some m)⟩ => m == n
  | _ => false

/-- The nonce is used. -/
def uses (n : String) : Exchange → Bool
  | ⟨.consumeNonce m, .ok ()⟩ => m == n
  | _ => false

theorem issues_iff : e.issues n = true ↔ e = ⟨.issueNonce, .ok (some n)⟩ := by
  constructor
  · intro h
    unfold issues at h
    split at h
    · rw [beq_iff_eq.1 h]
    · cases h
  · rintro rfl
    exact beq_self_eq_true n

theorem uses_iff : e.uses n = true ↔ e = ⟨.consumeNonce n, .ok ()⟩ := by
  constructor
  · intro h
    unfold uses at h
    split at h
    · rw [beq_iff_eq.1 h]
    · cases h
  · rintro rfl
    exact beq_self_eq_true n

theorem toNat_issues (n : String) (issued : Option String) :
    (issues n ⟨.issueNonce, .ok issued⟩).toNat = if issued = some n then 1 else 0 := by
  cases issued with
  | none => simp [issues]
  | some m => by_cases h : m = n <;> simp [issues, h]

theorem toNat_uses (n m : String) (reply : Except NonceError Unit) :
    (uses n ⟨.consumeNonce m, reply⟩).toNat = if m = n ∧ reply = .ok () then 1 else 0 := by
  cases reply with
  | error e => simp [uses]
  | ok u => by_cases h : m = n <;> simp [uses, h]

end Exchange

namespace World

variable {w w' : World} {c : Call} {r : c.Reply}

@[simp] theorem within_nonces (w : World) (σ : Surroundings) : (w.within σ).nonces = w.nonces := rfl

theorem held_of_serve (n : String) (h : serve c w = some (r, w')) :
    (Exchange.uses n ⟨c, r⟩).toNat + w'.nonces.held n ≤
      (Exchange.issues n ⟨c, r⟩).toNat + w.nonces.held n := by
  cases c with
  | issueNonce =>
    rw [serve_issueNonce] at h
    generalize Identifier.secret _ = m at h
    cases h
    rw [Exchange.toNat_issues]
    exact (Nat.zero_add _).trans_le (NonceStore.held_issue_le n w.nonces w.clock m)
  | consumeNonce m =>
    cases h
    rw [Exchange.toNat_uses]
    exact (NonceStore.held_consume_le n w.nonces w.clock m).trans (Nat.le_add_left _ _)
  | count event =>
    cases h
    split_ifs <;> exact Nat.le_refl _
  | halt => cases h
  | readClock | verifyIdentity | upsertUser | userProfile | issueRefresh | validateRefresh
  | revokeRefresh | log =>
    cases h
    exact Nat.le_refl _

/-- The uses of a nonce and what is held of it grow by no more than it is issued. -/
theorem held_of_answer (n : String) (h : answer c w = some (r, w')) :
    (Exchange.uses n ⟨c, r⟩).toNat + w'.nonces.held n ≤
      (Exchange.issues n ⟨c, r⟩).toNat + w.nonces.held n := by
  unfold answer at h
  split at h
  -- A fault refuses, so that it neither issues nor uses a nonce.
  · rename_i hfault
    cases h
    cases c with
    | consumeNonce m =>
      obtain ⟨e, -, rfl⟩ := Option.map_eq_some_iff.1 hfault
      rw [Exchange.toNat_uses, if_neg nofun, Nat.zero_add]
      exact Nat.le_add_left _ _
    | readClock | issueNonce | verifyIdentity | upsertUser | userProfile | issueRefresh
    | validateRefresh | revokeRefresh | count | log | halt =>
      exact Nat.add_le_add_right (Nat.zero_le _) _
  · exact held_of_serve n h

end World

/-! ## What each request asks of the nonce store -/

/-- The question goes to the counters or to the log. -/
def Call.IsRecord : Call → Prop
  | .count _ | .log _ => True
  | _ => False

theorem Call.IsRecord.collaborator_ne_nonces {c : Call} (h : c.IsRecord) :
    c.collaborator ≠ .nonces := by
  cases c <;> first | exact h.elim | exact nofun

namespace ServiceRequest

open Operation

variable {settings : Settings} {es : List Exchange} {q : Operation Outcome} {n : String}

theorem spares_refresh (settings : Settings) (cookie : Option String) :
    Spares .nonces (operation settings (.refresh cookie)) :=
  ((Service.asksOnly_refresh settings cookie).spares (by decide)).map Outcome.refresh

theorem spares_logout (settings : Settings) (cookie : Option String) :
    Spares .nonces (operation settings (.logout cookie)) :=
  ((Service.asksOnly_logout settings cookie).spares (by decide)).map Outcome.logout

/-- The issue of a nonce asks for one, once, and ends with it. -/
theorem issueNonce_of_answered (h : Answered (operation settings .issueNonce) es q) :
    es = [] ∨ ∃ reply fs, es = ⟨.issueNonce, reply⟩ :: fs ∧
      (∀ e ∈ fs, e.call.collaborator ≠ .nonces) ∧
      ∀ n, reply = .ok (some n) → q = .done (.issueNonce (.ok n)) := by
  rcases answered_ask h with ⟨rfl, rfl⟩ | ⟨reply, fs, rfl, h₁⟩
  · exact Or.inl rfl
  refine Or.inr ⟨reply, fs, rfl, ?_⟩
  rcases reply with e | _ | n
  · have hspares : Spares .nonces (.ask (.log (Service.failureEntry "nonce"
        (.nonceIssue e))) fun _ => .done (Outcome.issueNonce (.error (.nonceIssue e)))) :=
      ⟨nofun, fun _ => trivial⟩
    exact ⟨hspares.answered h₁, nofun⟩
  · rcases answered_ask h₁ with ⟨rfl, -⟩ | ⟨r, -⟩
    · exact ⟨fun _ he => absurd he List.not_mem_nil, nofun⟩
    · exact r.elim
  · obtain ⟨rfl, rfl⟩ := answered_done h₁
    refine ⟨fun _ he => absurd he List.not_mem_nil, fun m hm => ?_⟩
    cases hm
    rfl

/-- The login has got nowhere so far : it has asked the counters and the log alone, and has not
handed out cookies. -/
def Idle (es : List Exchange) (q : Operation Outcome) : Prop :=
  (∀ e ∈ es, e.call.IsRecord) ∧ ∀ outcome, q ≠ .done (.login (.ok outcome))

/-- A login gets nowhere before the store has said that its nonce can be used, and it asks this
once. -/
theorem login_of_answered {idToken nonce : String} {https : Bool}
    (h : Answered (operation settings (.login idToken nonce https)) es q) :
    Idle es q ∨ ∃ reply fs, es = ⟨.consumeNonce (Text.trim nonce), reply⟩ :: fs ∧
      (∀ e ∈ fs, e.call.collaborator ≠ .nonces) ∧ (reply = .ok () ∨ Idle fs q) := by
  have hfailed (f : AuthFailure) : Only Call.IsRecord (fun o => ∀ outcome, o ≠ .login (.ok outcome))
      (((Service.loginFailed f).bind fun f => .done (.error f)).bind fun result =>
        .done (Outcome.login result)) :=
    ⟨trivial, fun _ => ⟨trivial, fun _ => nofun⟩⟩
  have hidle {es q f} (h : Answered (((Service.loginFailed f).bind fun f => .done (.error f)).bind
      fun result => .done (Outcome.login result)) es q) : Idle es q := by
    obtain ⟨hes, hq⟩ := (hfailed f).answered h
    refine ⟨hes, fun outcome => ?_⟩
    rintro rfl
    exact hq outcome rfl
  rw [operation, Service.login] at h
  rcases Service.tryLogin_cases settings idToken nonce https with ⟨f, hf⟩ | ⟨next, hnext, hask⟩
  · rw [hf] at h
    exact Or.inl (hidle h)
  rw [hask] at h
  rcases answered_ask h with ⟨rfl, rfl⟩ | ⟨reply, fs, rfl, h₁⟩
  · exact Or.inl ⟨fun _ he => absurd he List.not_mem_nil, fun _ => nofun⟩
  refine Or.inr ⟨reply, fs, rfl, ?_⟩
  cases reply with
  | error e =>
    have hfs := hidle h₁
    exact ⟨fun e he => (hfs.1 e he).collaborator_ne_nonces, Or.inr hfs⟩
  | ok u =>
    refine ⟨Spares.answered ?_ h₁, Or.inl rfl⟩
    refine Spares.map (((hnext u).spares (by decide)).bind fun result => ?_) Outcome.login
    cases result with
    | ok outcome => exact ⟨nofun, fun _ => trivial⟩
    | error f => exact ⟨nofun, fun _ => ⟨nofun, fun _ => trivial⟩⟩

theorem issues_eq_false {e : Exchange} (h : e.call.collaborator ≠ .nonces) :
    e.issues n = false := by
  obtain ⟨c, reply⟩ := e
  cases c <;> first | rfl | exact absurd rfl h

/-- A request is issued one nonce at most, and then ends with it. -/
theorem issues_of_answered {r : ServiceRequest} (h : Answered (operation settings r) es q)
    (n : String) :
    es.countP (Exchange.issues n) ≤ 1 ∧
      ∀ e ∈ es, e.issues n = true → q = .done (.issueNonce (.ok n)) := by
  have hnone (fs : List Exchange) (hfs : ∀ e ∈ fs, e.issues n = false) :
      fs.countP (Exchange.issues n) = 0 := by
    rw [List.countP_eq_zero]
    exact fun e he => by simp [hfs e he]
  have hspares (h : ∀ e ∈ es, e.issues n = false) : es.countP (Exchange.issues n) ≤ 1 ∧
      ∀ e ∈ es, e.issues n = true → q = .done (.issueNonce (.ok n)) := by
    refine ⟨by simp [hnone es h], fun e he hissues => ?_⟩
    rw [h e he] at hissues
    cases hissues
  cases r with
  | issueNonce =>
    rcases issueNonce_of_answered h with rfl | ⟨reply, fs, rfl, hfs, hreply⟩
    · exact hspares fun _ he => absurd he List.not_mem_nil
    have hfs (e) (he : e ∈ fs) : e.issues n = false := issues_eq_false (hfs e he)
    refine ⟨?_, fun e he hissues => ?_⟩
    · rw [List.countP_cons, hnone fs hfs]
      split_ifs <;> decide
    · rcases List.mem_cons.1 he with rfl | he
      · cases Exchange.issues_iff.1 hissues
        exact hreply n rfl
      · rw [hfs e he] at hissues
        cases hissues
  | login idToken nonce https =>
    refine hspares ?_
    rcases login_of_answered h with hidle | ⟨reply, fs, rfl, hfs, -⟩
    · exact fun e he => issues_eq_false (hidle.1 e he).collaborator_ne_nonces
    · exact List.forall_mem_cons.2 ⟨rfl, fun e he => issues_eq_false (hfs e he)⟩
  | refresh cookie =>
    exact hspares fun e he =>
      issues_eq_false ((spares_refresh settings cookie).answered h e he)
  | logout cookie =>
    exact hspares fun e he =>
      issues_eq_false ((spares_logout settings cookie).answered h e he)

end ServiceRequest

/-! ## Callers and their calls -/

section Count

variable {f : Exchange → Bool} {J : List (Nat × Exchange)} {S : Set Nat}

theorem count_map_fst_filter (i : Nat) : ∀ J : List (Nat × Exchange),
    ((J.filter fun e => f e.2).map Prod.fst).count i = (callsOf i J).countP f
  | [] => rfl
  | (j, e) :: J => by
    have ih := count_map_fst_filter i J
    rw [callsOf_cons]
    by_cases hf : f e = true <;> by_cases hj : j = i <;> simp [hf, hj, ih]

/-- Callers who have made such a call are no more than the calls. -/
theorem encard_le_countP (h : ∀ i ∈ S, ∃ e, f e = true ∧ (i, e) ∈ J) :
    S.encard ≤ J.countP fun e => f e.2 := by
  have hsub : S ⊆ ((J.filter fun e => f e.2).map Prod.fst).toFinset := by
    intro i hi
    obtain ⟨e, hf, he⟩ := h i hi
    simp only [List.coe_toFinset, List.mem_map, List.mem_filter, Set.mem_ofPred_eq]
    exact ⟨(i, e), ⟨he, hf⟩, rfl⟩
  calc S.encard ≤ (((J.filter fun e => f e.2).map Prod.fst).toFinset : Set Nat).encard :=
        Set.encard_le_encard hsub
    _ ≤ ((J.filter fun e => f e.2).map Prod.fst).length := by
      rw [Set.encard_coe_eq_coe_finsetCard]
      exact_mod_cast List.toFinset_card_le _
    _ = J.countP fun e => f e.2 := by rw [List.length_map, List.countP_eq_length_filter]

/-- Calls that no caller has made twice are no more than the callers. -/
theorem countP_le_encard (honce : ∀ i, (callsOf i J).countP f ≤ 1)
    (h : ∀ i e, (i, e) ∈ J → f e = true → i ∈ S) :
    (J.countP fun e => f e.2 : ℕ∞) ≤ S.encard := by
  have hnodup : ((J.filter fun e => f e.2).map Prod.fst).Nodup := by
    rw [List.nodup_iff_count_le_one]
    exact fun i => (count_map_fst_filter i J).trans_le (honce i)
  have hsub : (((J.filter fun e => f e.2).map Prod.fst).toFinset : Set Nat) ⊆ S := by
    intro i hi
    simp only [List.coe_toFinset, List.mem_map, List.mem_filter, Set.mem_ofPred_eq] at hi
    obtain ⟨⟨j, e⟩, ⟨he, hf⟩, rfl⟩ := hi
    exact h j e he hf
  calc (J.countP fun e => f e.2 : ℕ∞) = ((J.filter fun e => f e.2).map Prod.fst).length := by
        rw [List.length_map, List.countP_eq_length_filter]
    _ = (((J.filter fun e => f e.2).map Prod.fst).toFinset : Set Nat).encard := by
      rw [Set.encard_coe_eq_coe_finsetCard, List.toFinset_card_of_nodup hnodup]
    _ ≤ S.encard := Set.encard_le_encard hsub

end Count

namespace Pool

open Operation

variable {settings : Settings} {requests : List ServiceRequest} {p : Pool} {i : Nat} {n : String}

/-- The caller is a login that presents the nonce. -/
def Presents (requests : List ServiceRequest) (n : String) (i : Nat) : Prop :=
  ∃ idToken nonce https, requests[i]? = some (.login idToken nonce https) ∧ Text.trim nonce = n

/-- The uses of a nonce and what is held of it are no more than the times it was issued. -/
theorem countP_uses_le (w : World) (lifetime : Span) (turns : List Turn) (n : String) :
    let p := (start settings { w with nonces := .empty lifetime } requests).run turns
    (p.journal.countP fun e => e.2.uses n) + p.world.nonces.held n ≤
      p.journal.countP fun e => e.2.issues n := by
  refine run_induction (I := fun w J =>
    (J.countP fun e => e.2.uses n) + w.nonces.held n ≤ J.countP fun e => e.2.issues n) ?_ ?_
  · intro t _ w J c r w' h ha
    have hstep := World.held_of_answer n ha
    rw [World.within_nonces] at hstep
    simp only [List.countP_append, List.countP_singleton]
    cases hu : Exchange.uses n ⟨c, r⟩ <;> cases hi : Exchange.issues n ⟨c, r⟩ <;>
      simp [hu, hi] at hstep ⊢ <;> omega
  · exact Nat.le_refl 0

/-- Whoever was issued a nonce has ended with it. -/
theorem Led.result_of_issues (h : Led settings requests p)
    (he : (i, ⟨.issueNonce, .ok (some n)⟩) ∈ p.journal) :
    p.result? i = some (.issueNonce (.ok n)) := by
  obtain ⟨r, hr⟩ := h.mem he
  obtain ⟨q, hq, hes⟩ := h.caller hr
  rw [← mem_callsOf] at he
  rw [result?_eq_some_iff, hq,
    (ServiceRequest.issues_of_answered hes n).2 _ he (Exchange.issues_iff.2 rfl)]

/-- Nobody is issued two nonces. -/
theorem Led.countP_issues_le (h : Led settings requests p) (n : String) (i : Nat) :
    (callsOf i p.journal).countP (Exchange.issues n) ≤ 1 := by
  rcases hcalls : callsOf i p.journal with _ | ⟨e, es⟩
  · exact Nat.zero_le 1
  have he : (i, e) ∈ p.journal := by
    rw [← mem_callsOf, hcalls]
    exact List.mem_cons_self
  obtain ⟨r, hr⟩ := h.mem he
  obtain ⟨q, -, hes⟩ := h.caller hr
  rw [← hcalls]
  exact (ServiceRequest.issues_of_answered hes n).1

/-- A login that has written a user down or handed out cookies has used its nonce. -/
theorem Led.uses_of_presents (h : Led settings requests p) (hi : Presents requests n i)
    (hdone : (∃ details reply, (i, ⟨.upsertUser details, reply⟩) ∈ p.journal) ∨
      ∃ outcome, p.result? i = some (.login (.ok outcome))) :
    (i, ⟨.consumeNonce n, .ok ()⟩) ∈ p.journal := by
  obtain ⟨idToken, nonce, https, hr, rfl⟩ := hi
  obtain ⟨q, hq, hes⟩ := h.caller hr
  have hbusy {fs} (hfs : ∀ e ∈ callsOf i p.journal, e ∈ fs ∨ ¬∃ d, e.call = .upsertUser d) :
      ¬ServiceRequest.Idle fs q := by
    rintro ⟨hidle, hend⟩
    rcases hdone with ⟨details, reply, he⟩ | ⟨outcome, ho⟩
    · rcases hfs _ (mem_callsOf.2 he) with he | hne
      · exact hidle _ he
      · exact hne ⟨details, rfl⟩
    · rw [result?_eq_some_iff, hq] at ho
      exact hend outcome (Option.some.inj ho)
  rw [← mem_callsOf]
  rcases ServiceRequest.login_of_answered hes with hidle | ⟨reply, fs, hcalls, -, rfl | hidle⟩
  · exact absurd hidle (hbusy fun e he => Or.inl he)
  · rw [hcalls]
    exact List.mem_cons_self
  · refine absurd hidle (hbusy fun e he => ?_)
    rw [hcalls] at he
    rcases List.mem_cons.1 he with rfl | he
    · exact Or.inr fun ⟨_, hcall⟩ => nomatch hcall
    · exact Or.inl he

/-- Nonces are used once. Callers issue nonces, log in and do anything else side by side, from a
store without nonces on. At every moment the logins that presented a nonce and then wrote a user
down or handed out cookies have got past the check of the nonce, and the logins that got past it are
no more than the callers to whom this nonce was issued. -/
theorem nonces_are_single_use (settings : Settings) (w : World) (lifetime : Span)
    (requests : List ServiceRequest) (turns : List Turn) (n : String) :
    let p := (start settings { w with nonces := .empty lifetime } requests).run turns
    {i | Presents requests n i ∧ ((∃ details reply, (i, ⟨.upsertUser details, reply⟩) ∈ p.journal) ∨
        ∃ outcome, p.result? i = some (.login (.ok outcome)))} ⊆
      {i | Presents requests n i ∧ (i, ⟨.consumeNonce n, .ok ()⟩) ∈ p.journal} ∧
    {i | Presents requests n i ∧ (i, ⟨.consumeNonce n, .ok ()⟩) ∈ p.journal}.encard ≤
      {i | p.result? i = some (.issueNonce (.ok n))}.encard := by
  intro p
  have hled : Led settings requests p := led turns led_start
  refine ⟨fun i hi => ⟨hi.1, hled.uses_of_presents hi.1 hi.2⟩, ?_⟩
  calc {i | Presents requests n i ∧ (i, ⟨.consumeNonce n, .ok ()⟩) ∈ p.journal}.encard
      ≤ p.journal.countP fun e => e.2.uses n :=
        encard_le_countP fun i hi => ⟨_, Exchange.uses_iff.2 rfl, hi.2⟩
    _ ≤ p.journal.countP fun e => e.2.issues n :=
        Nat.cast_le.2 (Nat.le_of_add_right_le (countP_uses_le w lifetime turns n))
    _ ≤ {i | p.result? i = some (.issueNonce (.ok n))}.encard := by
        refine countP_le_encard (hled.countP_issues_le n) fun i e he hissues => ?_
        rw [Exchange.issues_iff.1 hissues] at he
        exact hled.result_of_issues he

end Pool

end SignIn
