import SignIn.Proofs.Service.Contention
import SignIn.Proofs.Service.Journal
import SignIn.Web.Message

/-!
# A spent secret stays spent

A secret is spent when a refresh has handed out cookies for it, or when a logout that found it good
is done (`Lawful.spent`). Neither need have revoked the record itself : somebody else may have come
first, but then the record was revoked already.

From then on every caller that looks at the secret is refused, in whatever order the questions of
all are answered. So a refresh that begins now fails, and it is done after three answers
(`Pool.spent_secrets_stay_spent`).
-/

namespace SignIn

/-! ## Callers that are done -/

/-- A logout that found the secret good and is done has asked to revoke its record. -/
theorem LoggingOut.revoke_sublist_of_done {secret secret' : String} {events : List RefreshEvent}
    {v : ValidRefresh} (h : LoggingOut secret events (.done ()))
    (hv : .validate secret' (.ok v) ∈ events) :
    ∃ answer, [.validate secret (.ok v), .revoke v.tokenId answer].Sublist events := by
  cases h with
  | rejected => simp at hv
  | @revoked v' answer q =>
    obtain ⟨-, rfl⟩ : secret' = secret ∧ v = v' := by simpa using hv
    exact ⟨answer, List.Sublist.refl _⟩

/-- A refresh that is done has looked at its secret. -/
theorem Refreshing.exists_validate {secret : String} {events : List RefreshEvent}
    {result : Except AuthFailure (List String)} (h : Refreshing secret events (.done result)) :
    ∃ answer, .validate secret answer ∈ events := by
  cases h with
  | rejected | accepted | refused | revoked => exact ⟨_, List.mem_cons_self⟩

/-- A refresh whose secret is refused ends with its third answer. -/
theorem ServiceRequest.ends_refresh {settings : Settings} {cookie : Option String} {secret : String}
    (hs : Service.presented? cookie = some secret) :
    Operation.Ends (fun e => ∀ a, e = ⟨.validateRefresh secret, a⟩ → ∃ cause, a = .error cause) 3
      (operation settings (.refresh cookie)) := by
  rw [operation, Service.refresh, Service.tryRefresh, hs]
  refine ⟨rfl, fun answer hanswer => ?_⟩
  obtain ⟨cause, rfl⟩ := hanswer answer rfl
  exact ⟨rfl, fun _ _ => ⟨rfl, fun _ _ => trivial⟩⟩

namespace Pool

open Operation

variable {settings : Settings} {requests : List ServiceRequest} {s : RefreshStore} {p : Pool}
  {i : Nat} {secret : String}

/-- A caller whose request ended as a logout is where the protocol of a logout ends. -/
theorem Lawful.loggingOut (h : Lawful settings requests s p)
    (hi : secretOf? requests i = some secret) {cookies : List String}
    (ho : p.result? i = some (.logout cookies)) :
    ∃ es, LoggingOut secret (refreshEvents es) (.done ()) ∧
      callsOf i p.refreshCalls = refreshEvents es := by
  obtain ⟨r, hreq, hs⟩ := secretOf?_eq_some_iff.1 hi
  obtain ⟨es, q, hq, hes, hown⟩ := h.answered hreq
  obtain rfl := Option.some.inj (hq.symm.trans (result?_eq_some_iff.1 ho))
  cases r with
  | issueNonce | login => cases hs
  | refresh cookie =>
    obtain ⟨o, -, hend⟩ := ServiceRequest.refreshing_of_answered hs hes
    obtain ⟨a, -, heq⟩ := hend.result rfl
    cases heq
  | logout cookie =>
    obtain ⟨cookies', o, hp, hend⟩ := ServiceRequest.loggingOut_of_answered hs hes
    obtain ⟨u, rfl, -⟩ := hend.result rfl
    exact ⟨es, hp, hown⟩

/-- The caller is a refresh that has handed out cookies, or a logout that found the secret good and
is done. -/
def HasSpent (p : Pool) (secret : String) (i : Nat) : Prop :=
  (∃ cookies, p.result? i = some (.refresh (.ok cookies))) ∨
    ∃ cookies v, p.result? i = some (.logout cookies) ∧
      (i, ⟨.validateRefresh secret, .ok v⟩) ∈ p.journal

theorem mem_refreshCalls {e : RefreshEvent} :
    (i, e) ∈ p.refreshCalls ↔ ∃ x, (i, x) ∈ p.journal ∧ x.refresh? = some e := by
  simp [refreshCalls, List.mem_filterMap]

/-- Whoever is done with a secret has found it good and then asked to revoke its record. -/
theorem Lawful.revoke_sublist_of_hasSpent (h : Lawful settings requests s p)
    (hi : secretOf? requests i = some secret) (hspent : p.HasSpent secret i) :
    ∃ v answer, [.validate secret (.ok v), .revoke v.tokenId answer].Sublist
      (p.refreshCalls.map (·.2)) := by
  have hown : ∀ {es : List Exchange}, callsOf i p.refreshCalls = refreshEvents es →
      (refreshEvents es).Sublist (p.refreshCalls.map (·.2)) := fun hes => by
    have hmap := (map_callsOf_sublist (i := i) p.refreshCalls).map (·.2)
    have hid : (fun x : Nat × RefreshEvent => x.2) ∘ (fun e => (i, e)) = id := rfl
    rwa [List.map_map, hid, List.map_id, hes] at hmap
  rcases hspent with ⟨cookies, ho⟩ | ⟨cookies, v, ho, hv⟩
  · obtain ⟨es, hp, hes⟩ := h.refreshing hi ho
    obtain ⟨v, answer, hsub, -⟩ := hp.handed_out
    exact ⟨v, answer, hsub.trans (hown hes)⟩
  · obtain ⟨es, hp, hes⟩ := h.loggingOut hi ho
    have hmem : RefreshEvent.validate secret (.ok v) ∈ refreshEvents es := by
      rw [← hes, mem_callsOf, mem_refreshCalls]
      exact ⟨_, hv, rfl⟩
    obtain ⟨answer, hsub⟩ := hp.revoke_sublist_of_done hmem
    exact ⟨v, answer, hsub.trans (hown hes)⟩

/-- After a run in which someone is done with the secret, whoever looks at it is refused. -/
theorem Lawful.refused_of_hasSpent {q : Pool} {new : List (Nat × Exchange)}
    (h : Lawful settings requests s p) (hs : s.Sound) (hi : secretOf? requests i = some secret)
    (hspent : p.HasSpent secret i) (h' : Lawful settings requests s q)
    (hnew : q.journal = p.journal ++ new) {j : Nat} {answer : Except RefreshError ValidRefresh}
    (hj : (j, ⟨.validateRefresh secret, answer⟩) ∈ new) :
    answer = .error ⟨s.backend, .validate, .revoked⟩ := by
  obtain ⟨v, a, hsub⟩ := h.revoke_sublist_of_hasSpent hi hspent
  have htrace := h'.trace
  rw [refreshCalls, hnew, List.filterMap_append, List.map_append] at htrace
  obtain ⟨s₁, h₁, h₂⟩ := RefreshStore.trace_append.1 htrace
  have hmem : RefreshEvent.validate secret answer ∈
      (new.filterMap fun e => e.2.refresh?.map fun c => (e.1, c)).map (·.2) :=
    List.mem_map.2 ⟨_, List.mem_filterMap.2 ⟨_, hj, rfl⟩, rfl⟩
  rw [(h₁.spent hs hsub).eq_of_mem (h₁.sound hs) h₂ hmem, RefreshStore.fail, h₁.backend_eq hs]

/-- A refresh that begins now and whose secret is refused from now on fails, and is done after three
answers. -/
theorem Lawful.result?_of_refused {after : List Turn} {cause : RefreshError}
    {cookie : Option String} {j : Nat} (h : Lawful settings requests s (p.run after))
    (hled : Led settings requests p)
    (hj : requests[j]? = some (.refresh cookie)) (hs : Service.presented? cookie = some secret)
    (hnone : callsOf j p.journal = [])
    (hrefused : ∀ new, (p.run after).journal = p.journal ++ new →
      ∀ a, (j, ⟨.validateRefresh secret, a⟩) ∈ new → a = .error cause) :
    (∀ result, (p.run after).result? j = some (.refresh result) →
        result = .error (.invalidRefresh cause)) ∧
      ((3 ≤ after.countP fun t => t.caller = j) →
        (p.run after).result? j = some (.refresh (.error (.invalidRefresh cause)))) := by
  have hfails : ∀ result, (p.run after).result? j = some (.refresh result) →
      result = .error (.invalidRefresh cause) := by
    intro result ho
    obtain ⟨es, hp, hes⟩ := h.refreshing (secretOf?_eq_some_iff.2 ⟨_, hj, hs⟩) ho
    obtain ⟨a, ha⟩ := hp.exists_validate
    have hcall := ha
    rw [← hes, mem_callsOf, mem_refreshCalls] at hcall
    obtain ⟨x, hx, hvalidate⟩ := hcall
    obtain ⟨new, hnew⟩ := exists_journal_run after p
    rw [Exchange.refresh?_eq_some_iff.1 hvalidate, hnew, List.mem_append] at hx
    rcases hx with hx | hx
    · rw [← mem_callsOf, hnone] at hx
      cases hx
    · rw [hrefused new hnew a hx] at ha
      exact hp.eq_of_rejected ha
  refine ⟨hfails, fun hturns => ?_⟩
  obtain ⟨q, hq, hanswered⟩ := hled.caller hj
  obtain rfl := hanswered.eq_of_nil hnone
  obtain ⟨o, ho⟩ := exists_result_of_ends after hq (ServiceRequest.ends_refresh hs)
    (fun new hnew e he a ha => ⟨cause, hrefused new hnew a (ha ▸ he)⟩) hturns
  obtain ⟨es, q, hq, hes, -⟩ := h.answered hj
  obtain ⟨o', -, hend⟩ := ServiceRequest.refreshing_of_answered hs hes
  obtain ⟨result, -, rfl⟩ :=
    hend.result (Option.some.inj (hq.symm.trans (result?_eq_some_iff.1 ho)))
  rw [ho, hfails result ho]

/-- Callers side by side, over a store without faults. From the moment when one of them has handed
out cookies for a secret, or has found it good and logged out with it, whoever looks at the secret
is refused, since its record is revoked. A refresh that begins afterwards with this secret fails for
this reason, which its client is told with status 401, and it is done after three turns of its
own. -/
theorem spent_secrets_stay_spent {w : World} {b : Backend} {past : List RefreshEvent}
    (hf : w.faults.SparesRefresh) (hpast : (RefreshStore.empty b).Trace past w.refreshTokens)
    {i : Nat} {secret : String} (hi : secretOf? requests i = some secret) (before after : List Turn)
    (hspent : ((start settings w requests).run before).HasSpent secret i) :
    let p := (start settings w requests).run before
    let cause : RefreshError := ⟨b, .validate, .revoked⟩
    (∃ new, (p.run after).journal = p.journal ++ new ∧
      ∀ j answer, (j, ⟨.validateRefresh secret, answer⟩) ∈ new → answer = .error cause) ∧
    (AuthFailure.invalidRefresh cause).code = "validate" ∧
    (Response.ofError (AuthFailure.invalidRefresh cause).toApi).status = 401 ∧
    ∀ j cookie, requests[j]? = some (.refresh cookie) → Service.presented? cookie = some secret →
      callsOf j p.journal = [] →
        (∀ result, (p.run after).result? j = some (.refresh result) →
          result = .error (.invalidRefresh cause)) ∧
        ((3 ≤ after.countP fun t => t.caller = j) →
          (p.run after).result? j = some (.refresh (.error (.invalidRefresh cause)))) := by
  intro p cause
  have hs : w.refreshTokens.Sound := hpast.sound (RefreshStore.sound_empty b)
  have hb : w.refreshTokens.backend = b := by
    rw [hpast.backend_eq (RefreshStore.sound_empty b)]
    cases b <;> rfl
  have h : Lawful settings requests w.refreshTokens p := Lawful.run before (lawful_start hf)
  have h' : Lawful settings requests w.refreshTokens (p.run after) := h.run after
  have hrefused : ∀ new, (p.run after).journal = p.journal ++ new →
      ∀ j answer, (j, ⟨.validateRefresh secret, answer⟩) ∈ new → answer = .error cause := by
    intro new hnew j answer hj
    rw [h.refused_of_hasSpent hs hi hspent h' hnew hj, hb]
  obtain ⟨new, hnew⟩ := exists_journal_run after p
  refine ⟨⟨new, hnew, hrefused new hnew⟩, rfl, rfl, fun j cookie hj hcookie hnone => ?_⟩
  exact h'.result?_of_refused (led before led_start) hj hcookie hnone fun new hnew =>
    hrefused new hnew j

end Pool

/-! ## Twice the same secret -/

namespace Race

/-- The first refresh from its beginning to its end, before the second begins. -/
def firstAlone : List Turn := List.replicate 8 ⟨0, surroundings 0⟩

/-- The second, from then on. -/
def secondAlone : List Turn := List.replicate 3 ⟨1, surroundings 1⟩

/-- The request of the first caller ended with cookies. -/
def firstHandedOut : Bool :=
  match ((Pool.start settings world requests).run firstAlone).result? 0 with
  | some (.refresh (.ok _)) => true
  | _ => false

theorem hasSpent_first :
    ((Pool.start settings world requests).run firstAlone).HasSpent token.secret 0 := by
  have h : firstHandedOut = true := by decide +kernel
  unfold firstHandedOut at h
  split at h
  · rename_i cookies ho
    exact Or.inl ⟨cookies, ho⟩
  · cases h

/-- After the first of two refreshes with one secret, the second is refused with status 401. -/
theorem second_is_refused :
    let failure : AuthFailure := .invalidRefresh ⟨.memory, .validate, .revoked⟩
    (((Pool.start settings world requests).run firstAlone).run secondAlone).result? 1 =
        some (.refresh (.error failure)) ∧
      failure.code = "validate" ∧ (Response.ofError failure.toApi).status = 401 := by
  obtain ⟨past, hpast⟩ := exists_past
  obtain ⟨-, hcode, hstatus, hfails⟩ := Pool.spent_secrets_stay_spent spares hpast
    (secretOf?_eq 0 (by decide)) firstAlone secondAlone hasSpent_first
  have hpresented : Service.presented? (some token.secret) = some token.secret := by decide +kernel
  have hidle : callsOf 1 ((Pool.start settings world requests).run firstAlone).journal = [] := by
    decide +kernel
  exact ⟨(hfails 1 token.secret rfl hpresented hidle).2 (by decide), hcode, hstatus⟩

end Race

end SignIn
