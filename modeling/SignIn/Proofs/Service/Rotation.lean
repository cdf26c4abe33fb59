import SignIn.Proofs.Service.Sequence

/-!
# Token chains of a run

A run starts with an empty store and is any number of visits (`World.visits`). Whatever they are,
the records fall into chains, each begun by a login (`Began`), and of each chain only the last
record can still be used. A logout that presents the secret of this record retires it
(`World.Orderly.retired_of_logout`), and with it the chain, for the rest of the run.
-/

namespace SignIn

namespace World

open Operation RefreshStore

variable {settings : Settings} {w : World} {i secret : String} {r : RefreshRecord}

theorem visits_append (settings : Settings) (w : World) (before after : List Visit) :
    w.visits settings (before ++ after) = (w.visits settings before).visits settings after :=
  List.foldl_append

/-- A record stays, and changes only when it is revoked. -/
theorem Orderly.becomes (run : List Visit) : ∀ {w : World} {r : RefreshRecord}, w.Orderly →
    w.refreshTokens.get? i = some r →
      ∃ r', (w.visits settings run).refreshTokens.get? i = some r' ∧ r.Becomes r' := by
  induction run with
  | nil => exact fun _ hr => ⟨_, hr, .refl _⟩
  | cons v run ih =>
    intro w r h hr
    obtain ⟨r₁, hr₁, hb₁⟩ := (h.passage v).becomes hr
    obtain ⟨r₂, hr₂, hb₂⟩ := ih (h.visit v) hr₁
    exact ⟨r₂, hr₂, hb₁.trans hb₂⟩

/-! ## Where a chain begins -/

/-- A login of the run brought the record, in the place of none. -/
def Began (settings : Settings) (w : World) (run : List Visit) (i : String) : Prop :=
  ∃ before v after, run = before ++ v :: after ∧ v.request.isLogin = true ∧
    (w.visits settings before).refreshTokens.get? i = none ∧
    ∃ r, (w.visits settings (before ++ [v])).refreshTokens.get? i = some r ∧ r.previous = ""

theorem Began.cons {v : Visit} {run : List Visit} (h : Began settings (w.visit settings v) run i) :
    Began settings w (v :: run) i := by
  obtain ⟨before, v', after, rfl, hv', hnone, r, hr, hfirst⟩ := h
  exact ⟨v :: before, v', after, rfl, hv', hnone, r, hr, hfirst⟩

/-- Every first record of a chain was brought by a login. -/
theorem Orderly.began (run : List Visit) : ∀ {w : World}, w.Orderly →
    w.refreshTokens.get? i = none → (w.visits settings run).refreshTokens.get? i = some r →
      r.previous = "" → Began settings w run i := by
  induction run with
  | nil =>
    intro w _ hnone hr
    rw [show w.visits settings [] = w from rfl, hnone] at hr
    cases hr
  | cons v run ih =>
    intro w h hnone hr hfirst
    cases hr₁ : (w.visit settings v).refreshTokens.get? i with
    | none => exact (ih (h.visit v) hr₁ hr hfirst).cons
    | some r₁ =>
      obtain ⟨r₂, hr₂, hb⟩ := (h.visit v).becomes run hr₁
      obtain rfl := Option.some.inj (hr₂.symm.trans hr)
      have hfirst₁ : r₁.previous = "" := hb.previous_eq.symm.trans hfirst
      refine ⟨[], v, run, rfl, ?_, hnone, r₁, hr₁, hfirst₁⟩
      rcases (h.passage v).origin hr₁ with ⟨q, hq, -⟩ | ⟨-, -, ⟨-, hlogin⟩ | ⟨hact, -⟩⟩
      · rw [hnone] at hq
        cases hq
      · exact hlogin
      · obtain ⟨q, hq, -⟩ := hact
        exact absurd hfirst₁ (h.lineage.ne_empty hq)

/-! ## Where a chain ends -/

theorem answer_validateRefresh (hf : w.faults.SparesRefresh) (secret : String) :
    answer (.validateRefresh secret) w = some (w.refreshTokens.validate w.clock secret, w) := by
  rw [answer, fault?, hf.validate]
  rfl

theorem answer_revokeRefresh (hf : w.faults.SparesRefresh) (i : String) :
    answer (.revokeRefresh i) w = some ((w.refreshTokens.revoke w.clock i).1,
      { w with refreshTokens := (w.refreshTokens.revoke w.clock i).2 }) := by
  rw [answer, fault?, hf.revoke]
  rfl

/-- A logout revokes the record of the secret that it presents, if this is still good. -/
theorem Orderly.get?_logout (h : w.Orderly) {cookie : Option String}
    (hcookie : Service.presented? cookie = some secret) {σ : Nat → Surroundings}
    (hr : w.refreshTokens.get? i = some r) (hhash : r.tokenHash = fingerprint secret)
    (hact : r.isRevoked = false) (hexp : (σ 0).clock.seconds < r.expires) (j : String) :
    (w.visit settings ⟨.logout cookie, σ⟩).refreshTokens.get? j =
      if j = i then some (r.revoke (σ 1).clock.seconds) else w.refreshTokens.get? j := by
  have hi := h.sound.tokenId_of_get? hr
  subst hi
  have hvalid :=
    validate_of_active h.sound (Service.ne_empty_of_presented hcookie) hr hhash hact hexp
  obtain ⟨s', hrevoke, -, -, hget⟩ := revoke_of_active h.sound (σ 1).clock hr hact
  obtain ⟨cookies, k, hk, hquiet⟩ := ServiceRequest.operation_logout settings cookie
  let w₁ := w.within (σ 0)
  let w₂ : World := { w₁.within (σ 1) with refreshTokens := s' }
  have hspares : w₁.faults.SparesRefresh := h.spares
  have hvalidate :
      answer (.validateRefresh secret) w₁ = some (.ok ⟨r.userId, r.tokenId, r.expires⟩, w₁) := by
    rw [answer_validateRefresh hspares]
    exact congrArg (fun a => some (a, w₁)) hvalid
  have hrevoke : answer (.revokeRefresh r.tokenId) (w₁.within (σ 1)) = some (.ok (), w₂) := by
    rw [answer_revokeRefresh (show (w₁.within (σ 1)).faults.SparesRefresh from hspares)]
    exact congrArg (fun a => some (a.1, { w₁.within (σ 1) with refreshTokens := a.2 })) hrevoke
  have hplay : w.visit settings ⟨.logout cookie, σ⟩ = w₂.play (fun n => σ (n + 2)) (k ()) := by
    rw [World.visit, hk, hcookie]
    refine (play_ask hvalidate).trans ?_
    change w₁.play _ (.ask (.revokeRefresh r.tokenId) _) = _
    exact play_ask (σ := fun n => σ (n + 1)) hrevoke
  rw [hplay, play_of_quiet (hquiet ()) (show w₂.faults.SparesRefresh from hspares), hget]

/-- The secret of the last record of a chain takes the whole chain with it. -/
theorem Orderly.retired_of_logout (h : w.Orderly) {cookie : Option String}
    (hcookie : Service.presented? cookie = some secret) {σ : Nat → Surroundings}
    (hr : w.refreshTokens.get? i = some r) (hhash : r.tokenHash = fingerprint secret)
    (hexp : (σ 0).clock.seconds < r.expires) (hlast : ∀ j, ¬w.refreshTokens.Follows i j) :
    (w.visit settings ⟨.logout cookie, σ⟩).refreshTokens.Retired i := by
  cases hrev : r.isRevoked with
  | true =>
    have hretired : w.refreshTokens.Retired i := ⟨⟨r, hr, hrev⟩, hlast⟩
    exact hretired.passage h.lineage (h.passage _)
  | false =>
    have hget : ∀ j, (w.visit settings ⟨.logout cookie, σ⟩).refreshTokens.get? j = _ :=
      h.get?_logout hcookie hr hhash hrev hexp
    refine ⟨⟨_, by rw [hget, if_pos rfl], r.isRevoked_revoke _⟩, fun j => ?_⟩
    rintro ⟨q, hq, hprev⟩
    rw [hget] at hq
    split_ifs at hq with hj
    · cases hq
      exact hlast j ⟨r, by rw [hj, hr], hprev⟩
    · exact hlast j ⟨q, hq, hprev⟩

theorem Orderly.retired_visits (run : List Visit) : ∀ {w : World}, w.Orderly →
    w.refreshTokens.Retired i → (w.visits settings run).refreshTokens.Retired i := by
  induction run with
  | nil => exact fun _ hr => hr
  | cons v run ih => exact fun h hr => ih (h.visit v) (hr.passage h.lineage (h.passage v))

/-! ## The chains of a run -/

/-- After every run, the records fall into chains. Each begins with a record that a login brought
and goes on with what took its place ; all its records but the last are revoked ; and no record has
two records in its place. If a logout of the run presented the secret of the record that was then
the last of its chain, and this had not expired, all the chain is revoked. -/
theorem records_fall_into_chains (settings : Settings) (b : Backend) (now : Instant)
    (entropy : Entropy) (counting : Bool) (run : List Visit) :
    let w := start settings b now entropy counting
    let s := (w.visits settings run).refreshTokens
    ∃ chains : List (List RefreshRecord), chains.flatten.Perm s.records ∧
      (∀ c ∈ chains, (∃ r l, c = r :: l ∧ r.previous = "" ∧ Began settings w run r.tokenId) ∧
        (c.IsChain fun q r => r.previous = q.tokenId) ∧ ∀ r ∈ c.dropLast, r.isRevoked = true) ∧
      (∀ p ∈ s.records, ∀ q ∈ s.records, ∀ r ∈ s.records,
        q.previous = p.tokenId → r.previous = p.tokenId → q = r) ∧
      ∀ before cookie σ after secret, run = before ++ ⟨.logout cookie, σ⟩ :: after →
        Service.presented? cookie = some secret →
        ∀ r ∈ (w.visits settings before).refreshTokens.records,
          r.tokenHash = fingerprint secret → (σ 0).clock.seconds < r.expires →
          (∀ q ∈ (w.visits settings before).refreshTokens.records, q.previous ≠ r.tokenId) →
          ∀ c ∈ chains, (∃ q ∈ c, q.tokenId = r.tokenId) → ∀ q ∈ c, q.isRevoked = true := by
  intro w s
  have hw : w.Orderly := orderly_start settings b now entropy counting
  have h : (w.visits settings run).Orderly := hw.visits run
  obtain ⟨ids, hids⟩ := h.chained
  obtain ⟨chains, hperm, hchains⟩ := hids.exists_linked h.sound
  refine ⟨chains, hperm, fun c hc => ?_, fun p hp q hq r hr hqp hrp => ?_, ?_⟩
  · obtain ⟨hlinked, r, l, rfl, hfirst⟩ := hchains c hc
    have hr := h.sound.get?_of_mem (hlinked.1 r List.mem_cons_self)
    have hbegan := hw.began run (get?_empty b r.tokenId) hr hfirst
    exact ⟨⟨r, l, rfl, hfirst, hbegan⟩, hlinked.2, fun q hq =>
      h.lineage.isRevoked_of_mem_dropLast h.sound hlinked hq⟩
  · have hget := h.sound.get?_of_mem hp
    have hq := h.sound.get?_of_mem hq
    have hr := h.sound.get?_of_mem hr
    have hid := h.lineage.single hq hr (hqp.trans hrp.symm) (hqp ▸ h.lineage.ne_empty hget)
    rw [hid, hr] at hq
    exact (Option.some.inj hq).symm
  · intro before cookie σ after secret hrun hcookie r hr hhash hexp hlast c hc hmem q hq
    have hbefore : (w.visits settings before).Orderly := hw.visits before
    have hretired :
        ((w.visits settings before).visit settings ⟨.logout cookie, σ⟩).refreshTokens.Retired
          r.tokenId := by
      refine hbefore.retired_of_logout hcookie (hbefore.sound.get?_of_mem hr) hhash hexp ?_
      rintro j ⟨p, hp, hprev⟩
      exact hlast p
        (hbefore.sound.mem_records_iff.2 (by rwa [hbefore.sound.tokenId_of_get? hp])) hprev
    have hend : (w.visits settings run).refreshTokens.Retired r.tokenId := by
      rw [hrun, visits_append]
      exact (hbefore.visit ⟨.logout cookie, σ⟩).retired_visits after hretired
    exact hend.isRevoked h.lineage h.sound (hchains c hc).1 hmem hq

end World

end SignIn
