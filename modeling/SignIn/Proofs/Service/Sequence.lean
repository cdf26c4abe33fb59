import SignIn.Proofs.Refresh.Chains
import SignIn.Proofs.Service.Answers
import SignIn.Proofs.Service.Protocols

/-!
# Requests one after the other

A request that is alone has its questions answered at moments of its own (`World.play`), until it is
done or a question has no answer. What it was told, and when, is its `transcript`. `perform` is a
play in which the moments follow from the world (`World.exists_play_of_perform`). Requests that come
one after the other are `visits`.

To the records, a visit is a `Passage` (`World.Orderly.passage`). The steps of its protocol leave no
more than this, since nobody comes between : a token that a refresh found active is still so when
its turn of being revoked has come.
-/

namespace SignIn

/-! ## Alone -/

namespace World

open Operation

variable {α : Type} {w w' : World} {σ : Nat → Surroundings}

/-- The world after the questions of an operation, the next answered within the first of the
surroundings. -/
def play : World → (Nat → Surroundings) → Operation α → World
  | w, _, .done _ => w
  | w, σ, .ask c next =>
    match answer c (w.within (σ 0)) with
    | some (r, w') => w'.play (fun k => σ (k + 1)) (next r)
    | none => w

theorem play_ask {c : Call} {next : c.Reply → Operation α} {r : c.Reply}
    (h : answer c (w.within (σ 0)) = some (r, w')) :
    w.play σ (.ask c next) = w'.play (fun k => σ (k + 1)) (next r) := by
  simp only [play, h]

theorem play_of_answer_eq_none {c : Call} {next : c.Reply → Operation α}
    (h : answer c (w.within (σ 0)) = none) : w.play σ (.ask c next) = w := by
  simp only [play, h]

/-- The questions of an operation with their answers, and the instant at which each was answered. -/
def transcript : World → (Nat → Surroundings) → Operation α → List (Instant × Exchange)
  | _, _, .done _ => []
  | w, σ, .ask c next =>
    match answer c (w.within (σ 0)) with
    | some (r, w') => ((σ 0).clock, ⟨c, r⟩) :: w'.transcript (fun k => σ (k + 1)) (next r)
    | none => []

/-- What is left of an operation : its result, or the question that has no answer. -/
def rest : World → (Nat → Surroundings) → Operation α → Operation α
  | _, _, .done a => .done a
  | w, σ, .ask c next =>
    match answer c (w.within (σ 0)) with
    | some (r, w') => w'.rest (fun k => σ (k + 1)) (next r)
    | none => .ask c next

theorem transcript_ask {c : Call} {next : c.Reply → Operation α} {r : c.Reply}
    (h : answer c (w.within (σ 0)) = some (r, w')) : w.transcript σ (.ask c next) =
      ((σ 0).clock, ⟨c, r⟩) :: w'.transcript (fun k => σ (k + 1)) (next r) := by
  simp only [transcript, h]

theorem rest_ask {c : Call} {next : c.Reply → Operation α} {r : c.Reply}
    (h : answer c (w.within (σ 0)) = some (r, w')) :
    w.rest σ (.ask c next) = w'.rest (fun k => σ (k + 1)) (next r) := by
  simp only [rest, h]

/-- A played operation met the answers of its transcript, is done or cannot go on, and left the
store where the answers led it. -/
theorem answered_play : ∀ {w : World} (σ : Nat → Surroundings) (p : Operation α),
    w.faults.SparesRefresh →
      let es := (w.transcript σ p).map Prod.snd
      Answered p es (w.rest σ p) ∧
        w.refreshTokens.Trace (refreshEvents es) (w.play σ p).refreshTokens ∧
        (w.play σ p).faults = w.faults ∧
        ∀ c next, w.rest σ p = .ask c next → c = .halt
  | w, σ, .done a, hf => ⟨.nil, rfl, rfl, fun _ _ => nofun⟩
  | w, σ, .ask c next, hf => by
    cases ha : answer c (w.within (σ 0)) with
    | none =>
      rw [play_of_answer_eq_none ha]
      simp only [transcript, rest, ha]
      refine ⟨.nil, rfl, trivial, fun c' next' hc => ?_⟩
      cases hc
      exact eq_halt_of_answer_eq_none ha
    | some a =>
      obtain ⟨r, w'⟩ := a
      have hfaults := answer_faults ha
      rw [within_faults] at hfaults
      have htrace := trace_of_answer (show (w.within (σ 0)).faults.SparesRefresh from hf) ha
      rw [within_refreshTokens] at htrace
      rw [← hfaults] at hf
      obtain ⟨hes, ht, hfaults', hend⟩ := answered_play (fun k => σ (k + 1)) (next r) hf
      rw [play_ask ha, transcript_ask ha, rest_ask ha]
      refine ⟨.cons r _ hes, ?_, hfaults'.trans hfaults, hend⟩
      rw [List.map_cons, ← List.singleton_append, refreshEvents_append]
      exact RefreshStore.trace_append.2 ⟨_, htrace, ht⟩

/-- An operation that makes no call of the refresh store leaves it alone. -/
theorem play_of_quiet {a : α} {p : Operation α} (h : Quiet a p) (hf : w.faults.SparesRefresh) :
    (w.play σ p).refreshTokens = w.refreshTokens := by
  obtain ⟨hes, ht, -⟩ := answered_play σ p hf
  rw [(h.answered hes).1] at ht
  exact ht

/-- What an operation does alone is a play. -/
theorem exists_play_of_perform : ∀ {w w' : World} {p : Operation α} {a : α},
    w.perform p = some (a, w') → ∃ σ, w.play σ p = w'
  | w, w', .done _, a, h => by
    cases h
    exact ⟨fun _ => ⟨w.clock, w.entropy, w.provider⟩, rfl⟩
  | w, w', .ask c next, a, h => by
    obtain ⟨r, w₁, ha, h₁⟩ := exists_of_perform_ask h
    obtain ⟨σ, hσ⟩ := exists_play_of_perform h₁
    refine ⟨fun k => k.casesOn ⟨w.clock, w.entropy, w.provider⟩ σ, ?_⟩
    rw [play_ask (show answer c (w.within ⟨w.clock, w.entropy, w.provider⟩) = _ from ha)]
    exact hσ

end World

/-! ## What is left of the records -/

theorem Identifier.token_ne_empty (now : Instant) (bs : Bytes) : token now bs ≠ "" := by
  intro h
  have hlen := congrArg String.length h
  simp [token] at hlen

theorem IssuedRefresh.tokenId_ne_empty (now : Instant) (entropy : Entropy) :
    (draw now entropy).1.tokenId ≠ "" := by
  unfold draw
  exact Identifier.token_ne_empty _ _

namespace RefreshStore

variable {s s' : RefreshStore} {login : Prop} {secret userId previous : String} {expires : Int}
  {v : ValidRefresh}

theorem Trace.passage_nil (ht : Trace s [] s') : Passage login s s' := by
  obtain rfl : s' = s := ht
  exact .idle

/-- An issue alone begins a chain or is refused. -/
theorem Trace.passage_issue (hs : s.Sound) (hlogin : login)
    {answer : Except RefreshError IssuedRefresh}
    (ht : Trace s [.issue userId expires "" answer] s') : Passage login s s' := by
  obtain ⟨now, s₁, hstep, rfl⟩ := ht
  cases effect_of_step hs hstep with
  | @issued userId expires previous issued s₁ entropy drawn free sound kind get =>
    have hname : issued.tokenId ≠ "" := drawn ▸ IssuedRefresh.tokenId_ne_empty now entropy
    have hfree : s.get? issued.tokenId = none := not_not.1 fun h => free (Or.inl h)
    exact .begun (r := issued.record now userId expires "") hlogin hname hfree rfl get
  | duplicate => exact .idle

/-- A secret that is looked up leaves the records alone. -/
theorem Trace.eq_of_validate (hs : s.Sound) {answer : Except RefreshError ValidRefresh}
    (ht : Trace s [.validate secret answer] s') : s' = s := by
  obtain ⟨now, s₁, hstep, rfl⟩ := ht
  exact (hstep.validate_eq hs).1

theorem Trace.eq_of_refused (hs : s.Sound) {answer : Except RefreshError ValidRefresh}
    {e : RefreshError}
    (ht : Trace s [.validate secret answer, .issue userId expires previous (.error e)] s') :
    s' = s := by
  obtain ⟨now, s₁, hstep, now', s₂, hstep', rfl⟩ := ht
  obtain ⟨rfl, -⟩ := hstep.validate_eq hs
  cases effect_of_step hs hstep'
  rfl

/-- A secret that is found good and then revoked. -/
theorem Trace.passage_revoke (hs : s.Sound) {answer : Except RefreshError Unit}
    (ht : Trace s [.validate secret (.ok v), .revoke v.tokenId answer] s') :
    Passage login s s' := by
  obtain ⟨now, s₁, hstep, now', s₂, hstep', rfl⟩ := ht
  obtain ⟨rfl, -, -, q, hq, hact⟩ := hstep.active_of_validate hs
  generalize v.tokenId = i at hq hstep'
  cases effect_of_step hs hstep' with
  | revoked found active sound kind get => exact .ended found active get
  | unknown unfound => exact .idle
  | alreadyRevoked found revoked => exact .idle

/-- A secret that is found good, a new token in its place, and then its own is revoked. -/
theorem Trace.passage_rotate (hs : s.Sound) {issued : IssuedRefresh}
    {answer : Except RefreshError Unit}
    (ht : Trace s [.validate secret (.ok v), .issue userId expires v.tokenId (.ok issued),
      .revoke v.tokenId answer] s') : Passage login s s' := by
  obtain ⟨now, s₁, hstep, now', s₂, hstep', now'', s₃, hstep'', rfl⟩ := ht
  obtain ⟨rfl, -, -, q, hq, hact⟩ := hstep.active_of_validate hs
  generalize v.tokenId = i at hq hstep' hstep''
  cases effect_of_step hs hstep' with
  | @issued _ _ _ _ _ entropy drawn free sound kind get =>
    have hi : i ≠ issued.tokenId := ne_tokenId_of_free free hq
    have hq₂ : s₂.get? i = some q := by rw [get, if_neg hi, hq]
    cases effect_of_step sound hstep'' with
    | @revoked _ r _ found active _ _ get' =>
      obtain rfl := Option.some.inj (found.symm.trans hq₂)
      have hname : issued.tokenId ≠ "" := drawn ▸ IssuedRefresh.tokenId_ne_empty now' entropy
      have hfree : s₁.get? issued.tokenId = none := not_not.1 fun h => free (Or.inl h)
      have hget : ∀ j, s'.get? j = if j = i then some (r.revoke now''.seconds)
          else if j = issued.tokenId then some (issued.record now' userId expires i)
          else s₁.get? j := fun j => by rw [get', get]
      exact .rotated (r := issued.record now' userId expires i) hq hact hname hfree rfl hget
    | unknown unfound =>
      rw [hq₂] at unfound
      cases unfound
    | alreadyRevoked found revoked =>
      obtain rfl := Option.some.inj (found.symm.trans hq₂)
      rw [hact] at revoked
      cases revoked

end RefreshStore

section Protocol

variable {s s' : RefreshStore} {login : Prop} {secret : String} {events : List RefreshEvent}

/-- A refresh that has not stopped before its last question. -/
theorem Refreshing.passage {p : Operation (Except AuthFailure (List String))}
    (hp : Refreshing secret events p) (hs : s.Sound) (ht : s.Trace events s')
    (hend : ∀ id next, p ≠ .ask (.revokeRefresh id) next) : RefreshStore.Passage login s s' := by
  cases hp with
  | waiting => exact ht.passage_nil
  | rejected | accepted =>
    obtain rfl := ht.eq_of_validate hs
    exact .idle
  | refused =>
    obtain rfl := ht.eq_of_refused hs
    exact .idle
  | issued => exact absurd rfl (hend _ _)
  | revoked => exact ht.passage_rotate hs

/-- A logout that has not stopped before its last question. -/
theorem LoggingOut.passage {p : Operation Unit} (hp : LoggingOut secret events p) (hs : s.Sound)
    (ht : s.Trace events s') (hend : ∀ id next, p ≠ .ask (.revokeRefresh id) next) :
    RefreshStore.Passage login s s' := by
  cases hp with
  | waiting => exact ht.passage_nil
  | rejected =>
    obtain rfl := ht.eq_of_validate hs
    exact .idle
  | accepted => exact absurd rfl (hend _ _)
  | revoked => exact ht.passage_revoke hs

end Protocol

/-! ## Visits -/

/-- The request is a login. -/
def ServiceRequest.isLogin : ServiceRequest → Bool
  | .login _ _ _ => true
  | _ => false

/-- A request, and the surroundings in which its questions are answered. -/
structure Visit where
  request : ServiceRequest
  moments : Nat → Surroundings

namespace World

open Operation RefreshStore

variable {settings : Settings} {w : World} {i secret : String} {r : RefreshRecord}

/-- The world after a visit. -/
def visit (settings : Settings) (w : World) (v : Visit) : World :=
  w.play v.moments (v.request.operation settings)

/-- The world after one visit after the other. -/
def visits (settings : Settings) (w : World) (run : List Visit) : World :=
  run.foldl (visit settings) w

/-- What a request left to do in the end is a question that has no answer, if anything. -/
theorem passage_of_answered {request : ServiceRequest} {es : List Exchange} {q : Operation Outcome}
    {s s' : RefreshStore} (hs : s.Sound) (hes : Answered (request.operation settings) es q)
    (ht : s.Trace (refreshEvents es) s')
    (hend : ∀ c next, q = .ask c next → c = .halt) :
    Passage (request.isLogin = true) s s' := by
  have hlate : ∀ id next, q ≠ .ask (.revokeRefresh id) next := by
    intro id next hq
    cases hend _ next hq
  cases request with
  | issueNonce =>
    rw [ServiceRequest.refreshEvents_of_issueNonce hes] at ht
    exact ht.passage_nil
  | login idToken nonce https =>
    rcases ServiceRequest.refreshEvents_of_login hes with hnone | ⟨userId, expires, answer, hone⟩
    · rw [hnone] at ht
      exact ht.passage_nil
    · rw [hone] at ht
      exact ht.passage_issue hs rfl
  | refresh cookie =>
    cases hsec : Service.presented? cookie with
    | none =>
      rw [ServiceRequest.refreshEvents_of_blank hsec (Or.inl hes)] at ht
      exact ht.passage_nil
    | some secret =>
      obtain ⟨p, hp, hlast⟩ := ServiceRequest.refreshing_of_answered hsec hes
      refine hp.passage hs ht fun id next hq => ?_
      obtain ⟨next', hq'⟩ := hlast.question hq
      exact hlate id next' hq'
  | logout cookie =>
    cases hsec : Service.presented? cookie with
    | none =>
      rw [ServiceRequest.refreshEvents_of_blank hsec (Or.inr hes)] at ht
      exact ht.passage_nil
    | some secret =>
      obtain ⟨cookies, p, hp, hlast⟩ := ServiceRequest.loggingOut_of_answered hsec hes
      refine hp.passage hs ht fun id next hq => ?_
      obtain ⟨next', hq'⟩ := hlast.question hq
      exact hlate id next' hq'

/-- Nothing fails in the refresh store, and its records fall into chains. -/
structure Orderly (w : World) : Prop where
  spares : w.faults.SparesRefresh
  sound : w.refreshTokens.Sound
  lineage : w.refreshTokens.Lineage
  chained : ∃ chains, w.refreshTokens.Chains chains

theorem orderly_start (settings : Settings) (b : Backend) (now : Instant) (entropy : Entropy)
    (counting : Bool) : (start settings b now entropy counting).Orderly where
  spares := ⟨rfl, rfl, rfl⟩
  sound := sound_empty b
  lineage := lineage_empty b
  chained := ⟨[], chains_empty b⟩

theorem Orderly.passage (h : w.Orderly) (v : Visit) :
    Passage (v.request.isLogin = true) w.refreshTokens (w.visit settings v).refreshTokens := by
  obtain ⟨hes, ht, -, hend⟩ :=
    answered_play v.moments (v.request.operation settings) h.spares
  exact passage_of_answered h.sound hes ht hend

theorem Orderly.visit (h : w.Orderly) (v : Visit) : (w.visit settings v).Orderly := by
  have hp : Passage (v.request.isLogin = true) w.refreshTokens (w.visit settings v).refreshTokens :=
    h.passage v
  obtain ⟨chains, hc⟩ := h.chained
  obtain ⟨-, ht, hfaults, -⟩ :=
    answered_play v.moments (v.request.operation settings) h.spares
  exact ⟨hfaults.symm ▸ h.spares, ht.sound h.sound, h.lineage.passage hp, hc.passage h.lineage hp⟩

theorem Orderly.visits (run : List Visit) : ∀ {w : World}, w.Orderly →
    (w.visits settings run).Orderly := by
  induction run with
  | nil => exact id
  | cons v run ih => exact fun h => ih (h.visit v)

end World

end SignIn
