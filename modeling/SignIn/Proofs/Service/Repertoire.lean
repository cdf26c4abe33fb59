import SignIn.Proofs.Service.Questions

/-!
# Repertoires

Which questions an operation can ask, and what it can end with, is read off its text (`Only`), and
so are its answers (`Only.answered`).

Each question goes to one collaborator (`Call.collaborator`). The collaborators that an operation
turns to are its repertoire (`AsksOnly`), and the operations of the service are gone through once
for theirs. Whoever is not in the repertoire of an operation is left alone by it
(`AsksOnly.spares`) : a refresh and a logout do not go to the nonces, the steps of no request are
counted, and a logout does not look at the clock.
-/

namespace SignIn

/-- Whom a question goes to. -/
inductive Collaborator where
  | clock
  | nonces
  | provider
  | users
  | refreshTokens
  | counters
  | log
  /-- The question that ends an operation goes to nobody. -/
  | nobody
  deriving DecidableEq

/-- Whom a question goes to. -/
def Call.collaborator : Call → Collaborator
  | .readClock => .clock
  | .issueNonce | .consumeNonce _ => .nonces
  | .verifyIdentity _ _ => .provider
  | .upsertUser _ | .userProfile _ => .users
  | .issueRefresh _ _ _ | .validateRefresh _ | .revokeRefresh _ => .refreshTokens
  | .count _ => .counters
  | .log _ => .log
  | .halt => .nobody

namespace Operation

variable {α β : Type} {P P' : Call → Prop} {Q : α → Prop}

/-! ## Questions of an operation -/

/-- The operation asks only questions in `P` and ends only with results in `Q`. -/
def Only (P : Call → Prop) (Q : α → Prop) : Operation α → Prop
  | .done a => Q a
  | .ask c next => P c ∧ ∀ r, Only P Q (next r)

/-- An operation has asked no other questions, and will ask no others. -/
theorem Only.answered : ∀ {p : Operation α} {es : List Exchange} {q : Operation α}, Only P Q p →
    Answered p es q → (∀ e ∈ es, P e.call) ∧ Only P Q q
  | _, _, _, hp, .nil => ⟨fun _ he => absurd he List.not_mem_nil, hp⟩
  | _, _, _, hp, .cons r _ h => by
    obtain ⟨hfs, hq⟩ := (hp.2 r).answered h
    exact ⟨List.forall_mem_cons.2 ⟨hp.1, hfs⟩, hq⟩

theorem Only.mono (hP : ∀ c, P c → P' c) : ∀ {p : Operation α}, Only P Q p → Only P' Q p
  | .done _, h => h
  | .ask c _, h => ⟨hP c h.1, fun r => (h.2 r).mono hP⟩

theorem Only.bind {R : β → Prop} {k : α → Operation β} {p : Operation α} (hp : Only P Q p)
    (hk : ∀ a, Q a → Only P R (k a)) : Only P R (p.bind k) := by
  induction p with
  | done a => exact hk a hp
  | ask c next ih => exact ⟨hp.1, fun r => ih r (hp.2 r)⟩

theorem Only.andThen {ε φ : Type} {R : Except φ β → Prop} {reply : Except ε α} {failure : ε → φ}
    {next : α → Operation (Except φ β)} (hbad : ∀ e, R (.error (failure e)))
    (hgood : ∀ a, Only P R (next a)) : Only P R (Script.andThen reply failure next) := by
  cases reply with
  | error e => exact hbad e
  | ok a => exact hgood a

/-! ## Collaborators of an operation -/

/-- The operation turns to these collaborators alone. -/
def AsksOnly (repertoire : List Collaborator) (p : Operation α) : Prop :=
  Only (fun c => repertoire.contains c.collaborator = true) (fun _ => True) p

/-- The operation does not turn to the collaborator. -/
def Spares (k : Collaborator) (p : Operation α) : Prop :=
  Only (fun c => c.collaborator ≠ k) (fun _ => True) p

variable {repertoire more : List Collaborator} {k : Collaborator}

/-- Whoever is not in the repertoire is left alone. -/
theorem AsksOnly.spares {p : Operation α} (h : AsksOnly repertoire p) (hk : k ∉ repertoire) :
    Spares k p := by
  refine Only.mono (fun c hc => ?_) h
  rintro rfl
  exact hk (List.contains_iff_mem.1 hc)

theorem AsksOnly.mono {p : Operation α} (h : AsksOnly repertoire p)
    (hmore : ∀ k ∈ repertoire, k ∈ more) : AsksOnly more p :=
  Only.mono (fun _ hc => List.contains_iff_mem.2 (hmore _ (List.contains_iff_mem.1 hc))) h

theorem AsksOnly.bind {p : Operation α} {k : α → Operation β} (hp : AsksOnly repertoire p)
    (hk : ∀ a, AsksOnly repertoire (k a)) : AsksOnly repertoire (p.bind k) :=
  Only.bind hp fun a _ => hk a

theorem Spares.bind {p : Operation α} {f : α → Operation β} (hp : Spares k p)
    (hf : ∀ a, Spares k (f a)) : Spares k (p.bind f) :=
  Only.bind hp fun a _ => hf a

/-- Turning the result into another takes no question. -/
theorem Spares.map {p : Operation α} (hp : Spares k p) (f : α → β) :
    Spares k (p.bind fun a => .done (f a)) :=
  hp.bind fun _ => trivial

/-- What was answered came from others. -/
theorem Spares.answered {p q : Operation α} {es : List Exchange} (hp : Spares k p)
    (h : Answered p es q) : ∀ e ∈ es, e.call.collaborator ≠ k :=
  (Only.answered hp h).1

/-- An operation that spares the refresh tokens makes no call of their store. -/
theorem Spares.refreshEvents_eq_nil {p q : Operation α} {es : List Exchange}
    (hp : Spares .refreshTokens p) (h : Answered p es q) : refreshEvents es = [] := by
  refine List.filterMap_eq_nil_iff.2 fun e he => ?_
  have hother := hp.answered h e he
  obtain ⟨c, reply⟩ := e
  cases c <;> first | rfl | exact absurd rfl hother

end Operation

/-! ## The operations of the service -/

namespace Service

open Operation

theorem asksOnly_issueNonce : AsksOnly [.nonces, .log, .nobody] issueNonce := by
  refine ⟨rfl, fun reply => ?_⟩
  rcases reply with e | _ | nonce
  · exact ⟨rfl, fun _ => trivial⟩
  · exact ⟨rfl, fun r => r.elim⟩
  · trivial

/-- The last steps of a login and of a refresh turn to the clock and to the refresh tokens. -/
theorem asksOnly_handOut (settings : Settings) (profile : Profile) (previous : String) :
    AsksOnly [.clock, .refreshTokens, .nobody] (handOut settings profile previous) := by
  refine ⟨rfl, fun now => ⟨rfl, fun issuedAt => ?_⟩⟩
  dsimp only
  split
  · trivial
  · exact ⟨rfl, fun r => r.elim⟩
  · exact ⟨rfl, fun r => r.elim⟩
  · exact ⟨rfl, fun reply => .andThen (fun _ => trivial) fun _ => trivial⟩

/-- A login fails at once, or it asks whether its nonce can be used and then turns to others. -/
theorem tryLogin_cases (settings : Settings) (idToken nonce : String) (https : Bool) :
    (∃ f, tryLogin settings idToken nonce https = .done (.error f)) ∨
      ∃ next, (∀ u, AsksOnly [.clock, .provider, .users, .refreshTokens, .nobody] (next u)) ∧
        tryLogin settings idToken nonce https = .ask (.consumeNonce (Text.trim nonce)) fun reply =>
          Script.andThen reply .invalidNonce next := by
  unfold tryLogin
  extract_lets idToken nonce
  split_ifs
  · exact Or.inl ⟨_, rfl⟩
  · exact Or.inl ⟨_, rfl⟩
  · refine Or.inr ⟨_, fun _ => ?_, rfl⟩
    trivial
  · refine Or.inr ⟨_, fun _ => ?_, rfl⟩
    refine ⟨rfl, fun reply => .andThen (fun _ => trivial) fun claims => ?_⟩
    refine .andThen (fun _ => trivial) fun identity => ?_
    refine ⟨rfl, fun reply => .andThen (fun _ => trivial) fun user => ?_⟩
    exact ((asksOnly_handOut settings _ "").mono (by decide)).bind fun _ => trivial

theorem asksOnly_tryLogin (settings : Settings) (idToken nonce : String) (https : Bool) :
    AsksOnly [.clock, .nonces, .provider, .users, .refreshTokens, .nobody]
      (tryLogin settings idToken nonce https) := by
  rcases tryLogin_cases settings idToken nonce https with ⟨f, hf⟩ | ⟨next, hnext, hask⟩
  · rw [hf]
    trivial
  · rw [hask]
    exact ⟨rfl, fun reply => .andThen (fun _ => trivial) fun u => (hnext u).mono (by decide)⟩

theorem asksOnly_loginFailed (f : AuthFailure) : AsksOnly [.counters, .log] (loginFailed f) :=
  ⟨rfl, fun _ => ⟨rfl, fun _ => trivial⟩⟩

theorem asksOnly_tryRefresh (settings : Settings) (cookie : Option String) :
    AsksOnly [.clock, .users, .refreshTokens, .nobody] (tryRefresh settings cookie) := by
  unfold tryRefresh
  split
  · trivial
  refine ⟨rfl, fun reply => .andThen (fun _ => trivial) fun current => ⟨rfl, fun reply =>
    .andThen (fun _ => trivial) fun profile => ?_⟩⟩
  refine ((asksOnly_handOut settings profile current.tokenId).mono (by decide)).bind
    fun result => ?_
  cases result with
  | error f => trivial
  | ok cookies =>
    refine ⟨rfl, fun reply => ?_⟩
    cases reply with
    | ok u => trivial
    | error e =>
      dsimp only
      split_ifs <;> trivial

theorem asksOnly_refresh (settings : Settings) (cookie : Option String) :
    AsksOnly [.clock, .users, .refreshTokens, .counters, .log, .nobody]
      (refresh settings cookie) := by
  refine ((asksOnly_tryRefresh settings cookie).mono (by decide)).bind fun result => ?_
  cases result with
  | ok cookies => exact ⟨rfl, fun _ => trivial⟩
  | error f => exact ⟨rfl, fun _ => ⟨rfl, fun _ => trivial⟩⟩

theorem asksOnly_revokeQuietly (secret : String) :
    AsksOnly [.refreshTokens, .log] (revokeQuietly secret) := by
  refine ⟨rfl, fun reply => ?_⟩
  cases reply with
  | error e => exact ⟨rfl, fun _ => trivial⟩
  | ok current =>
    refine ⟨rfl, fun reply => ?_⟩
    cases reply with
    | ok u => trivial
    | error e =>
      dsimp only
      split_ifs
      · trivial
      · exact ⟨rfl, fun _ => trivial⟩

/-- A logout turns to the refresh tokens, and is counted. -/
theorem asksOnly_logout (settings : Settings) (cookie : Option String) :
    AsksOnly [.refreshTokens, .counters, .log] (logout settings cookie) := by
  unfold logout
  refine AsksOnly.bind ?_ fun _ => ⟨rfl, fun _ => trivial⟩
  split
  · exact (asksOnly_revokeQuietly _).mono (by decide)
  · trivial

end Service

end SignIn
