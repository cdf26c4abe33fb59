import SignIn.Proofs.Service.Questions
import SignIn.Service.World

/-!
# Answers of the world

Between two questions of an operation anything may happen to the clock, the random bytes and the
provider : each question is answered within surroundings of its own (`World.within`). The refresh
store changes by its own calls alone : if no fault takes the place of these, answering a question is
a trace of the store, of one call or of none (`World.trace_of_answer`).
-/

namespace SignIn

/-- What the world has at one moment and may not have at the next. -/
structure Surroundings where
  clock : Instant
  entropy : Entropy
  provider : Provider

/-- No fault is set for the refresh store. -/
structure Faults.SparesRefresh (f : Faults) : Prop where
  issue : f.refreshIssue = none
  validate : f.refreshValidate = none
  revoke : f.refreshRevoke = none

namespace World

variable {w w' : World} {c : Call} {r : c.Reply}

/-- The world within other surroundings. -/
def within (w : World) (σ : Surroundings) : World :=
  { w with clock := σ.clock, entropy := σ.entropy, provider := σ.provider }

@[simp] theorem within_refreshTokens (w : World) (σ : Surroundings) :
    (w.within σ).refreshTokens = w.refreshTokens := rfl

@[simp] theorem within_faults (w : World) (σ : Surroundings) : (w.within σ).faults = w.faults := rfl

/-! The work of the stores, part by part. -/

theorem serve_issueNonce (w : World) :
    let drawn := w.entropy.draw Identifier.secretBytes
    let issued := w.nonces.issue w.clock (Identifier.secret drawn.1)
    serve .issueNonce w =
      some (.ok issued.1, { w with nonces := issued.2, entropy := drawn.2 }) := rfl

theorem serve_consumeNonce (w : World) (n : String) : serve (.consumeNonce n) w =
    some ((w.nonces.consume w.clock n).1, { w with nonces := (w.nonces.consume w.clock n).2 }) :=
    rfl

theorem serve_upsertUser (w : World) (d : UserDetails) : serve (.upsertUser d) w =
    some ((w.users.upsert w.entropy d).1, { w with
      users := (w.users.upsert w.entropy d).2.1
      entropy := (w.users.upsert w.entropy d).2.2 }) := rfl

theorem serve_issueRefresh (w : World) (userId : String) (expires : Int) (previous : String) :
    serve (.issueRefresh userId expires previous) w =
      some ((w.refreshTokens.issue w.clock w.entropy userId expires previous).1, { w with
        refreshTokens := (w.refreshTokens.issue w.clock w.entropy userId expires previous).2.1
        entropy := (w.refreshTokens.issue w.clock w.entropy userId expires previous).2.2 }) := rfl

theorem serve_validateRefresh (w : World) (secret : String) : serve (.validateRefresh secret) w =
    some (w.refreshTokens.validate w.clock secret, w) := rfl

theorem serve_revokeRefresh (w : World) (id : String) : serve (.revokeRefresh id) w =
    some ((w.refreshTokens.revoke w.clock id).1, { w with
      refreshTokens := (w.refreshTokens.revoke w.clock id).2 }) := rfl

/-! What work leaves as it was. -/

/-- No answer changes the faults or the clock. -/
theorem serve_frame (h : serve c w = some (r, w')) : w'.faults = w.faults ∧ w'.clock = w.clock := by
  cases c with
  | count event =>
    cases h
    split_ifs <;> exact ⟨rfl, rfl⟩
  | halt => cases h
  | readClock | issueNonce | consumeNonce | verifyIdentity | upsertUser | userProfile |
    issueRefresh | validateRefresh | revokeRefresh | log => cases h; exact ⟨rfl, rfl⟩

/-- The faults and the clock stay what they were, whatever is asked. -/
theorem answer_frame (h : answer c w = some (r, w')) :
    w'.faults = w.faults ∧ w'.clock = w.clock := by
  unfold answer at h
  split at h
  · cases h
    exact ⟨rfl, rfl⟩
  · exact serve_frame h

theorem answer_faults (h : answer c w = some (r, w')) : w'.faults = w.faults := (answer_frame h).1

theorem answer_clock (h : answer c w = some (r, w')) : w'.clock = w.clock := (answer_frame h).2

/-- A call of the refresh store is answered by the store, and by nothing else. -/
theorem trace_of_serve (h : serve c w = some (r, w')) :
    w.refreshTokens.Trace (refreshEvents [⟨c, r⟩]) w'.refreshTokens := by
  cases c with
  | count event =>
    cases h
    show _ = _
    split_ifs <;> rfl
  | halt => cases h
  | issueRefresh userId expires previous =>
    cases h
    exact ⟨w.clock, _, ⟨w.entropy, .issue userId expires previous, rfl⟩, rfl⟩
  | validateRefresh secret =>
    cases h
    exact ⟨w.clock, _, ⟨w.entropy, .validate secret, rfl⟩, rfl⟩
  | revokeRefresh tokenId =>
    cases h
    exact ⟨w.clock, _, ⟨w.entropy, .revoke tokenId, rfl⟩, rfl⟩
  | readClock | issueNonce | consumeNonce | verifyIdentity | upsertUser | userProfile | log =>
    cases h
    rfl

/-- What an answer does to the refresh store is a call of the store or nothing. -/
theorem trace_of_answer (hf : w.faults.SparesRefresh) (h : answer c w = some (r, w')) :
    w.refreshTokens.Trace (refreshEvents [⟨c, r⟩]) w'.refreshTokens := by
  unfold answer at h
  split at h
  · rename_i hfault
    cases h
    cases c with
    | issueRefresh userId expires previous =>
      rw [fault?, hf.issue] at hfault
      cases hfault
    | validateRefresh secret =>
      rw [fault?, hf.validate] at hfault
      cases hfault
    | revokeRefresh tokenId =>
      rw [fault?, hf.revoke] at hfault
      cases hfault
    | readClock | issueNonce | consumeNonce | verifyIdentity | upsertUser | userProfile | count
    | log | halt => rfl
  · exact trace_of_serve h

/-- Without faults, answers are the work of the collaborators. -/
theorem answer_of_faultless (hf : w.faults = {}) (c : Call) : answer c w = serve c w := by
  have hnone : w.fault? c = none := by
    cases c <;> simp only [fault?, hf] <;> rfl
  simp only [answer, hnone]

/-- An operation alone has its first question answered, and goes on. -/
theorem perform_ask {α : Type} {next : c.Reply → Operation α} (h : answer c w = some (r, w')) :
    w.perform (.ask c next) = w'.perform (next r) := by
  simp only [perform, Script.run?, h]

/-- An operation alone that has ended had its first question answered. -/
theorem exists_of_perform_ask {α : Type} {next : c.Reply → Operation α} {a : α}
    (h : w.perform (.ask c next) = some (a, w')) :
    ∃ r w₁, answer c w = some (r, w₁) ∧ w₁.perform (next r) = some (a, w') := by
  cases ha : answer c w with
  | none =>
    rw [perform, Script.run?, ha] at h
    cases h
  | some b =>
    obtain ⟨r, w₁⟩ := b
    rw [perform_ask ha] at h
    exact ⟨r, w₁, rfl, h⟩

/-- An operation alone goes on where another ended. -/
theorem perform_bind {α β : Type} (p : Operation α) (k : α → Operation β) :
    w.perform (p.bind k) = (w.perform p).bind fun r => r.2.perform (k r.1) :=
  Script.run?_bind _ _ _ _

theorem exists_of_perform_map {α β : Type} {p : Operation α} {f : α → β} {b : β}
    (h : w.perform (p.bind fun a => .done (f a)) = some (b, w')) :
    ∃ a, w.perform p = some (a, w') ∧ f a = b := by
  rw [perform_bind] at h
  obtain ⟨⟨a, w₁⟩, hp, hend⟩ := Option.bind_eq_some_iff.1 h
  cases hend
  exact ⟨a, hp, rfl⟩

/-- An operation alone that has succeeded went on after a reply that is no error. -/
theorem exists_of_perform_andThen {α β ε φ : Type} {reply : Except ε β} {failure : ε → φ}
    {next : β → Operation (Except φ α)} {a : α}
    (h : w.perform (Script.andThen reply failure next) = some (.ok a, w')) :
    ∃ b, reply = .ok b ∧ w.perform (next b) = some (.ok a, w') := by
  cases reply with
  | error e => cases h
  | ok b => exact ⟨b, rfl, h⟩

/-- The end of an operation alone has no answer. -/
theorem eq_halt_of_answer_eq_none (h : answer c w = none) : c = .halt := by
  unfold answer at h
  split at h
  · cases h
  · cases c with
    | halt => rfl
    | readClock | issueNonce | consumeNonce | verifyIdentity | upsertUser | userProfile |
      issueRefresh | validateRefresh | revokeRefresh | count | log => cases h

end World

end SignIn
