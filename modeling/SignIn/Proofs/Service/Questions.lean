import SignIn.Proofs.Refresh.Runs
import SignIn.Service.Login
import SignIn.Service.Refresh

/-!
# The questions of a request

A request is an operation of the service, and an operation is a script : `Answered p es q` says that
the questions of `p` met the answers `es` and `q` is left. Which answers an operation can have met
depends on its text alone, not on what happens between two questions.

The calls of the refresh store among the questions are `refreshEvents`. An operation that makes no
such call any more and can end in one way only is `Quiet` ; what follows the steps of a refresh or a
login, its count and its entry in the log, is so, and can be left out (`Answered.ending`).
-/

namespace SignIn

/-- A request to the service. -/
inductive ServiceRequest where
  | issueNonce
  | login (idToken nonce : String) (https : Bool)
  | refresh (cookie : Option String)
  | logout (cookie : Option String)

/-- What a request ends with. -/
inductive Outcome where
  | issueNonce (result : Except AuthFailure String)
  | login (result : Except AuthFailure LoginOutcome)
  | refresh (result : Except AuthFailure (List String))
  | logout (cookies : List String)

namespace ServiceRequest

/-- The steps of a request. -/
def operation (settings : Settings) : ServiceRequest → Operation Outcome
  | .issueNonce => Service.issueNonce.bind fun result => .done (.issueNonce result)
  | .login idToken nonce https =>
    (Service.login settings idToken nonce https).bind fun result => .done (.login result)
  | .refresh cookie => (Service.refresh settings cookie).bind fun result => .done (.refresh result)
  | .logout cookie => (Service.logout settings cookie).bind fun cookies => .done (.logout cookies)

/-- The secret that a refresh or a logout presents. -/
def secret? : ServiceRequest → Option String
  | .refresh cookie => Service.presented? cookie
  | .logout cookie => Service.presented? cookie
  | _ => none

end ServiceRequest

theorem Service.ne_empty_of_presented {cookie : Option String} {secret : String}
    (h : presented? cookie = some secret) : secret ≠ "" := by
  rintro rfl
  simp [presented?, Option.filter_eq_some_iff] at h

/-- A question with its answer. -/
structure Exchange where
  call : Call
  reply : call.Reply

/-- What the refresh store has to do with it. -/
def Exchange.refresh? : Exchange → Option RefreshEvent
  | ⟨.issueRefresh userId expires previous, answer⟩ => some (.issue userId expires previous answer)
  | ⟨.validateRefresh secret, answer⟩ => some (.validate secret answer)
  | ⟨.revokeRefresh tokenId, answer⟩ => some (.revoke tokenId answer)
  | _ => none

/-- A call of the refresh store, as a question with its answer. -/
def RefreshEvent.exchange : RefreshEvent → Exchange
  | .issue userId expires previous answer => ⟨.issueRefresh userId expires previous, answer⟩
  | .validate secret answer => ⟨.validateRefresh secret, answer⟩
  | .revoke tokenId answer => ⟨.revokeRefresh tokenId, answer⟩

theorem Exchange.refresh?_eq_some_iff {e : Exchange} {c : RefreshEvent} :
    e.refresh? = some c ↔ e = c.exchange := by
  constructor
  · intro h
    unfold refresh? at h
    split at h <;> cases h <;> rfl
  · rintro rfl
    cases c <;> rfl

/-- The calls of the refresh store among the questions. -/
def refreshEvents (es : List Exchange) : List RefreshEvent := es.filterMap Exchange.refresh?

@[simp] theorem refreshEvents_nil : refreshEvents [] = [] := rfl

@[simp] theorem refreshEvents_append (es fs : List Exchange) :
    refreshEvents (es ++ fs) = refreshEvents es ++ refreshEvents fs :=
  List.filterMap_append

theorem refreshEvents_cons (e : Exchange) (es : List Exchange) :
    refreshEvents (e :: es) = e.refresh?.toList ++ refreshEvents es := by
  unfold refreshEvents
  cases h : e.refresh? <;> simp [h]

/-! ## Answers so far -/

namespace Operation

variable {α β : Type} {es : List Exchange}

/-- The questions of `p` met the answers `es`, and `q` is left. -/
inductive Answered : Operation α → List Exchange → Operation α → Prop
  | nil {p} : Answered p [] p
  | cons {c next q} (r : c.Reply) (fs : List Exchange) (h : Answered (next r) fs q) :
    Answered (.ask c next) (⟨c, r⟩ :: fs) q

/-- One answer more. -/
theorem Answered.snoc {p q : Operation α} (h : Answered p es q) {c : Call}
    {next : c.Reply → Operation α} (hq : q = .ask c next) (r : c.Reply) :
    Answered p (es ++ [⟨c, r⟩]) (next r) := by
  induction h with
  | nil =>
    subst hq
    exact .cons r [] .nil
  | cons r' fs _ ih => exact .cons r' _ (ih hq)

/-- Without an answer, all is left. -/
theorem Answered.eq_of_nil {p q : Operation α} (h : Answered p es q) (hes : es = []) : q = p := by
  cases h with
  | nil => rfl
  | cons => cases hes

theorem answered_done {a : α} {q : Operation α} (h : Answered (.done a) es q) :
    es = [] ∧ q = .done a := by
  cases h
  exact ⟨rfl, rfl⟩

/-- A question has had no answer yet, or it has had one, and what follows went on from there. -/
theorem answered_ask {c : Call} {next : c.Reply → Operation α} {q : Operation α}
    (h : Answered (.ask c next) es q) :
    (es = [] ∧ q = .ask c next) ∨ ∃ r fs, es = ⟨c, r⟩ :: fs ∧ Answered (next r) fs q := by
  cases h with
  | nil => exact Or.inl ⟨rfl, rfl⟩
  | cons r fs h => exact Or.inr ⟨r, fs, rfl, h⟩

/-- A bad answer is the end, and a good one leads on. -/
theorem answered_andThen {ε φ : Type} {reply : Except ε β} {failure : ε → φ}
    {next : β → Operation (Except φ α)} {q : Operation (Except φ α)}
    (h : Answered (Script.andThen reply failure next) es q) :
    (∃ e, reply = .error e ∧ es = [] ∧ q = .done (.error (failure e))) ∨
      ∃ b, reply = .ok b ∧ Answered (next b) es q := by
  cases reply with
  | error e => exact Or.inl ⟨e, rfl, answered_done h⟩
  | ok b => exact Or.inr ⟨b, rfl, h⟩

/-- The answers of two operations, one after the other, are those of the first, which is not done
yet, or all of the first and then those of the second. -/
theorem answered_bind {k : α → Operation β} :
    ∀ {p : Operation α} {es : List Exchange} {q : Operation β}, Answered (p.bind k) es q →
      (∃ c next, Answered p es (.ask c next) ∧ q = .ask c fun r => (next r).bind k) ∨
        ∃ a fs gs, es = fs ++ gs ∧ Answered p fs (.done a) ∧ Answered (k a) gs q
  | .done a, es, _, h => Or.inr ⟨a, [], es, rfl, .nil, h⟩
  | .ask c next, es, q, h => by
    cases h with
    | nil => exact Or.inl ⟨c, next, .nil, rfl⟩
    | cons r fs h =>
      have h : Answered ((next r).bind k) fs q := h
      rcases answered_bind h with ⟨c', next', hp, hq⟩ | ⟨a, fs', gs, rfl, hp, hk⟩
      · exact Or.inl ⟨c', next', .cons r _ hp, hq⟩
      · exact Or.inr ⟨a, ⟨c, r⟩ :: fs', gs, rfl, .cons r _ hp, hk⟩

/-- The operation asks the refresh store nothing and ends with `a`. -/
def Quiet (a : α) : Operation α → Prop
  | .done b => b = a
  | .ask c next => ∀ r, Exchange.refresh? ⟨c, r⟩ = none ∧ Quiet a (next r)

theorem Quiet.answered {a : α} :
    ∀ {p : Operation α} {es : List Exchange} {q : Operation α}, Quiet a p → Answered p es q →
      refreshEvents es = [] ∧ Quiet a q
  | .done b, es, q, hp, h => by
    cases h
    exact ⟨rfl, hp⟩
  | .ask c next, es, q, hp, h => by
    cases h with
    | nil => exact ⟨rfl, hp⟩
    | cons r fs h =>
      obtain ⟨hnone, hnext⟩ := hp r
      obtain ⟨hfs, hq⟩ := hnext.answered h
      rw [refreshEvents_cons, hnone, hfs]
      exact ⟨rfl, hq⟩

theorem Quiet.bind {a : α} {b : β} {k : α → Operation β} (hk : Quiet b (k a)) :
    ∀ {p : Operation α}, Quiet a p → Quiet b (p.bind k)
  | .done a', hp => by
    obtain rfl : a' = a := hp
    exact hk
  | .ask c next, hp => fun r => ⟨(hp r).1, Quiet.bind hk (hp r).2⟩

theorem bind_assoc {γ : Type} {k : α → Operation β} {l : β → Operation γ} :
    ∀ p : Operation α, (p.bind k).bind l = p.bind fun a => (k a).bind l
  | .done _ => rfl
  | .ask c next => congrArg (Script.ask c) (funext fun r => bind_assoc (next r))

/-- What is left is `p` and a quiet end, which turns the result `a` of `p` into `f a`. -/
structure Ending (f : α → β) (p : Operation α) (q : Operation β) : Prop where
  result : ∀ {b}, q = .done b → ∃ a, p = .done a ∧ b = f a
  question : ∀ {c next}, p = .ask c next → ∃ next', q = .ask c next'

/-- The calls of an operation with a quiet end are made before the end. -/
theorem Answered.ending {k : α → Operation β} {f : α → β} (hk : ∀ a, Quiet (f a) (k a))
    {p : Operation α} {q : Operation β} (h : Answered (p.bind k) es q) :
    ∃ fs p', Answered p fs p' ∧ refreshEvents fs = refreshEvents es ∧ Ending f p' q := by
  rcases answered_bind h with ⟨c, next, hp, rfl⟩ | ⟨a, fs, gs, rfl, hp, hq⟩
  · refine ⟨es, .ask c next, hp, rfl, fun hb => ?_, fun hc => ?_⟩
    · cases hb
    · cases hc
      exact ⟨_, rfl⟩
  · obtain ⟨hgs, hquiet⟩ := (hk a).answered hq
    refine ⟨fs, .done a, hp, by simp [hgs], fun hb => ?_, fun hc => ?_⟩
    · rw [hb] at hquiet
      exact ⟨a, rfl, hquiet⟩
    · cases hc

end Operation

end SignIn
