/-!
# Scripts

An operation that works with collaborators is a script: it asks a question, goes on with the
answer, and is done in the end. A script is data, so the same script can be run alone, one
question after the other (`run`, `run?`), or a question at a time among the questions of others.

An interface lists the questions and the type of the answer to each. With `run?` a question may
stay without an answer, which ends the run.
-/

namespace SignIn

/-- Questions, and for each the type of its answers. -/
structure Interface where
  Call : Type
  Reply : Call → Type

/-- Asks questions of an interface and ends with a value. -/
inductive Script (ι : Interface) (α : Type) where
  | done (value : α)
  | ask (call : ι.Call) (next : ι.Reply call → Script ι α)

namespace Script

variable {ι : Interface} {α β σ : Type}

/-- One question, ending with its answer. -/
def call (c : ι.Call) : Script ι (ι.Reply c) := .ask c .done

/-- One script after the other. -/
def bind : Script ι α → (α → Script ι β) → Script ι β
  | .done a, k => k a
  | .ask c next, k => .ask c fun r => (next r).bind k

instance : Monad (Script ι) where
  pure := .done
  bind := Script.bind

/-- Runs a script on a state; every question has its answer. -/
def run (answer : (c : ι.Call) → σ → ι.Reply c × σ) : Script ι α → σ → α × σ
  | .done a, s => (a, s)
  | .ask c next, s => (next (answer c s).1).run answer (answer c s).2

/-- Runs a script on a state until it is done or a question has no answer. -/
def run? (answer : (c : ι.Call) → σ → Option (ι.Reply c × σ)) : Script ι α → σ → Option (α × σ)
  | .done a, s => some (a, s)
  | .ask c next, s =>
    match answer c s with
    | none => none
    | some (r, s) => (next r).run? answer s

/-- Goes on with a good answer and ends with the failure that a bad one means. -/
def andThen {ε φ : Type} (reply : Except ε β) (failure : ε → φ)
    (next : β → Script ι (Except φ α)) : Script ι (Except φ α) :=
  match reply with
  | .ok b => next b
  | .error e => .done (.error (failure e))

/-- A script that goes on is run by running its parts one after the other, the second in the state
that the first has left. -/
theorem run_bind (answer : (c : ι.Call) → σ → ι.Reply c × σ) (p : Script ι α)
    (k : α → Script ι β) (s : σ) :
    (p.bind k).run answer s = (k (p.run answer s).1).run answer (p.run answer s).2 := by
  induction p generalizing s with
  | done a => rfl
  | ask c next ih => exact ih _ _

/-- So is one whose calls may stay without an answer : the second part is run if the first has come
to its end. -/
theorem run?_bind (answer : (c : ι.Call) → σ → Option (ι.Reply c × σ)) (p : Script ι α)
    (k : α → Script ι β) (s : σ) :
    (p.bind k).run? answer s = (p.run? answer s).bind fun r => (k r.1).run? answer r.2 := by
  induction p generalizing s with
  | done a => rfl
  | ask c next ih =>
    simp only [bind, run?]
    cases answer c s with
    | none => rfl
    | some r => exact ih _ _

end Script

end SignIn
