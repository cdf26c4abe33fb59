import SignIn.Proofs.Settings.Built
import SignIn.Settings.Environment

/-!
# Settings from an environment

An environment gives settings, a refusal, or none of the two, when one of its lifetimes is a number
that can be read and no span has so many seconds (`Environment.Exceeds`). The lifetimes are read in
turn, so this happens exactly if those before it are good (`ofEnvironment_eq_noSuchSpan_iff`).
Settings that come out are sound (`sound_of_ofEnvironment`).
-/

namespace SignIn

namespace Environment

/-- The lifetime is unset, or there is a span of so many seconds. -/
def Measures (env : Environment) (v : Variable) : Prop :=
  ∃ n?, env.seconds v = .ok n? ∧ ∀ n ∈ n?, n.natAbs ≤ 9223372036854775

/-- The lifetime can be read, and there is no span of so many seconds. -/
def Exceeds (env : Environment) (v : Variable) : Prop :=
  ∃ n, env.seconds v = .ok (some n) ∧ 9223372036854775 < n.natAbs

/-- A lifetime exceeds all spans, and those that are read before it do not fail. -/
def Overflows (env : Environment) : Prop :=
  env.Exceeds .sessionLifetime ∨ env.Measures .sessionLifetime ∧
    (env.Exceeds .refreshLifetime ∨ env.Measures .refreshLifetime ∧ env.Exceeds .nonceLifetime)

end Environment

/-- A number of seconds has a span unless it is too large. -/
theorem Span.ofSeconds?_eq_none_iff {n : Int} :
    ofSeconds? n = none ↔ 9223372036854775 < n.natAbs := by
  unfold ofSeconds? ofNanos?
  split_ifs with hseconds hnanos
  · simpa using hseconds
  · omega
  · simpa using hseconds

namespace Settings

variable {env : Environment} {v : Variable} {settings : Settings}

/-- What a lifetime is read as. -/
theorem lifetime_cases (env : Environment) (v : Variable) (default : Span) :
    (∃ e, lifetime env v default = .error (.refused e) ∧ ¬env.Exceeds v ∧ ¬env.Measures v) ∨
      lifetime env v default = .error .noSuchSpan ∧ env.Exceeds v ∧ ¬env.Measures v ∨
      ∃ d, lifetime env v default = .ok d ∧ ¬env.Exceeds v ∧ env.Measures v := by
  unfold lifetime Environment.Exceeds Environment.Measures
  rcases hs : env.seconds v with e | _ | n
  · exact Or.inl ⟨e, rfl, by simp, by simp⟩
  · exact Or.inr (Or.inr ⟨default, rfl, by simp, by simp⟩)
  · dsimp only
    cases hd : Span.ofSeconds? n with
    | none =>
      have hn := Span.ofSeconds?_eq_none_iff.1 hd
      exact Or.inr (Or.inl ⟨rfl, ⟨n, rfl, hn⟩, by simpa using hn⟩)
    | some d =>
      have hn : ¬9223372036854775 < n.natAbs := by
        rw [← Span.ofSeconds?_eq_none_iff, hd]
        exact Option.some_ne_none d
      exact Or.inr (Or.inr ⟨d, rfl, by simpa using hn, by simpa using hn⟩)

/-- No settings and no refusal come out exactly if a lifetime exceeds all spans before another
fails. -/
theorem ofEnvironment_eq_noSuchSpan_iff :
    ofEnvironment env = .error .noSuchSpan ↔ env.Overflows := by
  unfold ofEnvironment Environment.Overflows
  rcases lifetime_cases env .sessionLifetime (draftOfTexts env).sessionLifetime with
    ⟨e, hs, hx, hm⟩ | ⟨hs, hx, hm⟩ | ⟨d, hs, hx, hm⟩
  · simp [hs, hx, hm, bind, Except.bind]
  · simp [hs, hx, bind, Except.bind]
  rcases lifetime_cases env .refreshLifetime (draftOfTexts env).refreshLifetime with
    ⟨e, hr, hx', hm'⟩ | ⟨hr, hx', hm'⟩ | ⟨d', hr, hx', hm'⟩
  · simp [hs, hx, hr, hx', hm', bind, Except.bind]
  · simp [hs, hm, hr, hx', bind, Except.bind]
  rcases lifetime_cases env .nonceLifetime (draftOfTexts env).nonceLifetime with
    ⟨e, hn, hx'', -⟩ | ⟨hn, hx'', -⟩ | ⟨d'', hn, hx'', -⟩
  · simp [hs, hx, hr, hx', hn, hx'', bind, Except.bind]
  · simp [hs, hm, hr, hm', hn, hx'', bind, Except.bind]
  · simp only [hs, hx, hr, hx', hn, hx'', bind, Except.bind, false_or, and_false, iff_false]
    cases Draft.build _ <;> simp [pure, Except.pure, throw, throwThe, MonadExceptOf.throw]

/-- Settings from the environment are built, so they are sound as well. -/
theorem sound_of_ofEnvironment (h : ofEnvironment env = .ok settings) : settings.Sound := by
  unfold ofEnvironment at h
  simp only [bind, Except.bind] at h
  split at h
  · cases h
  split at h
  · cases h
  split at h
  · cases h
  split at h
  · rename_i built hbuild
    cases h
    exact Draft.sound_of_build hbuild
  · cases h

end Settings

end SignIn
