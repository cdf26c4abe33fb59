import SignIn.Proofs.Cookie.Written
import SignIn.Settings.Basic

/-!
# Settings that were built

A draft is built when it breaks no rule (`build_eq_ok_iff`). What the rules say of the draft also
holds of its settings (`sound_of_build`), although these have two texts trimmed : trimming makes no
text blank.
-/

namespace SignIn

namespace Text

theorem trim_trim (s : String) : trim (trim s) = trim s := by
  rw [trim, trim, String.toList_ofList, trimChars_trimChars]

/-- A text is blank if and only if what trimming leaves of it is. -/
theorem allBlank_trim (s : String) : allBlank (trim s) = allBlank s := by
  rw [Bool.eq_iff_iff, ← trim_eq_empty_iff, ← trim_eq_empty_iff, trim_trim]

end Text

/-- What the rules say, of settings. -/
structure Settings.Sound (settings : Settings) : Prop where
  clientId : Text.allBlank settings.clientId = false
  signingKey : settings.signingKey ≠ []
  issuer : Text.allBlank settings.issuer = false
  sessionCookie : Text.allBlank settings.sessionCookie = false
  refreshCookie : Text.allBlank settings.refreshCookie = false
  distinct : settings.sessionCookie ≠ settings.refreshCookie
  sessionLifetime : 0 < settings.sessionLifetime.nanos
  refreshLifetime : 0 < settings.refreshLifetime.nanos
  nonceLifetime : 0 < settings.nonceLifetime.nanos

namespace Draft

variable {draft : Draft} {settings : Settings}

/-- No rule is breached if and only if each of them holds. -/
theorem breach?_eq_none_iff : draft.breach? = none ↔ ∀ rule ∈ draft.rules, rule.1 = true := by
  rw [breach?, Option.map_eq_none_iff, List.find?_eq_none]
  simp

/-- Settings are built if and only if each rule holds, and they are those of the draft with its
texts trimmed. -/
theorem build_eq_ok_iff : draft.build = .ok settings ↔ (∀ rule ∈ draft.rules, rule.1 = true) ∧
    settings =
      { clientId := Text.trim draft.clientId
        signingKey := draft.signingKey
        issuer := Text.trim draft.issuer
        cookieDomain := draft.cookieDomain
        sessionCookie := draft.sessionCookie
        refreshCookie := draft.refreshCookie
        sessionLifetime := draft.sessionLifetime
        refreshLifetime := draft.refreshLifetime
        nonceLifetime := draft.nonceLifetime
        sameSite := draft.sameSite
        allowInsecureHttp := draft.allowInsecureHttp } := by
  rw [← breach?_eq_none_iff, build]
  cases draft.breach? with
  | some e => simp
  | none => simp [eq_comm]

/-- Settings that were built are sound : the rules say as much. -/
theorem sound_of_build (h : draft.build = .ok settings) : settings.Sound := by
  obtain ⟨hrules, rfl⟩ := build_eq_ok_iff.1 h
  simp only [rules, List.forall_mem_cons, Bool.not_eq_eq_eq_not, Bool.not_true, bne_iff_ne,
    decide_eq_true_eq, List.isEmpty_eq_false_iff] at hrules
  obtain ⟨hclient, hkey, hissuer, hsession, hrefresh, hdistinct, hlife, hlife', hlife'', -⟩ :=
    hrules
  exact
    { clientId := by rwa [Text.allBlank_trim]
      signingKey := hkey
      issuer := by rwa [Text.allBlank_trim]
      sessionCookie := hsession
      refreshCookie := hrefresh
      distinct := hdistinct
      sessionLifetime := hlife
      refreshLifetime := hlife'
      nonceLifetime := hlife'' }

end Draft

end SignIn
