import SignIn.Proofs.Cookie.Sent
import SignIn.Proofs.Session.Minted

/-!
# Tokens from their issue on

Whoever looks at a token from its issue on needs to know only its second of expiry : the token is
good before it and has expired from then on (`verify_of_issued`). A token can stand in a cookie
(`isPlain_sign`).
-/

namespace SignIn

/-- The second of an instant is an instant. -/
theorem Instant.exists_ofSeconds? (t : Instant) : ∃ s, ofSeconds? t.seconds = some s := by
  have hbounds := SessionToken.seconds_bounds t
  rw [ofSeconds?, ofNanos?, dif_pos (by omega)]
  exact ⟨_, rfl⟩

/-- Encoded bytes can be sent in a cookie. -/
theorem Base64Url.isPlain_encode (bs : Bytes) : Cookie.IsPlain (encode bs) := by
  have hdigit : ∀ n < 64, 33 ≤ (digitChar n).toNat ∧ (digitChar n).toNat ≤ 126 ∧
      digitChar n ≠ ';' := by decide
  intro c hc
  obtain ⟨n, hn, rfl⟩ := exists_digit_of_mem_encode hc
  exact hdigit n hn

namespace SessionToken

/-- A token can stand in a cookie. -/
theorem isPlain_sign (key : Bytes) (c : Claims) : Cookie.IsPlain (sign key c).toList := by
  rw [sign, String.toList_ofList, message]
  have hdot : 33 ≤ '.'.toNat ∧ '.'.toNat ≤ 126 ∧ '.' ≠ ';' := by decide
  refine List.forall_mem_append.2 ⟨List.forall_mem_append.2 ⟨Base64Url.isPlain_encode _, ?_⟩, ?_⟩
  · exact List.forall_mem_cons.2 ⟨hdot, Base64Url.isPlain_encode _⟩
  · exact List.forall_mem_cons.2 ⟨hdot, Base64Url.isPlain_encode _⟩

variable {profile : Profile} {issuer : String} {key : Bytes} {now t expires : Instant}
  {lifetime : Span}

/-- What is minted is signed for the profile, and expires at the sum. -/
theorem token_of_mint {minted : Minted}
    (h : mint profile issuer key now lifetime = .ok (some minted)) :
    now.add? lifetime = some minted.expires ∧
      minted.token = sign key (claims profile issuer now minted.expires) := by
  unfold mint at h
  split_ifs at h
  obtain ⟨expires, hexpires, rfl⟩ := Option.map_eq_some_iff.1 (Except.ok.inj h)
  exact ⟨hexpires, rfl⟩

/-- From its issue on, a token is good up to the second of its expiry. -/
theorem verify_of_issued (hissue : skew ≤ now.seconds) (hlate : now ≤ expires) (ht : now ≤ t) :
    verify key issuer t (sign key (claims profile issuer now expires)) =
      if t.seconds < expires.seconds then .ok (claims profile issuer now expires)
      else .error .expired := by
  have hexpires := Instant.seconds_le_seconds hlate
  have hseconds := Instant.seconds_le_seconds ht
  have hskew : skew = 30 := rfl
  -- The start of validity lies before the issue, so only the two ends of the session count.
  have hreadable : ¬(now.seconds - skew < 0 ∨ expires.seconds < 0) := by omega
  have hstarted : ¬(t.seconds < now.seconds - skew ∨ t.seconds < now.seconds) := by omega
  rw [verify_sign (hasTimes_claims profile issuer now expires)]
  simp only [claims, ne_eq, not_true_eq_false, hreadable, hstarted, if_false]
  by_cases hgood : t.seconds < expires.seconds
  · simp only [hgood, Int.not_le.2 hgood, if_true, if_false]
  · simp only [hgood, Int.not_lt.1 hgood, if_true, if_false]

end SessionToken

end SignIn
