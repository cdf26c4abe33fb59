import SignIn.Http.Transport
import SignIn.Proofs.Cookie.Sent

/-!
# What counts as https

Two grammars stand behind the headers of a proxy and of a host : the parameters of a `Forwarded`
line (`Transport.parameters`), and a loopback host with a port or without
(`Transport.IsLoopbackHost`). What they name is let through (`isHttps_of_named`), since a parameter
stands in its line as it is written (`contains_of_mem_parameters`) and a host is cut off where its
port begins.

The matchers let more through. A forwarded line is only searched for `proto=https`, a port is not
read, and behind the name in brackets nothing is read at all. `opens_only_for` says what each of
them asks for at least, and `look_alikes_pass` has requests that neither grammar names.
-/

namespace SignIn

namespace Text

/-- The search finds a text if and only if it stands somewhere in the other. -/
theorem contains_iff {part : List Char} : ∀ {cs : List Char}, contains part cs = true ↔ part <:+: cs
  | [] => by rw [contains, List.isEmpty_iff, List.infix_nil]
  | c :: cs => by
    rw [contains, Bool.or_eq_true, List.isPrefixOf_iff_prefix, contains_iff, List.infix_cons_iff]

/-- What stands between two separators stands in the text. -/
theorem infix_of_mem_segments {sep : Char} {cs p : List Char} (h : p ∈ segments sep cs) :
    p <:+: cs := by
  obtain ⟨parts, hne, hsep, rfl⟩ := exists_segments sep cs
  rw [segments_intercalate hne hsep] at h
  exact infix_intercalate h

/-- A trimmed text stands in the text. -/
theorem infix_trimChars (cs : List Char) : trimChars cs <:+: cs := by
  obtain ⟨-, b, b', -, heq⟩ := surrounds_trimChars cs
  exact ⟨b, b', heq.symm⟩

theorem not_mem_upTo {sep : Char} {cs : List Char} : sep ∉ upTo sep cs := fun h => by
  simpa using List.mem_takeWhile_imp h

/-- A text begins with a word up to a separator if it is the word or goes on with the separator. -/
theorem upTo_eq_iff {sep : Char} {word cs : List Char} (h : sep ∉ word) :
    upTo sep cs = word ↔ cs = word ∨ ∃ rest, cs = word ++ sep :: rest := by
  constructor
  · rintro rfl
    have hsplit : upTo sep cs ++ cs.dropWhile (· ≠ sep) = cs := List.takeWhile_append_dropWhile
    cases hrest : cs.dropWhile (· ≠ sep) with
    | nil =>
      rw [hrest, List.append_nil] at hsplit
      exact Or.inl hsplit.symm
    | cons c rest =>
      have hne : cs.dropWhile (· ≠ sep) ≠ [] := by
        rw [hrest]
        exact List.cons_ne_nil c rest
      have hc := List.head_dropWhile_not (· ≠ sep) hne
      simp only [hrest, List.head_cons, decide_eq_false_iff_not, ne_eq, not_not] at hc
      rw [hrest, hc] at hsplit
      exact Or.inr ⟨rest, hsplit.symm⟩
  · rintro (rfl | ⟨rest, rfl⟩)
    · exact List.takeWhile_eq_self_iff.2 fun c hc => decide_eq_true fun he => h (he ▸ hc)
    · exact upTo_append h rest

end Text

namespace Transport

open Text

/-! ## Names in headers -/

/-- The parameters of a `Forwarded` line : between commas and semicolons, name and value of each. -/
def parameters (line : List Char) : List (List Char × List Char) :=
  ((segments ',' line).flatMap (segments ';')).filterMap fun part => cut? '=' (trimChars part)

/-- The machine itself, with a colon and a port or without. -/
def IsLoopbackHost (host : List Char) : Prop :=
  ∃ name ∈ ["localhost", "127.0.0.1", "[::1]"], host = name.toList ∨
    ∃ port : List Char, host = name.toList ++ ':' :: port ∧ ∀ c ∈ port, isDigit c = true

/-- What a header has to name for a request to count as https. -/
def Named (headers : Headers) : Prop :=
  normalized? headers "x-forwarded-proto" = some "https".toList ∨
    (∃ line, normalized? headers "forwarded" = some line ∧
      ("proto".toList, "https".toList) ∈ parameters line) ∨
    ∃ host, normalized? headers "host" = some host ∧ IsLoopbackHost host

variable {headers : Headers} {line : List Char}

/-- A parameter stands in the line, name and value with the equals sign between them. -/
theorem infix_of_mem_parameters {name value : List Char} (h : (name, value) ∈ parameters line) :
    name ++ '=' :: value <:+: line := by
  obtain ⟨part, hpart, hcut⟩ := List.mem_filterMap.1 h
  obtain ⟨element, helement, hpart⟩ := List.mem_flatMap.1 hpart
  rw [← append_of_cut? hcut]
  exact (infix_trimChars part).trans
    ((infix_of_mem_segments hpart).trans (infix_of_mem_segments helement))

/-- A forwarding parameter that says so is found in its line. -/
theorem contains_of_mem_parameters (h : ("proto".toList, "https".toList) ∈ parameters line) :
    contains "proto=https".toList line = true :=
  contains_iff.2 (infix_of_mem_parameters h)

/-! ## Loopback hosts -/

/-- What the name of the host is compared with. -/
def hostName : List Char → List Char
  | '[' :: rest => upTo ']' rest
  | cs => upTo ':' cs

/-- Only the name that is left of the host decides, and the list of names is short. -/
theorem isLoopback_iff {host : String} : isLoopback host = true ↔
    ∃ name ∈ loopbackNames, hostName ((trimChars host.toList).map lowerChar) = name.toList := by
  have hloopback : isLoopback host =
    loopbackNames.contains (String.ofList (hostName ((trimChars host.toList).map lowerChar))) := rfl
  rw [hloopback, List.contains_iff_mem]
  constructor
  · exact fun h => ⟨_, h, (String.toList_ofList).symm⟩
  · rintro ⟨name, hname, heq⟩
    rwa [heq, String.ofList_toList]

/-- The host is a name, or goes on with a colon, or has the name behind an opening bracket, up to
the closing one if there is one. -/
theorem hostName_eq {host name : List Char} (h : hostName host = name) :
    (':' ∉ name ∧ (host = name ∨ ∃ port, host = name ++ ':' :: port)) ∨
      (host = '[' :: name ∨ ∃ rest, host = '[' :: (name ++ ']' :: rest)) := by
  unfold hostName at h
  split at h
  · rename_i inside
    have hcut := (upTo_eq_iff (h ▸ not_mem_upTo)).1 h
    exact Or.inr (hcut.imp (congrArg _) fun ⟨rest, hrest⟩ => ⟨rest, congrArg _ hrest⟩)
  · have hcolon : ':' ∉ name := h ▸ not_mem_upTo
    exact Or.inl ⟨hcolon, (upTo_eq_iff hcolon).1 h⟩

/-- A loopback host in any of its spellings leaves one of the names. -/
theorem hostName_of_isLoopbackHost {host : List Char} (h : IsLoopbackHost host) :
    ∃ name ∈ loopbackNames, hostName host = name.toList := by
  obtain ⟨name, hname, hhost⟩ := h
  have hport : host = name.toList ∨ ∃ port, host = name.toList ++ ':' :: port :=
    hhost.imp_right fun ⟨port, heq, _⟩ => ⟨port, heq⟩
  simp only [List.mem_cons, List.not_mem_nil, or_false] at hname
  rcases hname with rfl | rfl | rfl
  · refine ⟨"localhost", by decide, ?_⟩
    rcases hport with rfl | ⟨port, rfl⟩ <;> rfl
  · refine ⟨"127.0.0.1", by decide, ?_⟩
    rcases hport with rfl | ⟨port, rfl⟩ <;> rfl
  · refine ⟨"::1", by decide, ?_⟩
    rcases hport with rfl | ⟨port, rfl⟩ <;> rfl

/-! ## The gate -/

/-- The three headers one by one, as they are looked at. -/
theorem isHttps_iff : isHttps headers = true ↔
    normalized? headers "x-forwarded-proto" = some "https".toList ∨
      (∃ line, normalized? headers "forwarded" = some line ∧
        contains "proto=https".toList line = true) ∨
      ∃ host, normalized? headers "host" = some host ∧
        ∃ name ∈ loopbackNames, hostName host = name.toList := by
  have hhost : (headers.firstText? "host").any isLoopback = true ↔
      ∃ host, normalized? headers "host" = some host ∧
        ∃ name ∈ loopbackNames, hostName host = name.toList := by
    rw [Option.any_eq_true, normalized?]
    simp only [isLoopback_iff, Option.map_eq_some_iff, exists_exists_and_eq_and]
  rw [isHttps, Bool.or_eq_true, Bool.or_eq_true, hhost, or_assoc]
  simp [Option.any_eq_true]

/-- Whoever names a secure transport is let in. -/
theorem isHttps_of_named (h : Named headers) : isHttps headers = true := by
  refine isHttps_iff.2 (h.imp_right (Or.imp ?_ ?_))
  · exact fun ⟨line, hline, hpair⟩ => ⟨line, hline, contains_of_mem_parameters hpair⟩
  · exact fun ⟨host, hline, hhost⟩ => ⟨host, hline, hostName_of_isLoopbackHost hhost⟩

/-- A request counts as https only if the first line of its kind says so : the forwarded scheme is
https, or a forwarded element holds the text `proto=https`, or the host is the machine itself,
followed by a colon and anything at all or in brackets. It does count when the scheme is https, when
a parameter `proto` of a forwarded element is https, and when the host is the machine itself with a
port in digits or without. -/
theorem opens_only_for (headers : Headers) :
    (isHttps headers = true →
      normalized? headers "x-forwarded-proto" = some "https".toList ∨
        (∃ line, normalized? headers "forwarded" = some line ∧ "proto=https".toList <:+: line) ∨
        ∃ host, normalized? headers "host" = some host ∧
          ((∃ name ∈ ["localhost", "127.0.0.1"], host = name.toList ∨
              ∃ port, host = name.toList ++ ':' :: port) ∨
            ∃ name ∈ ["localhost", "127.0.0.1", "::1"], host = '[' :: name.toList ∨
              ∃ rest, host = '[' :: (name.toList ++ ']' :: rest))) ∧
    (Named headers → isHttps headers = true) := by
  refine ⟨fun h => (isHttps_iff.1 h).imp_right (Or.imp ?_ ?_), isHttps_of_named⟩
  · exact fun ⟨line, hline, hfound⟩ => ⟨line, hline, contains_iff.1 hfound⟩
  · rintro ⟨host, hline, name, hname, hhost⟩
    refine ⟨host, hline, (hostName_eq hhost).imp ?_ fun hbracket => ⟨name, hname, hbracket⟩⟩
    rintro ⟨hcolon, hport⟩
    -- Without brackets there is no `::1`, since a host ends where its port begins.
    refine ⟨name, ?_, hport⟩
    simp only [loopbackNames, List.mem_cons, List.not_mem_nil, or_false] at hname ⊢
    rcases hname with rfl | rfl | rfl
    · exact Or.inl rfl
    · exact Or.inr rfl
    · exact absurd (by decide : ':' ∈ "::1".toList) hcolon

theorem normalized?_of_foreign {name other value : String}
    (h : sameIgnoringCase other name = false) : normalized? [(other, value)] name = none := by
  simp [normalized?, Headers.firstText?, Headers.first?, Headers.values, h]

theorem not_named_of_forwarded {line : String} {l : List Char}
    (hl : normalized? [("forwarded", line)] "forwarded" = some l)
    (h : ("proto".toList, "https".toList) ∉ parameters l) : ¬Named [("forwarded", line)] := by
  rintro (hproto | ⟨l', hl', hpair⟩ | ⟨host, hhost, -⟩)
  · cases (normalized?_of_foreign (by decide)).symm.trans hproto
  · cases hl.symm.trans hl'
    exact h hpair
  · cases (normalized?_of_foreign (by decide)).symm.trans hhost

/-- A loopback host that is not just a name ends in its port. -/
theorem last_of_isLoopbackHost {host : List Char} (h : IsLoopbackHost host) :
    String.ofList host ∈ ["localhost", "127.0.0.1", "[::1]"] ∨
      ∃ c, host.getLast? = some c ∧ (c = ':' ∨ isDigit c = true) := by
  obtain ⟨name, hname, rfl | ⟨port, rfl, hdigits⟩⟩ := h
  · rw [String.ofList_toList]
    exact Or.inl hname
  · have hne : ':' :: port ≠ [] := List.cons_ne_nil _ _
    refine Or.inr ⟨(':' :: port).getLast hne, ?_, ?_⟩
    · rw [List.getLast?_append_of_ne_nil _ hne, List.getLast?_eq_getLast_of_ne_nil hne]
    · exact (List.mem_cons.1 (List.getLast_mem hne)).imp_right (hdigits _)

theorem not_named_of_host {host : String} {l : List Char}
    (hl : normalized? [("host", host)] "host" = some l) (h : ¬IsLoopbackHost l) :
    ¬Named [("host", host)] := by
  rintro (hproto | ⟨line, hline, -⟩ | ⟨l', hl', hhost⟩)
  · cases (normalized?_of_foreign (by decide)).symm.trans hproto
  · cases (normalized?_of_foreign (by decide)).symm.trans hline
  · cases hl.symm.trans hl'
    exact h hhost

/-- Lines and hosts that count as https and are not named by either grammar : another parameter or
value that only begins or ends alike, and another host behind the colon or the brackets. -/
theorem look_alikes_pass :
    (∀ line ∈ ["for=1.2.3.4;xproto=https", "proto=httpsx"],
      isHttps [("forwarded", line)] = true ∧ ¬Named [("forwarded", line)]) ∧
    ∀ host ∈ ["localhost:evil.com", "[::1].evil.com"],
      isHttps [("host", host)] = true ∧ ¬Named [("host", host)] := by
  have hlast {host : List Char} (hname : String.ofList host ∉ ["localhost", "127.0.0.1", "[::1]"])
      (hm : host.getLast? = some 'm') : ¬IsLoopbackHost host := fun h => by
    obtain hmem | ⟨c, hc, hport⟩ := last_of_isLoopbackHost h
    · exact hname hmem
    · cases hm.symm.trans hc
      exact absurd hport (by decide)
  simp only [List.forall_mem_cons, List.not_mem_nil, IsEmpty.forall_iff, implies_true, and_true]
  refine ⟨⟨⟨by decide, ?_⟩, by decide, ?_⟩, ⟨by decide, ?_⟩, by decide, ?_⟩
  · exact not_named_of_forwarded (l := "for=1.2.3.4;xproto=https".toList) rfl (by decide)
  · exact not_named_of_forwarded (l := "proto=httpsx".toList) rfl (by decide)
  · exact not_named_of_host (l := "localhost:evil.com".toList) rfl (hlast (by decide) rfl)
  · exact not_named_of_host (l := "[::1].evil.com".toList) rfl (hlast (by decide) rfl)

end Transport

end SignIn
