import SignIn.Proofs.Refresh.Records
import SignIn.Users.Store

/-!
# What a user store knows

Either kind of store is described by the profile that it knows of each subject (`UserStore.known`).
In memory it stands under the id of the subject ; in a table it is that of the row of the subject,
where an empty name is no value and the roles are the text of a list.

`Upserted` says what it is to write a user down : the subject is known by the new details from then
on, with the id and the roles it had, and no other subject is touched (`upserted`). Whoever is known
is found by id as well (`profile_of_known`).
-/

namespace SignIn

/-! ## Rows -/

namespace UserRow

variable {r : UserRow} {p : Profile}

theorem roles?_defaultRoles : roles? defaultRoles = some [defaultRole] := by decide +kernel

theorem getD_optional (s : String) : (optional s).getD "" = s := by
  unfold optional
  split_ifs with h
  · exact h.symm
  · rfl

/-- The row of a new user reads as the profile that was asked for. -/
theorem profile_fresh (id : String) (d : UserDetails) :
    (fresh id d).profile = .ok ⟨id, d.email, d.displayName, d.avatarUrl, [defaultRole]⟩ := by
  simp only [profile, fresh, roles?_defaultRoles, getD_optional]

/-- The details change, the id and the roles do not. -/
theorem profile_update (h : r.profile = .ok p) (d : UserDetails) :
    (r.update d).profile = .ok ⟨p.userId, d.email, d.displayName, d.avatarUrl, p.roles⟩ := by
  unfold profile at h
  split at h
  · rename_i roles hroles
    cases h
    simp only [profile, update, hroles, getD_optional]
  · cases h

theorem id_of_profile (h : r.profile = .ok p) : p.userId = r.id := by
  unfold profile at h
  split at h
  · cases h
    rfl
  · cases h

/-- A row is found by the subject under the name of the one provider. -/
theorem hasSubject_iff {subject : String} :
    hasSubject subject r = true ↔ r.provider = providerName ∧ r.subject = subject := by
  simp [hasSubject]

/-- The row, with other details if it is that of the subject. -/
def rewrite (d : UserDetails) (r : UserRow) : UserRow :=
  if hasSubject d.subject r then r.update d else r

theorem id_rewrite (d : UserDetails) (r : UserRow) : (r.rewrite d).id = r.id := by
  unfold rewrite
  split_ifs <;> rfl

theorem hasSubject_rewrite (d : UserDetails) (subject : String) (r : UserRow) :
    hasSubject subject (r.rewrite d) = hasSubject subject r := by
  unfold rewrite
  split_ifs <;> rfl

/-- A row of another subject stays as it is. -/
theorem rewrite_of_ne {d : UserDetails} {subject : String} (h : hasSubject subject r = true)
    (hne : subject ≠ d.subject) : r.rewrite d = r :=
  if_neg fun hd => hne ((hasSubject_iff.1 h).2.symm.trans (hasSubject_iff.1 hd).2)

end UserRow

/-! ## Stores -/

/-- In memory different subjects have different ids. -/
theorem UserMemory.userId_injective {s t : String} (h : userId s = userId t) : s = t := by
  have hlist := congrArg String.toList h
  simp only [userId, String.toList_append] at hlist
  exact String.toList_injective (List.append_cancel_left hlist)

namespace UserStore

/-- What the store knows of a subject. -/
def known : UserStore → String → Option Profile
  | .memory m, subject => m.profiles.get? (UserMemory.userId subject)
  | .table t, subject =>
    (t.rows.find? (UserRow.hasSubject subject)).bind fun r => r.profile.toOption

/-- Every profile can be reached : in memory it stands under its own id, and in a table, which is
open, no two rows have the same id and every row has a list of roles. -/
def Sound : UserStore → Prop
  | .memory m => ∀ id p, m.profiles.get? id = some p → p.userId = id
  | .table t => t.isOpen = true ∧ t.rows.Pairwise (fun q r => q.id ≠ r.id) ∧
    ∀ r ∈ t.rows, ∃ p, r.profile = .ok p

/-- All that writing a user down can do to a store. -/
inductive Upserted (s : UserStore) (d : UserDetails) :
    Except UserError (String × List String) → UserStore → Prop
  | written {id roles s'} (sound : s'.Sound)
    (same : ∀ p, s.known d.subject = some p → p.userId = id ∧ p.roles = roles)
    (known : ∀ subject, s'.known subject =
      if subject = d.subject then some ⟨id, d.email, d.displayName, d.avatarUrl, roles⟩
      else s.known subject) :
    Upserted s d (.ok (id, roles)) s'
  /-- The id that was drawn for a new user is in use. -/
  | refused {e} (new : s.known d.subject = none) : Upserted s d (.error e) s

theorem sound_empty : ∀ b, (empty b).Sound
  | .memory => fun _ _ h => nomatch h
  | .sqlite => ⟨rfl, List.Pairwise.nil, fun _ h => absurd h List.not_mem_nil⟩

variable {s s' : UserStore} {d : UserDetails} {answer : Except UserError (String × List String)}

/-- An upsert leaves a sound store sound. -/
theorem Upserted.sound (h : s.Sound) (hu : s.Upserted d answer s') : s'.Sound := by
  cases hu with
  | written sound same known => exact sound
  | refused new => exact h

/-- In memory an upsert does what is said of it. -/
theorem upserted_memory {m : UserMemory} (h : (memory m).Sound) (d : UserDetails) :
    (memory m).Upserted d (.ok (m.upsert d).1) (.memory (m.upsert d).2) := by
  refine .written (fun id p hp => ?_) (fun p hp => ?_) fun subject => ?_
  · simp only [UserMemory.upsert, Dict.get?_insert] at hp
    split_ifs at hp with hid
    · cases hp
      exact hid.symm
    · exact h id p hp
  · have hget : m.profiles.get? (UserMemory.userId d.subject) = some p := hp
    rw [hget]
    exact ⟨h _ p hget, rfl⟩
  · simp only [known, UserMemory.upsert, Dict.get?_insert]
    by_cases hs : subject = d.subject
    · rw [if_pos hs, if_pos (congrArg UserMemory.userId hs)]
    · rw [if_neg hs, if_neg fun he => hs (UserMemory.userId_injective he)]

/-- A test that a change does not touch finds the changed element. -/
theorem find?_map_of_eq {α : Type} {f : α → Bool} {g : α → α} (h : ∀ a, f (g a) = f a)
    (l : List α) : (l.map g).find? f = (l.find? f).map g := by
  rw [List.find?_map]
  congr 2
  exact funext h

theorem find?_map_rewrite (rows : List UserRow) (d : UserDetails) (subject : String) :
    (rows.map (UserRow.rewrite d)).find? (UserRow.hasSubject subject) =
      (rows.find? (UserRow.hasSubject subject)).map (UserRow.rewrite d) :=
  find?_map_of_eq (UserRow.hasSubject_rewrite d subject) rows

/-- The row of a known subject is rewritten. -/
theorem upserted_table_of_known {rows : List UserRow} (h : (table ⟨rows, true⟩).Sound)
    {d : UserDetails} {r : UserRow} (hr : rows.find? (UserRow.hasSubject d.subject) = some r) :
    ∃ p, r.profile = .ok p ∧ (table ⟨rows, true⟩).Upserted d (.ok (p.userId, p.roles))
      (.table ⟨rows.map (UserRow.rewrite d), true⟩) := by
  obtain ⟨-, hids, hprofiles⟩ := h
  obtain ⟨p, hp⟩ := hprofiles r (List.mem_of_find?_eq_some hr)
  have hsubject : UserRow.hasSubject d.subject r = true := List.find?_some hr
  refine ⟨p, hp, .written ⟨rfl, ?_, ?_⟩ (fun q hq => ?_) fun subject => ?_⟩
  · refine List.pairwise_map.2 (hids.imp fun hne => ?_)
    rwa [UserRow.id_rewrite, UserRow.id_rewrite]
  · intro r' hr'
    obtain ⟨q, hq, rfl⟩ := List.mem_map.1 hr'
    obtain ⟨p', hp'⟩ := hprofiles q hq
    unfold UserRow.rewrite
    split_ifs
    · exact ⟨_, UserRow.profile_update hp' d⟩
    · exact ⟨p', hp'⟩
  · simp only [known, hr, Option.bind_some, hp, Except.toOption, Option.some.injEq] at hq
    subst hq
    exact ⟨rfl, rfl⟩
  · simp only [known, find?_map_rewrite]
    split_ifs with hs
    · rw [hs, hr, Option.map_some, Option.bind_some, UserRow.rewrite, if_pos hsubject,
        UserRow.profile_update hp]
      rfl
    · cases hf : rows.find? (UserRow.hasSubject subject) with
      | none => rfl
      | some q =>
        rw [Option.map_some, UserRow.rewrite_of_ne (List.find?_some hf) hs]

/-- A new row is put behind the others, if its id is free. -/
theorem upserted_table_of_new {rows : List UserRow} (h : (table ⟨rows, true⟩).Sound)
    {d : UserDetails} (hr : rows.find? (UserRow.hasSubject d.subject) = none) {id : String}
    (hid : ∀ r ∈ rows, r.id ≠ id) :
    (table ⟨rows, true⟩).Upserted d (.ok (id, [defaultRole]))
      (.table ⟨rows ++ [UserRow.fresh id d], true⟩) := by
  obtain ⟨-, hids, hprofiles⟩ := h
  refine .written ⟨rfl, ?_, ?_⟩ (fun q hq => ?_) fun subject => ?_
  · refine List.pairwise_append.2 ⟨hids, List.pairwise_singleton _ _, fun q hq r hr => ?_⟩
    rw [List.mem_singleton.1 hr]
    exact hid q hq
  · intro r hr
    rcases List.mem_append.1 hr with hr | hr
    · exact hprofiles r hr
    · rw [List.mem_singleton.1 hr]
      exact ⟨_, UserRow.profile_fresh id d⟩
  · simp only [known, hr, Option.bind_none] at hq
    cases hq
  · have hfresh :
        UserRow.hasSubject subject (UserRow.fresh id d) = decide (d.subject = subject) := by
      simp [UserRow.hasSubject, UserRow.fresh, beq_eq_decide]
    simp only [known, List.find?_append]
    split_ifs with hs
    · subst hs
      rw [hr, Option.none_or, List.find?_singleton, hfresh]
      simp [UserRow.profile_fresh, Except.toOption]
    · rw [List.find?_singleton, hfresh]
      simp [Ne.symm hs]

/-! The statements on an open table. -/

/-- The row of a known subject is rewritten, and the candidate id is not looked at. -/
theorem execute_upsert_of_known {rows : List UserRow} {d : UserDetails} {r : UserRow}
    (hr : rows.find? (UserRow.hasSubject d.subject) = some r) (candidate : String) :
    UserTable.execute (.upsert candidate d) ⟨rows, true⟩ =
      (.ok (), ⟨rows.map (UserRow.rewrite d), true⟩) := by
  have hany : rows.any (UserRow.hasSubject d.subject) = true :=
    List.any_eq_true.2 ⟨r, List.mem_of_find?_eq_some hr, List.find?_some hr⟩
  simp only [UserTable.execute, Table.onOpen, hany, if_true]
  rfl

/-- A new subject has its row added, unless the candidate id is taken. -/
theorem execute_upsert_of_new {rows : List UserRow} {d : UserDetails}
    (hr : rows.find? (UserRow.hasSubject d.subject) = none) (candidate : String) :
    UserTable.execute (.upsert candidate d) ⟨rows, true⟩ =
      if rows.any fun r => r.id == candidate then (.error (.taken "users.id"), ⟨rows, true⟩)
      else (.ok (), ⟨rows ++ [UserRow.fresh candidate d], true⟩) := by
  have hany : rows.any (UserRow.hasSubject d.subject) = false :=
    List.any_eq_false.2 fun r hmem => by simpa using List.find?_eq_none.1 hr r hmem
  simp only [UserTable.execute, Table.onOpen, hany, if_true, Bool.false_eq_true, if_false]
  split_ifs <;> rfl

theorem execute_selectBySubject (rows : List UserRow) (subject : String) :
    UserTable.execute (.selectBySubject subject) ⟨rows, true⟩ =
      (.ok (rows.find? (UserRow.hasSubject subject)), ⟨rows, true⟩) := rfl

/-! Writing a user down in an open table. -/

/-- A known subject keeps its id and its roles. -/
theorem upsert_table_of_known {rows : List UserRow} {d : UserDetails} {r : UserRow} {p : Profile}
    (hr : rows.find? (UserRow.hasSubject d.subject) = some r) (hp : r.profile = .ok p)
    (entropy : Entropy) :
    ((table ⟨rows, true⟩).upsert entropy d).1 = .ok (p.userId, p.roles) ∧
      ((table ⟨rows, true⟩).upsert entropy d).2.1 =
        .table ⟨rows.map (UserRow.rewrite d), true⟩ := by
  have hfound := find?_map_rewrite rows d d.subject
  rw [hr, Option.map_some, UserRow.rewrite, if_pos (List.find?_some hr)] at hfound
  simp only [upsert, UserTable.upsert, Script.run, execute_upsert_of_known hr,
    execute_selectBySubject, hfound, UserTable.found, UserRow.profile_update hp, Except.map,
    and_self]

/-- A new subject whose candidate id is taken is refused, and nothing is written. -/
theorem upsert_table_of_taken {rows : List UserRow} {d : UserDetails}
    (hr : rows.find? (UserRow.hasSubject d.subject) = none) {entropy : Entropy}
    (hid : ∃ r ∈ rows, r.id = Identifier.user (entropy.draw Identifier.userBytes).1) :
    ((table ⟨rows, true⟩).upsert entropy d).1 = .error (.storage (.taken "users.id")) ∧
      ((table ⟨rows, true⟩).upsert entropy d).2.1 = .table ⟨rows, true⟩ := by
  have hany :
      (rows.any fun r => r.id == Identifier.user (entropy.draw Identifier.userBytes).1) = true := by
    simpa using hid
  simp only [upsert, UserTable.upsert, Script.run, execute_upsert_of_new hr, if_pos hany, and_true]

/-- A new subject gets the candidate id and the role of everybody. -/
theorem upsert_table_of_new {rows : List UserRow} {d : UserDetails}
    (hr : rows.find? (UserRow.hasSubject d.subject) = none) {entropy : Entropy}
    (hid : ∀ r ∈ rows, r.id ≠ Identifier.user (entropy.draw Identifier.userBytes).1) :
    let id := Identifier.user (entropy.draw Identifier.userBytes).1
    ((table ⟨rows, true⟩).upsert entropy d).1 = .ok (id, [defaultRole]) ∧
      ((table ⟨rows, true⟩).upsert entropy d).2.1 =
        .table ⟨rows ++ [UserRow.fresh id d], true⟩ := by
  intro id
  have hany : ¬(rows.any fun r => r.id == id) = true := by simpa using hid
  have hself : UserRow.hasSubject d.subject (UserRow.fresh id d) = true := by
    simp [UserRow.hasSubject, UserRow.fresh]
  simp only [upsert, UserTable.upsert, Script.run, execute_upsert_of_new hr]
  simp only [show Identifier.user (entropy.draw Identifier.userBytes).1 = id from rfl, if_neg hany,
    Script.run, execute_selectBySubject, List.find?_append, hr, Option.none_or,
    List.find?_singleton, hself, if_true, UserTable.found, UserRow.profile_fresh, Except.map,
    and_self]

/-- Writing a user down touches no other subject. -/
theorem upserted (h : s.Sound) (entropy : Entropy) (d : UserDetails) :
    s.Upserted d (s.upsert entropy d).1 (s.upsert entropy d).2.1 := by
  cases s with
  | memory m => exact upserted_memory h d
  | table t =>
    obtain ⟨rows, isOpen⟩ := t
    obtain rfl : isOpen = true := h.1
    cases hr : rows.find? (UserRow.hasSubject d.subject) with
    | some r =>
      obtain ⟨p, hp, hu⟩ := upserted_table_of_known h hr
      obtain ⟨hanswer, hstore⟩ := upsert_table_of_known hr hp entropy
      rwa [hanswer, hstore]
    | none =>
      by_cases hid : ∃ r ∈ rows, r.id = Identifier.user (entropy.draw Identifier.userBytes).1
      · obtain ⟨hanswer, hstore⟩ := upsert_table_of_taken hr hid
        rw [hanswer, hstore]
        exact .refused (by simp only [known, hr, Option.bind_none])
      · have hfree : ∀ r ∈ rows, r.id ≠ Identifier.user (entropy.draw Identifier.userBytes).1 :=
          fun r hmem heq => hid ⟨r, hmem, heq⟩
        obtain ⟨hanswer, hstore⟩ := upsert_table_of_new hr hfree
        rw [hanswer, hstore]
        exact upserted_table_of_new h hr hfree

/-- Whoever is written down keeps the id that was known, or has the id of the subject or one that
was drawn. -/
theorem userId_of_upsert (h : s.Sound) {entropy : Entropy} {d : UserDetails} {id : String}
    {roles : List String} (hu : (s.upsert entropy d).1 = .ok (id, roles)) :
    (∃ p, s.known d.subject = some p ∧ p.userId = id) ∨ id = UserMemory.userId d.subject ∨
      ∃ bytes, id = Identifier.user bytes := by
  cases s with
  | memory m =>
    cases hu
    exact Or.inr (Or.inl rfl)
  | table t =>
    obtain ⟨rows, isOpen⟩ := t
    obtain rfl : isOpen = true := h.1
    cases hr : rows.find? (UserRow.hasSubject d.subject) with
    | some r =>
      obtain ⟨p, hp, -⟩ := upserted_table_of_known h hr
      rw [(upsert_table_of_known hr hp entropy).1] at hu
      cases hu
      exact Or.inl ⟨p, by simp only [known, hr, Option.bind_some, hp, Except.toOption], rfl⟩
    | none =>
      by_cases hid : ∃ r ∈ rows, r.id = Identifier.user (entropy.draw Identifier.userBytes).1
      · rw [(upsert_table_of_taken hr hid).1] at hu
        cases hu
      · rw [(upsert_table_of_new hr fun r hmem heq => hid ⟨r, hmem, heq⟩).1] at hu
        cases hu
        exact Or.inr (Or.inr ⟨_, rfl⟩)

theorem profile_table (rows : List UserRow) (id : String) :
    (table ⟨rows, true⟩).profile id =
      UserTable.found .notFound (.ok (rows.find? fun r => r.id == id)) := rfl

/-- A subject is known in a table by the profile of its row. -/
theorem known_table {rows : List UserRow} {subject : String} {p : Profile} :
    (table ⟨rows, true⟩).known subject = some p ↔
      ∃ r, rows.find? (UserRow.hasSubject subject) = some r ∧ r.profile = .ok p := by
  have hsome : ∀ r : UserRow, r.profile.toOption = some p ↔ r.profile = .ok p := fun r => by
    cases r.profile <;> simp [Except.toOption]
  simp only [known, Option.bind_eq_some_iff, hsome]

/-- Whoever is known is found by id. -/
theorem profile_of_known (h : s.Sound) {subject : String} {p : Profile}
    (hp : s.known subject = some p) : s.profile p.userId = .ok p := by
  cases s with
  | memory m =>
    have hget : m.profiles.get? (UserMemory.userId subject) = some p := hp
    rw [profile, UserMemory.profile, h _ p hget, hget]
  | table t =>
    obtain ⟨rows, isOpen⟩ := t
    obtain ⟨hopen, hids, -⟩ := h
    obtain rfl : isOpen = true := hopen
    obtain ⟨r, hr, hprofile⟩ := known_table.1 hp
    have hselect : rows.find? (fun q => q.id == p.userId) = some r :=
      (find?_eq_some_iff_of_pairwise hids).2
        ⟨List.mem_of_find?_eq_some hr, (UserRow.id_of_profile hprofile).symm⟩
    rw [profile_table, hselect, UserTable.found, hprofile]

/-- The profile of an id has this id. -/
theorem userId_of_profile (h : s.Sound) {id : String} {p : Profile} (hp : s.profile id = .ok p) :
    p.userId = id := by
  cases s with
  | memory m =>
    simp only [profile, UserMemory.profile] at hp
    split at hp
    · rename_i q hq
      cases hp
      exact h id p hq
    · cases hp
  | table t =>
    obtain ⟨rows, isOpen⟩ := t
    obtain rfl : isOpen = true := h.1
    rw [profile_table] at hp
    cases hr : rows.find? fun q => q.id == id with
    | none =>
      rw [hr] at hp
      cases hp
    | some r =>
      rw [hr] at hp
      have hid : r.id = id := by simpa using List.find?_some hr
      rw [← hid]
      exact UserRow.id_of_profile hp

end UserStore

end SignIn
