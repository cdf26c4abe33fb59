import SignIn.Proofs.Users.Known

/-!
# A user store as a directory

A store answers by what it knows of subjects and of ids, and by nothing else. A known subject keeps
its id and its roles whatever is drawn (`upsert_of_known`) ; a new one has the id drawn for it
(`upsert_of_new`), unless somebody has this id, and then nothing is written (`upsert_of_taken`).
What is found by id afterwards is what was found before, with one profile put in (`profile_upsert`).

This takes more than soundness : nobody is found by id but as the profile of a subject (`Keyed`).

So an upsert looks at its subject and at one id, that of the subject afterwards (`idOf`). Stores of
one kind that agree in these two answer it alike and still agree in them (`upsert_congr`,
`upsert_alike`).
-/

namespace SignIn

namespace UserStore

/-- Whoever is found by id is a subject's profile. -/
def Keyed (s : UserStore) : Prop :=
  ∀ id p, s.profile id = .ok p → ∃ subject, s.known subject = some p

/-- The id that an upsert has for a new subject. -/
def newId : UserStore → Entropy → String → String
  | .memory _, _, subject => UserMemory.userId subject
  | .table _, entropy, _ => Identifier.user (entropy.draw Identifier.userBytes).1

variable {s : UserStore} {d : UserDetails} {p q : Profile} {id subject : String}

theorem profile_empty : ∀ b id, (empty b).profile id = .error .notFound
  | .memory, _ => rfl
  | .sqlite, _ => rfl

theorem known_empty : ∀ b subject, (empty b).known subject = none
  | .memory, _ => rfl
  | .sqlite, _ => rfl

theorem keyed_empty (b : Backend) : (empty b).Keyed := fun id p hp => by
  rw [profile_empty] at hp
  cases hp

/-- Whoever has no profile is not there. -/
theorem eq_notFound_of_profile (h : s.Sound) {e : UserError} (he : s.profile id = .error e) :
    e = .notFound := by
  cases s with
  | memory m =>
    simp only [profile, UserMemory.profile] at he
    split at he <;> cases he
    rfl
  | table t =>
    obtain ⟨rows, isOpen⟩ := t
    obtain ⟨hopen, -, hprofiles⟩ := h
    obtain rfl : isOpen = true := hopen
    rw [profile_table] at he
    cases hr : rows.find? fun r => r.id == id with
    | none =>
      rw [hr] at he
      cases he
      rfl
    | some r =>
      obtain ⟨p, hp⟩ := hprofiles r (List.mem_of_find?_eq_some hr)
      rw [hr, UserTable.found, hp] at he
      cases he

/-- Two subjects have two ids. -/
theorem subject_eq_of_userId_eq (h : s.Sound) {t u : String} (hp : s.known t = some p)
    (hq : s.known u = some q) (hid : p.userId = q.userId) : t = u := by
  cases s with
  | memory m =>
    have ht : p.userId = UserMemory.userId t := h _ p hp
    have hu : q.userId = UserMemory.userId u := h _ q hq
    exact UserMemory.userId_injective (ht.symm.trans (hid.trans hu))
  | table t' =>
    obtain ⟨rows, isOpen⟩ := t'
    obtain ⟨hopen, hids, -⟩ := h
    obtain rfl : isOpen = true := hopen
    obtain ⟨r, hr, hrp⟩ := known_table.1 hp
    obtain ⟨r', hr', hrq⟩ := known_table.1 hq
    have hsame : r = r' := by
      have hkey : r.id = r'.id := by
        rw [← UserRow.id_of_profile hrp, ← UserRow.id_of_profile hrq, hid]
      exact Option.some.inj (((find?_eq_some_iff_of_pairwise hids).2
        ⟨List.mem_of_find?_eq_some hr, hkey⟩).symm.trans ((find?_eq_some_iff_of_pairwise hids).2
        ⟨List.mem_of_find?_eq_some hr', rfl⟩))
    rw [← (UserRow.hasSubject_iff.1 (List.find?_some hr)).2, hsame,
      (UserRow.hasSubject_iff.1 (List.find?_some hr')).2]

/-! ## Answers -/

/-- A known subject keeps its id and its roles. -/
theorem upsert_of_known (h : s.Sound) (hp : s.known d.subject = some p) (entropy : Entropy) :
    (s.upsert entropy d).1 = .ok (p.userId, p.roles) := by
  cases s with
  | memory m =>
    have hget : m.profiles.get? (UserMemory.userId d.subject) = some p := hp
    rw [h _ p hget]
    simp only [upsert, UserMemory.upsert, hget]
  | table t =>
    obtain ⟨rows, isOpen⟩ := t
    obtain rfl : isOpen = true := h.1
    obtain ⟨r, hr, hprofile⟩ := known_table.1 hp
    exact (upsert_table_of_known hr hprofile entropy).1

/-- What is drawn makes no difference for a known subject. -/
theorem store_upsert_of_known (h : s.Sound) (hp : s.known d.subject = some p) (e e' : Entropy) :
    (s.upsert e d).2.1 = (s.upsert e' d).2.1 := by
  cases s with
  | memory m => rfl
  | table t =>
    obtain ⟨rows, isOpen⟩ := t
    obtain rfl : isOpen = true := h.1
    obtain ⟨r, hr, hprofile⟩ := known_table.1 hp
    rw [(upsert_table_of_known hr hprofile e).2, (upsert_table_of_known hr hprofile e').2]

/-- A row has an id exactly if somebody is found by the id. -/
theorem exists_row_iff {rows : List UserRow} (h : (table ⟨rows, true⟩).Sound) :
    (∃ r ∈ rows, r.id = id) ↔ ∃ p, (table ⟨rows, true⟩).profile id = .ok p := by
  rw [profile_table]
  constructor
  · rintro ⟨r, hr, hid⟩
    obtain ⟨p, hp⟩ := h.2.2 r hr
    rw [(find?_eq_some_iff_of_pairwise h.2.1).2 ⟨hr, hid⟩]
    exact ⟨p, hp⟩
  · rintro ⟨p, hp⟩
    cases hr : rows.find? fun r => r.id == id with
    | none =>
      rw [hr] at hp
      cases hp
    | some r => exact ⟨r, (find?_eq_some_iff_of_pairwise h.2.1).1 hr⟩

theorem find?_eq_none_of_known {rows : List UserRow} (h : (table ⟨rows, true⟩).Sound)
    (hs : (table ⟨rows, true⟩).known subject = none) :
    rows.find? (UserRow.hasSubject subject) = none := by
  cases hr : rows.find? (UserRow.hasSubject subject) with
  | none => rfl
  | some r =>
    obtain ⟨p, hp⟩ := h.2.2 r (List.mem_of_find?_eq_some hr)
    rw [known_table.2 ⟨r, hr, hp⟩] at hs
    cases hs

/-- A new subject has the id that is there for it and the role of a new user. -/
theorem upsert_of_new (h : s.Sound) (hd : s.known d.subject = none) {entropy : Entropy}
    (hid : s.profile (s.newId entropy d.subject) = .error .notFound) :
    (s.upsert entropy d).1 = .ok (s.newId entropy d.subject, [defaultRole]) := by
  cases s with
  | memory m =>
    have hget : m.profiles.get? (UserMemory.userId d.subject) = none := hd
    simp only [upsert, UserMemory.upsert, hget, newId]
  | table t =>
    obtain ⟨rows, isOpen⟩ := t
    obtain rfl : isOpen = true := h.1
    refine (upsert_table_of_new (find?_eq_none_of_known h hd) fun r hr heq => ?_).1
    obtain ⟨p, hp⟩ := (exists_row_iff h).1 ⟨r, hr, heq⟩
    rw [newId, hp] at hid
    cases hid

/-- A new subject is refused, if somebody has the id that was drawn for it. -/
theorem upsert_of_taken (h : s.Sound) (hd : s.known d.subject = none) {entropy : Entropy}
    (hid : s.profile (s.newId entropy d.subject) = .ok p) :
    (s.upsert entropy d).1 = .error (.storage (.taken "users.id")) ∧
      (s.upsert entropy d).2.1 = s := by
  cases s with
  | memory m =>
    have hget : m.profiles.get? (UserMemory.userId d.subject) = none := hd
    simp only [profile, UserMemory.profile, newId, hget] at hid
    cases hid
  | table t =>
    obtain ⟨rows, isOpen⟩ := t
    obtain rfl : isOpen = true := h.1
    exact upsert_table_of_taken (find?_eq_none_of_known h hd) ((exists_row_iff h).2 ⟨p, hid⟩)

/-- The three cases of an upsert. -/
theorem upsert_cases (h : s.Sound) (entropy : Entropy) (d : UserDetails) :
    (∃ p, s.known d.subject = some p ∧ (s.upsert entropy d).1 = .ok (p.userId, p.roles)) ∨
    (s.known d.subject = none ∧ s.profile (s.newId entropy d.subject) = .error .notFound ∧
      (s.upsert entropy d).1 = .ok (s.newId entropy d.subject, [defaultRole])) ∨
    (s.known d.subject = none ∧ (∃ p, s.profile (s.newId entropy d.subject) = .ok p) ∧
      (s.upsert entropy d).1 = .error (.storage (.taken "users.id")) ∧
      (s.upsert entropy d).2.1 = s) := by
  cases hd : s.known d.subject with
  | some p => exact Or.inl ⟨p, rfl, upsert_of_known h hd entropy⟩
  | none =>
    cases hid : s.profile (s.newId entropy d.subject) with
    | error e =>
      obtain rfl := eq_notFound_of_profile h hid
      exact Or.inr (Or.inl ⟨rfl, rfl, upsert_of_new h hd hid⟩)
    | ok p => exact Or.inr (Or.inr ⟨rfl, ⟨p, rfl⟩, upsert_of_taken h hd hid⟩)

/-! ## Stores afterwards -/

/-- An upsert that fails has written nothing. -/
theorem store_upsert_of_error (h : s.Sound) {entropy : Entropy} {e : UserError}
    (he : (s.upsert entropy d).1 = .error e) : (s.upsert entropy d).2.1 = s := by
  rcases upsert_cases h entropy d with ⟨p, -, hanswer⟩ | ⟨-, -, hanswer⟩ | ⟨-, -, -, hstore⟩
  · rw [hanswer] at he
    cases he
  · rw [hanswer] at he
    cases he
  · exact hstore

/-- The subject of an upsert is known by what it was given, and every other is known as before. -/
theorem known_upsert (h : s.Sound) {entropy : Entropy} {roles : List String}
    (hu : (s.upsert entropy d).1 = .ok (id, roles)) (subject : String) :
    (s.upsert entropy d).2.1.known subject =
      if subject = d.subject then some ⟨id, d.email, d.displayName, d.avatarUrl, roles⟩
      else s.known subject := by
  have hs := upserted h entropy d
  rw [hu] at hs
  cases hs with
  | written sound same known => exact known subject

theorem known_upsert_of_ne (h : s.Sound) (entropy : Entropy) (hne : subject ≠ d.subject) :
    (s.upsert entropy d).2.1.known subject = s.known subject := by
  cases hu : (s.upsert entropy d).1 with
  | error e => rw [store_upsert_of_error h hu]
  | ok known => rw [known_upsert h hu, if_neg hne]

/-- A row of another id than that of the subject stays as it is. -/
theorem find?_map_rewrite_of_ne {rows : List UserRow} (h : (table ⟨rows, true⟩).Sound)
    (hk : (table ⟨rows, true⟩).Keyed) {r : UserRow}
    (hr : rows.find? (UserRow.hasSubject d.subject) = some r) (hid : id ≠ r.id) :
    (rows.map (UserRow.rewrite d)).find? (fun q => q.id == id) =
      rows.find? fun q => q.id == id := by
  rw [find?_map_of_eq fun q => congrArg (· == id) (UserRow.id_rewrite d q)]
  cases hq : rows.find? fun q => q.id == id with
  | none => rfl
  | some q =>
    have hmem := List.mem_of_find?_eq_some hq
    have hqid : q.id = id := ((find?_eq_some_iff_of_pairwise h.2.1).1 hq).2
    -- the row belongs to a subject, and by its id to no other than it says itself
    obtain ⟨p, hp⟩ := h.2.2 q hmem
    obtain ⟨subject, hs⟩ := hk id p (by rw [profile_table, hq]; exact hp)
    obtain ⟨q', hq', hp'⟩ := known_table.1 hs
    have hsame : q' = q := Option.some.inj (((find?_eq_some_iff_of_pairwise h.2.1).2
      ⟨List.mem_of_find?_eq_some hq', by
        rw [← UserRow.id_of_profile hp', UserRow.id_of_profile hp, hqid]⟩).symm.trans hq)
    subst hsame
    rw [Option.map_some, UserRow.rewrite_of_ne (List.find?_some hq')]
    rintro rfl
    rw [hr] at hq'
    cases hq'
    exact hid hqid.symm

/-- One profile is put in, and the others are found as before. -/
theorem profile_upsert (h : s.Sound) (hk : s.Keyed) {entropy : Entropy} {roles : List String}
    (hu : (s.upsert entropy d).1 = .ok (id, roles)) (i : String) :
    (s.upsert entropy d).2.1.profile i =
      if i = id then .ok ⟨id, d.email, d.displayName, d.avatarUrl, roles⟩ else s.profile i := by
  split_ifs with hi
  · have hsound := (upserted h entropy d).sound h
    have hp := known_upsert h hu d.subject
    rw [if_pos rfl] at hp
    rw [hi]
    exact profile_of_known hsound hp
  · cases s with
    | memory m =>
      cases hu
      simp only [upsert, UserMemory.upsert, profile, UserMemory.profile, Dict.get?_insert,
        if_neg hi]
    | table t =>
      obtain ⟨rows, isOpen⟩ := t
      obtain rfl : isOpen = true := h.1
      cases hr : rows.find? (UserRow.hasSubject d.subject) with
      | some r =>
        obtain ⟨p, hp⟩ := h.2.2 r (List.mem_of_find?_eq_some hr)
        obtain ⟨hanswer, hstore⟩ := upsert_table_of_known hr hp entropy
        rw [hanswer] at hu
        cases hu
        rw [hstore, profile_table, profile_table,
          find?_map_rewrite_of_ne h hk hr (UserRow.id_of_profile hp ▸ hi)]
      | none =>
        by_cases hid : ∃ r ∈ rows, r.id = Identifier.user (entropy.draw Identifier.userBytes).1
        · rw [(upsert_table_of_taken hr hid).1] at hu
          cases hu
        · obtain ⟨hanswer, hstore⟩ := upsert_table_of_new hr fun r hmem heq => hid ⟨r, hmem, heq⟩
          rw [hanswer] at hu
          cases hu
          rw [hstore, profile_table, profile_table, List.find?_append, List.find?_singleton]
          simp [UserRow.fresh, Ne.symm hi]

theorem Keyed.upsert (hk : s.Keyed) (h : s.Sound) (entropy : Entropy) (d : UserDetails) :
    (s.upsert entropy d).2.1.Keyed := by
  intro i p hp
  cases hu : (s.upsert entropy d).1 with
  | error e =>
    rw [store_upsert_of_error h hu] at hp ⊢
    exact hk i p hp
  | ok known =>
    obtain ⟨id, roles⟩ := known
    rw [profile_upsert h hk hu] at hp
    split_ifs at hp with hi
    · cases hp
      exact ⟨d.subject, by rw [known_upsert h hu, if_pos rfl]⟩
    · obtain ⟨subject, hs⟩ := hk i p hp
      refine ⟨subject, ?_⟩
      rw [known_upsert h hu, if_neg, hs]
      -- the subject that is written down has the id of the answer
      rintro rfl
      have hid := upsert_of_known h hs entropy
      rw [hu] at hid
      cases hid
      exact hi (userId_of_profile h hp).symm

/-! ## What an upsert depends on -/

variable {t : UserStore} {entropy : Entropy}

/-- The kind of a store. -/
def backend : UserStore → Backend
  | .memory _ => .memory
  | .table _ => .sqlite

/-- What an upsert leaves of the random bytes. -/
def spare : UserStore → Entropy → Entropy
  | .memory _, entropy => entropy
  | .table _, entropy => (entropy.draw Identifier.userBytes).2

/-- The id that a subject has after an upsert. -/
def idOf (s : UserStore) (entropy : Entropy) (subject : String) : String :=
  ((s.known subject).map (·.userId)).getD (s.newId entropy subject)

theorem backend_upsert (s : UserStore) (entropy : Entropy) (d : UserDetails) :
    (s.upsert entropy d).2.1.backend = s.backend := by
  cases s <;> rfl

/-- Whether an upsert uses up random bytes depends on the kind of store alone. -/
theorem entropy_upsert (s : UserStore) (entropy : Entropy) (d : UserDetails) :
    (s.upsert entropy d).2.2 = s.spare entropy := by
  cases s <;> rfl

theorem newId_congr (h : s.backend = t.backend) (entropy : Entropy) (subject : String) :
    s.newId entropy subject = t.newId entropy subject := by
  cases s <;> cases t <;> first | rfl | cases h

theorem spare_congr (h : s.backend = t.backend) (entropy : Entropy) :
    s.spare entropy = t.spare entropy := by
  cases s <;> cases t <;> first | rfl | cases h

/-- The id that a subject gets depends on what is known of the subject. -/
theorem idOf_congr (h : s.backend = t.backend) {subject : String}
    (hk : s.known subject = t.known subject) (entropy : Entropy) :
    s.idOf entropy subject = t.idOf entropy subject := by
  rw [idOf, idOf, hk, newId_congr h]

/-- It is the id that the upsert answers. -/
theorem idOf_of_upsert (h : s.Sound) {id : String} {roles : List String}
    (hu : (s.upsert entropy d).1 = .ok (id, roles)) : id = s.idOf entropy d.subject := by
  rcases upsert_cases h entropy d with ⟨p, hp, ha⟩ | ⟨hn, -, ha⟩ | ⟨-, -, ha, -⟩
  · rw [hu] at ha
    cases ha
    rw [idOf, hp]
    rfl
  · rw [hu] at ha
    cases ha
    rw [idOf, hn]
    rfl
  · rw [hu] at ha
    cases ha

/-- An upsert is answered by what is known of the subject and found by its id. -/
theorem upsert_congr (hs : s.Sound) (ht : t.Sound) (hb : s.backend = t.backend)
    (hk : s.known d.subject = t.known d.subject)
    (hp : s.profile (s.idOf entropy d.subject) = t.profile (s.idOf entropy d.subject)) :
    (s.upsert entropy d).1 = (t.upsert entropy d).1 := by
  cases hd : s.known d.subject with
  | some p => rw [upsert_of_known hs hd, upsert_of_known ht (hk ▸ hd)]
  | none =>
    have hid : s.idOf entropy d.subject = s.newId entropy d.subject := by rw [idOf, hd]; rfl
    rw [hid] at hp
    cases hfound : s.profile (s.newId entropy d.subject) with
    | error e =>
      obtain rfl := eq_notFound_of_profile hs hfound
      rw [upsert_of_new hs hd hfound, upsert_of_new ht (hk ▸ hd) (newId_congr hb _ _ ▸ hp ▸ hfound),
        newId_congr hb]
    | ok p =>
      rw [(upsert_of_taken hs hd hfound).1,
        (upsert_of_taken ht (hk ▸ hd) (newId_congr hb _ _ ▸ hp ▸ hfound)).1]

/-- What an upsert leaves of the subject and of its id is given by what was there. -/
theorem upsert_alike (hs : s.Sound) (ht : t.Sound) (hks : s.Keyed) (hkt : t.Keyed)
    (hb : s.backend = t.backend) (hk : s.known d.subject = t.known d.subject)
    (hp : s.profile (s.idOf entropy d.subject) = t.profile (s.idOf entropy d.subject)) :
    (s.upsert entropy d).2.1.known d.subject = (t.upsert entropy d).2.1.known d.subject ∧
      (s.upsert entropy d).2.1.profile (s.idOf entropy d.subject) =
        (t.upsert entropy d).2.1.profile (s.idOf entropy d.subject) := by
  have hsame := upsert_congr hs ht hb hk hp
  cases hu : (s.upsert entropy d).1 with
  | error e =>
    rw [store_upsert_of_error hs hu, store_upsert_of_error ht (hsame ▸ hu)]
    exact ⟨hk, hp⟩
  | ok known =>
    obtain ⟨id, roles⟩ := known
    obtain rfl := idOf_of_upsert hs hu
    have hv := hsame ▸ hu
    rw [known_upsert hs hu, known_upsert ht hv, profile_upsert hs hks hu, profile_upsert ht hkt hv,
      if_pos rfl, if_pos rfl, if_pos rfl, if_pos rfl]
    exact ⟨rfl, rfl⟩

end UserStore

end SignIn
