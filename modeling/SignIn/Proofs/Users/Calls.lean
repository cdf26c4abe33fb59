import Mathlib.Data.List.Induction
import SignIn.Proofs.Users.Directory

/-!
# Runs of a user store

A history is what the calls on a store were answered, the latest first. It says which ids were given
to a subject (`Gives`), what the subject's latest details are (`latest`) and which roles an id has
(`roles`). `UserStore.Directory` is the contract of a store after a history : all its answers are
determined by these three.

Behind it stands one invariant (`Kept`) : what is known of a subject is its latest details under the
id it was given. Every call keeps it (`Kept.serve`), hence every run.

The roles of a user are no business of the calls themselves. They are set from outside, in the
column of a table (`setRoles`), and stay there.
-/

namespace SignIn

/-- A text that lists roles. -/
structure RolesText where
  text : String
  roles : List String
  reads : UserRow.roles? text = some roles

/-- What is asked of a user store, and the change of a role from outside. -/
inductive UserCall where
  | upsert (entropy : Entropy) (details : UserDetails)
  | profile (id : String)
  | setRoles (id : String) (roles : RolesText)

/-- A call with its answer. -/
inductive UserEvent where
  | upserted (details : UserDetails) (answer : Except UserError (String × List String))
  | looked (id : String) (answer : Except UserError Profile)
  /-- The answer is the number of rows changed. -/
  | rolesSet (id : String) (roles : List String) (rows : Nat)

/-! ## Histories -/

/-- What the calls on a store were answered, the latest first. -/
abbrev UserHistory := List UserEvent

namespace UserHistory

/-- The subject was given the id. -/
def Gives (h : UserHistory) (subject id : String) : Prop :=
  ∃ d roles, d.subject = subject ∧ UserEvent.upserted d (.ok (id, roles)) ∈ h

/-- The details of the latest upsert of a subject that succeeded. -/
def latest : UserHistory → String → Option UserDetails
  | [], _ => none
  | .upserted d (.ok _) :: h, subject => if d.subject = subject then some d else latest h subject
  | _ :: h, subject => latest h subject

/-- The roles of an id, those of a new user unless others were set. -/
def roles : UserHistory → String → List String
  | [], _ => [defaultRole]
  | .rolesSet id' roles' rows :: h, id => if id' = id ∧ 0 < rows then roles' else roles h id
  | _ :: h, id => roles h id

variable {h : UserHistory} {d : UserDetails} {subject id id' : String} {rs : List String} {n : Nat}

/-- Who was written down last has this id, and what was given before is given still. -/
theorem gives_upserted : Gives (.upserted d (.ok (id', rs)) :: h) subject id ↔
    (subject = d.subject ∧ id = id') ∨ Gives h subject id := by
  unfold Gives
  constructor
  · rintro ⟨d', roles', hs, hmem⟩
    rcases List.mem_cons.1 hmem with heq | hmem
    · cases heq
      exact Or.inl ⟨hs.symm, rfl⟩
    · exact Or.inr ⟨d', roles', hs, hmem⟩
  · rintro (⟨rfl, rfl⟩ | ⟨d', roles', hs, hmem⟩)
    · exact ⟨d, rs, rfl, List.mem_cons_self⟩
    · exact ⟨d', roles', hs, List.mem_cons_of_mem _ hmem⟩

/-- An event that gives no id. -/
theorem gives_cons {e : UserEvent} (he : ∀ d known, e ≠ .upserted d (.ok known)) :
    Gives (e :: h) subject id ↔ Gives h subject id := by
  unfold Gives
  constructor
  · rintro ⟨d', roles', hs, hmem⟩
    rcases List.mem_cons.1 hmem with heq | hmem
    · exact absurd heq.symm (he d' _)
    · exact ⟨d', roles', hs, hmem⟩
  · rintro ⟨d', roles', hs, hmem⟩
    exact ⟨d', roles', hs, List.mem_cons_of_mem _ hmem⟩

theorem latest_cons {e : UserEvent} (he : ∀ d known, e ≠ .upserted d (.ok known))
    (subject : String) : latest (e :: h) subject = latest h subject := by
  cases e with
  | upserted d answer =>
    cases answer with
    | error e => rfl
    | ok known => exact absurd rfl (he d known)
  | looked i answer => rfl
  | rolesSet i rs n => rfl

theorem roles_upserted (answer : Except UserError (String × List String)) (id : String) :
    roles (.upserted d answer :: h) id = roles h id := rfl

/-- An event that sets no roles. -/
theorem roles_cons {e : UserEvent} (he : ∀ i rs n, e = .rolesSet i rs n → n = 0) (id : String) :
    roles (e :: h) id = roles h id := by
  cases e with
  | upserted d answer => rfl
  | looked i answer => rfl
  | rolesSet i rs n => rw [roles, if_neg fun hc => Nat.pos_iff_ne_zero.1 hc.2 (he i rs n rfl)]

/-- Without a change from outside all roles are those of a new user. -/
theorem roles_eq_default (hh : ∀ i rs n, UserEvent.rolesSet i rs n ∈ h → ¬(i = id ∧ 0 < n)) :
    roles h id = [defaultRole] := by
  induction h with
  | nil => rfl
  | cons e h ih =>
    have ih := ih fun i rs n hmem => hh i rs n (List.mem_cons_of_mem _ hmem)
    cases e with
    | upserted d answer => exact ih
    | looked i answer => exact ih
    | rolesSet i rs n => rw [roles, if_neg (hh i rs n List.mem_cons_self), ih]

end UserHistory

namespace UserStore

open UserHistory

/-! ## Roles -/

/-- Writes the text of the roles of a user id, which only a table has ; the number of rows
changed. -/
def setRoles : UserStore → String → String → Nat × UserStore
  | .memory m, _, _ => (0, .memory m)
  | .table t, id, text =>
    ((UserTable.setRoles t id text).1.toOption.getD 0, .table (UserTable.setRoles t id text).2)

/-- The profile, with other roles if it has the id. -/
def assign (id : String) (roles : List String) (p : Profile) : Profile :=
  if p.userId = id then { p with roles := roles } else p

/-- The row, with another text if it has the id. -/
def assignRow (id text : String) (r : UserRow) : UserRow :=
  if r.id == id then { r with roles := text } else r

variable {s : UserStore} {h : UserHistory} {id subject : String}

theorem userId_assign (id : String) (roles : List String) (p : Profile) :
    (assign id roles p).userId = p.userId := by
  unfold assign
  split_ifs <;> rfl

theorem id_assignRow (id text : String) (r : UserRow) : (assignRow id text r).id = r.id := by
  unfold assignRow
  split_ifs <;> rfl

theorem hasSubject_assignRow (id text subject : String) (r : UserRow) :
    UserRow.hasSubject subject (assignRow id text r) = UserRow.hasSubject subject r := by
  unfold assignRow
  split_ifs <;> rfl

/-- The text of the roles is read back as the roles that it stands for. -/
theorem profile_assignRow {r : UserRow} {p : Profile} (hp : r.profile = .ok p) (id : String)
    (roles : RolesText) : (assignRow id roles.text r).profile = .ok (assign id roles.roles p) := by
  have hid := UserRow.id_of_profile hp
  unfold assignRow assign
  by_cases hr : r.id = id
  · rw [if_pos (by simpa using hr), if_pos (hid.trans hr)]
    unfold UserRow.profile at hp
    split at hp
    · cases hp
      simp only [UserRow.profile, roles.reads]
    · cases hp
  · rw [if_neg (by simpa using hr), if_neg (hid ▸ hr), hp]

theorem setRoles_table (rows : List UserRow) (id text : String) :
    (table ⟨rows, true⟩).setRoles id text =
      ((rows.filter fun r => r.id == id).length, table ⟨rows.map (assignRow id text), true⟩) := rfl

/-- In a table a row is changed exactly if somebody is found by the id. -/
theorem setRoles_pos_iff {t : Table UserRow} (hs : (table t).Sound) (id text : String) :
    0 < ((table t).setRoles id text).1 ↔ ∃ p, (table t).profile id = .ok p := by
  obtain ⟨rows, isOpen⟩ := t
  obtain rfl : isOpen = true := hs.1
  rw [setRoles_table, ← exists_row_iff hs, List.length_pos_iff_exists_mem]
  simp only [List.mem_filter, beq_iff_eq]

/-- What is known and found after the roles of an id were set. -/
structure RolesSet (s : UserStore) (id : String) (roles : List String) (s' : UserStore) : Prop where
  sound : s'.Sound
  known : ∀ subject, s'.known subject = (s.known subject).map (assign id roles)
  profile : ∀ i, s'.profile i = (s.profile i).map (assign id roles)

/-- Writing roles into a table changes them for one user and for nobody else. -/
theorem rolesSet_table {t : Table UserRow} (hs : (table t).Sound) (id : String)
    (roles : RolesText) :
    (table t).RolesSet id roles.roles ((table t).setRoles id roles.text).2 := by
  obtain ⟨rows, isOpen⟩ := t
  obtain ⟨hopen, hids, hprofiles⟩ := hs
  obtain rfl : isOpen = true := hopen
  rw [setRoles_table]
  refine ⟨⟨rfl, List.pairwise_map.2 (hids.imp fun hne => ?_), fun r' hr' => ?_⟩, fun subject => ?_,
    fun i => ?_⟩
  · rwa [id_assignRow, id_assignRow]
  · obtain ⟨r, hr, rfl⟩ := List.mem_map.1 hr'
    obtain ⟨p, hp⟩ := hprofiles r hr
    exact ⟨_, profile_assignRow hp id roles⟩
  · simp only [known, find?_map_of_eq (hasSubject_assignRow id roles.text subject)]
    cases hr : rows.find? (UserRow.hasSubject subject) with
    | none => rfl
    | some r =>
      obtain ⟨p, hp⟩ := hprofiles r (List.mem_of_find?_eq_some hr)
      simp [hp, profile_assignRow hp id roles, Except.toOption]
  · rw [profile_table, profile_table,
      find?_map_of_eq fun r => congrArg (· == i) (id_assignRow id roles.text r)]
    cases hr : rows.find? fun r => r.id == i with
    | none => rfl
    | some r =>
      obtain ⟨p, hp⟩ := hprofiles r (List.mem_of_find?_eq_some hr)
      simp [UserTable.found, hp, profile_assignRow hp id roles, Except.map]

theorem RolesSet.keyed {s' : UserStore} {roles : List String} (h : s.RolesSet id roles s')
    (hk : s.Keyed) : s'.Keyed := by
  intro i p hp
  rw [h.profile] at hp
  cases hq : s.profile i with
  | error e =>
    rw [hq] at hp
    cases hp
  | ok q =>
    rw [hq] at hp
    cases hp
    obtain ⟨subject, hs⟩ := hk i q hq
    exact ⟨subject, by rw [h.known, hs]; rfl⟩

theorem sound_setRoles (h : s.Sound) (hk : s.Keyed) (id : String) (roles : RolesText) :
    (s.setRoles id roles.text).2.Sound ∧ (s.setRoles id roles.text).2.Keyed := by
  cases s with
  | memory m => exact ⟨h, hk⟩
  | table t =>
    have hset := rolesSet_table h id roles
    exact ⟨hset.sound, hset.keyed hk⟩

/-! ## Runs -/

/-- Serves one call. -/
def serve (s : UserStore) : UserCall → UserEvent × UserStore
  | .upsert entropy d => (.upserted d (s.upsert entropy d).1, (s.upsert entropy d).2.1)
  | .profile id => (.looked id (s.profile id), s)
  | .setRoles id roles =>
    (.rolesSet id roles.roles (s.setRoles id roles.text).1, (s.setRoles id roles.text).2)

/-- Serves calls one after the other, from a store without users. -/
def run (b : Backend) (calls : List UserCall) : UserHistory × UserStore :=
  calls.foldl (fun run c => ((run.2.serve c).1 :: run.1, (run.2.serve c).2)) ([], empty b)

/-- The last call of a run comes to the store that the others have left. -/
theorem run_append_singleton (b : Backend) (calls : List UserCall) (c : UserCall) :
    run b (calls ++ [c]) =
      (((run b calls).2.serve c).1 :: (run b calls).1, ((run b calls).2.serve c).2) := by
  simp only [run, List.foldl_append, List.foldl_cons, List.foldl_nil]

/-- What is known of a subject is its latest details, under the id it was given. -/
structure Kept (h : UserHistory) (s : UserStore) : Prop where
  sound : s.Sound
  keyed : s.Keyed
  given : ∀ {subject id}, h.Gives subject id → ∃ d, h.latest subject = some d ∧
    s.known subject = some ⟨id, d.email, d.displayName, d.avatarUrl, h.roles id⟩
  gives : ∀ {subject p}, s.known subject = some p → h.Gives subject p.userId
  /-- Roles were set of those only who were there. -/
  set : ∀ {id roles n}, UserEvent.rolesSet id roles n ∈ h → 0 < n → ∃ p, s.profile id = .ok p

namespace Kept

theorem start (b : Backend) : Kept [] (empty b) where
  sound := sound_empty b
  keyed := keyed_empty b
  given := fun ⟨_, _, _, hmem⟩ => absurd hmem List.not_mem_nil
  gives := fun hp => by
    rw [known_empty] at hp
    cases hp
  set := fun hmem => absurd hmem List.not_mem_nil

variable {d : UserDetails} {roles : List String}

/-- The profile of somebody known is that of the history. -/
theorem known_eq (hk : Kept h s) {p : Profile} (hp : s.known subject = some p) :
    ∃ d, h.latest subject = some d ∧
      p = ⟨p.userId, d.email, d.displayName, d.avatarUrl, h.roles p.userId⟩ := by
  obtain ⟨d, hd, hknown⟩ := hk.given (hk.gives hp)
  exact ⟨d, hd, Option.some.inj (hp.symm.trans hknown)⟩

/-- An id is given to somebody exactly if somebody is found by it. -/
theorem exists_gives_iff (hk : Kept h s) :
    (∃ subject, h.Gives subject id) ↔ ∃ p, s.profile id = .ok p := by
  constructor
  · rintro ⟨subject, hg⟩
    obtain ⟨d, -, hp⟩ := hk.given hg
    exact ⟨_, profile_of_known hk.sound hp⟩
  · rintro ⟨p, hp⟩
    obtain ⟨subject, hs⟩ := hk.keyed id p hp
    exact ⟨subject, userId_of_profile hk.sound hp ▸ hk.gives hs⟩

/-- A subject that was never given an id is not known. -/
theorem known_eq_none (hk : Kept h s) (hs : ∀ i, ¬h.Gives subject i) : s.known subject = none :=
  Option.eq_none_iff_forall_ne_some.2 fun p hp => hs p.userId (hk.gives hp)

theorem notFound (hk : Kept h s) (hi : ∀ t, ¬h.Gives t id) : s.profile id = .error .notFound := by
  cases hp : s.profile id with
  | error e => rw [eq_notFound_of_profile hk.sound hp]
  | ok p =>
    obtain ⟨t, ht⟩ := hk.exists_gives_iff.2 ⟨p, hp⟩
    exact absurd ht (hi t)

/-- The answer has the roles of the history. -/
theorem roles_of_upsert (hk : Kept h s) {entropy : Entropy}
    (hu : (s.upsert entropy d).1 = .ok (id, roles)) : h.roles id = roles := by
  rcases upsert_cases hk.sound entropy d with
    ⟨p, hp, hanswer⟩ | ⟨hd, hfree, hanswer⟩ | ⟨-, -, hanswer, -⟩
  · obtain ⟨d', -, heq⟩ := hk.known_eq hp
    rw [hu] at hanswer
    cases hanswer
    rw [heq]
  · rw [hu] at hanswer
    cases hanswer
    refine roles_eq_default fun i rs n hmem ⟨hi, hn⟩ => ?_
    obtain ⟨p, hp⟩ := hk.set hmem hn
    rw [hi, hfree] at hp
    cases hp
  · rw [hu] at hanswer
    cases hanswer

/-- A call that gives nothing and changes nothing. -/
theorem keep (hk : Kept h s) {e : UserEvent} (he : ∀ d known, e ≠ .upserted d (.ok known))
    (hset : ∀ i rs n, e = .rolesSet i rs n → n = 0) : Kept (e :: h) s where
  sound := hk.sound
  keyed := hk.keyed
  given := fun hg => by
    rw [latest_cons he, roles_cons hset]
    exact hk.given ((gives_cons he).1 hg)
  gives := fun hp => (gives_cons he).2 (hk.gives hp)
  set := fun hmem hn => by
    rcases List.mem_cons.1 hmem with heq | hmem
    · exact absurd (hset _ _ _ heq.symm) (Nat.pos_iff_ne_zero.1 hn)
    · exact hk.set hmem hn

/-- What was told and what is stored agree behind an upsert. -/
theorem upserted (hk : Kept h s) {entropy : Entropy}
    (hu : (s.upsert entropy d).1 = .ok (id, roles)) :
    Kept (.upserted d (.ok (id, roles)) :: h) (s.upsert entropy d).2.1 := by
  have hknown := known_upsert hk.sound hu
  have hroles := hk.roles_of_upsert hu
  refine ⟨(UserStore.upserted hk.sound entropy d).sound hk.sound,
    hk.keyed.upsert hk.sound entropy d,
    fun {subject i} hg => ?_, fun {subject p} hp => ?_, fun {i rs n} hmem hn => ?_⟩
  · rw [hknown, UserHistory.latest, roles_upserted]
    by_cases hs : subject = d.subject
    · refine ⟨d, if_pos hs.symm, ?_⟩
      -- whoever was known keeps the id
      have hi : i = id := by
        rcases gives_upserted.1 hg with ⟨-, hi⟩ | hg
        · exact hi
        · obtain ⟨d', -, hp⟩ := hk.given hg
          have hanswer := upsert_of_known hk.sound (hs ▸ hp) entropy
          rw [hu] at hanswer
          cases hanswer
          rfl
      rw [if_pos hs, hi, hroles]
    · have hg : h.Gives subject i := (gives_upserted.1 hg).resolve_left fun hc => hs hc.1
      obtain ⟨d', hd', hp⟩ := hk.given hg
      exact ⟨d', by rw [if_neg (Ne.symm hs), hd'], by rw [if_neg hs, hp]⟩
  · rw [hknown] at hp
    split_ifs at hp with hs
    · cases hp
      exact gives_upserted.2 (Or.inl ⟨hs, rfl⟩)
    · exact gives_upserted.2 (Or.inr (hk.gives hp))
  · obtain ⟨p, hp⟩ := hk.set ((List.mem_cons.1 hmem).resolve_left nofun) hn
    rw [profile_upsert hk.sound hk.keyed hu]
    split_ifs
    · exact ⟨_, rfl⟩
    · exact ⟨p, hp⟩

theorem rolesSet {t : Table UserRow} (hk : Kept h (table t)) (id : String) (roles : RolesText) :
    Kept (.rolesSet id roles.roles ((table t).setRoles id roles.text).1 :: h)
      ((table t).setRoles id roles.text).2 := by
  have hset := rolesSet_table hk.sound id roles
  have hpos := setRoles_pos_iff hk.sound id roles.text
  generalize ((table t).setRoles id roles.text).1 = n at hpos
  generalize ((table t).setRoles id roles.text).2 = s' at hset
  have hgives : ∀ {subject i}, UserHistory.Gives (.rolesSet id roles.roles n :: h) subject i ↔
      h.Gives subject i := gives_cons nofun
  have hfound :
      ∀ {i p}, (table t).profile i = .ok p → s'.profile i = .ok (assign id roles.roles p) :=
    fun hp => by rw [hset.profile, hp]; rfl
  refine ⟨hset.sound, hset.keyed hk.keyed, fun {subject i} hg => ?_, fun {subject p} hp => ?_,
    fun {i rs m} hmem hm => ?_⟩
  · obtain ⟨d, hd, hp⟩ := hk.given (hgives.1 hg)
    refine ⟨d, hd, ?_⟩
    rw [hset.known, hp, Option.map_some, UserHistory.roles]
    unfold assign
    by_cases hi : i = id
    · have hn : 0 < n := hpos.2 ⟨_, hi ▸ profile_of_known hk.sound hp⟩
      rw [if_pos hi, if_pos ⟨hi.symm, hn⟩]
    · rw [if_neg hi, if_neg fun hc => hi hc.1.symm]
  · rw [hset.known] at hp
    obtain ⟨q, hq, rfl⟩ := Option.map_eq_some_iff.1 hp
    rw [userId_assign]
    exact hgives.2 (hk.gives hq)
  · rcases List.mem_cons.1 hmem with heq | hmem
    · cases heq
      obtain ⟨p, hp⟩ := hpos.1 hm
      exact ⟨_, hfound hp⟩
    · obtain ⟨p, hp⟩ := hk.set hmem hm
      exact ⟨_, hfound hp⟩

/-- They agree behind any call, and so behind any run. -/
theorem serve (hk : Kept h s) (c : UserCall) : Kept ((s.serve c).1 :: h) (s.serve c).2 := by
  cases c with
  | upsert entropy d =>
    simp only [UserStore.serve]
    rcases upsert_cases hk.sound entropy d with
      ⟨p, -, hanswer⟩ | ⟨-, -, hanswer⟩ | ⟨-, -, hanswer, hstore⟩
    · exact hanswer ▸ hk.upserted hanswer
    · exact hanswer ▸ hk.upserted hanswer
    · rw [hanswer, hstore]
      exact hk.keep nofun nofun
  | profile id => exact hk.keep nofun nofun
  | setRoles id roles =>
    cases s with
    | memory m => exact hk.keep nofun fun i rs n he => by cases he; rfl
    | table t => exact hk.rolesSet id roles

theorem run (b : Backend) (calls : List UserCall) :
    Kept (UserStore.run b calls).1 (UserStore.run b calls).2 := by
  induction calls using List.reverseRecOn with
  | nil => exact start b
  | append_singleton calls c ih =>
    rw [run_append_singleton]
    exact ih.serve c

end Kept

/-! ## The contract -/

/-- What a store answers after a history. -/
structure Directory (h : UserHistory) (s : UserStore) : Prop where
  /-- One subject has one id, and different subjects have different ids. -/
  id_eq_iff : ∀ {t u i j}, h.Gives t i → h.Gives u j → (i = j ↔ t = u)
  /-- The id of a subject has the details of its latest upsert. -/
  profile : ∀ {t i}, h.Gives t i → ∃ d, h.latest t = some d ∧
    s.profile i = .ok ⟨i, d.email, d.displayName, d.avatarUrl, h.roles i⟩
  /-- Nobody has an id that was never given. -/
  notFound : ∀ {i}, (∀ t, ¬h.Gives t i) → s.profile i = .error .notFound
  /-- A subject keeps its id and its roles, and what is drawn makes no difference. -/
  again : ∀ {d : UserDetails} {i}, h.Gives d.subject i → ∀ entropy,
    (s.upsert entropy d).1 = .ok (i, h.roles i) ∧
    ∀ entropy', (s.upsert entropy' d).2.1 = (s.upsert entropy d).2.1
  /-- A new subject has a new id and the role of a new user. -/
  first : ∀ {d : UserDetails} {entropy}, (∀ i, ¬h.Gives d.subject i) →
    (∀ t, ¬h.Gives t (s.newId entropy d.subject)) →
    (s.upsert entropy d).1 = .ok (s.newId entropy d.subject, [defaultRole])
  /-- A new subject is refused and nothing changes, if its id was given to somebody else. -/
  taken : ∀ {d : UserDetails} {entropy}, (∀ i, ¬h.Gives d.subject i) →
    (∃ t, h.Gives t (s.newId entropy d.subject)) →
    (s.upsert entropy d).1 = .error (.storage (.taken "users.id")) ∧ (s.upsert entropy d).2.1 = s
  /-- An upsert changes nobody else's profile. -/
  others : ∀ {t i}, h.Gives t i → ∀ entropy (d : UserDetails), t ≠ d.subject →
    (s.upsert entropy d).2.1.profile i = s.profile i
  /-- Roles can be set of those who have an id, in a table. -/
  rolesSet : ∀ {t}, s = .table t → ∀ i text, 0 < (s.setRoles i text).1 ↔ ∃ u, h.Gives u i

/-- A store that agrees with what was told is a directory of it. -/
theorem Kept.directory (hk : Kept h s) : Directory h s where
  id_eq_iff := fun {t u i j} ht hu => by
    obtain ⟨d, -, hp⟩ := hk.given ht
    obtain ⟨d', -, hq⟩ := hk.given hu
    constructor
    · exact fun hij => subject_eq_of_userId_eq hk.sound hp hq hij
    · rintro rfl
      exact congrArg Profile.userId (Option.some.inj (hp.symm.trans hq))
  profile := fun ht => by
    obtain ⟨d, hd, hp⟩ := hk.given ht
    exact ⟨d, hd, profile_of_known hk.sound hp⟩
  notFound := hk.notFound
  again := fun {d i} hd entropy => by
    obtain ⟨d', -, hp⟩ := hk.given hd
    exact ⟨upsert_of_known hk.sound hp entropy,
      fun entropy' => store_upsert_of_known hk.sound hp entropy' entropy⟩
  first := fun hd hid => upsert_of_new hk.sound (hk.known_eq_none hd) (hk.notFound hid)
  taken := fun hd hid => by
    obtain ⟨p, hp⟩ := hk.exists_gives_iff.1 hid
    exact upsert_of_taken hk.sound (hk.known_eq_none hd) hp
  others := fun {t i} ht entropy d hne => by
    obtain ⟨d', -, hp⟩ := hk.given ht
    rw [profile_of_known hk.sound hp]
    exact profile_of_known ((UserStore.upserted hk.sound entropy d).sound hk.sound)
      ((known_upsert_of_ne hk.sound entropy hne).trans hp)
  rolesSet := fun {t} ht i text => by
    subst ht
    rw [setRoles_pos_iff hk.sound, hk.exists_gives_iff]

theorem exists_memory_run (calls : List UserCall) : ∃ m, (run .memory calls).2 = .memory m := by
  induction calls using List.reverseRecOn with
  | nil => exact ⟨_, rfl⟩
  | append_singleton calls c ih =>
    obtain ⟨m, hm⟩ := ih
    rw [run_append_singleton, hm]
    cases c <;> exact ⟨_, rfl⟩

/-- Roles are set by a call only, and not in memory. -/
theorem rolesSet_of_run {b : Backend} {calls : List UserCall} {id : String} {roles : List String}
    {n : Nat} (hmem : UserEvent.rolesSet id roles n ∈ (run b calls).1) (hn : 0 < n) :
    b ≠ .memory ∧ ∃ text, UserCall.setRoles id text ∈ calls := by
  induction calls using List.reverseRecOn with
  | nil => exact absurd hmem List.not_mem_nil
  | append_singleton calls c ih =>
    rw [run_append_singleton] at hmem
    rcases List.mem_cons.1 hmem with heq | hmem
    · cases c with
      | upsert entropy d => cases heq
      | profile i => cases heq
      | setRoles i text =>
        cases heq
        refine ⟨?_, text, List.mem_append_right _ List.mem_cons_self⟩
        rintro rfl
        obtain ⟨m, hm⟩ := exists_memory_run calls
        rw [hm] at hn
        exact absurd hn (Nat.lt_irrefl 0)
    · obtain ⟨hb, text, htext⟩ := ih hmem
      exact ⟨hb, text, List.mem_append_left _ htext⟩

/-- A store keeps a directory of subjects, whatever is asked of it and whatever ids are drawn. As
long as no roles are set, as in memory they cannot be, everybody has those of a new user. -/
theorem directory_run (b : Backend) (calls : List UserCall) :
    Directory (run b calls).1 (run b calls).2 ∧
    (b = .memory ∨ (∀ id roles, UserCall.setRoles id roles ∉ calls) →
      ∀ id, (run b calls).1.roles id = [defaultRole]) := by
  refine ⟨(Kept.run b calls).directory, fun hplain id => roles_eq_default fun i rs n hmem hc => ?_⟩
  obtain ⟨hb, text, hcall⟩ := rolesSet_of_run hmem hc.2
  rcases hplain with hmemory | hnone
  · exact hb hmemory
  · exact hnone i text hcall

end UserStore

end SignIn
