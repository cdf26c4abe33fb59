import Mathlib.Data.List.Chain
import Mathlib.Data.List.Nodup
import SignIn.Proofs.Refresh.Secrets

/-!
# Chains of records

A record `Follows` the one whose place it took. A whole request changes the records in one of four
ways (`Passage`) : not at all, with a new record in the place of none, with a new record in the
place of an active one, which is revoked, or with a record revoked.

Such changes keep the `Lineage` of the records : what a record follows is revoked and is followed by
no other. They also keep the records in `Chains`, where a new record goes behind the last of its
chain or begins one. And a record that is revoked and that nothing follows stays so (`Retired`) ;
this is the end of its chain.
-/

namespace SignIn

namespace RefreshStore

variable {s s' : RefreshStore} {login : Prop} {i j : String} {q r : RefreshRecord}

/-- The record `j` took the place of the record `i`. -/
def Follows (s : RefreshStore) (i j : String) : Prop := ∃ r, s.get? j = some r ∧ r.previous = i

/-- All that a whole request can do to the records. -/
inductive Passage (login : Prop) (s : RefreshStore) : RefreshStore → Prop
  | idle : Passage login s s
  /-- A new record in the place of none, which a login alone brings. -/
  | begun {r : RefreshRecord} {s' : RefreshStore} (cause : login) (named : r.tokenId ≠ "")
      (free : s.get? r.tokenId = none) (first : r.previous = "")
      (get : ∀ i, s'.get? i = if i = r.tokenId then some r else s.get? i) :
      Passage login s s'
  /-- A new record in the place of an active one, which is revoked. -/
  | rotated {i : String} {q r : RefreshRecord} {now : Int} {s' : RefreshStore}
      (found : s.get? i = some q) (active : q.isRevoked = false) (named : r.tokenId ≠ "")
      (free : s.get? r.tokenId = none) (place : r.previous = i)
      (get : ∀ j, s'.get? j =
        if j = i then some (q.revoke now) else if j = r.tokenId then some r else s.get? j) :
      Passage login s s'
  /-- An active record is revoked. -/
  | ended {i : String} {q : RefreshRecord} {now : Int} {s' : RefreshStore}
      (found : s.get? i = some q) (active : q.isRevoked = false)
      (get : ∀ j, s'.get? j = if j = i then some (q.revoke now) else s.get? j) :
      Passage login s s'

namespace Passage

/-- A record stays, and changes only when it is revoked. -/
theorem becomes (h : Passage login s s') (hr : s.get? i = some r) :
    ∃ r', s'.get? i = some r' ∧ r.Becomes r' := by
  cases h with
  | idle => exact ⟨r, hr, .refl r⟩
  | @begun r' s' cause named free first get =>
    have hne : i ≠ r'.tokenId := by
      rintro rfl
      rw [hr] at free
      cases free
    exact ⟨r, by rw [get, if_neg hne, hr], .refl r⟩
  | @rotated k q r' now s' found active named free place get =>
    rcases eq_or_ne i k with rfl | hk
    · obtain rfl := Option.some.inj (found.symm.trans hr)
      exact ⟨_, by rw [get, if_pos rfl], Or.inr ⟨active, now, rfl⟩⟩
    · have hne : i ≠ r'.tokenId := by
        rintro rfl
        rw [hr] at free
        cases free
      exact ⟨r, by rw [get, if_neg hk, if_neg hne, hr], .refl r⟩
  | @ended k q now s' found active get =>
    rcases eq_or_ne i k with rfl | hk
    · obtain rfl := Option.some.inj (found.symm.trans hr)
      exact ⟨_, by rw [get, if_pos rfl], Or.inr ⟨active, now, rfl⟩⟩
    · exact ⟨r, by rw [get, if_neg hk, hr], .refl r⟩

/-- A record was there before, or it is new : the first of a chain, or in the place of a record that
was active. -/
theorem origin (h : Passage login s s') (hr : s'.get? i = some r) :
    (∃ q, s.get? i = some q ∧ q.Becomes r) ∨ s.get? i = none ∧ i ≠ "" ∧
      (r.previous = "" ∧ login ∨ s.Active r.previous ∧ s'.Revoked r.previous) := by
  cases h with
  | idle => exact Or.inl ⟨r, hr, .refl r⟩
  | @begun r' s' cause named free first get =>
    rw [get] at hr
    split_ifs at hr with hi
    · cases hr
      rw [hi]
      exact Or.inr ⟨free, named, Or.inl ⟨first, cause⟩⟩
    · exact Or.inl ⟨r, hr, .refl r⟩
  | @rotated k q r' now s' found active named free place get =>
    have hrev : s'.Revoked k := ⟨_, by rw [get, if_pos rfl], q.isRevoked_revoke now⟩
    rw [get] at hr
    split_ifs at hr with hk hi
    · cases hr
      rw [hk]
      exact Or.inl ⟨q, found, Or.inr ⟨active, now, rfl⟩⟩
    · cases hr
      rw [hi, place]
      exact Or.inr ⟨free, named, Or.inr ⟨⟨q, found, active⟩, hrev⟩⟩
    · exact Or.inl ⟨r, hr, .refl r⟩
  | @ended k q now s' found active get =>
    rw [get] at hr
    split_ifs at hr with hk
    · cases hr
      rw [hk]
      exact Or.inl ⟨q, found, Or.inr ⟨active, now, rfl⟩⟩
    · exact Or.inl ⟨r, hr, .refl r⟩

/-- No more than one record is new. -/
theorem eq_of_new (h : Passage login s s') (hq : s'.get? i = some q) (hi : s.get? i = none)
    (hr : s'.get? j = some r) (hj : s.get? j = none) : i = j := by
  have hne : ∀ {k p l}, s.get? k = some p → s.get? l = none → l ≠ k := by
    rintro k p l hk hl rfl
    rw [hk] at hl
    cases hl
  cases h with
  | idle =>
    rw [hi] at hq
    cases hq
  | @begun p s' cause named free first get =>
    have hnew : ∀ {l}, s'.get? l ≠ none → s.get? l = none → l = p.tokenId := by
      intro l hl hfree
      rw [get] at hl
      by_contra hp
      exact hl (by rw [if_neg hp, hfree])
    rw [hnew (by rw [hq]; simp) hi, hnew (by rw [hr]; simp) hj]
  | @rotated k p p' now s' found active named free place get =>
    have hnew : ∀ {l}, s'.get? l ≠ none → s.get? l = none → l = p'.tokenId := by
      intro l hl hfree
      rw [get, if_neg (hne found hfree)] at hl
      by_contra hp
      exact hl (by rw [if_neg hp, hfree])
    rw [hnew (by rw [hq]; simp) hi, hnew (by rw [hr]; simp) hj]
  | @ended k p now s' found active get =>
    rw [get, if_neg (hne found hi), hi] at hq
    cases hq

/-- What is revoked stays revoked behind a passage. -/
theorem revoked (h : Passage login s s') (hr : s.Revoked i) : s'.Revoked i := by
  obtain ⟨r, hr, hrev⟩ := hr
  obtain ⟨r', hr', hb⟩ := h.becomes hr
  exact ⟨r', hr', by rwa [hb.eq_of_isRevoked hrev]⟩

/-- A record that took the place of another still does. -/
theorem follows (h : Passage login s s') (hf : s.Follows i j) : s'.Follows i j := by
  obtain ⟨r, hr, hprev⟩ := hf
  obtain ⟨r', hr', hb⟩ := h.becomes hr
  exact ⟨r', hr', hb.previous_eq.trans hprev⟩

end Passage

/-! ## Lineage -/

/-- No id is empty, what a record follows is revoked, and no two records follow the same. -/
structure Lineage (s : RefreshStore) : Prop where
  named : s.get? "" = none
  known : ∀ {i r}, s.get? i = some r → r.previous = "" ∨ s.Revoked r.previous
  single : ∀ {i j q r}, s.get? i = some q → s.get? j = some r → q.previous = r.previous →
    q.previous ≠ "" → i = j

theorem lineage_empty (b : Backend) : (empty b).Lineage where
  named := get?_empty b ""
  known h := by
    rw [get?_empty] at h
    cases h
  single h := by
    rw [get?_empty] at h
    cases h

theorem Lineage.ne_empty (h : s.Lineage) (hr : s.get? i = some r) : i ≠ "" := by
  rintro rfl
  rw [h.named] at hr
  cases hr

/-- A record that another follows is revoked. -/
theorem Lineage.revoked_of_follows (h : s.Lineage) (hi : i ≠ "") (hf : s.Follows i j) :
    s.Revoked i := by
  obtain ⟨r, hr, rfl⟩ := hf
  exact (h.known hr).resolve_left hi

/-- A passage keeps the lineage : a new record is named, and it follows none or the one that is
revoked with it, which was active and so had nothing behind it. -/
theorem Lineage.passage (h : s.Lineage) (hp : Passage login s s') : s'.Lineage where
  named := by
    cases hr : s'.get? "" with
    | none => rfl
    | some r =>
      rcases hp.origin hr with ⟨q, hq, -⟩ | ⟨-, hne, -⟩
      · exact absurd rfl (h.ne_empty hq)
      · exact absurd rfl hne
  known {i r} hr := by
    rcases hp.origin hr with ⟨q, hq, hb⟩ | ⟨-, -, ⟨hfirst, -⟩ | ⟨-, hrev⟩⟩
    · rw [hb.previous_eq]
      exact (h.known hq).imp_right hp.revoked
    · exact Or.inl hfirst
    · exact Or.inr hrev
  single {i j q r} hq hr heq hne := by
    -- A new record takes the place of an active one, and an active one is followed by none.
    have hnew : ∀ {i r}, s.get? i = some r → r.previous ≠ "" → ¬s.Active r.previous :=
      fun hr hne hact => hact.not_revoked ((h.known hr).resolve_left hne)
    rcases hp.origin hq with ⟨q₀, hq₀, hbq⟩ | ⟨hfreshq, -, hplaceq⟩
    · rcases hp.origin hr with ⟨r₀, hr₀, hbr⟩ | ⟨hfreshr, -, ⟨hfirst, -⟩ | ⟨hact, -⟩⟩
      · rw [hbq.previous_eq] at heq hne
        rw [hbr.previous_eq] at heq
        exact h.single hq₀ hr₀ heq hne
      · exact absurd (heq.trans hfirst) hne
      · rw [← heq, hbq.previous_eq] at hact
        rw [hbq.previous_eq] at hne
        exact absurd hact (hnew hq₀ hne)
    · rcases hp.origin hr with ⟨r₀, hr₀, hbr⟩ | ⟨hfreshr, -, -⟩
      · rw [hbr.previous_eq] at heq
        rcases hplaceq with ⟨hfirst, -⟩ | ⟨hact, -⟩
        · exact absurd hfirst hne
        · rw [heq] at hact hne
          exact absurd hact (hnew hr₀ hne)
      · exact hp.eq_of_new hq hfreshq hr hfreshr

/-! ## Chains -/

/-- The ids of the records in chains : each begins with a record in the place of none, and goes on
with what took its place. -/
structure Chains (s : RefreshStore) (chains : List (List String)) : Prop where
  nodup : chains.flatten.Nodup
  mem : ∀ {i}, i ∈ chains.flatten ↔ s.get? i ≠ none
  linked : ∀ c ∈ chains, (∃ i l, c = i :: l ∧ s.Follows "" i) ∧ c.IsChain s.Follows

theorem chains_empty (b : Backend) : (empty b).Chains [] where
  nodup := List.nodup_nil
  mem := by simp
  linked := by simp

variable {chains : List (List String)}

/-- Behind a passage the chains there were are still chains, from a login on. -/
theorem Chains.linked_passage (h : s.Chains chains) (hp : Passage login s s') :
    ∀ c ∈ chains, (∃ i l, c = i :: l ∧ s'.Follows "" i) ∧ c.IsChain s'.Follows := by
  intro c hc
  obtain ⟨⟨i, l, rfl, hi⟩, hl⟩ := h.linked c hc
  exact ⟨⟨i, l, rfl, hp.follows hi⟩, hl.imp fun _ _ => hp.follows⟩

/-- A record that can still be used is the last of its chain. -/
theorem Chains.exists_concat (h : s.Chains chains) (hl : s.Lineage) (hi : s.Active i) :
    ∃ l₁ c l₂, chains = l₁ ++ (c ++ [i]) :: l₂ := by
  obtain ⟨r, hr, hact⟩ := hi
  have hmem : i ∈ chains.flatten := h.mem.2 (by rw [hr]; simp)
  obtain ⟨c, hc, hic⟩ := List.mem_flatten.1 hmem
  obtain ⟨l₁, l₂, rfl⟩ := List.append_of_mem hc
  obtain ⟨c₁, c₂, rfl⟩ := List.append_of_mem hic
  rcases c₂ with _ | ⟨j, c₂⟩
  · exact ⟨l₁, c₁, l₂, rfl⟩
  · have hf : s.Follows i j := (List.isChain_append_cons_cons.1 (h.linked _ hc).2).2.1
    exact absurd (hl.revoked_of_follows (hl.ne_empty hr) hf) (Active.not_revoked ⟨r, hr, hact⟩)

/-- One chain that is longer by an id makes the whole longer by this id. -/
theorem perm_flatten_snoc (l₁ l₂ : List (List String)) (c : List String) (i : String) :
    (l₁ ++ (c ++ [i]) :: l₂).flatten.Perm (i :: (l₁ ++ c :: l₂).flatten) := by
  have hlong : (l₁ ++ (c ++ [i]) :: l₂).flatten = (l₁.flatten ++ c) ++ i :: l₂.flatten := by simp
  have hshort : (l₁ ++ c :: l₂).flatten = (l₁.flatten ++ c) ++ l₂.flatten := by simp
  rw [hlong, hshort]
  exact List.perm_middle

/-- Behind a passage the records fall into chains again : a new record begins one or is put behind
the last of one. -/
theorem Chains.passage (h : s.Chains chains) (hl : s.Lineage) (hp : Passage login s s') :
    ∃ chains', s'.Chains chains' := by
  have hlinked := h.linked_passage hp
  cases hp with
  | idle => exact ⟨chains, h⟩
  | @begun r s' cause named free first get =>
    have hnew : s'.Follows "" r.tokenId := ⟨r, by rw [get, if_pos rfl], first⟩
    have hfree : r.tokenId ∉ chains.flatten := fun hmem => h.mem.1 hmem free
    refine ⟨[r.tokenId] :: chains, ?_, fun {i} => ?_, fun c hc => ?_⟩
    · exact List.nodup_cons.2 ⟨hfree, h.nodup⟩
    · rw [get, List.flatten_cons, List.singleton_append, List.mem_cons, h.mem]
      split_ifs with hi <;> simp [hi]
    · rcases List.mem_cons.1 hc with rfl | hc
      · exact ⟨⟨_, [], rfl, hnew⟩, List.isChain_singleton _⟩
      · exact hlinked c hc
  | @rotated i q r now s' found active named free place get =>
    obtain ⟨l₁, c, l₂, rfl⟩ := h.exists_concat hl ⟨q, found, active⟩
    have hi : r.tokenId ≠ i := by
      rintro heq
      rw [heq, found] at free
      cases free
    have hnew : s'.Follows i r.tokenId := ⟨r, by rw [get, if_neg hi, if_pos rfl], place⟩
    have hperm := perm_flatten_snoc l₁ l₂ (c ++ [i]) r.tokenId
    have hfree : r.tokenId ∉ (l₁ ++ (c ++ [i]) :: l₂).flatten := fun hmem => h.mem.1 hmem free
    refine ⟨l₁ ++ (c ++ [i] ++ [r.tokenId]) :: l₂, ?_, fun {j} => ?_, fun d hd => ?_⟩
    · exact hperm.nodup_iff.2 (List.nodup_cons.2 ⟨hfree, h.nodup⟩)
    · rw [hperm.mem_iff, List.mem_cons, h.mem, get]
      split_ifs with hj hj' <;> simp_all
    · rcases List.mem_append.1 hd with hd | hd
      · exact hlinked d (List.mem_append_left _ hd)
      · rcases List.mem_cons.1 hd with rfl | hd
        · obtain ⟨⟨j, l, hcons, hj⟩, hchain⟩ := hlinked (c ++ [i]) (by simp)
          refine ⟨⟨j, l ++ [r.tokenId], by rw [hcons]; rfl, hj⟩, ?_⟩
          exact hchain.append (List.isChain_singleton _) (by simpa using hnew)
        · exact hlinked d (by simp [hd])
  | @ended i q now s' found active get =>
    refine ⟨chains, h.nodup, fun {j} => ?_, hlinked⟩
    rw [h.mem, get]
    split_ifs with hj
    · rw [hj, found]
      simp
    · rfl

/-! ## Chains of records -/

/-- A chain whose members are all renamed is a chain of the new names. -/
theorem isChain_filterMap {α β : Type} {R : α → α → Prop} {S : β → β → Prop} {f : α → Option β}
    {l : List α} (h : l.IsChain R) (hf : ∀ a ∈ l, f a ≠ none)
    (hS : ∀ {a b x y}, R a b → f a = some x → f b = some y → S x y) :
    (l.filterMap f).IsChain S := by
  induction h with
  | nil => exact .nil
  | singleton a =>
    obtain ⟨x, hx⟩ := Option.ne_none_iff_exists'.1 (hf a (by simp))
    rw [List.filterMap_cons_some hx]
    exact .singleton x
  | @cons_cons a b l hab _ ih =>
    obtain ⟨x, hx⟩ := Option.ne_none_iff_exists'.1 (hf a (by simp))
    obtain ⟨y, hy⟩ := Option.ne_none_iff_exists'.1 (hf b (by simp))
    have ih := ih fun c hc => hf c (List.mem_cons_of_mem _ hc)
    rw [List.filterMap_cons_some hy] at ih
    rw [List.filterMap_cons_some hx, List.filterMap_cons_some hy]
    exact .cons_cons (hS hab hx hy) ih

/-- In a chain only the last is not followed. -/
theorem exists_rel_of_mem_dropLast {α : Type} {R : α → α → Prop} {l : List α} (h : l.IsChain R)
    {a : α} (ha : a ∈ l.dropLast) : ∃ b ∈ l, R a b := by
  induction h with
  | nil | singleton => simp at ha
  | @cons_cons x y l hxy _ ih =>
    rw [List.dropLast_cons_cons, List.mem_cons] at ha
    rcases ha with rfl | ha
    · exact ⟨y, by simp, hxy⟩
    · obtain ⟨b, hb, hab⟩ := ih ha
      exact ⟨b, List.mem_cons_of_mem _ hb, hab⟩

/-- Records one behind the other. -/
def Linked (s : RefreshStore) (c : List RefreshRecord) : Prop :=
  (∀ r ∈ c, r ∈ s.records) ∧ c.IsChain fun q r => r.previous = q.tokenId

theorem Sound.get?_of_mem (hs : s.Sound) (hr : r ∈ s.records) : s.get? r.tokenId = some r :=
  hs.mem_records_iff.1 hr

/-- Of records one behind the other, only the last can still be used. -/
theorem Lineage.isRevoked_of_mem_dropLast (h : s.Lineage) (hs : s.Sound) {c : List RefreshRecord}
    (hc : s.Linked c) (hr : r ∈ c.dropLast) : r.isRevoked = true := by
  obtain ⟨q, hq, hprev⟩ := exists_rel_of_mem_dropLast hc.2 hr
  have hget := hs.get?_of_mem (hc.1 r ((List.dropLast_sublist c).subset hr))
  obtain ⟨r', hr', hrev⟩ := h.revoked_of_follows (h.ne_empty hget)
    ⟨q, hs.get?_of_mem (hc.1 q hq), hprev⟩
  rwa [Option.some.inj (hget.symm.trans hr')]

/-- The records of a store fall into chains. -/
theorem Chains.exists_linked (h : s.Chains chains) (hs : s.Sound) :
    ∃ cs : List (List RefreshRecord), cs.flatten.Perm s.records ∧
      ∀ c ∈ cs, s.Linked c ∧ ∃ r l, c = r :: l ∧ r.previous = "" := by
  have hsome : ∀ {c}, c ∈ chains → ∀ i ∈ c, s.get? i ≠ none := fun hc i hi =>
    h.mem.1 (List.mem_flatten_of_mem hc hi)
  have hmem : ∀ {c : List String} {r}, r ∈ c.filterMap s.get? → r ∈ s.records ∧ r.tokenId ∈ c := by
    intro c r hr
    obtain ⟨i, hi, hget⟩ := List.mem_filterMap.1 hr
    obtain rfl := hs.tokenId_of_get? hget
    exact ⟨hs.mem_records_iff.2 hget, hi⟩
  refine ⟨chains.map (List.filterMap s.get?), ?_, fun c hc => ?_⟩
  · rw [← List.filterMap_flatten]
    have hnodup : (chains.flatten.filterMap s.get?).Nodup :=
      h.nodup.filterMap fun i j r hi hj =>
        (hs.tokenId_of_get? hi).symm.trans (hs.tokenId_of_get? hj)
    rw [List.perm_ext_iff_of_nodup hnodup hs.nodup_records]
    intro r
    refine ⟨fun hr => (hmem hr).1, fun hr => List.mem_filterMap.2 ⟨r.tokenId, ?_, ?_⟩⟩
    · rw [h.mem, hs.get?_of_mem hr]
      exact Option.some_ne_none r
    · exact hs.get?_of_mem hr
  · obtain ⟨ids, hids, rfl⟩ := List.mem_map.1 hc
    obtain ⟨⟨i, l, rfl, r, hr, hfirst⟩, hchain⟩ := h.linked ids hids
    refine ⟨⟨fun r hr => (hmem hr).1, isChain_filterMap hchain (hsome hids) ?_⟩, r,
      l.filterMap s.get?, List.filterMap_cons_some hr, hfirst⟩
    rintro i j q r ⟨r', hr', rfl⟩ hq hr
    obtain rfl := Option.some.inj (hr.symm.trans hr')
    exact (hs.tokenId_of_get? hq).symm

/-! ## The end of a chain -/

/-- A revoked record that nothing follows. -/
def Retired (s : RefreshStore) (i : String) : Prop := s.Revoked i ∧ ∀ j, ¬s.Follows i j

/-- A chain that is retired stays so : its last record can be followed by none. -/
theorem Retired.passage (h : s.Retired i) (hl : s.Lineage) (hp : Passage login s s') :
    s'.Retired i := by
  obtain ⟨hrev, hlast⟩ := h
  refine ⟨hp.revoked hrev, fun j => ?_⟩
  rintro ⟨r, hr, rfl⟩
  rcases hp.origin hr with ⟨q, hq, hb⟩ | ⟨-, -, ⟨hfirst, -⟩ | ⟨hact, -⟩⟩
  · exact hlast j ⟨q, hq, hb.previous_eq.symm⟩
  · obtain ⟨q, hq, -⟩ := hrev
    exact hl.ne_empty hq hfirst
  · exact hact.not_revoked hrev

/-- Of a chain whose end is reached, every record is revoked. -/
theorem Retired.isRevoked (h : s.Retired i) (hl : s.Lineage) (hs : s.Sound)
    {c : List RefreshRecord} (hc : s.Linked c) (hi : ∃ q ∈ c, q.tokenId = i) (hr : r ∈ c) :
    r.isRevoked = true := by
  obtain ⟨q, hq, rfl⟩ := hi
  have hne : c ≠ [] := List.ne_nil_of_mem hr
  have hsplit := List.dropLast_append_getLast hne
  have hcases : ∀ {p}, p ∈ c → p ∈ c.dropLast ∨ p = c.getLast hne := by
    intro p hp
    rw [← hsplit] at hp
    simpa using hp
  rcases hcases hr with hr | rfl
  · exact hl.isRevoked_of_mem_dropLast hs hc hr
  · rcases hcases hq with hq' | rfl
    · obtain ⟨p, hp, hprev⟩ := exists_rel_of_mem_dropLast hc.2 hq'
      exact absurd ⟨p, hs.get?_of_mem (hc.1 p hp), hprev⟩ (h.2 p.tokenId)
    · obtain ⟨p, hp, hrev⟩ := h.1
      rwa [← Option.some.inj ((hs.get?_of_mem (hc.1 _ hq)).symm.trans hp)] at hrev

end RefreshStore

end SignIn
