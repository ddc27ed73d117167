import Mathlib.Data.List.Induction
import Mathlib.Data.List.Perm.Basic
import Mathlib.Data.Option.Basic
import MagicShare.Base.Dict

/-! Items that are put into groups as they come.

An item joins the first group that meets the first of its criteria that some group meets;
if none meets any, it starts a group, provided it has a key. Kept in a map, a group whose
key another one starts under is displaced. No group is displaced exactly if the groups
that would be formed without a map have distinct keys (`undisplaced_iff`).

Where an item joins whatever group it shares something with, the groups are the classes of
an equivalence in every order under conditions on pairs of items, and in no other case
(`together_iff`): sharing is that equivalence among the items that can start a group, and
who shares with another has no key in common with one it does not share with. -/
namespace Grouping
variable {α κ : Type*}

theorem map_modify {β γ : Type*} (f : β → β) (g : β → γ) (f' : γ → γ) (l : List β) (i : Nat)
    (h : ∀ x, g (f x) = f' (g x)) : (l.modify i f).map g = (l.map g).modify i f' := by
  refine List.ext_getElem? fun j => ?_
  simp only [List.getElem?_map, List.getElem?_modify]
  cases l[j]? with
  | none => rfl
  | some x => by_cases hij : i = j <;> simp [hij, h]

theorem map_modify_same {β γ : Type*} (f : β → β) (g : β → γ) (l : List β) (i : Nat) (h : ∀ x, g (f x) = g x) :
    (l.modify i f).map g = l.map g :=
  (map_modify f g id l i h).trans (List.modify_id i _)

structure Cluster (α : Type*) where
  first : α
  more : List α

def Cluster.items (g : Cluster α) : List α := g.first :: g.more

def Cluster.add (a : α) (g : Cluster α) : Cluster α := { g with more := g.more ++ [a] }

@[simp] theorem Cluster.add_first (a : α) (g : Cluster α) : (g.add a).first = g.first := rfl

@[simp] theorem Cluster.mem_add {a x : α} {g : Cluster α} : x ∈ (g.add a).items ↔ x = a ∨ x ∈ g.items := by
  simp only [Cluster.add, Cluster.items, List.mem_cons, List.mem_append, List.not_mem_nil, or_false]
  tauto

@[simp] theorem Cluster.mem_single {a x : α} : x ∈ (⟨a, []⟩ : Cluster α).items ↔ x = a := by simp [Cluster.items]

/-- How items are put into groups. -/
structure Scheme (α κ : Type*) where
  /-- The key under which an item starts a group, if it can start one. -/
  key : α → Option κ
  /-- What a group has to meet for the item to join it, one criterion after the other. -/
  criteria : α → List (Cluster α → Bool)

namespace Scheme
variable (S : Scheme α κ)

/-- The group an item joins. -/
def find (groups : List (Cluster α)) (a : α) : Option Nat :=
  (S.criteria a).findSome? fun meets => groups.findIdx? meets

/-! ### Without a map -/

def join (groups : List (Cluster α)) (a : α) : List (Cluster α) :=
  match S.find groups a with
  | some i => groups.modify i (Cluster.add a)
  | none => if (S.key a).isSome then groups ++ [⟨a, []⟩] else groups

/-- The groups that are formed when none is displaced. -/
def arrange (items : List α) : List (Cluster α) := items.foldl S.join []

/-- The keys of the items that start a group. -/
def startKeys (groups : List (Cluster α)) : List (Option κ) := groups.map fun g => S.key g.first

variable {S}

theorem find_lt {groups : List (Cluster α)} {a : α} {i : Nat} (h : S.find groups a = some i) : i < groups.length := by
  obtain ⟨meets, -, hi⟩ := List.exists_of_findSome?_eq_some h
  obtain ⟨hlt, -⟩ := List.findIdx?_eq_some_iff_getElem.mp hi
  exact hlt

theorem arrange_append (items : List α) (a : α) : S.arrange (items ++ [a]) = S.join (S.arrange items) a :=
  List.foldl_append

theorem startKeys_join (groups : List (Cluster α)) (a : α) :
    S.startKeys (S.join groups a) =
      if S.find groups a = none ∧ (S.key a).isSome then S.startKeys groups ++ [S.key a] else S.startKeys groups := by
  cases hf : S.find groups a with
  | some i =>
    have hsame : S.startKeys (groups.modify i (Cluster.add a)) = S.startKeys groups :=
      map_modify_same (Cluster.add a) (fun g => S.key g.first) groups i fun _ => rfl
    simp [join, hf, hsame]
  | none => by_cases hk : (S.key a).isSome <;> simp [join, hf, hk, startKeys]

/-- Every item with a key is in a group. -/
theorem mem_arrange {items : List α} {a : α} (ha : a ∈ items) (hk : (S.key a).isSome) :
    ∃ g ∈ S.arrange items, a ∈ g.items := by
  induction items using List.reverseRecOn with
  | nil => cases ha
  | append_singleton items b ih =>
    rw [arrange_append]
    cases hf : S.find (S.arrange items) b with
    | some i =>
      have hi := find_lt hf
      have hjoin : S.join (S.arrange items) b = (S.arrange items).modify i (Cluster.add b) := by simp [join, hf]
      rw [hjoin]
      rcases List.mem_append.mp ha with ha | ha
      · obtain ⟨g, hg, hag⟩ := ih ha
        obtain ⟨j, hj⟩ := List.mem_iff_getElem?.mp hg
        by_cases hij : i = j
        · subst hij
          exact ⟨g.add b, List.mem_of_getElem? (i := i) (by simp [hj]), by simp [hag]⟩
        · exact ⟨g, List.mem_of_getElem? (i := j) (by simp [hij, hj]), hag⟩
      · rw [List.mem_singleton] at ha
        exact ⟨(S.arrange items)[i].add b, List.mem_of_getElem? (i := i) (by simp [hi]), by simp [ha]⟩
    | none =>
      have hjoin : S.join (S.arrange items) b =
          if (S.key b).isSome then S.arrange items ++ [⟨b, []⟩] else S.arrange items := by simp [join, hf]
      rw [hjoin]
      rcases List.mem_append.mp ha with ha | ha
      · obtain ⟨g, hg, hag⟩ := ih ha
        split
        · exact ⟨g, List.mem_append_left _ hg, hag⟩
        · exact ⟨g, hg, hag⟩
      · rw [List.mem_singleton] at ha
        subst ha
        rw [if_pos hk]
        exact ⟨⟨a, []⟩, by simp, by simp⟩

/-- Who starts a group has a key. -/
theorem arrange_key {items : List α} {g : Cluster α} (hg : g ∈ S.arrange items) : (S.key g.first).isSome := by
  suffices h : ∀ k ∈ S.startKeys (S.arrange items), k.isSome from h _ (List.mem_map_of_mem hg)
  clear hg
  induction items using List.reverseRecOn with
  | nil => exact fun _ hk => (List.not_mem_nil hk).elim
  | append_singleton items a ih =>
    rw [arrange_append, startKeys_join]
    split
    · rename_i hstart
      intro k hk
      rcases List.mem_append.mp hk with hk | hk
      · exact ih k hk
      · rw [List.mem_singleton] at hk
        exact hk ▸ hstart.2
    · exact ih

/-! ### In a map -/

variable [DecidableEq κ]

variable (S) in
def place (s : List (κ × Cluster α)) (a : α) : List (κ × Cluster α) :=
  match S.find (s.map Prod.snd) a with
  | some i => s.modify i fun e => (e.1, e.2.add a)
  | none =>
    match S.key a with
    | some k => Dict.put s k ⟨a, []⟩
    | none => s

theorem place_joins {s : List (κ × Cluster α)} {a : α} {i : Nat} (h : S.find (s.map Prod.snd) a = some i) :
    S.place s a = s.modify i fun e => (e.1, e.2.add a) := by rw [place, h]

theorem place_starts {s : List (κ × Cluster α)} {a : α} {k : κ} (h : S.find (s.map Prod.snd) a = none)
    (hk : S.key a = some k) : S.place s a = Dict.put s k ⟨a, []⟩ := by rw [place, h, hk]

theorem place_drops {s : List (κ × Cluster α)} {a : α} (h : S.find (s.map Prod.snd) a = none)
    (hk : S.key a = none) : S.place s a = s := by rw [place, h, hk]

variable (S) in
def collect (items : List α) : List (κ × Cluster α) := items.foldl S.place []

variable (S) in
/-- The item starts a group under a key that another group has. -/
def Displaces (s : List (κ × Cluster α)) (a : α) : Prop :=
  S.find (s.map Prod.snd) a = none ∧ ∃ k, S.key a = some k ∧ k ∈ Dict.keys s

theorem collect_append (items : List α) (a : α) : S.collect (items ++ [a]) = S.place (S.collect items) a :=
  List.foldl_append

theorem nodup_place {s : List (κ × Cluster α)} (h : (Dict.keys s).Nodup) (a : α) : (Dict.keys (S.place s a)).Nodup := by
  rw [place]
  split
  · rename_i i _
    have hsame : Dict.keys (s.modify i fun e => (e.1, e.2.add a)) = Dict.keys s :=
      map_modify_same _ Prod.fst s i fun _ => rfl
    rw [hsame]
    exact h
  · split
    · exact Dict.nodup_put h _ _
    · exact h

theorem nodup_collect (items : List α) : (Dict.keys (S.collect items)).Nodup := by
  induction items using List.reverseRecOn with
  | nil => exact List.nodup_nil
  | append_singleton items a ih =>
    rw [collect_append]
    exact nodup_place ih a

variable (S) in
/-- The map holds the groups, each under the key of the item that started it. -/
structure Tracks (s : List (κ × Cluster α)) (groups : List (Cluster α)) : Prop where
  held : s.map Prod.snd = groups
  keys : s.map (fun e => some e.1) = S.startKeys groups

theorem tracks_place {s : List (κ × Cluster α)} {groups : List (Cluster α)} (h : S.Tracks s groups) {a : α}
    (ha : ¬S.Displaces s a) : S.Tracks (S.place s a) (S.join groups a) := by
  obtain ⟨rfl, hkeys⟩ := h
  cases hf : S.find (s.map Prod.snd) a with
  | some i =>
    have hplace := place_joins hf
    have hjoin : S.join (s.map Prod.snd) a = (s.map Prod.snd).modify i (Cluster.add a) := by simp [join, hf]
    refine ⟨?_, ?_⟩
    · rw [hplace, hjoin]
      exact map_modify _ Prod.snd (Cluster.add a) s i fun _ => rfl
    · rw [startKeys_join, hf, if_neg (by simp), ← hkeys, hplace]
      exact map_modify_same (fun e => (e.1, e.2.add a)) (fun e => some e.1) s i fun _ => rfl
  | none =>
    cases hk : S.key a with
    | none =>
      refine ⟨?_, ?_⟩
      · simp [place_drops hf hk, join, hf, hk]
      · rw [startKeys_join, if_neg (by simp [hk]), ← hkeys, place_drops hf hk]
    | some k =>
      have hnew : k ∉ Dict.keys s := fun hmem => ha ⟨hf, k, hk, hmem⟩
      refine ⟨?_, ?_⟩
      · simp [place_starts hf hk, join, hf, hk, Dict.put, hnew]
      · rw [startKeys_join, if_pos ⟨hf, by simp [hk]⟩, ← hkeys, place_starts hf hk]
        simp [hk, Dict.put, hnew]

variable (S) in
/-- No item displaces a group. -/
def Undisplaced (items : List α) : Prop :=
  ∀ before a after, items = before ++ a :: after → ¬S.Displaces (S.collect before) a

theorem Undisplaced.init {items : List α} {a : α} (h : S.Undisplaced (items ++ [a])) : S.Undisplaced items := by
  rintro before b after rfl
  exact h before b (after ++ [a]) (by simp)

theorem tracks_collect {items : List α} (h : S.Undisplaced items) : S.Tracks (S.collect items) (S.arrange items) := by
  induction items using List.reverseRecOn with
  | nil => exact ⟨rfl, rfl⟩
  | append_singleton items a ih =>
    rw [collect_append, arrange_append]
    exact tracks_place (ih h.init) (h items a [] rfl)

/-- No group is displaced exactly if no two items that start a group have the same key. -/
theorem undisplaced_iff {items : List α} : S.Undisplaced items ↔ (S.startKeys (S.arrange items)).Nodup := by
  constructor
  · intro h
    have hkeys : (Dict.keys (S.collect items)).Nodup := nodup_collect items
    have hmap : (S.collect items).map (fun e => some e.1) = (Dict.keys (S.collect items)).map some := by simp [Dict.keys]
    rw [← (tracks_collect h).keys, hmap]
    exact hkeys.map (Option.some_injective κ)
  · intro h
    induction items using List.reverseRecOn with
    | nil =>
      rintro before a after hsplit
      simp at hsplit
    | append_singleton items a ih =>
      rw [arrange_append, startKeys_join] at h
      have hprev : S.Undisplaced items := by
        refine ih ?_
        split at h
        · exact (List.nodup_append.mp h).1
        · exact h
      rintro before b after hsplit
      rcases List.eq_nil_or_concat after with rfl | ⟨after, c, rfl⟩
      · obtain ⟨rfl, hab⟩ := List.append_inj' hsplit rfl
        cases hab
        rintro ⟨hfind, k, hk, hmem⟩
        have htracks := tracks_collect hprev
        rw [htracks.held] at hfind
        rw [if_pos ⟨hfind, by simp [hk]⟩, ← htracks.keys] at h
        obtain ⟨e, he, hek⟩ := List.mem_map.mp hmem
        have hclash := (List.nodup_append.mp h).2.2 (some e.1) (List.mem_map_of_mem he) (S.key a) (by simp)
        exact hclash (by rw [hk, hek])
      · rw [List.concat_eq_append] at hsplit
        refine hprev before b after ?_
        have : items ++ [a] = (before ++ b :: after) ++ [c] := by simpa using hsplit
        exact (List.append_inj' this rfl).1

end Scheme

/-! ### Groups by a relation -/

section Sharing
variable (key : α → Option κ) (shares : α → α → Bool)

/-- An item joins the first group that has an item it shares something with. -/
def sharing : Scheme α κ := ⟨key, fun a => [fun g => g.items.any fun m => shares m a]⟩

/-- Two items are in one group. -/
def Together (s : List (κ × Cluster α)) (x y : α) : Prop := ∃ e ∈ s, x ∈ e.2.items ∧ y ∈ e.2.items

/-- Sharing is the equivalence `C`, among the items that can start a group and others. -/
structure Classes (items : List α) (C : α → α → Prop) : Prop where
  shared : ∀ x ∈ items, ∀ y ∈ items, x ≠ y → (C x y ↔ (key x).isSome ∧ shares x y = true)
  /-- Who shares with another has no key in common with one it does not share with. -/
  apart : ∀ x ∈ items, ∀ y ∈ items, x ≠ y → C x y →
    ∀ d ∈ items, d ≠ x → shares x d = false → key x ≠ key d

variable {key shares} [DecidableEq κ]

variable (key shares) in
/-- What a step does: an item joins a group, starts one, or is dropped. -/
theorem place_cases {s : List (κ × Cluster α)} (h : (Dict.keys s).Nodup) (a : α) :
    (∃ e ∈ s, (∃ m ∈ e.2.items, shares m a = true) ∧
      (sharing key shares).place s a = Dict.put s e.1 (e.2.add a)) ∨
    ((∀ e ∈ s, ∀ m ∈ e.2.items, shares m a = false) ∧
      ((key a = none ∧ (sharing key shares).place s a = s) ∨
        ∃ k, key a = some k ∧ (sharing key shares).place s a = Dict.put s k ⟨a, []⟩)) := by
  have hfind : (sharing key shares).find (s.map Prod.snd) a =
      (s.map Prod.snd).findIdx? fun g => g.items.any fun m => shares m a := by
    rw [Scheme.find, sharing, List.findSome?_cons]
    cases (s.map Prod.snd).findIdx? fun g => g.items.any fun m => shares m a <;> rfl
  cases hf : (sharing key shares).find (s.map Prod.snd) a with
  | some i =>
    left
    obtain ⟨hi, hany, -⟩ := List.findIdx?_eq_some_iff_getElem.mp (hfind.symm.trans hf)
    have his : i < s.length := by simpa using hi
    obtain ⟨m, hm, hshares⟩ := List.any_eq_true.mp hany
    rw [List.getElem_map] at hm
    refine ⟨s[i], List.getElem_mem his, ⟨m, hm, hshares⟩, ?_⟩
    have hget : s[i]? = some (s[i].1, s[i].2) := List.getElem?_eq_getElem his
    rw [Dict.put_of_getElem? h hget, Scheme.place_joins hf]
    refine List.ext_getElem? fun j => ?_
    simp only [List.getElem?_modify]
    by_cases hij : i = j
    · subst hij
      simp [List.getElem?_eq_getElem his]
    · simp [hij]
  | none =>
    right
    refine ⟨fun e he m hm => ?_, ?_⟩
    · have hnone := List.findIdx?_eq_none_iff.mp (hfind.symm.trans hf) e.2 (List.mem_map_of_mem he)
      simpa using (List.any_eq_false.mp hnone) m hm
    · cases hk : key a with
      | none => exact .inl ⟨rfl, Scheme.place_drops hf hk⟩
      | some k => exact .inr ⟨k, rfl, Scheme.place_starts hf hk⟩

/-- What is in a group after a step was in it before, or is the item that came. -/
theorem mem_place {s : List (κ × Cluster α)} (h : (Dict.keys s).Nodup) {a : α} {e : κ × Cluster α}
    (he : e ∈ (sharing key shares).place s a) :
    e ∈ s ∨ (∃ e' ∈ s, e.2.items = (e'.2.add a).items) ∨ e.2.items = [a] := by
  obtain ⟨e', he', -, hp⟩ | ⟨-, ⟨-, hp⟩ | ⟨k, -, hp⟩⟩ := place_cases key shares h a
  · rw [hp, Dict.mem_put] at he
    obtain rfl | ⟨he, -⟩ := he
    · exact .inr (.inl ⟨e', he', rfl⟩)
    · exact .inl he
  · exact .inl (hp ▸ he)
  · rw [hp, Dict.mem_put] at he
    obtain rfl | ⟨he, -⟩ := he
    · exact .inr (.inr rfl)
    · exact .inl he

/-! ### One order -/

/-- The groups so far are classes of `C`, and hold all that have another one in their class. -/
structure Sorted (key : α → Option κ) (items done : List α) (C : α → α → Prop) (s : List (κ × Cluster α)) : Prop where
  class_of : ∀ e ∈ s, key e.2.first = some e.1 ∧ ∀ x ∈ e.2.items, x ∈ done ∧ (x = e.2.first ∨ C e.2.first x)
  present : ∀ x ∈ done, ∀ y ∈ items, x ≠ y → C x y → ∃ e ∈ s, x ∈ e.2.items
  single : ∀ e ∈ s, ∀ e' ∈ s, C e.2.first e'.2.first → e.1 = e'.1

variable {C : α → α → Prop}

section Step
variable {items done : List α} {s : List (κ × Cluster α)} {a : α}

omit [DecidableEq κ] in
theorem Sorted.first_done (h : Sorted key items done C s) {e : κ × Cluster α} (he : e ∈ s) : e.2.first ∈ done :=
  ((h.class_of e he).2 _ List.mem_cons_self).1

omit [DecidableEq κ] in
/-- A group that stays as it is. -/
theorem Sorted.class_grown (h : Sorted key items done C s) {e : κ × Cluster α} (he : e ∈ s) :
    key e.2.first = some e.1 ∧ ∀ x ∈ e.2.items, x ∈ done ++ [a] ∧ (x = e.2.first ∨ C e.2.first x) := by
  obtain ⟨hkey, hmem⟩ := h.class_of e he
  exact ⟨hkey, fun x hx => ⟨List.mem_append_left _ (hmem x hx).1, (hmem x hx).2⟩⟩

omit [DecidableEq κ] in
/-- An item is in the class of a group that has an item it shares something with. -/
theorem Sorted.class_joined (h : Sorted key items done C s) (hsymm : ∀ x y, C x y → C y x)
    (htrans : ∀ x y z, C x y → C y z → C x z) (hsub : ∀ x ∈ done, x ∈ items) (hC : Classes key shares items C)
    (ha : a ∈ items) (hne : ∀ x ∈ done, x ≠ a) {e : κ × Cluster α} (he : e ∈ s) {m : α} (hm : m ∈ e.2.items)
    (hshares : shares m a = true) : C e.2.first a := by
  obtain ⟨hkey, hmem⟩ := h.class_of e he
  obtain ⟨hmdone, hclass⟩ := hmem m hm
  have hshared : (key m).isSome → C m a := fun hmkey =>
    (hC.shared m (hsub m hmdone) a ha (hne m hmdone)).mpr ⟨hmkey, hshares⟩
  by_cases hmf : m = e.2.first
  · subst hmf
    exact hshared (by rw [hkey]; rfl)
  · have hmC := hclass.resolve_left hmf
    have hmkey := ((hC.shared m (hsub m hmdone) _ (hsub _ (h.first_done he)) hmf).mp (hsymm _ _ hmC)).1
    exact htrans _ _ _ hmC (hshared hmkey)

/-- An item joins a group of its class. -/
theorem Sorted.joined (h : Sorted key items done C s) (hnodup : (Dict.keys s).Nodup) {e : κ × Cluster α} (he : e ∈ s)
    (hjoin : C e.2.first a) : Sorted key items (done ++ [a]) C (Dict.put s e.1 (e.2.add a)) := by
  have hkept : ∀ e' ∈ s, ∃ e'' ∈ Dict.put s e.1 (e.2.add a), ∀ x ∈ e'.2.items, x ∈ e''.2.items := by
    intro e' he'
    by_cases hkeys : e'.1 = e.1
    · have : e' = e := List.inj_on_of_nodup_map hnodup he' he hkeys
      subst this
      exact ⟨_, Dict.mem_put.mpr (.inl rfl), fun x hx => Cluster.mem_add.mpr (.inr hx)⟩
    · exact ⟨e', Dict.mem_put.mpr (.inr ⟨he', hkeys⟩), fun x hx => hx⟩
  have hold : ∀ e' ∈ Dict.put s e.1 (e.2.add a), ∃ e'' ∈ s, e''.1 = e'.1 ∧ e''.2.first = e'.2.first := by
    intro e' he'
    obtain rfl | ⟨he', -⟩ := Dict.mem_put.mp he'
    · exact ⟨e, he, rfl, rfl⟩
    · exact ⟨e', he', rfl, rfl⟩
  refine ⟨fun e' he' => ?_, fun x hx y hy hxy hCxy => ?_, fun e₁ he₁ e₂ he₂ hCe => ?_⟩
  · obtain rfl | ⟨he', -⟩ := Dict.mem_put.mp he'
    · obtain ⟨hkey, hmem⟩ := h.class_grown (a := a) he
      refine ⟨hkey, fun x hx => ?_⟩
      obtain rfl | hx := Cluster.mem_add.mp hx
      · exact ⟨by simp, .inr hjoin⟩
      · exact hmem x hx
    · exact h.class_grown he'
  · rcases List.mem_append.mp hx with hx | hx
    · obtain ⟨e', he', hxe⟩ := h.present x hx y hy hxy hCxy
      obtain ⟨e'', he'', hmem⟩ := hkept e' he'
      exact ⟨e'', he'', hmem x hxe⟩
    · rw [List.mem_singleton] at hx
      exact ⟨_, Dict.mem_put.mpr (.inl rfl), hx ▸ Cluster.mem_add.mpr (.inl rfl)⟩
  · obtain ⟨o₁, ho₁, hk₁, hf₁⟩ := hold e₁ he₁
    obtain ⟨o₂, ho₂, hk₂, hf₂⟩ := hold e₂ he₂
    rw [← hk₁, ← hk₂]
    exact h.single o₁ ho₁ o₂ ho₂ (by rw [hf₁, hf₂]; exact hCe)

omit [DecidableEq κ] in
/-- An item that cannot start a group has none in its class, and is dropped. -/
theorem Sorted.dropped (h : Sorted key items done C s) (hC : Classes key shares items C) (ha : a ∈ items)
    (hk : key a = none) : Sorted key items (done ++ [a]) C s := by
  refine ⟨fun e he => h.class_grown he, fun x hx y hy hxy hCxy => ?_, h.single⟩
  rcases List.mem_append.mp hx with hx | hx
  · exact h.present x hx y hy hxy hCxy
  · rw [List.mem_singleton] at hx
    subst hx
    have hkey := ((hC.shared x ha y hy hxy).mp hCxy).1
    simp [hk] at hkey

omit [DecidableEq κ] in
/-- A group of which an item has another one in its class shares no key with an item it does
not share with. -/
theorem Sorted.keeps_key (h : Sorted key items done C s) (hsub : ∀ x ∈ done, x ∈ items) (hC : Classes key shares items C)
    (ha : a ∈ items) (hne : ∀ x ∈ done, x ≠ a) {e : κ × Cluster α} (he : e ∈ s) (hfar : shares e.2.first a = false)
    {x y : α} (hxe : x ∈ e.2.items) (hy : y ∈ items) (hxy : x ≠ y) (hCxy : C x y) : key a ≠ some e.1 := by
  have hf := h.first_done he
  have hpartner : ∃ p ∈ items, e.2.first ≠ p ∧ C e.2.first p := by
    obtain ⟨hxdone, rfl | hxC⟩ := (h.class_of e he).2 x hxe
    · exact ⟨y, hy, hxy, hCxy⟩
    · by_cases hxf : e.2.first = x
      · exact ⟨y, hy, hxf ▸ hxy, hxf ▸ hCxy⟩
      · exact ⟨x, hsub x hxdone, hxf, hxC⟩
  obtain ⟨p, hp, hfp, hCp⟩ := hpartner
  have hapart := hC.apart _ (hsub _ hf) p hp hfp hCp a ha (hne _ hf).symm hfar
  rw [(h.class_of e he).1] at hapart
  exact Ne.symm hapart

/-- An item that shares with none starts a group, and displaces none that is needed. -/
theorem Sorted.started (h : Sorted key items done C s) (hsymm : ∀ x y, C x y → C y x) (hsub : ∀ x ∈ done, x ∈ items)
    (hC : Classes key shares items C) (ha : a ∈ items) (hne : ∀ x ∈ done, x ≠ a)
    (hnone : ∀ e ∈ s, ∀ m ∈ e.2.items, shares m a = false) {k : κ} (hk : key a = some k) :
    Sorted key items (done ++ [a]) C (Dict.put s k ⟨a, []⟩) := by
  have hfar : ∀ e ∈ s, ¬C e.2.first a := by
    intro e he hCa
    have hf := h.first_done he
    have hshares := ((hC.shared _ (hsub _ hf) a ha (hne _ hf)).mp hCa).2
    rw [hnone e he _ List.mem_cons_self] at hshares
    cases hshares
  refine ⟨fun e he => ?_, fun x hx y hy hxy hCxy => ?_, fun e₁ he₁ e₂ he₂ hCe => ?_⟩
  · obtain rfl | ⟨he, -⟩ := Dict.mem_put.mp he
    · refine ⟨hk, fun x hx => ?_⟩
      rw [Cluster.mem_single] at hx
      exact ⟨by simp [hx], .inl hx⟩
    · exact h.class_grown he
  · rcases List.mem_append.mp hx with hx | hx
    · obtain ⟨e, he, hxe⟩ := h.present x hx y hy hxy hCxy
      have hkeeps := h.keeps_key hsub hC ha hne he (hnone e he _ List.mem_cons_self) hxe hy hxy hCxy
      exact ⟨e, Dict.mem_put.mpr (.inr ⟨he, fun hek => hkeeps (hek ▸ hk)⟩), hxe⟩
    · rw [List.mem_singleton] at hx
      exact ⟨_, Dict.mem_put.mpr (.inl rfl), hx ▸ Cluster.mem_single.mpr rfl⟩
  · obtain rfl | ⟨he₁, -⟩ := Dict.mem_put.mp he₁ <;> obtain rfl | ⟨he₂, -⟩ := Dict.mem_put.mp he₂
    · rfl
    · exact absurd (hsymm _ _ hCe) (hfar e₂ he₂)
    · exact absurd hCe (hfar e₁ he₁)
    · exact h.single e₁ he₁ e₂ he₂ hCe

theorem sorted_place (hsymm : ∀ x y, C x y → C y x) (htrans : ∀ x y z, C x y → C y z → C x z)
    (hsub : ∀ x ∈ done, x ∈ items) (hC : Classes key shares items C) (hnodup : (Dict.keys s).Nodup)
    (h : Sorted key items done C s) (ha : a ∈ items) (hnew : a ∉ done) :
    Sorted key items (done ++ [a]) C ((sharing key shares).place s a) := by
  have hne : ∀ x ∈ done, x ≠ a := fun x hx hxa => hnew (hxa ▸ hx)
  obtain ⟨e, he, ⟨m, hm, hshares⟩, hp⟩ | ⟨hnone, ⟨hk, hp⟩ | ⟨k, hk, hp⟩⟩ := place_cases key shares hnodup a
  · rw [hp]
    exact h.joined hnodup he (h.class_joined hsymm htrans hsub hC ha hne he hm hshares)
  · rw [hp]
    exact h.dropped hC ha hk
  · rw [hp]
    exact h.started hsymm hsub hC ha hne hnone hk

end Step

theorem sorted_collect (hsymm : ∀ x y, C x y → C y x) (htrans : ∀ x y z, C x y → C y z → C x z)
    {items : List α} (hC : Classes key shares items C) {done : List α} (hsub : ∀ x ∈ done, x ∈ items)
    (hnodup : done.Nodup) : Sorted key items done C ((sharing key shares).collect done) := by
  induction done using List.reverseRecOn with
  | nil =>
    exact ⟨fun _ he => (List.not_mem_nil he).elim, fun _ hx => (List.not_mem_nil hx).elim,
      fun _ he => (List.not_mem_nil he).elim⟩
  | append_singleton done a ih =>
    obtain ⟨hdone, -, hnew⟩ := List.nodup_append.mp hnodup
    have hsub' : ∀ x ∈ done, x ∈ items := fun x hx => hsub x (List.mem_append_left _ hx)
    rw [Scheme.collect_append]
    exact sorted_place hsymm htrans hsub' hC (Scheme.nodup_collect done) (ih hsub' hdone)
      (hsub a (by simp)) fun ha => hnew a ha a (by simp) rfl

theorem together_of_classes (hsymm : ∀ x y, C x y → C y x) (htrans : ∀ x y z, C x y → C y z → C x z)
    {items order : List α} (hC : Classes key shares items C) (hp : order.Perm items) (hnodup : items.Nodup)
    {x y : α} (hx : x ∈ items) (hy : y ∈ items) (hxy : x ≠ y) :
    Together ((sharing key shares).collect order) x y ↔ C x y := by
  have h := sorted_collect hsymm htrans hC (fun x hx => hp.mem_iff.mp hx) (hp.nodup_iff.mpr hnodup)
  constructor
  · rintro ⟨e, he, hxe, hye⟩
    obtain ⟨-, rfl | hCx⟩ := (h.class_of e he).2 x hxe <;> obtain ⟨-, hy' | hCy⟩ := (h.class_of e he).2 y hye
    · exact absurd hy'.symm hxy
    · exact hCy
    · exact hy' ▸ hsymm _ _ hCx
    · exact htrans _ _ _ (hsymm _ _ hCx) hCy
  · intro hCxy
    obtain ⟨e, he, hxe⟩ := h.present x (hp.mem_iff.mpr hx) y hy hxy hCxy
    obtain ⟨e', he', hye⟩ := h.present y (hp.mem_iff.mpr hy) x hx (Ne.symm hxy) (hsymm _ _ hCxy)
    have hfirsts : C e.2.first e'.2.first := by
      have hxy' : C e.2.first y := by
        obtain ⟨-, rfl | hCx⟩ := (h.class_of e he).2 x hxe
        · exact hCxy
        · exact htrans _ _ _ hCx hCxy
      obtain ⟨-, rfl | hCy⟩ := (h.class_of e' he').2 y hye
      · exact hxy'
      · exact htrans _ _ _ hxy' (hsymm _ _ hCy)
    have hkeys := h.single e he e' he' hfirsts
    have : e = e' := List.inj_on_of_nodup_map (Scheme.nodup_collect order) he he' hkeys
    exact ⟨e, he, hxe, this ▸ hye⟩

/-! ### All orders -/

/-- An item that came and is in no group stays out. -/
theorem absent_place {s : List (κ × Cluster α)} (h : (Dict.keys s).Nodup) {x a : α} (hxa : x ≠ a)
    (hx : ∀ e ∈ s, x ∉ e.2.items) : ∀ e ∈ (sharing key shares).place s a, x ∉ e.2.items := by
  intro e he hxe
  obtain he | ⟨e', he', hitems⟩ | hitems := mem_place h he
  · exact hx e he hxe
  · rw [hitems, Cluster.mem_add] at hxe
    exact hxe.elim hxa (hx e' he')
  · rw [hitems, List.mem_singleton] at hxe
    exact hxa hxe

/-- Two items that came and are not together stay apart. -/
theorem apart_place {s : List (κ × Cluster α)} (h : (Dict.keys s).Nodup) {x y a : α} (hxa : x ≠ a) (hya : y ≠ a)
    (hxy : ¬Together s x y) : ¬Together ((sharing key shares).place s a) x y := by
  rintro ⟨e, he, hxe, hye⟩
  obtain he | ⟨e', he', hitems⟩ | hitems := mem_place h he
  · exact hxy ⟨e, he, hxe, hye⟩
  · rw [hitems, Cluster.mem_add] at hxe hye
    exact hxy ⟨e', he', hxe.resolve_left hxa, hye.resolve_left hya⟩
  · rw [hitems, List.mem_singleton] at hxe
    exact hxa hxe

/-- What the items of `rest` preserve holds at the end of them. -/
theorem run_keeps {P : List (κ × Cluster α) → Prop} {rest : List α}
    (hstep : ∀ a ∈ rest, ∀ s, (Dict.keys s).Nodup → P s → P ((sharing key shares).place s a))
    {s : List (κ × Cluster α)} (hs : (Dict.keys s).Nodup) (h : P s) :
    P (rest.foldl (sharing key shares).place s) := by
  induction rest generalizing s with
  | nil => exact h
  | cons a rest ih =>
    exact ih (fun b hb => hstep b (List.mem_cons_of_mem _ hb)) (Scheme.nodup_place hs a)
      (hstep a List.mem_cons_self s hs h)

/-- The map after the first two items. -/
theorem collect_two (x y : α) (rest : List α) :
    (sharing key shares).collect (x :: y :: rest) =
      rest.foldl (sharing key shares).place ((sharing key shares).collect [x, y]) := rfl

omit [DecidableEq κ] in
theorem find_empty (x : α) : (sharing key shares).find (([] : List (κ × Cluster α)).map Prod.snd) x = none := rfl

theorem collect_one_none {x : α} (hx : key x = none) : (sharing key shares).collect [x] = [] :=
  Scheme.place_drops (S := sharing key shares) (find_empty x) hx

theorem collect_one_some {x : α} {k : κ} (hx : key x = some k) :
    (sharing key shares).collect [x] = [(k, ⟨x, []⟩)] :=
  Scheme.place_starts (S := sharing key shares) (find_empty x) hx

/-- Two items that come first and are together at the end: one has joined the other's group. -/
theorem joined_of_together {x y : α} (hxy : x ≠ y) {rest : List α} (hx : x ∉ rest) (hy : y ∉ rest)
    (h : Together ((sharing key shares).collect (x :: y :: rest)) x y) :
    (key x).isSome ∧ shares x y = true := by
  have htwo : Together ((sharing key shares).collect [x, y]) x y := by
    by_contra hnot
    rw [collect_two] at h
    exact run_keeps (P := fun s => ¬Together s x y)
      (fun a ha s hs => apart_place hs (fun hxa => hx (hxa ▸ ha)) fun hya => hy (hya ▸ ha))
      (Scheme.nodup_collect _) hnot h
  have hplace : (sharing key shares).collect [x, y] =
      (sharing key shares).place ((sharing key shares).collect [x]) y := rfl
  obtain ⟨e, he, hxe, hye⟩ := htwo
  rw [hplace] at he
  have hnodup : (Dict.keys ((sharing key shares).collect [x])).Nodup := Scheme.nodup_collect _
  cases hk : key x with
  | none =>
    rw [collect_one_none hk] at he
    have hempty : (Dict.keys ([] : List (κ × Cluster α))).Nodup := List.nodup_nil
    obtain he | ⟨e', he', -⟩ | hitems := mem_place hempty he
    · cases he
    · cases he'
    · rw [hitems, List.mem_singleton] at hxe
      exact absurd hxe hxy
  | some k =>
    refine ⟨rfl, ?_⟩
    rw [collect_one_some hk] at he hnodup
    have hsingle : ∀ e' ∈ [(k, (⟨x, []⟩ : Cluster α))], e'.2.items = [x] := by
      intro e' he'
      rw [List.mem_singleton] at he'
      rw [he']
      rfl
    obtain ⟨e', he', ⟨m, hm, hshares⟩, -⟩ | ⟨-, hend⟩ :=
      place_cases key shares hnodup y
    · rw [hsingle e' he', List.mem_singleton] at hm
      exact hm ▸ hshares
    · -- otherwise `y` would be alone in its group, and `x` in its own
      exfalso
      have halone : e.2.items = [x] ∨ e.2.items = [y] := by
        obtain ⟨-, hp⟩ | ⟨k', -, hp⟩ := hend
        · exact .inl (hsingle e (hp ▸ he))
        · rw [hp, Dict.mem_put] at he
          obtain rfl | ⟨he, -⟩ := he
          · exact .inr rfl
          · exact .inl (hsingle e he)
      obtain hitems | hitems := halone
      · rw [hitems, List.mem_singleton] at hye
        exact hxy hye.symm
      · rw [hitems, List.mem_singleton] at hxe
        exact hxy hxe

/-- An item whose group is displaced is in no group at the end. -/
theorem absent_of_displaced {x d : α} (hxd : d ≠ x) {k : κ} (hkx : key x = some k) (hkd : key d = some k)
    (hshares : shares x d = false) {rest : List α} (hx : x ∉ rest) :
    ∀ e ∈ (sharing key shares).collect (x :: d :: rest), x ∉ e.2.items := by
  rw [collect_two]
  refine run_keeps (P := fun s => ∀ e ∈ s, x ∉ e.2.items)
    (fun a ha s hs => absent_place hs fun hxa => hx (hxa ▸ ha)) (Scheme.nodup_collect _) ?_
  have hfind : (sharing key shares).find (((sharing key shares).collect [x]).map Prod.snd) d = none := by
    rw [collect_one_some hkx]
    simp [Scheme.find, sharing, Cluster.items, hshares]
  have hplace : (sharing key shares).collect [x, d] = Dict.put ((sharing key shares).collect [x]) k ⟨d, []⟩ :=
    Scheme.place_starts hfind hkd
  intro e he hxe
  rw [hplace, collect_one_some hkx, Dict.mem_put, List.mem_singleton] at he
  obtain rfl | ⟨rfl, hne⟩ := he
  · rw [Cluster.mem_single] at hxe
    exact hxd hxe.symm
  · exact hne rfl

/-- Items that have the key of `f` and share nothing with it make groups under that key. -/
theorem collect_displacers {f : α} {k : κ} {before : List α} (h : ∀ d ∈ before, key d = some k ∧ shares d f = false) :
    ∀ e ∈ (sharing key shares).collect before, e.1 = k ∧ ∀ m ∈ e.2.items, shares m f = false := by
  refine run_keeps (P := fun s => ∀ e ∈ s, e.1 = k ∧ ∀ m ∈ e.2.items, shares m f = false) (fun a ha s hs hgroups => ?_)
    List.nodup_nil fun e he => (List.not_mem_nil he).elim
  intro e he
  obtain ⟨e', he', -, hp⟩ | ⟨-, ⟨-, hp⟩ | ⟨k', hk', hp⟩⟩ := place_cases key shares hs a
  · rw [hp, Dict.mem_put] at he
    obtain rfl | ⟨he, -⟩ := he
    · refine ⟨(hgroups e' he').1, fun m hm => ?_⟩
      obtain rfl | hm := Cluster.mem_add.mp hm
      · exact (h m ha).2
      · exact (hgroups e' he').2 m hm
    · exact hgroups e he
  · exact hgroups e (hp ▸ he)
  · rw [hp, Dict.mem_put] at he
    obtain rfl | ⟨he, -⟩ := he
    · refine ⟨Option.some_inj.mp (hk'.symm.trans (h a ha).1), fun m hm => ?_⟩
      rw [Cluster.mem_single] at hm
      exact hm ▸ (h a ha).2
    · exact hgroups e he

/-- After them `f` starts a group, and it is the only one left. -/
theorem starts_alone {f : α} {k : κ} (hk : key f = some k) {s : List (κ × Cluster α)} (hs : (Dict.keys s).Nodup)
    (h : ∀ e ∈ s, e.1 = k ∧ ∀ m ∈ e.2.items, shares m f = false) (e : κ × Cluster α) :
    e ∈ (sharing key shares).place s f ↔ e = (k, ⟨f, []⟩) := by
  obtain ⟨e', he', ⟨m, hm, hmf⟩, -⟩ | ⟨-, ⟨hnone, -⟩ | ⟨k', hk', hp⟩⟩ := place_cases key shares hs f
  · rw [(h e' he').2 m hm] at hmf
    cases hmf
  · rw [hk] at hnone
    cases hnone
  · obtain rfl : k = k' := Option.some_inj.mp (hk.symm.trans hk')
    rw [hp, Dict.mem_put]
    constructor
    · intro he
      exact he.elim id fun he => absurd (h e he.1).1 he.2
    · exact .inl

/-- The group of `f` and `g` stays, unless an item starts one under its key. -/
theorem together_place {f g a : α} {k : κ} {s : List (κ × Cluster α)} (hs : (Dict.keys s).Nodup)
    (hsafe : key a = some k → shares f a = true) (h : ∃ e ∈ s, e.1 = k ∧ f ∈ e.2.items ∧ g ∈ e.2.items) :
    ∃ e ∈ (sharing key shares).place s a, e.1 = k ∧ f ∈ e.2.items ∧ g ∈ e.2.items := by
  obtain ⟨e, he, hek, hfe, hge⟩ := h
  obtain ⟨e', he', -, hp⟩ | ⟨hnone, ⟨-, hp⟩ | ⟨k', hk', hp⟩⟩ := place_cases key shares hs a
  · rw [hp]
    by_cases hkeys : e.1 = e'.1
    · have : e = e' := List.inj_on_of_nodup_map hs he he' hkeys
      subst this
      exact ⟨_, Dict.mem_put.mpr (.inl rfl), hek, Cluster.mem_add.mpr (.inr hfe), Cluster.mem_add.mpr (.inr hge)⟩
    · exact ⟨e, Dict.mem_put.mpr (.inr ⟨he, hkeys⟩), hek, hfe, hge⟩
  · rw [hp]
    exact ⟨e, he, hek, hfe, hge⟩
  · have hne : e.1 ≠ k' := by
      intro hkeys
      have hfa := hsafe (hk'.trans (by rw [← hkeys, hek]))
      rw [hnone e he f hfe] at hfa
      cases hfa
    rw [hp]
    exact ⟨e, Dict.mem_put.mpr (.inr ⟨he, hne⟩), hek, hfe, hge⟩

/-- Of two items that share something, and of which the first can start a group, some
order makes one group: those that could displace it come before it. -/
theorem exists_together [DecidableEq α] {items : List α} {f g : α} (hf : f ∈ items)
    (hg : g ∈ items) (hfg : f ≠ g) {k : κ} (hk : key f = some k) (hshares : shares f g = true)
    (hsymm : ∀ x y, shares x y = shares y x) :
    ∃ order, order.Perm items ∧ Together ((sharing key shares).collect order) f g := by
  let others := (items.erase f).erase g
  let danger : α → Bool := fun d => decide (key d = some k) && !shares f d
  let before := others.filter danger
  let after := others.filter fun d => !danger d
  have hperm : (before ++ f :: g :: after).Perm items := by
    have hothers : (before ++ after).Perm others := List.filter_append_perm _ _
    have hg' : g ∈ items.erase f := (List.mem_erase_of_ne hfg.symm).mpr hg
    calc (before ++ f :: g :: after).Perm (f :: (before ++ g :: after)) := List.perm_middle
      _ |>.Perm (f :: g :: (before ++ after)) := List.perm_middle.cons _
      _ |>.Perm (f :: g :: others) := (hothers.cons _).cons _
      _ |>.Perm (f :: items.erase f) := (List.perm_cons_erase hg').symm.cons _
      _ |>.Perm items := (List.perm_cons_erase hf).symm
  have hbefore : ∀ d ∈ before, key d = some k ∧ shares d f = false := by
    intro d hd
    have hdanger := (List.mem_filter.mp hd).2
    simp only [danger, Bool.and_eq_true, decide_eq_true_eq, Bool.not_eq_true'] at hdanger
    exact ⟨hdanger.1, (hsymm d f).trans hdanger.2⟩
  have hnodupb : (Dict.keys ((sharing key shares).collect before)).Nodup := Scheme.nodup_collect _
  have hnodupf := Scheme.nodup_place (S := sharing key shares) hnodupb f
  have hstart := starts_alone hk hnodupb (collect_displacers hbefore)
  -- `g` joins the group of `f`
  have hjoined : ∃ e ∈ (sharing key shares).place ((sharing key shares).place ((sharing key shares).collect before) f) g,
      e.1 = k ∧ f ∈ e.2.items ∧ g ∈ e.2.items := by
    obtain ⟨e, he, -, hp⟩ | ⟨hnone, -⟩ := place_cases key shares hnodupf g
    · rw [hstart] at he
      subst he
      rw [hp]
      exact ⟨_, Dict.mem_put.mpr (.inl rfl), rfl, by simp, by simp⟩
    · have hfalse := hnone _ ((hstart _).mpr rfl) f (by simp)
      rw [hshares] at hfalse
      cases hfalse
  -- and nothing after them displaces it
  have hend : ∃ e ∈ (sharing key shares).collect (before ++ f :: g :: after), e.1 = k ∧ f ∈ e.2.items ∧ g ∈ e.2.items := by
    have hsplit : (sharing key shares).collect (before ++ f :: g :: after) = after.foldl (sharing key shares).place
        ((sharing key shares).place ((sharing key shares).place ((sharing key shares).collect before) f) g) :=
      List.foldl_append
    rw [hsplit]
    refine run_keeps (P := fun s => ∃ e ∈ s, e.1 = k ∧ f ∈ e.2.items ∧ g ∈ e.2.items) (fun a ha s hs => ?_)
      (Scheme.nodup_place hnodupf g) hjoined
    refine together_place hs fun hka => ?_
    have hsafe := (List.mem_filter.mp ha).2
    simpa [danger, hka] using hsafe
  obtain ⟨e, he, -, hfe, hge⟩ := hend
  exact ⟨_, hperm, e, he, hfe, hge⟩

variable (key) in
/-- In every order, two items are in one group exactly if `C` holds of them: that is so if
and only if `C` is what sharing is, and keys keep apart what does not share. -/
theorem together_iff [DecidableEq α] (hshares : ∀ x y, shares x y = shares y x)
    (hsymm : ∀ x y, C x y → C y x) (htrans : ∀ x y z, C x y → C y z → C x z) {items : List α}
    (hnodup : items.Nodup) :
    (∀ order, order.Perm items → ∀ x ∈ items, ∀ y ∈ items, x ≠ y →
      (Together ((sharing key shares).collect order) x y ↔ C x y)) ↔ Classes key shares items C := by
  constructor
  · intro h
    have hfirst : ∀ x ∈ items, ∀ y ∈ items, x ≠ y →
        ∃ rest, (x :: y :: rest).Perm items ∧ x ∉ rest ∧ y ∉ rest := by
      intro x hx y hy hxy
      have hy' : y ∈ items.erase x := (List.mem_erase_of_ne (Ne.symm hxy)).mpr hy
      have hperm : (x :: y :: (items.erase x).erase y).Perm items :=
        ((List.perm_cons_erase hy').symm.cons x).trans (List.perm_cons_erase hx).symm
      have hnd := hperm.nodup_iff.mpr hnodup
      rw [List.nodup_cons, List.nodup_cons, List.mem_cons, not_or] at hnd
      exact ⟨_, hperm, hnd.1.2, hnd.2.1⟩
    have hshared : ∀ x ∈ items, ∀ y ∈ items, x ≠ y → (C x y ↔ (key x).isSome ∧ shares x y = true) := by
      intro x hx y hy hxy
      constructor
      · intro hC
        obtain ⟨rest, hperm, hxr, hyr⟩ := hfirst x hx y hy hxy
        exact joined_of_together hxy hxr hyr ((h _ hperm x hx y hy hxy).mpr hC)
      · rintro ⟨hkey, hxyshares⟩
        obtain ⟨k, hk⟩ := Option.isSome_iff_exists.mp hkey
        obtain ⟨order, hperm, htogether⟩ := exists_together hx hy hxy hk hxyshares hshares
        exact (h order hperm x hx y hy hxy).mp htogether
    refine ⟨hshared, fun x hx y hy hxy hC d hd hdx hfar hkeys => ?_⟩
    obtain ⟨k, hk⟩ := Option.isSome_iff_exists.mp ((hshared x hx y hy hxy).mp hC).1
    obtain ⟨rest, hperm, hxr, -⟩ := hfirst x hx d hd (Ne.symm hdx)
    obtain ⟨e, he, hxe, -⟩ := (h _ hperm x hx y hy hxy).mpr hC
    exact absent_of_displaced hdx hk (hkeys.symm.trans hk) hfar hxr e he hxe
  · intro hC order hp x hx y hy hxy
    exact together_of_classes hsymm htrans hC hp hnodup hx hy hxy

end Sharing
end Grouping
