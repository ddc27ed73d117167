import Mathlib.Data.List.Lex
import MagicShare.Base.Dict
import MagicShare.Receive.FileSaver

/-! Renaming the selected files with a counter (`applyCounter`).

Each file is called prefix, number, dot, extension, in the order chosen. The padded number
that `padLeft` answers is dropped, and a file without an extension gets a dot all the same.
So the new names are as they should be exactly when every file has an extension and, where
padding is asked for, the numerals of files with the same extension are in dictionary order
as they stand (`counted_iff`); up to nine files they are (`counted_of_nine`). -/
namespace MagicShare.Receive

/-! ### The code -/

/-- The code units of a text, which `compareTo` compares. -/
def utf16Units (text : String) : List Nat :=
  text.toList.flatMap fun c =>
    if c.toNat < 0x10000 then [c.toNat]
    else [0xD800 + (c.toNat - 0x10000) / 0x400, 0xDC00 + (c.toNat - 0x10000) % 0x400]

section
variable (toLowerCase : String → String)

/-- The getter `extension`. -/
def fileExtension (name : String) : String :=
  if '.' ∈ name.toList then toLowerCase (String.ofList (splitExtension name.toList).2) else ""

def withFileNameKeepExtension (name fileNameWithoutExt : String) : String :=
  fileNameWithoutExt ++ "." ++ fileExtension toLowerCase name

def padLeft (text : String) (width : Nat) (padding : Char) : String :=
  String.ofList (List.replicate (width - text.length) padding) ++ text

/-- File ids with the names the files are to get. -/
abbrev SelectedFiles := OrderedMap String String

/-- The order the files are numbered in. -/
def chosenOrder (sort : List (String × String) → List (String × String)) (sortFirst : Bool) (s : SelectedFiles) :
    List (String × String) :=
  if sortFirst then sort s.entries else s.entries

/-- The entries of the state after `applyCounter`. -/
def applyCounter (sort : List (String × String) → List (String × String)) (s : SelectedFiles)
    (namePrefix : String) (padZero sortFirst : Bool) : List (String × String) :=
  let files := chosenOrder sort sortFirst s
  let maxKeyStringLength := (toString files.length).length
  files.mapIdx fun index element =>
    let number := toString (index + 1)
    -- a text does not change: what is padded is dropped
    let _dropped := if padZero then padLeft number maxKeyStringLength '0' else number
    (element.1, withFileNameKeepExtension toLowerCase element.2 (namePrefix ++ number))

end

/-! ### The property -/

/-- `List.sort` by the names: files of one name may come in any order. -/
structure SortsByName (sort : List (String × String) → List (String × String)) : Prop where
  perm : ∀ files, (sort files).Perm files
  sorted : ∀ files, (sort files).Pairwise fun a b => ¬ utf16Units b.2 < utf16Units a.2

/-- A name with its own extension, which may be none (`String.withExtension`). -/
def numbered (namePrefix : String) (zeros number : Nat) (extension : String) : String :=
  withExtension (namePrefix ++ String.ofList (List.replicate zeros '0') ++ toString number).toList extension

/-- The files in their order, each renamed to prefix, number and own extension, and with
padding in the order of the numbers when they are sorted by name. -/
structure Counted (toLowerCase : String → String) (files : List (String × String)) (namePrefix : String)
    (padZero : Bool) (renamed : List (String × String)) : Prop where
  ids : renamed.map Prod.fst = files.map Prod.fst
  form : ∀ i id name fileName, files[i]? = some (id, name) → renamed[i]? = some (id, fileName) →
    ∃ zeros, (padZero = false → zeros = 0) ∧
      fileName = numbered namePrefix zeros (i + 1) (fileExtension toLowerCase name)
  inOrder : padZero = true → ∀ (i j : Nat) (a b x y : String × String), files[i]? = some a → files[j]? = some b →
    fileExtension toLowerCase a.2 = fileExtension toLowerCase b.2 → renamed[i]? = some x → renamed[j]? = some y →
      (utf16Units x.2 < utf16Units y.2 ↔ i < j)

variable {toLowerCase : String → String} {sort : List (String × String) → List (String × String)} {s : SelectedFiles}
  {namePrefix : String} {padZero sortFirst : Bool}

/-! ### Texts in order -/

theorem utf16Units_append (a b : String) : utf16Units (a ++ b) = utf16Units a ++ utf16Units b := by
  simp [utf16Units]

/-- What two texts begin with in common does not matter. -/
theorem append_lt_append_iff (common a b : List Nat) : common ++ a < common ++ b ↔ a < b := by
  induction common with
  | nil => rfl
  | cons c common ih => rw [List.cons_append, List.cons_append, List.cons_lt_cons_self, ih]

/-- What follows a unit below all others does not matter. -/
theorem terminated_lt_iff {low : Nat} {a b : List Nat} (ha : ∀ x ∈ a, low < x) (hb : ∀ x ∈ b, low < x)
    (rest : List Nat) : a ++ low :: rest < b ++ low :: rest ↔ a < b := by
  induction a generalizing b with
  | nil =>
    cases b with
    | nil => simp
    | cons y b =>
      have hy := hb y List.mem_cons_self
      simp [List.cons_lt_cons_iff, hy]
  | cons x a ih =>
    have hx := ha x List.mem_cons_self
    cases b with
    | nil => simp [List.cons_lt_cons_iff]; omega
    | cons y b =>
      simp only [List.cons_append, List.cons_lt_cons_iff]
      rw [ih (fun z hz => ha z (List.mem_cons_of_mem _ hz)) (fun z hz => hb z (List.mem_cons_of_mem _ hz))]

/-- The units of a numeral are above the dot. -/
theorem dot_lt_of_mem_numeral {n x : Nat} (h : x ∈ utf16Units (toString n)) : 46 < x := by
  obtain ⟨c, hc, hx⟩ := List.mem_flatMap.mp h
  have hdigit : c.isDigit = true :=
    Nat.isDigit_of_mem_toDigits (b := 10) (by decide) (by decide) (by simpa [Nat.toString_eq_repr] using hc)
  obtain ⟨hlow, hhigh⟩ : 48 ≤ c.toNat ∧ c.toNat ≤ 57 := by
    simp only [Char.isDigit, Bool.and_eq_true, decide_eq_true_eq] at hdigit
    exact ⟨hdigit.1, hdigit.2⟩
  rw [if_pos (by omega), List.mem_singleton] at hx
  omega

/-- Names with one prefix and one extension are in the order of their numerals. -/
theorem renamed_lt_iff (namePrefix extension : String) (m n : Nat) :
    utf16Units (namePrefix ++ toString m ++ "." ++ extension) <
        utf16Units (namePrefix ++ toString n ++ "." ++ extension) ↔
      utf16Units (toString m) < utf16Units (toString n) := by
  have hdot : utf16Units "." = [46] := by decide +kernel
  simp only [utf16Units_append, hdot, List.append_assoc, List.singleton_append]
  rw [append_lt_append_iff]
  exact terminated_lt_iff (fun _ => dot_lt_of_mem_numeral) (fun _ => dot_lt_of_mem_numeral) _

/-- Numerals in order one way are in order both ways. -/
theorem numeral_lt_iff {i j : Nat} (hup : i < j → utf16Units (toString (i + 1)) < utf16Units (toString (j + 1)))
    (hdown : j < i → utf16Units (toString (j + 1)) < utf16Units (toString (i + 1))) :
    utf16Units (toString (i + 1)) < utf16Units (toString (j + 1)) ↔ i < j := by
  refine ⟨fun h => ?_, hup⟩
  by_contra hnot
  rcases Nat.lt_or_eq_of_le (Nat.le_of_not_lt hnot) with hlt | heq
  · exact lt_asymm h (hdown hlt)
  · rw [heq] at h
    exact lt_irrefl _ h

theorem numerals_of_nine : ∀ j < 9, ∀ i < j, utf16Units (toString (i + 1)) < utf16Units (toString (j + 1)) := by
  decide +kernel

/-! ### The new names -/

/-- The name of a file as it is numbered. -/
def newName (toLowerCase : String → String) (namePrefix : String) (i : Nat) (name : String) : String :=
  namePrefix ++ toString (i + 1) ++ "." ++ fileExtension toLowerCase name

theorem getElem?_applyCounter (i : Nat) :
    (applyCounter toLowerCase sort s namePrefix padZero sortFirst)[i]? =
      (chosenOrder sort sortFirst s)[i]?.map fun file => (file.1, newName toLowerCase namePrefix i file.2) := by
  rw [applyCounter, List.getElem?_mapIdx]
  rfl

/-- What is renamed at a place. -/
theorem eq_of_getElem?_applyCounter {i : Nat} {file renamed : String × String}
    (hfile : (chosenOrder sort sortFirst s)[i]? = some file)
    (h : (applyCounter toLowerCase sort s namePrefix padZero sortFirst)[i]? = some renamed) :
    renamed = (file.1, newName toLowerCase namePrefix i file.2) := by
  rw [getElem?_applyCounter, hfile] at h
  exact (Option.some.inj h).symm

theorem ids_applyCounter :
    (applyCounter toLowerCase sort s namePrefix padZero sortFirst).map Prod.fst =
      (chosenOrder sort sortFirst s).map Prod.fst := by
  refine List.ext_getElem? fun i => ?_
  rw [List.getElem?_map, getElem?_applyCounter, List.getElem?_map, Option.map_map]
  rfl

theorem perm_chosenOrder (hsort : SortsByName sort) : (chosenOrder sort sortFirst s).Perm s.entries := by
  unfold chosenOrder
  split_ifs
  · exact hsort.perm s.entries
  · exact List.Perm.refl _

/-- With an extension the dot belongs to it. -/
theorem numbered_of_extension {extension : String} (h : extension ≠ "") (number : Nat) :
    numbered namePrefix 0 number extension = namePrefix ++ toString number ++ "." ++ extension := by
  have hnone : String.ofList (List.replicate 0 '0') = "" := rfl
  rw [numbered, withExtension, if_neg h, String.ofList_toList, hnone, String.append_empty]

/-- Without an extension the name ends in a digit, not in a dot. -/
theorem numbered_ne_dot (zeros number other : Nat) :
    namePrefix ++ toString number ++ "." ++ "" ≠ numbered namePrefix zeros other "" := by
  intro h
  have hlast := congrArg (fun text : String => text.toList.getLast?) h
  have hdigits : Nat.toDigits 10 other ≠ [] := Nat.toDigits_ne_nil
  have hdot : (Nat.toDigits 10 other).getLast? = some '.' := by
    simpa [numbered, withExtension, Nat.toString_eq_repr, List.getLast?_append_of_ne_nil _ hdigits] using hlast.symm
  have hdigit := Nat.isDigit_of_mem_toDigits (by decide) (by decide) (List.mem_of_getLast? hdot)
  exact absurd hdigit (by decide)

/-! ### All selections -/

/-- With extensions and with the numerals in order, the counter does what it should. -/
theorem counted_of (hsort : SortsByName sort) (hextensions : ∀ file ∈ s.entries, fileExtension toLowerCase file.2 ≠ "")
    (horder : padZero = true → ∀ (i j : Nat) (a b : String × String), i < j →
      (chosenOrder sort sortFirst s)[i]? = some a → (chosenOrder sort sortFirst s)[j]? = some b →
      fileExtension toLowerCase a.2 = fileExtension toLowerCase b.2 →
        utf16Units (toString (i + 1)) < utf16Units (toString (j + 1))) :
    Counted toLowerCase (chosenOrder sort sortFirst s) namePrefix padZero
      (applyCounter toLowerCase sort s namePrefix padZero sortFirst) where
  ids := ids_applyCounter
  form i id name fileName hfile hrenamed := by
    have hextension := hextensions (id, name) ((perm_chosenOrder hsort).mem_iff.mp (List.mem_of_getElem? hfile))
    have hname : (id, fileName) = (id, newName toLowerCase namePrefix i name) :=
      eq_of_getElem?_applyCounter hfile hrenamed
    exact ⟨0, fun _ => rfl, (Prod.mk.inj hname).2.trans (numbered_of_extension hextension (i + 1)).symm⟩
  inOrder hpad i j a b x y ha hb hextension hx hy := by
    rw [eq_of_getElem?_applyCounter ha hx, eq_of_getElem?_applyCounter hb hy, newName, newName, hextension,
      renamed_lt_iff]
    exact numeral_lt_iff (horder hpad i j a b · ha hb hextension) (horder hpad j i b a · hb ha hextension.symm)

/-- Up to nine files need no padding. -/
theorem counted_of_nine (hsort : SortsByName sort) (hfew : s.entries.length ≤ 9)
    (hextensions : ∀ file ∈ s.entries, fileExtension toLowerCase file.2 ≠ "") :
    Counted toLowerCase (chosenOrder sort sortFirst s) namePrefix padZero
      (applyCounter toLowerCase sort s namePrefix padZero sortFirst) := by
  have hlength : (chosenOrder sort sortFirst s).length = s.entries.length := (perm_chosenOrder hsort).length_eq
  refine counted_of hsort hextensions fun _ i j a b hij _ hb _ => ?_
  obtain ⟨hj, -⟩ := List.getElem?_eq_some_iff.mp hb
  exact numerals_of_nine j (by omega) i hij

/-- **The counter does what it should exactly when each file has an extension and the
numerals to be padded are in order without it.** -/
theorem counted_iff (toLowerCase : String → String) (hsort : SortsByName sort) (s : SelectedFiles)
    (namePrefix : String) (padZero sortFirst : Bool) :
    ((chosenOrder sort sortFirst s).Perm s.entries ∧
      (sortFirst = true → (chosenOrder sort sortFirst s).Pairwise fun a b => ¬ utf16Units b.2 < utf16Units a.2) ∧
      (sortFirst = false → chosenOrder sort sortFirst s = s.entries)) ∧
    (Counted toLowerCase (chosenOrder sort sortFirst s) namePrefix padZero
        (applyCounter toLowerCase sort s namePrefix padZero sortFirst) ↔
      (∀ file ∈ s.entries, fileExtension toLowerCase file.2 ≠ "") ∧
      (padZero = true → ∀ (i j : Nat) (a b : String × String), i < j →
        (chosenOrder sort sortFirst s)[i]? = some a → (chosenOrder sort sortFirst s)[j]? = some b →
        fileExtension toLowerCase a.2 = fileExtension toLowerCase b.2 →
          utf16Units (toString (i + 1)) < utf16Units (toString (j + 1)))) := by
  have hperm : (chosenOrder sort sortFirst s).Perm s.entries := perm_chosenOrder hsort
  refine ⟨⟨hperm, fun h => ?_, fun h => ?_⟩, ?_⟩
  · rw [chosenOrder, if_pos h]
    exact hsort.sorted s.entries
  · rw [chosenOrder, h]
    rfl
  constructor
  · intro hcounted
    refine ⟨fun file hfile hnone => ?_, fun hpad i j a b hij ha hb hextension => ?_⟩
    · obtain ⟨i, hi⟩ := List.mem_iff_getElem?.mp (hperm.mem_iff.mpr hfile)
      obtain ⟨zeros, -, hname⟩ := hcounted.form i file.1 file.2 (newName toLowerCase namePrefix i file.2) hi
        (by rw [getElem?_applyCounter, hi]; rfl)
      rw [newName, hnone] at hname
      exact numbered_ne_dot zeros (i + 1) (i + 1) hname
    · have horder := (hcounted.inOrder hpad i j a b (a.1, newName toLowerCase namePrefix i a.2)
        (b.1, newName toLowerCase namePrefix j b.2) ha hb hextension (by rw [getElem?_applyCounter, ha]; rfl)
        (by rw [getElem?_applyCounter, hb]; rfl)).mpr hij
      rw [newName, newName, hextension] at horder
      exact (renamed_lt_iff namePrefix _ _ _).mp horder
  · intro ⟨hextensions, horder⟩
    exact counted_of hsort hextensions horder

/-- The names in order, by merging. -/
def sortByName (files : List (String × String)) : List (String × String) :=
  files.mergeSort fun a b => ¬ utf16Units b.2 < utf16Units a.2

theorem sortByName_sorts : SortsByName sortByName where
  perm files := List.mergeSort_perm files _
  sorted files := by
    have hsorted : (sortByName files).Pairwise fun a b => decide (¬ utf16Units b.2 < utf16Units a.2) = true := by
      refine List.pairwise_mergeSort (fun a b c hab hbc => ?_) (fun a b => ?_) files
      · simp only [not_lt, decide_eq_true_eq] at *
        exact hab.trans hbc
      · simpa using le_total _ _
    exact hsorted.imp fun h => of_decide_eq_true h

/-- Two pictures as they come. -/
def pictures : SelectedFiles := ⟨[("f1", "b.jpg"), ("f2", "a.png")], by decide +kernel⟩

theorem counted_iff_pictures : applyCounter id sortByName pictures "trip" true false =
      [("f1", "trip1.jpg"), ("f2", "trip2.png")] ∧
    Counted id (chosenOrder sortByName false pictures) "trip" true
      (applyCounter id sortByName pictures "trip" true false) :=
  ⟨by decide +kernel, (counted_iff id sortByName_sorts pictures "trip" true false).2.mpr
    ⟨by decide +kernel, fun _ i j a b hij ha hb hextension => by
      obtain ⟨hi, rfl⟩ := List.getElem?_eq_some_iff.mp ha
      obtain ⟨hj, rfl⟩ := List.getElem?_eq_some_iff.mp hb
      have hj2 : j < 2 := hj
      obtain ⟨rfl, rfl⟩ : i = 0 ∧ j = 1 := by omega
      have hdiffer : fileExtension id "b.jpg" ≠ fileExtension id "a.png" := by decide +kernel
      exact absurd hextension hdiffer⟩⟩

/-- Ten pictures of one kind. -/
def tenPictures : SelectedFiles :=
  ⟨(List.range 10).map fun i => (toString i, "photo.jpg"), by decide +kernel⟩

/-- The tenth of ten padded pictures comes before the second. -/
theorem tenth_before_second : ¬ Counted id (chosenOrder sortByName false tenPictures) "" true
    (applyCounter id sortByName tenPictures "" true false) := by
  intro hcounted
  have horder := hcounted.inOrder rfl 9 1 ("9", "photo.jpg") ("1", "photo.jpg") ("9", "10.jpg") ("1", "2.jpg")
    (by decide +kernel) (by decide +kernel) rfl (by decide +kernel) (by decide +kernel)
  exact absurd (horder.mp (by decide +kernel)) (by decide)

example : applyCounter id sortByName ⟨[("f1", "README")], by decide⟩ "" false false = [("f1", "1.")] := by
  decide +kernel

end MagicShare.Receive
