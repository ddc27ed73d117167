import Mathlib.Data.Finset.Card
import Mathlib.Data.List.DropRight
import Mathlib.Data.Set.Finite.Basic
import MagicShare.Receive.FileSaver

/-! Where a received file goes (`digestFilePathAndPrepareDirectory`).

The sender chooses the file name, with directories, with `..`, absolute. The directories
are joined to the parent directory and the result must lie within it; the last part is
made a legal name, and a number is added to it, a higher one each time, until no file is
there. The search ends because each number gives another name (`withCount_injective`) and
a directory holds finitely many files, and what it finds is where it should be
(`destination_confined`). One file may be found under several paths. -/
namespace MagicShare.Receive

/-! ### The code -/

/-- What a saved file is known by: its path, its document when the storage access framework
writes it, its name. -/
structure Destination where
  path : String
  documentUri : Option String
  finalName : String
  deriving DecidableEq

/-- A device, with the parts of the package `path` and of `ContentUriHelper` that only
this function uses. -/
structure DigestEnv extends SaverEnv where
  /-- `convertTreeUriToDocumentUri` without a suffix. -/
  rootDocumentUri : String → String
  isSeparator : Char → Bool
  dirname : String → String
  equals : String → String → Bool

/-- `String.parentPath`. -/
def parentPath (path : String) : String :=
  String.intercalate "/" ((path.replace "\\" "/").splitOn "/").dropLast

section
variable (env : DigestEnv)

/-- The `do … while` from this counter on; `none` where the fuel does not last. -/
def searchFrom (fileExists : String → Bool) (parentDirectory fileName : String) : Nat → Nat → Option String
  | 0, _ => none
  | fuel + 1, counter =>
    let path := destinationPath env.toSaverEnv parentDirectory fileName counter
    if fileExists path then searchFrom fileExists parentDirectory fileName fuel (counter + 1) else some path

/-- `digestFilePathAndPrepareDirectory` while the same files exist. Making directories makes
no file, and a directory that cannot be made is only logged. -/
def digestFilePathAndPrepareDirectory (fileExists : String → Bool) (parentDirectory fileName : String) (fuel : Nat) :
    Option (Except String Destination) :=
  if isContentUri parentDirectory then
    some (.ok {
      path := env.documentUri parentDirectory fileName
      documentUri :=
        if '/' ∈ fileName.toList then env.documentUri parentDirectory (parentPath fileName)
        else env.rootDocumentUri parentDirectory
      finalName := env.basename fileName })
  -- without a part, `take` is asked for minus one
  else if env.split fileName = [] then some (.error "RangeError")
  else if pathTraversal env.toSaverEnv parentDirectory fileName then some (.error "Path traversal detected")
  else (searchFrom env fileExists parentDirectory fileName fuel 1).map fun path =>
    .ok {path, documentUri := none, finalName := env.basename path}

end

/-! ### What the packages promise -/

namespace DigestEnv

/-- A name that stands for a file of the directory it is joined to. -/
structure Plain (env : DigestEnv) (name : String) : Prop where
  nonempty : name ≠ ""
  noSeparator : ∀ c ∈ name.toList, env.isSeparator c = false
  notDot : name ≠ "."
  notDotDot : name ≠ ".."

/-- The packages `path` and `legalize` as they are documented. -/
structure Documented (env : DigestEnv) : Prop where
  separators : ∀ c, env.isSeparator c = true → c = '/' ∨ c = '\\'
  joinAll_one : ∀ path, env.joinAll [path] = path
  /-- The part after the last separator. -/
  basename_join : ∀ directory name, env.Plain name → env.basename (env.joinAll [directory, name]) = name
  /-- The part before the last separator, as a location. -/
  dirname_join : ∀ directory name, env.Plain name →
    env.equals directory (env.dirname (env.joinAll [directory, name])) = true
  /-- Two paths of one location lie within the same directories. -/
  isWithin_congr : ∀ parent a b, env.equals a b = true → env.isWithin parent a = env.isWithin parent b
  toLowerCase_noSeparator : ∀ text : String, (∀ c ∈ text.toList, env.isSeparator c = false) →
    ∀ c ∈ (env.toLowerCase text).toList, env.isSeparator c = false
  legalizeFilename_plain : ∀ name, env.Plain (env.legalizeFilename name)

/-- The files are finitely many: no directory has infinitely many names of files. -/
def FinitelyMany (env : DigestEnv) (fileExists : String → Bool) : Prop :=
  ∀ directory, {name | env.Plain name ∧ fileExists (env.joinAll [directory, name]) = true}.Finite

end DigestEnv

variable {env : DigestEnv} {fileExists : String → Bool} {parentDirectory fileName : String}

/-! ### Names with a count -/

theorem toString_injective {m n : Nat} (h : toString m = toString n) : m = n := by
  have hdigits : Nat.toDigits 10 m = Nat.toDigits 10 n := by
    simpa only [Nat.toString_eq_repr, Nat.toList_repr] using congrArg String.toList h
  simpa using congrArg (fun digits => Nat.ofDigitChars 10 digits 0) hdigits

theorem withExtension_injective {extension : String} {a b : List Char}
    (h : withExtension a extension = withExtension b extension) : a = b := by
  unfold withExtension at h
  split_ifs at h
  · exact String.ofList_injective h
  · have hlist := congrArg String.toList h
    simp only [String.toList_append, String.toList_ofList, List.append_assoc] at hlist
    exact List.append_cancel_right hlist

theorem withCount_eq (env : SaverEnv) (name : String) (count : Nat) :
    withCount env name count = withExtension
      ((fileNumberFront (splitExtension name.toList).1).getD (splitExtension name.toList).1 ++
        (" (" ++ toString count ++ ")").toList)
      (env.toLowerCase (String.ofList (splitExtension name.toList).2)) := rfl

/-- Each count gives another name, whatever number the name already has. -/
theorem withCount_injective (env : SaverEnv) (name : String) : Function.Injective (withCount env name) := by
  intro m n h
  have hfront := withExtension_injective h
  have hcount := String.toList_injective (List.append_cancel_left hfront)
  have hlist := congrArg String.toList hcount
  simp only [String.toList_append, List.append_assoc] at hlist
  exact toString_injective (String.toList_injective (List.append_cancel_right (List.append_cancel_left hlist)))

/-- A name with a dot is what is before its last dot and what is after it. -/
theorem splitExtension_spec (name : List Char) :
    splitExtension name = (name, []) ∨ name = (splitExtension name).1 ++ '.' :: (splitExtension name).2 := by
  unfold splitExtension
  rw [List.span_eq_takeWhile_dropWhile]
  have happend := List.takeWhile_append_dropWhile (p := fun c => decide (c ≠ '.')) (l := name.reverse)
  cases hrest : name.reverse.dropWhile (fun c => decide (c ≠ '.')) with
  | nil => exact .inl rfl
  | cons dot front =>
    have hdot : dot = '.' := by
      have hhead := List.head?_dropWhile_not (fun c => decide (c ≠ '.')) name.reverse
      rw [hrest] at hhead
      simpa using hhead
    subst hdot
    refine .inr ?_
    rw [hrest] at happend
    have hname := congrArg List.reverse happend
    simpa using hname.symm

/-- What is split is part of the name. -/
theorem mem_of_mem_splitExtension {name : List Char} {c : Char}
    (h : c ∈ (splitExtension name).1 ∨ c ∈ (splitExtension name).2) : c ∈ name := by
  rcases splitExtension_spec name with hnone | hsplit
  · rw [hnone] at h
    simpa using h
  · rw [hsplit]
    rcases h with h | h
    · exact List.mem_append_left _ h
    · exact List.mem_append_right _ (List.mem_cons_of_mem _ h)

theorem mem_of_mem_fileNumberFront {name front : List Char} {c : Char} (h : fileNumberFront name = some front)
    (hc : c ∈ front) : c ∈ name := by
  unfold fileNumberFront at h
  split at h
  · next rest hreverse =>
    rw [List.span_eq_takeWhile_dropWhile] at h
    split at h
    · next digits space before hspan =>
      split_ifs at h
      obtain rfl := Option.some.inj h
      have hdrop : '(' :: space :: before = rest.dropWhile Char.isDigit := (congrArg Prod.snd hspan).symm
      have hmem : c ∈ rest.dropWhile Char.isDigit := by
        rw [← hdrop]
        exact List.mem_cons_of_mem _ (List.mem_cons_of_mem _ (List.mem_reverse.mp hc))
      have hrest : c ∈ name.reverse := by
        rw [hreverse]
        exact List.mem_cons_of_mem _ ((List.dropWhile_sublist _).mem hmem)
      exact List.mem_reverse.mp hrest
    · cases h
  · cases h

theorem mem_withExtension {name : List Char} {extension : String} {c : Char}
    (h : c ∈ (withExtension name extension).toList) : c ∈ name ∨ c = '.' ∨ c ∈ extension.toList := by
  unfold withExtension at h
  split_ifs at h
  · exact .inl (by simpa using h)
  · simpa [or_assoc] using h

namespace DigestEnv.Documented

/-- Neither `/` nor `\`, so no separator. -/
theorem noSeparator (h : env.Documented) {c : Char} (hslash : c ≠ '/') (hbackslash : c ≠ '\\') :
    env.isSeparator c = false := by
  cases hc : env.isSeparator c with
  | false => rfl
  | true => exact ((h.separators c hc).elim hslash hbackslash).elim

theorem noSeparator_count (h : env.Documented) {count : Nat} {c : Char}
    (hc : c ∈ (" (" ++ toString count ++ ")").toList) : env.isSeparator c = false := by
  have hc : c = ' ' ∨ c = '(' ∨ c ∈ Nat.toDigits 10 count ∨ c = ')' := by simpa using hc
  rcases hc with rfl | rfl | hdigit | rfl
  · exact h.noSeparator (by decide) (by decide)
  · exact h.noSeparator (by decide) (by decide)
  · have hdigit := Nat.isDigit_of_mem_toDigits (by decide) (by decide) hdigit
    refine h.noSeparator ?_ ?_ <;> rintro rfl <;> exact absurd hdigit (by decide)
  · exact h.noSeparator (by decide) (by decide)

/-- A name with a count is a name. -/
theorem withCount_plain (h : env.Documented) {name : String} (hname : env.Plain name) (count : Nat) :
    env.Plain (withCount env.toSaverEnv name count) := by
  have hmem : '(' ∈ (withCount env.toSaverEnv name count).toList := by
    simp only [withCount, withExtension]
    split_ifs <;> simp
  have hnot : ∀ other : String, '(' ∉ other.toList → withCount env.toSaverEnv name count ≠ other := by
    rintro other hother rfl
    exact hother hmem
  refine ⟨hnot "" (by decide), fun c hc => ?_, hnot "." (by decide), hnot ".." (by decide)⟩
  have hpart : ∀ c, c ∈ (splitExtension name.toList).1 ∨ c ∈ (splitExtension name.toList).2 →
      env.isSeparator c = false := fun c hc => hname.noSeparator c (mem_of_mem_splitExtension hc)
  -- the characters of the front and of the extension are the name's
  rw [withCount_eq] at hc
  rcases mem_withExtension hc with hfront | rfl | hextension
  · rcases List.mem_append.mp hfront with hfront | hcount
    · cases hnumber : fileNumberFront (splitExtension name.toList).1 with
      | none =>
        rw [hnumber] at hfront
        exact hpart c (.inl hfront)
      | some front =>
        rw [hnumber] at hfront
        exact hpart c (.inl (mem_of_mem_fileNumberFront hnumber hfront))
    · exact h.noSeparator_count hcount
  · exact h.noSeparator (by decide) (by decide)
  · refine h.toLowerCase_noSeparator _ (fun c hc => ?_) c hextension
    exact hpart c (.inr (by simpa using hc))

/-- What the search tries at a count: a name in the target directory. -/
theorem destinationPath_eq (h : env.Documented) (parentDirectory fileName : String) (counter : Nat) :
    ∃ name, env.Plain name ∧ destinationPath env.toSaverEnv parentDirectory fileName counter =
        env.joinAll [targetDirectory env.toSaverEnv parentDirectory fileName, name] := by
  have hlegal := h.legalizeFilename_plain (env.basename fileName)
  by_cases hone : counter = 1
  · exact ⟨_, hlegal, by simp [destinationPath, hone]⟩
  · exact ⟨_, h.withCount_plain hlegal counter, by simp [destinationPath, hone]⟩

end DigestEnv.Documented

/-! ### The search -/

/-- What is found is one of the candidates and is no file. -/
theorem searchFrom_found {fuel counter : Nat} {path : String}
    (h : searchFrom env fileExists parentDirectory fileName fuel counter = some path) :
    fileExists path = false ∧ ∃ n, path = destinationPath env.toSaverEnv parentDirectory fileName n := by
  induction fuel generalizing counter with
  | zero => cases h
  | succ fuel ih =>
    simp only [searchFrom] at h
    split_ifs at h with hexists
    · exact ih h
    · obtain rfl := Option.some.inj h
      exact ⟨by simpa using hexists, counter, rfl⟩

/-- More fuel changes nothing. -/
theorem searchFrom_more {fuel counter : Nat} {path : String}
    (h : searchFrom env fileExists parentDirectory fileName fuel counter = some path) (more : Nat) :
    searchFrom env fileExists parentDirectory fileName (fuel + more) counter = some path := by
  induction fuel generalizing counter with
  | zero => cases h
  | succ fuel ih =>
    rw [Nat.add_right_comm]
    simp only [searchFrom] at h ⊢
    split_ifs at h ⊢ with hexists
    · exact ih h
    · exact h

/-- A search that used all its fuel saw a file at each candidate. -/
theorem searchFrom_none {fuel counter : Nat}
    (h : searchFrom env fileExists parentDirectory fileName fuel counter = none) {n : Nat} (hn : n < fuel) :
    fileExists (destinationPath env.toSaverEnv parentDirectory fileName (counter + n)) = true := by
  induction fuel generalizing counter n with
  | zero => omega
  | succ fuel ih =>
    simp only [searchFrom] at h
    split_ifs at h with hexists
    cases n with
    | zero => exact hexists
    | succ n =>
      have hlater := ih h (n := n) (by omega)
      rwa [Nat.add_right_comm] at hlater

/-- **The search ends**: of more names than the directory has, one is free. -/
theorem searchFrom_ends (h : env.Documented) (hfiles : env.FinitelyMany fileExists)
    (parentDirectory fileName : String) : ∃ fuel path, searchFrom env fileExists parentDirectory fileName fuel 1 = some path := by
  let names := (hfiles (targetDirectory env.toSaverEnv parentDirectory fileName)).toFinset
  cases hsearch : searchFrom env fileExists parentDirectory fileName (names.card + 2) 1 with
  | some path => exact ⟨_, path, hsearch⟩
  | none =>
    have hlegal := h.legalizeFilename_plain (env.basename fileName)
    have hmaps : ∀ n ∈ Finset.range (names.card + 1),
        withCount env.toSaverEnv (env.legalizeFilename (env.basename fileName)) (n + 2) ∈ names := by
      intro n hn
      rw [Finset.mem_range] at hn
      have hexists := searchFrom_none hsearch (n := n + 1) (by omega)
      rw [show 1 + (n + 1) = n + 2 by omega, destinationPath, if_neg (by omega)] at hexists
      exact (Set.Finite.mem_toFinset _).mpr ⟨h.withCount_plain hlegal (n + 2), hexists⟩
    obtain ⟨m, -, n, -, hne, heq⟩ := Finset.exists_ne_map_eq_of_card_lt_of_maps_to (by simp) hmaps
    have hcount := withCount_injective env.toSaverEnv _ heq
    omega

/-- **Destinations are fresh and confined**: after enough checks it has thrown, or has a path
in the parent directory or below it at which there is no file. -/
theorem destination_confined (h : env.Documented) (hfiles : env.FinitelyMany fileExists)
    {parentDirectory fileName : String} (hparent : isContentUri parentDirectory = false)
    (hname : env.split fileName ≠ []) :
    ∃ enough outcome, (∀ fuel, enough ≤ fuel →
        digestFilePathAndPrepareDirectory env fileExists parentDirectory fileName fuel = some outcome) ∧
      ∀ destination, outcome = .ok destination →
        (env.equals parentDirectory (env.dirname destination.path) = true ∨
          env.isWithin parentDirectory (env.dirname destination.path) = true) ∧
        fileExists destination.path = false := by
  cases htraversal : pathTraversal env.toSaverEnv parentDirectory fileName with
  | true =>
    refine ⟨0, .error "Path traversal detected", fun fuel _ => ?_, fun destination hok => by cases hok⟩
    simp [digestFilePathAndPrepareDirectory, hparent, hname, htraversal]
  | false =>
    obtain ⟨enough, path, hsearch⟩ := searchFrom_ends h hfiles parentDirectory fileName
    refine ⟨enough, .ok ⟨path, none, env.basename path⟩, fun fuel hfuel => ?_, fun destination hok => ?_⟩
    · obtain ⟨more, rfl⟩ := Nat.exists_eq_add_of_le hfuel
      have hmore := searchFrom_more hsearch more
      simp [digestFilePathAndPrepareDirectory, hparent, hname, htraversal, hmore]
    · cases hok
      obtain ⟨hfree, n, rfl⟩ := searchFrom_found hsearch
      refine ⟨?_, hfree⟩
      obtain ⟨name, hplain, hpath⟩ := h.destinationPath_eq parentDirectory fileName n
      rw [hpath]
      have hdirectory := h.dirname_join (targetDirectory env.toSaverEnv parentDirectory fileName) name hplain
      by_cases hparts : 1 < (env.split fileName).length
      · -- the directory was checked
        refine .inr ?_
        rw [← h.isWithin_congr parentDirectory _ _ hdirectory]
        simpa [pathTraversal, hparts] using htraversal
      · -- a name of one part goes into the parent directory itself
        have hone : (env.split fileName).dropLast = [] := by
          rw [← List.length_eq_zero_iff, List.length_dropLast]
          omega
        have htarget : targetDirectory env.toSaverEnv parentDirectory fileName = parentDirectory := by
          rw [targetDirectory, hone, h.joinAll_one]
        rw [htarget] at hdirectory ⊢
        exact .inl hdirectory

/-! ### A device whose separator is `/`, in its root directory -/

namespace Posix

/-- The part that is being read and those after it. -/
def addChar (c : Char) (read : List Char × List (List Char)) : List Char × List (List Char) :=
  if c = '/' then ([], if read.1 = [] then read.2 else read.1 :: read.2) else (c :: read.1, read.2)

/-- What is between the slashes. -/
def parts (path : List Char) : List (List Char) :=
  (addChar '/' (path.foldr addChar ([], []))).2

/-- The directories down to a path, without `.` and `..`. -/
def locate (path : List Char) : List (List Char) :=
  (parts path).foldl (fun location part =>
    if part = ['.'] then location else if part = ['.', '.'] then location.dropLast else location ++ [part]) []

def join (path name : List Char) : List Char :=
  if name.head? = some '/' then name
  else if name = [] then path
  else if path = [] ∨ path.getLast? = some '/' then path ++ name
  else path ++ '/' :: name

/-- What is left of the last part, with its slashes. -/
def front (path : List Char) : List Char := (path.rdropWhile (· = '/')).rdropWhile (· ≠ '/')

def dirname (path : List Char) : List Char :=
  if front path = [] then ['.']
  else if (front path).rdropWhile (· = '/') = [] then ['/']
  else (front path).rdropWhile (· = '/')

def basename (path : List Char) : List Char :=
  if path.rdropWhile (· = '/') = [] then path.take 1 else (path.rdropWhile (· = '/')).rtakeWhile (· ≠ '/')

theorem locate_slash (path : List Char) : locate (path ++ ['/']) = locate path := by
  have hparts : parts (path ++ ['/']) = parts path := by simp [parts, List.foldr_append, addChar]
  rw [locate, locate, hparts]

theorem locate_rdropWhile (path : List Char) : locate (path.rdropWhile (· = '/')) = locate path := by
  induction path using List.reverseRecOn with
  | nil => rfl
  | append_singleton path c ih =>
    by_cases hc : c = '/'
    · subst hc
      rw [List.rdropWhile_concat_pos _ _ _ (by simp), ih, locate_slash]
    · rw [List.rdropWhile_concat_neg _ _ _ (by simpa using hc)]

/-- A directory and a name in it: the directory with a slash where it needs one. -/
theorem join_eq (path : List Char) {name : List Char} (hname : name ≠ []) (hslash : '/' ∉ name) :
    ∃ directory, join path name = directory ++ name ∧ locate directory = locate path ∧
      (directory = [] ∨ directory.getLast? = some '/') := by
  have hhead : name.head? ≠ some '/' := fun h => hslash (List.mem_of_head? h)
  by_cases hpath : path = [] ∨ path.getLast? = some '/'
  · exact ⟨path, by simp [join, hhead, hname, hpath], rfl, hpath⟩
  · refine ⟨path ++ ['/'], by simp [join, hhead, hname, hpath], locate_slash path, .inr (by simp)⟩

theorem foldr_addChar (path word : List Char) (words : List (List Char)) :
    path.foldr addChar (word, words) =
      ((path.foldr addChar (word, [])).1, (path.foldr addChar (word, [])).2 ++ words) := by
  induction path with
  | nil => rfl
  | cons c path ih =>
    rw [List.foldr_cons, List.foldr_cons, ih]
    unfold addChar
    split_ifs <;> rfl

theorem foldr_name {name : List Char} (hslash : '/' ∉ name) :
    name.foldr addChar ([], []) = (name, []) := by
  induction name with
  | nil => rfl
  | cons c name ih =>
    rw [List.mem_cons, not_or] at hslash
    rw [List.foldr_cons, ih hslash.2]
    simp [addChar, Ne.symm hslash.1]

/-- A name in a directory is its last part. -/
theorem parts_join {directory name : List Char} (hname : name ≠ []) (hslash : '/' ∉ name)
    (hdirectory : directory = [] ∨ directory.getLast? = some '/') :
    parts (directory ++ name) = parts directory ++ [name] := by
  rcases hdirectory with rfl | hlast
  · simp [parts, foldr_name hslash, addChar, hname]
  · obtain ⟨start, rfl⟩ := List.getLast?_eq_some_iff.mp hlast
    simp only [parts, List.foldr_append, foldr_name hslash, List.foldr_cons, List.foldr_nil]
    simp only [addChar, if_true, hname, if_false]
    rw [foldr_addChar]
    split_ifs <;> simp

theorem rdropWhile_name {directory name : List Char} (hname : name ≠ []) (hslash : '/' ∉ name) :
    (directory ++ name).rdropWhile (· = '/') = directory ++ name := by
  rw [List.rdropWhile_eq_self_iff]
  intro hne
  rw [List.getLast_append_of_ne_nil _ hname]
  have hlast : name.getLast hname ≠ '/' := ne_of_mem_of_not_mem (List.getLast_mem hname) hslash
  simpa using hlast

/-- At the last slash a directory and a name part again. -/
theorem parted {directory name : List Char} (hslash : '/' ∉ name)
    (hdirectory : directory = [] ∨ directory.getLast? = some '/') :
    (directory ++ name).rdropWhile (· ≠ '/') = directory ∧ (directory ++ name).rtakeWhile (· ≠ '/') = name := by
  have hall : ∀ c ∈ name.reverse, decide (c ≠ '/') = true := by
    intro c hc
    simpa using ne_of_mem_of_not_mem (List.mem_reverse.mp hc) hslash
  rw [List.rdropWhile, List.rtakeWhile, List.reverse_append, List.dropWhile_append_of_pos hall,
    List.takeWhile_append_of_pos hall]
  rcases hdirectory with rfl | hlast
  · simp
  · obtain ⟨start, rfl⟩ := List.getLast?_eq_some_iff.mp hlast
    simp

theorem locate_dirname_join {path name : List Char} (hname : name ≠ []) (hslash : '/' ∉ name) :
    locate (dirname (join path name)) = locate path := by
  obtain ⟨directory, hjoin, hlocate, hdirectory⟩ := join_eq path hname hslash
  have hfront : front (join path name) = directory := by
    rw [hjoin, front, rdropWhile_name hname hslash, (parted hslash hdirectory).1]
  rw [dirname, hfront, ← hlocate]
  split_ifs with hnil hroot
  · rw [hnil]
    rfl
  · rw [← locate_rdropWhile directory, hroot]
    rfl
  · exact locate_rdropWhile directory

/-- In one directory each name is another location. -/
theorem locate_join {path name : List Char} (hname : name ≠ []) (hslash : '/' ∉ name) (hdot : name ≠ ['.'])
    (hdotdot : name ≠ ['.', '.']) : locate (join path name) = locate path ++ [name] := by
  obtain ⟨directory, hjoin, hlocate, hdirectory⟩ := join_eq path hname hslash
  rw [← hlocate, hjoin, locate, parts_join hname hslash hdirectory, List.foldl_append]
  simp [locate, hdot, hdotdot]

theorem basename_join {path name : List Char} (hname : name ≠ []) (hslash : '/' ∉ name) :
    basename (join path name) = name := by
  obtain ⟨directory, hjoin, -, hdirectory⟩ := join_eq path hname hslash
  rw [basename, hjoin, rdropWhile_name hname hslash, (parted hslash hdirectory).2, if_neg]
  simp [hname]

end Posix

/-- A name that is not legal is replaced. -/
def legalizeOrReplace (name : String) : String :=
  if name = "" ∨ name = "." ∨ name = ".." ∨ '/' ∈ name.toList then "_" else name

def posixEnv : DigestEnv where
  basename path := String.ofList (Posix.basename path.toList)
  split path := (if path.toList.head? = some '/' then ["/"] else []) ++ (Posix.parts path.toList).map String.ofList
  joinAll paths := String.ofList ((paths.map String.toList).foldl Posix.join [])
  isWithin parent child :=
    (Posix.locate parent.toList).isPrefixOf (Posix.locate child.toList) &&
      Posix.locate parent.toList ≠ Posix.locate child.toList
  legalizeFilename := legalizeOrReplace
  toLowerCase := String.toLower
  cacheDirectory := "/tmp"
  android := false
  onSdCard _ := false
  documentUri treeUri _ := treeUri
  rootDocumentUri treeUri := treeUri
  isSeparator c := c = '/'
  dirname path := String.ofList (Posix.dirname path.toList)
  equals a b := Posix.locate a.toList = Posix.locate b.toList

theorem join_nil (path : List Char) : Posix.join [] path = path := by
  unfold Posix.join
  split_ifs with _ hnil
  · rfl
  · exact hnil.symm
  · rfl
  · simp_all

theorem toLower_eq_slash {c : Char} (h : c.toLower = '/') : c = '/' := by
  unfold Char.toLower at h
  split at h
  · next hupper =>
    have hsum : (c.val + 32).toNat = 47 := congrArg (fun d : Char => d.val.toNat) h
    have hlow : 65 ≤ c.val.toNat := hupper.1
    have hhigh : c.val.toNat ≤ 90 := hupper.2
    rw [UInt32.toNat_add] at hsum
    have h32 : (32 : UInt32).toNat = 32 := rfl
    omega
  · exact h

theorem posixEnv_documented : posixEnv.Documented where
  separators c hc := .inl (of_decide_eq_true hc)
  joinAll_one path := by simp [posixEnv, join_nil]
  basename_join directory name hname := by
    have hne : name.toList ≠ [] := fun h => hname.nonempty (by simpa using h)
    have hslash : '/' ∉ name.toList := fun h => absurd (hname.noSeparator _ h) (by decide)
    simp [posixEnv, join_nil, Posix.basename_join hne hslash]
  dirname_join directory name hname := by
    have hne : name.toList ≠ [] := fun h => hname.nonempty (by simpa using h)
    have hslash : '/' ∉ name.toList := fun h => absurd (hname.noSeparator _ h) (by decide)
    simp [posixEnv, join_nil, Posix.locate_dirname_join hne hslash]
  isWithin_congr parent a b hab := by
    have hab : Posix.locate a.toList = Posix.locate b.toList := of_decide_eq_true hab
    simp [posixEnv, hab]
  toLowerCase_noSeparator text htext c hc := by
    obtain ⟨d, hd, rfl⟩ : ∃ d ∈ text.toList, d.toLower = c := by
      have hmap : (text.map Char.toLower).toList = text.toList.map Char.toLower := String.toList_map
      exact List.mem_map.mp (hmap ▸ hc)
    have hslash : d ≠ '/' := of_decide_eq_false (htext d hd)
    exact decide_eq_false fun h => hslash (toLower_eq_slash h)
  legalizeFilename_plain name := by
    show posixEnv.Plain (legalizeOrReplace name)
    unfold legalizeOrReplace
    split_ifs with hbad
    · refine ⟨by decide, fun c hc => ?_, by decide, by decide⟩
      have hc : c = '_' := by simpa using hc
      rw [hc]
      rfl
    · simp only [not_or] at hbad
      obtain ⟨hnil, hdot, hdots, hslash⟩ := hbad
      exact ⟨hnil, fun c hc => decide_eq_false (ne_of_mem_of_not_mem hc hslash), hdot, hdots⟩

/-- A file is found at every path of its location. -/
def presentAt (files : List String) (path : String) : Bool :=
  (files.map fun file => Posix.locate file.toList).contains (Posix.locate path.toList)

theorem presentAt_finitelyMany (files : List String) : posixEnv.FinitelyMany (presentAt files) := by
  intro directory
  let location : String → List (List Char) := fun name => Posix.locate directory.toList ++ [name.toList]
  have hinjective : Function.Injective location := by
    intro a b hab
    exact String.toList_injective (by simpa [location] using hab)
  have hfinite := (files.map fun file => Posix.locate file.toList).finite_toSet.preimage hinjective.injOn
  refine hfinite.subset fun name ⟨hname, hpresent⟩ => ?_
  have hne : name.toList ≠ [] := fun h => hname.nonempty (by simpa using h)
  have hslash : '/' ∉ name.toList := fun h => absurd (hname.noSeparator _ h) (by decide)
  have hdot : name.toList ≠ ['.'] := fun h => hname.notDot (String.toList_injective h)
  have hdotdot : name.toList ≠ ['.', '.'] := fun h => hname.notDotDot (String.toList_injective h)
  have hlocate : Posix.locate (posixEnv.joinAll [directory, name]).toList = location name := by
    simp [posixEnv, join_nil, Posix.locate_join hne hslash hdot hdotdot, location]
  rw [presentAt, hlocate] at hpresent
  simpa using hpresent

/-- The file goes below the directory of downloads, where its name and its first other name are taken. -/
theorem destination_confined_posix : ∃ enough outcome,
    (∀ fuel, enough ≤ fuel → digestFilePathAndPrepareDirectory posixEnv
      (presentAt ["/home/me/b/photo.png", "/home/me/b/photo (2).png"]) "/home/me" "a/../b/photo.png" fuel =
        some outcome) ∧
      ∀ destination, outcome = .ok destination →
        (posixEnv.equals "/home/me" (posixEnv.dirname destination.path) = true ∨
          posixEnv.isWithin "/home/me" (posixEnv.dirname destination.path) = true) ∧
        presentAt ["/home/me/b/photo.png", "/home/me/b/photo (2).png"] destination.path = false :=
  destination_confined posixEnv_documented (presentAt_finitelyMany _) (by decide +kernel) (by decide +kernel)

example : digestFilePathAndPrepareDirectory posixEnv (presentAt ["/home/me/b/photo.png", "/home/me/b/photo (2).png"])
    "/home/me" "a/../b/photo.png" 4 = some (.ok ⟨"/home/me/a/../b/photo (3).png", none, "photo (3).png"⟩) := by
  decide +kernel

example : digestFilePathAndPrepareDirectory posixEnv (presentAt []) "/home/me" "../you/photo.png" 4 =
    some (.error "Path traversal detected") := by decide +kernel

end MagicShare.Receive
