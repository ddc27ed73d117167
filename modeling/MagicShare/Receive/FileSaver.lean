import Mathlib.Data.Finset.Basic
import Mathlib.Data.Finset.Insert
import MagicShare.Base.Records
import MagicShare.Base.Transition

/-! Saving received files (`file_saver.dart`) while other files are saved.

A save looks for a free name by asking for one candidate after another whether the file
exists, and opens the first that does not for writing, or moves a file of the cache
there that the gallery did not take. The check and the opening are two steps. Along
every run no save writes where a file is exactly when, at each opening and each move,
still no file is there (`noOverwrite_iff`). What the storage access framework of Android
writes is not among these files. -/
namespace MagicShare.Receive

/-! ### Names -/

/-- The white space of a regular expression's `\s`. -/
def isRegExpSpace (c : Char) : Bool :=
  c.toNat ∈ [0x9, 0xA, 0xB, 0xC, 0xD, 0x20, 0xA0, 0x1680, 0x2028, 0x2029, 0x202F, 0x205F, 0x3000, 0xFEFF] ||
    (0x2000 ≤ c.toNat && c.toNat ≤ 0x200A)

/-- What a `.` of a regular expression does not match. -/
def isLineTerminator (c : Char) : Bool := c.toNat ∈ [0xA, 0xD, 0x2028, 0x2029]

/-- What `lastIndexOf('.')` splits: the name and the extension. -/
def splitExtension (name : List Char) : List Char × List Char :=
  match name.reverse.span (· ≠ '.') with
  | (_, []) => (name, [])
  | (extension, _ :: front) => (front.reverse, extension.reverse)

/-- The first group of `_fileNumberRegex`: `myFile` for `myFile (123)`. -/
def fileNumberFront (name : List Char) : Option (List Char) :=
  match name.reverse with
  | ')' :: rest =>
    match rest.span Char.isDigit with
    | (_ :: _, '(' :: space :: front) =>
      if isRegExpSpace space && front.all (!isLineTerminator ·) then some front.reverse else none
    | _ => none
  | _ => none

def withExtension (name : List Char) (extension : String) : String :=
  if extension = "" then String.ofList name else String.ofList name ++ "." ++ extension

/-- The functions of the platform and of the packages `path` and `legalize`, on one
device. -/
structure SaverEnv where
  basename : String → String
  split : String → List String
  joinAll : List String → String
  isWithin : String → String → Bool
  legalizeFilename : String → String
  toLowerCase : String → String
  cacheDirectory : String
  /-- `androidSdkInt` is not null. -/
  android : Bool
  /-- `getSdCardPath` finds a card in the path. -/
  onSdCard : String → Bool
  /-- `ContentUriHelper.convertTreeUriToDocumentUri`. -/
  documentUri : String → String → String

section
variable (env : SaverEnv)

/-- `String.withCount`. -/
def withCount (name : String) (count : Nat) : String :=
  let (fileName, extension) := splitExtension name.toList
  withExtension ((fileNumberFront fileName).getD fileName ++ (" (" ++ toString count ++ ")").toList)
    (env.toLowerCase (String.ofList extension))

def isContentUri (path : String) : Bool := "content://".toList.isPrefixOf path.toList

/-- The directory a file goes to: its name may have parts. -/
def targetDirectory (parentDirectory fileName : String) : String :=
  env.joinAll (parentDirectory :: (env.split fileName).dropLast)

/-- The path the search tries at this count. -/
def destinationPath (parentDirectory fileName : String) (counter : Nat) : String :=
  let actualFileName := env.legalizeFilename (env.basename fileName)
  env.joinAll [targetDirectory env parentDirectory fileName,
    if counter = 1 then actualFileName else withCount env actualFileName counter]

/-- A name with parts that leaves the directory. -/
def pathTraversal (parentDirectory fileName : String) : Bool :=
  1 < (env.split fileName).length && !env.isWithin parentDirectory (targetDirectory env parentDirectory fileName)

end

/-! ### State -/

structure SaveRequest where
  destinationDirectory : String
  fileName : String
  saveToGallery : Bool := false
  deriving DecidableEq

inductive SavePhase where
  /-- The parent directory is awaited. -/
  | called
  /-- `exists()` is asked for the candidate of the counter; `cached` is the file to move
  there, where there is one already. -/
  | searching (cached : Option String) (counter : Nat)
  | opening (path : String)
  | writing (path : String)
  /-- The file is in the cache and the gallery is asked to take it. -/
  | exporting (path : String)
  | moving (cached target : String)
  | throughSaf
  | saved (path : Option String)
  | failed
  deriving DecidableEq

structure Save where
  request : SaveRequest
  phase : SavePhase := .called
  deriving DecidableEq

/-- The file a save has written. -/
def Save.own (a : Save) : Option String :=
  match a.phase with
  | .writing path => some path
  | .exporting path => some path
  | .searching cached _ => cached
  | .moving cached _ => some cached
  | .saved path => path
  | .called | .opening _ | .throughSaf | .failed => none

/-- A file that is opened for writing or replaced by a move. -/
structure Opening where
  save : Nat
  path : String
  /-- There was a file. -/
  existed : Bool
  deriving DecidableEq

structure Saver where
  /-- The files that were there at the start. -/
  before : Finset String
  files : Finset String
  saves : List Save := []
  openings : List Opening := []
  deriving DecidableEq

inductive GalleryAnswer where
  | accepted
  | notSupportedFormat
  | otherFailure

inductive SaverEvent where
  | saveFile (request : SaveRequest)
  /-- `digestFilePathAndPrepareDirectory` up to its first existence check. -/
  | digest (save : Nat)
  /-- The existence check is made. -/
  | checked (save : Nat)
  /-- The file is opened for writing: made, or truncated. -/
  | opened (save : Nat)
  | openFails (save : Nat)
  /-- The last byte is written and the file closed. -/
  | written (save : Nat)
  | exported (save : Nat) (answer : GalleryAnswer)
  | moved (save : Nat)
  | moveFails (save : Nat)
  /-- The stream or a write fails; the file is deleted, unless closing it fails too. -/
  | fails (save : Nat) (deleted : Bool)

namespace Saver

/-! ### Steps -/

def setPhase (s : Saver) (save : Nat) (request : SaveRequest) (phase : SavePhase) : Saver :=
  {s with saves := s.saves.set save ⟨request, phase⟩}

/-- Where a file goes once its path is known. -/
def onward (env : SaverEnv) (request : SaveRequest) (cached : Option String) (path : String) : SavePhase :=
  match cached with
  | some source => .moving source path
  | none =>
    if !request.saveToGallery && env.android && (isContentUri path || env.onSdCard path) then .throughSaf
    else .opening path

/-- The phase after the start of a search below this directory; `none` where it throws.
Creating the directories of the name makes no file. -/
def digestFrom (env : SaverEnv) (request : SaveRequest) (cached : Option String) (parentDirectory : String) :
    Option SavePhase :=
  if isContentUri parentDirectory then
    some (onward env request cached (env.documentUri parentDirectory request.fileName))
  else if pathTraversal env parentDirectory request.fileName then none
  else some (.searching cached 1)

/-- The directory the search is below: the cache comes first for the gallery. -/
def searchDirectory (env : SaverEnv) (request : SaveRequest) (cached : Option String) : String :=
  if request.saveToGallery && cached.isNone then env.cacheDirectory else request.destinationDirectory

def step (env : SaverEnv) (s : Saver) : SaverEvent → Option Saver
  | .saveFile request => some {s with saves := s.saves ++ [{request}]}
  | .digest save =>
    match s.saves[save]? with
    | some ⟨request, .called⟩ =>
      some (s.setPhase save request
        ((digestFrom env request none (searchDirectory env request none)).getD .failed))
    | _ => none
  | .checked save =>
    match s.saves[save]? with
    | some ⟨request, .searching cached counter⟩ =>
      let path := destinationPath env (searchDirectory env request cached) request.fileName counter
      if path ∈ s.files then some (s.setPhase save request (.searching cached (counter + 1)))
      else some (s.setPhase save request (onward env request cached path))
    | _ => none
  | .opened save =>
    match s.saves[save]? with
    | some ⟨request, .opening path⟩ =>
      some {s.setPhase save request (.writing path) with
        files := insert path s.files
        openings := s.openings ++ [⟨save, path, decide (path ∈ s.files)⟩]}
    | _ => none
  | .openFails save =>
    match s.saves[save]? with
    | some ⟨request, .opening _⟩ => some (s.setPhase save request .failed)
    | _ => none
  | .written save =>
    match s.saves[save]? with
    | some ⟨request, .writing path⟩ =>
      some (s.setPhase save request (if request.saveToGallery then .exporting path else .saved (some path)))
    | _ => none
  | .exported save answer =>
    match s.saves[save]? with
    | some ⟨request, .exporting path⟩ =>
      match answer with
      | .accepted => some {s.setPhase save request (.saved none) with files := s.files.erase path}
      | .otherFailure => some {s.setPhase save request .failed with files := s.files.erase path}
      | .notSupportedFormat =>
        match digestFrom env request (some path) request.destinationDirectory with
        | some phase => some (s.setPhase save request phase)
        | none => some {s.setPhase save request .failed with files := s.files.erase path}
    | _ => none
  | .moved save =>
    match s.saves[save]? with
    | some ⟨request, .moving cached target⟩ =>
      some {s.setPhase save request (.saved (some target)) with
        files := insert target (s.files.erase cached)
        openings := s.openings ++ [⟨save, target, decide (target ∈ s.files)⟩]}
    | _ => none
  | .moveFails save =>
    match s.saves[save]? with
    | some ⟨request, .moving cached _⟩ => some {s.setPhase save request .failed with files := s.files.erase cached}
    | _ => none
  | .fails save deleted =>
    match s.saves[save]? with
    | some ⟨request, .writing path⟩ =>
      some {s.setPhase save request .failed with files := if deleted then s.files.erase path else s.files}
    | _ => none

end Saver

/-- The saves of a device whose directories hold these files. -/
def saver (env : SaverEnv) (files : Finset String) : Transition.System Saver SaverEvent where
  init := {before := files, files}
  step := Saver.step env

namespace Saver

/-! ### The property and its condition -/

/-- No file is opened or replaced that exists, no two saves have written the same file,
and what was there before is still there. -/
structure NoOverwrite (s : Saver) : Prop where
  fresh : ∀ o ∈ s.openings, o.existed = false
  apart : ∀ (i j : Nat) (a b : Save) (path : String), s.saves[i]? = some a → s.saves[j]? = some b →
    a.own = some path → b.own = some path → i = j
  kept : s.before ⊆ s.files

/-- Since its check no other save has made the file that is opened or replaced. -/
def StillFree (s : Saver) : SaverEvent → Prop
  | .opened save => ∀ request path, s.saves[save]? = some ⟨request, .opening path⟩ → path ∉ s.files
  | .moved save => ∀ request cached target, s.saves[save]? = some ⟨request, .moving cached target⟩ →
    target ∉ s.files
  | _ => True

/-! ### What a step does -/

/-- One step, by what it does to the files. -/
inductive Moves (env : SaverEnv) (s : Saver) : SaverEvent → Saver → Prop
  | called (request : SaveRequest) : Moves env s (.saveFile request) {s with saves := s.saves ++ [{request}]}
  | goesOn {e : SaverEvent} {save : Nat} {a : Save} {phase : SavePhase}
      (he : ∀ save, e ≠ .opened save ∧ e ≠ .moved save) (hget : s.saves[save]? = some a)
      (hown : ∀ path, Save.own ⟨a.request, phase⟩ = some path → a.own = some path) :
      Moves env s e (s.setPhase save a.request phase)
  | deleted {e : SaverEvent} {save : Nat} {a : Save} {path : String} {phase : SavePhase}
      (he : ∀ save, e ≠ .opened save ∧ e ≠ .moved save) (hget : s.saves[save]? = some a)
      (hown : a.own = some path) (hnone : Save.own ⟨a.request, phase⟩ = none) :
      Moves env s e {s.setPhase save a.request phase with files := s.files.erase path}
  | opened {save : Nat} {request : SaveRequest} {path : String}
      (hget : s.saves[save]? = some ⟨request, .opening path⟩) :
      Moves env s (.opened save) {s.setPhase save request (.writing path) with
        files := insert path s.files
        openings := s.openings ++ [⟨save, path, decide (path ∈ s.files)⟩]}
  | moved {save : Nat} {request : SaveRequest} {cached target : String}
      (hget : s.saves[save]? = some ⟨request, .moving cached target⟩) :
      Moves env s (.moved save) {s.setPhase save request (.saved (some target)) with
        files := insert target (s.files.erase cached)
        openings := s.openings ++ [⟨save, target, decide (target ∈ s.files)⟩]}

variable {env : SaverEnv} {s t : Saver} {e : SaverEvent}

/-- A path that was found is written to or moved to later. -/
theorem own_onward (request : SaveRequest) (cached : Option String) (path : String) :
    Save.own ⟨request, onward env request cached path⟩ = cached := by
  cases cached with
  | some source => rfl
  | none =>
    simp only [onward]
    split_ifs <;> rfl

theorem own_digestFrom {request : SaveRequest} {cached : Option String} {parentDirectory : String} {phase : SavePhase}
    (h : digestFrom env request cached parentDirectory = some phase) : Save.own ⟨request, phase⟩ = cached := by
  simp only [digestFrom] at h
  split_ifs at h
  · obtain rfl := Option.some.inj h
    exact own_onward request cached _
  · obtain rfl := Option.some.inj h
    rfl

theorem moves_of_step (h : s.step env e = some t) : Moves env s e t := by
  cases e with
  | saveFile request =>
    obtain rfl := Option.some.inj h
    exact .called request
  | digest save =>
    simp only [step] at h
    split at h
    · next request hget =>
      obtain rfl := Option.some.inj h
      refine .goesOn (by simp) hget fun path hpath => ?_
      cases hdigest : digestFrom env request none (searchDirectory env request none) with
      | none =>
        rw [hdigest] at hpath
        cases hpath
      | some phase =>
        rw [hdigest, Option.getD_some, own_digestFrom hdigest] at hpath
        cases hpath
    · cases h
  | checked save =>
    simp only [step] at h
    split at h
    · next request cached counter hget =>
      split_ifs at h
      · obtain rfl := Option.some.inj h
        exact .goesOn (by simp) hget fun _ => id
      · obtain rfl := Option.some.inj h
        refine .goesOn (by simp) hget fun path hpath => ?_
        rw [own_onward] at hpath
        exact hpath
    · cases h
  | opened save =>
    simp only [step] at h
    split at h
    · next request path hget =>
      obtain rfl := Option.some.inj h
      exact .opened hget
    · cases h
  | openFails save =>
    simp only [step] at h
    split at h
    · next request path hget =>
      obtain rfl := Option.some.inj h
      exact .goesOn (by simp) hget fun _ hpath => by cases hpath
    · cases h
  | written save =>
    simp only [step] at h
    split at h
    · next request path hget =>
      obtain rfl := Option.some.inj h
      refine .goesOn (by simp) hget fun path' hpath => ?_
      split_ifs at hpath <;> exact hpath
    · cases h
  | exported save answer =>
    simp only [step] at h
    split at h
    · next request path hget =>
      cases answer with
      | accepted =>
        obtain rfl := Option.some.inj h
        exact .deleted (by simp) hget rfl rfl
      | otherFailure =>
        obtain rfl := Option.some.inj h
        exact .deleted (by simp) hget rfl rfl
      | notSupportedFormat =>
        simp only at h
        split at h
        · next phase hdigest =>
          obtain rfl := Option.some.inj h
          refine .goesOn (by simp) hget fun path' hpath => ?_
          rw [own_digestFrom hdigest] at hpath
          exact hpath
        · obtain rfl := Option.some.inj h
          exact .deleted (by simp) hget rfl rfl
    · cases h
  | moved save =>
    simp only [step] at h
    split at h
    · next request cached target hget =>
      obtain rfl := Option.some.inj h
      exact .moved hget
    · cases h
  | moveFails save =>
    simp only [step] at h
    split at h
    · next request cached target hget =>
      obtain rfl := Option.some.inj h
      exact .deleted (by simp) hget rfl rfl
    · cases h
  | fails save deleted =>
    simp only [step] at h
    split at h
    · next request path hget =>
      obtain rfl := Option.some.inj h
      cases deleted with
      | true => exact .deleted (by simp) hget rfl rfl
      | false => exact .goesOn (by simp) hget fun _ hpath => by cases hpath
    · cases h

/-! ### What holds meanwhile -/

/-- The file of a save exists, and was not there before. -/
structure Owning (s : Saver) : Prop where
  noOverwrite : s.NoOverwrite
  present : ∀ (i : Nat) (a : Save) (path : String), s.saves[i]? = some a → a.own = some path → path ∈ s.files
  new : ∀ (i : Nat) (a : Save) (path : String), s.saves[i]? = some a → a.own = some path → path ∉ s.before

/-- A save after a change of phase is the changed one or an old one. -/
theorem save_of_setPhase {save i : Nat} {request : SaveRequest} {phase : SavePhase} {a : Save}
    (h : (s.setPhase save request phase).saves[i]? = some a) :
    (i = save ∧ a = ⟨request, phase⟩) ∨ (i ≠ save ∧ s.saves[i]? = some a) :=
  Records.of_set h

/-- A save after one more was called. -/
theorem save_of_concat {request : SaveRequest} {i : Nat} {a : Save}
    (h : (s.saves ++ [({request} : Save)])[i]? = some a) : s.saves[i]? = some a ∨ a.own = none := by
  rcases Records.of_append h with hold | ⟨-, rfl⟩
  · exact .inl hold
  · exact .inr rfl

/-- What a phase that takes no new file keeps: whose files they are. -/
theorem own_of_setPhase {save i : Nat} {a b : Save} {phase : SavePhase} {path : String}
    (hget : s.saves[save]? = some a) (hown : ∀ path, Save.own ⟨a.request, phase⟩ = some path → a.own = some path)
    (hb : (s.setPhase save a.request phase).saves[i]? = some b) (hpath : b.own = some path) :
    ∃ c, s.saves[i]? = some c ∧ c.own = some path := by
  rcases save_of_setPhase hb with ⟨rfl, rfl⟩ | ⟨-, hold⟩
  · exact ⟨a, hget, hown path hpath⟩
  · exact ⟨b, hold, hpath⟩

theorem Owning.goesOn (h : s.Owning) {save : Nat} {a : Save} (phase : SavePhase) (hget : s.saves[save]? = some a)
    (hown : ∀ path, Save.own ⟨a.request, phase⟩ = some path → a.own = some path) :
    (s.setPhase save a.request phase).Owning := by
  refine ⟨⟨h.noOverwrite.fresh, ?_, h.noOverwrite.kept⟩, ?_, ?_⟩
  · intro i j b c path hb hc hbpath hcpath
    obtain ⟨b', hb', hbown⟩ := own_of_setPhase hget hown hb hbpath
    obtain ⟨c', hc', hcown⟩ := own_of_setPhase hget hown hc hcpath
    exact h.noOverwrite.apart i j b' c' path hb' hc' hbown hcown
  · intro i b path hb hpath
    obtain ⟨b', hb', hbown⟩ := own_of_setPhase hget hown hb hpath
    exact h.present i b' path hb' hbown
  · intro i b path hb hpath
    obtain ⟨b', hb', hbown⟩ := own_of_setPhase hget hown hb hpath
    exact h.new i b' path hb' hbown

/-- A save deletes its own file. -/
theorem Owning.deleted (h : s.Owning) {save : Nat} {a : Save} {path : String} (phase : SavePhase)
    (hget : s.saves[save]? = some a) (hown : a.own = some path) (hnone : Save.own ⟨a.request, phase⟩ = none) :
    Owning {s.setPhase save a.request phase with files := s.files.erase path} := by
  have hkept := h.goesOn phase hget fun path' hpath' => by
    rw [hnone] at hpath'
    cases hpath'
  refine ⟨⟨hkept.noOverwrite.fresh, hkept.noOverwrite.apart, fun p hp => ?_⟩, fun i b p hb hp => ?_, hkept.new⟩
  · refine Finset.mem_erase.mpr ⟨?_, h.noOverwrite.kept hp⟩
    rintro rfl
    exact h.new save a p hget hown hp
  · refine Finset.mem_erase.mpr ⟨?_, hkept.present i b p hb hp⟩
    rintro rfl
    rcases save_of_setPhase hb with ⟨rfl, rfl⟩ | ⟨hne, hold⟩
    · rw [hnone] at hp
      cases hp
    · exact hne (h.noOverwrite.apart i save b a p hold hget hp hown)

/-- A save takes a file that was not there. -/
theorem Owning.takes (h : s.Owning) {save : Nat} {a : Save} {path : String} (phase : SavePhase)
    (openings : List Opening) (hget : s.saves[save]? = some a) (hown : Save.own ⟨a.request, phase⟩ = some path)
    (hfree : path ∉ s.files) (hopenings : ∀ o ∈ openings, o.existed = false) :
    Owning {s.setPhase save a.request phase with
      files := insert path s.files
      openings := s.openings ++ openings} := by
  have hother : ∀ (i : Nat) (b : Save), s.saves[i]? = some b → b.own ≠ some path :=
    fun i b hb hpath => hfree (h.present i b path hb hpath)
  refine ⟨⟨?_, ?_, ?_⟩, ?_, ?_⟩
  · intro o ho
    rcases List.mem_append.mp ho with hold | hnew
    · exact h.noOverwrite.fresh o hold
    · exact hopenings o hnew
  · intro i j b c path' hb hc hbpath hcpath
    rcases save_of_setPhase hb with ⟨rfl, rfl⟩ | ⟨hi, hbold⟩
    · rcases save_of_setPhase hc with ⟨rfl, rfl⟩ | ⟨hj, hcold⟩
      · rfl
      · exact absurd (hcpath.trans (hbpath.symm.trans hown)) (hother j c hcold)
    · rcases save_of_setPhase hc with ⟨rfl, rfl⟩ | ⟨hj, hcold⟩
      · exact absurd (hbpath.trans (hcpath.symm.trans hown)) (hother i b hbold)
      · exact h.noOverwrite.apart i j b c path' hbold hcold hbpath hcpath
  · exact h.noOverwrite.kept.trans (Finset.subset_insert path s.files)
  · intro i b path' hb hpath
    rcases save_of_setPhase hb with ⟨rfl, rfl⟩ | ⟨hi, hold⟩
    · obtain rfl := Option.some.inj (hown.symm.trans hpath)
      exact Finset.mem_insert_self path s.files
    · exact Finset.mem_insert_of_mem (h.present i b path' hold hpath)
  · intro i b path' hb hpath
    rcases save_of_setPhase hb with ⟨rfl, rfl⟩ | ⟨hi, hold⟩
    · obtain rfl := Option.some.inj (hown.symm.trans hpath)
      exact fun hbefore => hfree (h.noOverwrite.kept hbefore)
    · exact h.new i b path' hold hpath

/-- **A step overwrites nothing exactly when the path is still free.** -/
theorem Owning.step (h : s.Owning) (hm : Moves env s e t) :
    (s.StillFree e → t.Owning) ∧ (t.NoOverwrite → s.StillFree e) := by
  have hquiet : (∀ save, e ≠ .opened save ∧ e ≠ .moved save) → s.StillFree e := by
    intro he
    cases e with
    | opened save => exact absurd rfl (he save).1
    | moved save => exact absurd rfl (he save).2
    | _ => trivial
  cases hm with
  | called request =>
    refine ⟨fun _ => ⟨⟨h.noOverwrite.fresh, ?_, h.noOverwrite.kept⟩, ?_, ?_⟩, fun _ => trivial⟩
    · intro i j a b path ha hb hapath hbpath
      rcases save_of_concat ha with hold | hnone
      · rcases save_of_concat hb with hold' | hnone'
        · exact h.noOverwrite.apart i j a b path hold hold' hapath hbpath
        · rw [hnone'] at hbpath
          cases hbpath
      · rw [hnone] at hapath
        cases hapath
    · intro i a path ha hpath
      rcases save_of_concat ha with hold | hnone
      · exact h.present i a path hold hpath
      · rw [hnone] at hpath
        cases hpath
    · intro i a path ha hpath
      rcases save_of_concat ha with hold | hnone
      · exact h.new i a path hold hpath
      · rw [hnone] at hpath
        cases hpath
  | goesOn he hget hown => exact ⟨fun _ => h.goesOn _ hget hown, fun _ => hquiet he⟩
  | deleted he hget hown hnone => exact ⟨fun _ => h.deleted _ hget hown hnone, fun _ => hquiet he⟩
  | opened hget =>
    rename_i save request path
    constructor
    · intro hc
      have hfree := hc request path hget
      refine h.takes (.writing path) _ hget rfl hfree ?_
      simp [hfree]
    · intro ht request' path' hget'
      obtain ⟨rfl, rfl⟩ : request = request' ∧ path = path' := by
        rw [hget] at hget'
        simpa using hget'
      have hfresh := ht.fresh _ (List.mem_append_right _ (List.mem_singleton_self _))
      exact of_decide_eq_false hfresh
  | moved hget =>
    rename_i save request cached target
    constructor
    · intro hc
      have hfree := hc request cached target hget
      have hfree' : target ∉ s.files.erase cached := fun hmem => hfree (Finset.mem_of_mem_erase hmem)
      have hleft := h.deleted (.opening target) hget rfl rfl
      have hlt := (List.getElem?_eq_some_iff.mp hget).1
      have hat : (s.saves.set save ⟨request, .opening target⟩)[save]? = some ⟨request, .opening target⟩ := by
        simp [hlt]
      have htaken := hleft.takes (.saved (some target)) [⟨save, target, decide (target ∈ s.files)⟩] hat rfl hfree'
        (by simp [hfree])
      simpa only [setPhase, List.set_set] using htaken
    · intro ht request' cached' target' hget'
      obtain ⟨rfl, rfl, rfl⟩ : request = request' ∧ cached = cached' ∧ target = target' := by
        rw [hget] at hget'
        simpa using hget'
      have hfresh := ht.fresh _ (List.mem_append_right _ (List.mem_singleton_self _))
      exact of_decide_eq_false hfresh

end Saver

/-! ### All runs -/

/-- **Nothing is overwritten exactly in the runs where the path is still free at each
opening and each move.** -/
theorem noOverwrite_iff (env : SaverEnv) (files : Finset String) (events : List SaverEvent) :
    (saver env files).Along Saver.NoOverwrite (saver env files).init events ↔
      (saver env files).Meets Saver.StillFree (saver env files).init events := by
  have hinit : Saver.Owning (saver env files).init := by
    refine ⟨⟨?_, ?_, subset_rfl⟩, ?_, ?_⟩ <;> simp [saver]
  exact Transition.System.along_iff_meets_of_invariant (fun _ => Saver.Owning.noOverwrite)
    (fun _ _ _ h hst => h.step (Saver.moves_of_step hst)) hinit

/-- A device whose file names need no change. -/
def plainEnv : SaverEnv where
  basename path := path
  split path := [path]
  joinAll parts := "/".intercalate parts
  isWithin _ _ := true
  legalizeFilename name := name
  toLowerCase extension := extension
  cacheDirectory := "/cache"
  android := false
  onSdCard _ := false
  documentUri treeUri fileName := treeUri ++ "/" ++ fileName

/-- Two files of the same name come at once: both searches find it free. -/
theorem second_file_overwrites_the_first :
    ∃ t, (saver plainEnv {"/downloads/photo.png"}).run (saver plainEnv {"/downloads/photo.png"}).init
        [.saveFile ⟨"/downloads", "photo.png", false⟩, .saveFile ⟨"/downloads", "photo.png", false⟩, .digest 0, .digest 1,
          .checked 0, .checked 1, .checked 0, .checked 1, .opened 0, .opened 1, .written 0, .written 1] = some t ∧
      t.saves.map Save.phase = [.saved (some "/downloads/photo (2).png"), .saved (some "/downloads/photo (2).png")] ∧
      ¬ t.NoOverwrite := by
  refine ⟨_, rfl, by decide +kernel, fun hkept => ?_⟩
  have happart := hkept.apart 0 1 _ _ "/downloads/photo (2).png" rfl rfl (by decide +kernel) (by decide +kernel)
  cases happart

end MagicShare.Receive
