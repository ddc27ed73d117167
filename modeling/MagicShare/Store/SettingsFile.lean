import MagicShare.Base.Dict
import MagicShare.Base.Transition

/-! The portable settings (`SharedPreferencesFile`): a file and a cache of it.

The cache is read from the file when it is first needed; `setValue` and `remove` change the
cache and write it to the file. `clear` writes an empty file and leaves the cache as it is,
so from then on the settings are two. The store answers and writes as one map exactly as
long as what is loaded is what the file holds, but for the key that is written
(`settings_iff`); only a `clear` that leaves entries in the cache takes that away
(`inStep_of_clears`). -/
namespace MagicShare.Store

/-! ### What is stored -/

abbrev Settings (V : Type) := OrderedMap String V

/-- The encoders and the decoder of `dart:convert`, on the values that are stored. Reading
throws, here `none`, unless the text is an object. -/
structure JsonEncoding (Text V : Type) where
  convert : Bool → Settings V → Text
  decode : Text → Option (Settings V)
  /-- The text of a file that was made. -/
  blank : Text
  decode_convert : ∀ beautify m, decode (convert beautify m) = some m
  decode_blank : decode blank = none

/-! ### The code -/

structure SharedPreferencesFile (Text V : Type) where
  /-- The text of the file; `none` where there is no file. -/
  file : Option Text
  /-- `_cache` once it is initialised. -/
  cache : Option (Settings V) := none

namespace SharedPreferencesFile
variable {Text V : Type} (json : JsonEncoding Text V) (beautify : Bool)

/-- `_getAll`. -/
def readFile (file : Option Text) : Settings V := (json.decode (file.getD json.blank)).getD .empty

/-- `_cache`, with the file that reading it makes. -/
def load (s : SharedPreferencesFile Text V) : SharedPreferencesFile Text V × Settings V :=
  match s.cache with
  | some cache => (s, cache)
  | none => ({file := some (s.file.getD json.blank), cache := some (readFile json s.file)}, readFile json s.file)

/-- `_write`. -/
def write (s : SharedPreferencesFile Text V) (data : Settings V) : SharedPreferencesFile Text V :=
  {s with file := some (json.convert beautify data)}

def getAll (s : SharedPreferencesFile Text V) : SharedPreferencesFile Text V × Settings V := load json s

def setValue (s : SharedPreferencesFile Text V) (key : String) (value : V) : SharedPreferencesFile Text V :=
  let (s, cache) := load json s
  write json beautify {s with cache := some (cache.put key value)} (cache.put key value)

def remove (s : SharedPreferencesFile Text V) (key : String) : SharedPreferencesFile Text V :=
  let (s, cache) := load json s
  write json beautify {s with cache := some (cache.remove key)} (cache.remove key)

def clear (s : SharedPreferencesFile Text V) : SharedPreferencesFile Text V := write json beautify s .empty

end SharedPreferencesFile

inductive Call (V : Type) where
  | setValue (key : String) (value : V)
  | remove (key : String)
  | clear
  | getAll

/-- What a call does to a map. -/
def Call.apply {V : Type} : Call V → (String → Option V) → String → Option V
  | .setValue key value, m => Function.update m key (some value)
  | .remove key, m => Function.update m key none
  | .clear, _ => fun _ => none
  | .getAll, m => m

/-- The store beside the map it stands for. -/
structure Session (Text V : Type) where
  store : SharedPreferencesFile Text V
  settings : String → Option V

section
variable {Text V : Type} (json : JsonEncoding Text V) (beautify : Bool)

def SharedPreferencesFile.run (s : SharedPreferencesFile Text V) : Call V → SharedPreferencesFile Text V
  | .setValue key value => s.setValue json beautify key value
  | .remove key => s.remove json beautify key
  | .clear => s.clear json beautify
  | .getAll => (s.getAll json).1

/-- A new instance on this file, or on none, and the map the file holds. -/
def settingsFile (file : Option Text) : Transition.System (Session Text V) (Call V) where
  init := {store := {file}, settings := (SharedPreferencesFile.readFile json file).get}
  step s call := some {store := s.store.run json beautify call, settings := call.apply s.settings}

/-- What another new instance would read. -/
def Session.reread (s : Session Text V) : Settings V :=
  ((⟨s.store.file, none⟩ : SharedPreferencesFile Text V).getAll json).2

/-- What `getAll` answers. -/
def Session.answer (s : Session Text V) : Settings V := (s.store.getAll json).2

/-! ### The property and its condition -/

/-- `getAll` answers with the map; what a change leaves in the file reads as the map. -/
def Agrees (s : Session Text V) (call : Call V) (t : Session Text V) : Prop :=
  match call with
  | .getAll => (s.answer json).get = t.settings
  | .setValue _ _ | .remove _ | .clear => (t.reread json).get = t.settings

/-- What is loaded is what the file holds, but for the key that is written now. -/
def InStep (s : Session Text V) : Call V → Prop
  | .getAll => (s.answer json).get = (s.reread json).get
  | .setValue key _ | .remove key => ∀ other ≠ key, (s.answer json).get other = (s.reread json).get other
  | .clear => True

end

/-! ### Each call -/

variable {Text V : Type} {json : JsonEncoding Text V} {beautify : Bool} {s t : Session Text V} {call : Call V}

@[simp] theorem reread_eq (s : Session Text V) : s.reread json = SharedPreferencesFile.readFile json s.store.file := rfl

@[simp] theorem readFile_convert (m : Settings V) :
    SharedPreferencesFile.readFile json (some (json.convert beautify m)) = m := by
  simp [SharedPreferencesFile.readFile, json.decode_convert]

/-- Reading leaves what the file holds. -/
theorem readFile_load (s : SharedPreferencesFile Text V) :
    SharedPreferencesFile.readFile json (s.load json).1.file = SharedPreferencesFile.readFile json s.file := by
  unfold SharedPreferencesFile.load
  split <;> rfl

theorem readFile_setValue (s : Session Text V) (key : String) (value : V) :
    SharedPreferencesFile.readFile json (s.store.setValue json beautify key value).file =
      (s.answer json).put key value :=
  readFile_convert _

theorem readFile_remove (s : Session Text V) (key : String) :
    SharedPreferencesFile.readFile json (s.store.remove json beautify key).file = (s.answer json).remove key :=
  readFile_convert _

theorem readFile_clear (s : Session Text V) :
    SharedPreferencesFile.readFile json (s.store.clear json beautify).file = .empty :=
  readFile_convert _

/-- Two maps agree after a write to one key exactly when they did on all others. -/
theorem update_eq_iff {m n : String → Option V} {key : String} {value : Option V} :
    Function.update m key value = Function.update n key value ↔ ∀ other ≠ key, m other = n other := by
  constructor
  · intro h other hother
    simpa [Function.update_of_ne hother] using congrFun h other
  · intro h
    funext other
    by_cases hother : other = key
    · rw [hother, Function.update_self, Function.update_self]
    · rw [Function.update_of_ne hother, Function.update_of_ne hother, h other hother]

/-- The file holds the map. -/
def Stored (json : JsonEncoding Text V) (s : Session Text V) : Prop := (s.reread json).get = s.settings

/-- **While the file holds the map, a call agrees with the map exactly when what is loaded
is in step.** -/
theorem agrees_iff (h : Stored json s) (file : Option Text)
    (hstep : (settingsFile json beautify file).step s call = some t) :
    (InStep json s call → Stored json t) ∧ (Agrees json s call t ↔ InStep json s call) := by
  obtain rfl := Option.some.inj hstep
  unfold Stored at h
  cases call with
  | setValue key value =>
    have hiff : (SharedPreferencesFile.readFile json (s.store.setValue json beautify key value).file).get =
        Function.update s.settings key (some value) ↔
          ∀ other ≠ key, (s.answer json).get other = (s.reread json).get other := by
      rw [readFile_setValue, OrderedMap.get_put, ← h, update_eq_iff]
    exact ⟨hiff.mpr, hiff⟩
  | remove key =>
    have hiff : (SharedPreferencesFile.readFile json (s.store.remove json beautify key).file).get =
        Function.update s.settings key none ↔
          ∀ other ≠ key, (s.answer json).get other = (s.reread json).get other := by
      rw [readFile_remove, OrderedMap.get_remove, ← h, update_eq_iff]
    exact ⟨hiff.mpr, hiff⟩
  | clear =>
    have hcleared : (SharedPreferencesFile.readFile json (s.store.clear json beautify).file).get = fun _ => none := by
      rw [readFile_clear]
      rfl
    exact ⟨fun _ => hcleared, iff_of_true hcleared trivial⟩
  | getAll =>
    constructor
    · intro _
      show (SharedPreferencesFile.readFile json (s.store.load json).1.file).get = s.settings
      rw [readFile_load]
      exact h
    · show (s.answer json).get = s.settings ↔ (s.answer json).get = (s.reread json).get
      rw [h]

/-- **The store behaves as a map exactly while what is loaded is in step with the file.** -/
theorem settings_iff (json : JsonEncoding Text V) (beautify : Bool) (file : Option Text) (calls : List (Call V)) :
    (settingsFile json beautify file).Steps (Agrees json) (settingsFile json beautify file).init calls ↔
      (settingsFile json beautify file).Meets (InStep json) (settingsFile json beautify file).init calls :=
  Transition.System.steps_iff_meets_of_kept (I := Stored json) (fun _ _ _ h hst => agrees_iff h file hst) rfl

/-! ### Where the condition comes from -/

/-- Nothing is left in the cache that a `clear` would forget in the file alone. -/
def NothingCached (s : Session Text V) : Call V → Prop
  | .clear => ∀ cache, s.store.cache = some cache → cache.get = fun _ => none
  | _ => True

/-- After a `clear` the cache answers as before; one that is read now is empty. -/
theorem answer_clear (s : Session Text V) :
    ((s.store.clear json beautify).getAll json).2 = s.store.cache.getD .empty := by
  cases hcache : s.store.cache <;>
    simp [SharedPreferencesFile.getAll, SharedPreferencesFile.load, SharedPreferencesFile.clear,
      SharedPreferencesFile.write, hcache]

/-- **Calls are in step as long as no `clear` leaves entries in the cache.** -/
theorem inStep_of_clears (json : JsonEncoding Text V) (beautify : Bool) (file : Option Text) (calls : List (Call V))
    (h : (settingsFile json beautify file).Meets NothingCached (settingsFile json beautify file).init calls) :
    (settingsFile json beautify file).Meets (InStep json) (settingsFile json beautify file).init calls := by
  have hsame : ∀ s : Session Text V, (s.answer json).get = (s.reread json).get → ∀ call, InStep json s call := by
    intro s hs call
    cases call with
    | setValue key value => exact fun other _ => congrFun hs other
    | remove key => exact fun other _ => congrFun hs other
    | clear => trivial
    | getAll => exact hs
  refine Transition.System.Meets.of_invariant (I := fun s => (s.answer json).get = (s.reread json).get) ?_
    (fun s call _ hs _ => hsame s hs call) rfl h
  intro s call t hs hc hst
  obtain rfl := Option.some.inj hst
  cases call with
  | setValue key value =>
    show ((s.answer json).put key value).get =
      (SharedPreferencesFile.readFile json (s.store.setValue json beautify key value).file).get
    rw [readFile_setValue]
  | remove key =>
    show ((s.answer json).remove key).get =
      (SharedPreferencesFile.readFile json (s.store.remove json beautify key).file).get
    rw [readFile_remove]
  | clear =>
    show ((s.store.clear json beautify).getAll json).2.get =
      (SharedPreferencesFile.readFile json (s.store.clear json beautify).file).get
    rw [answer_clear, readFile_clear]
    cases hcache : s.store.cache with
    | none => rfl
    | some cache => exact hc cache hcache
  | getAll =>
    show ((s.store.load json).1.load json).2.get = (SharedPreferencesFile.readFile json (s.store.load json).1.file).get
    have hagain : ((s.store.load json).1.load json).2 = (s.store.load json).2 := by
      cases hcache : s.store.cache <;> simp [SharedPreferencesFile.load, hcache]
    rw [hagain, readFile_load]
    exact hs

/-! ### A store that was cleared -/

/-- An encoding whose texts are what they hold. -/
def plainEncoding : JsonEncoding (Option (Settings Bool)) Bool where
  convert _ m := some m
  decode text := text
  blank := none
  decode_convert _ _ := rfl
  decode_blank := rfl

/-- A setting survives the `clear` after it. -/
theorem cleared_setting_is_back : ¬ (settingsFile plainEncoding false none).Steps (Agrees plainEncoding)
    (settingsFile plainEncoding false none).init [.setValue "flutter.ls_save_to_history" false, .clear, .getAll] := by
  intro h
  have hanswer := congrFun (h.taken (a := [Call.setValue "flutter.ls_save_to_history" false, Call.clear]) rfl rfl)
    "flutter.ls_save_to_history"
  cases hanswer

end MagicShare.Store
