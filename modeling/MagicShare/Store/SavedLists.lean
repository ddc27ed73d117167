import MagicShare.Base.Snapshots

/-! The history of received files and the favorite devices: lists in memory that are saved
to the device's storage.

Each action reads its list when it starts, awaits the write of the new list and only then puts
it in memory; nothing keeps two actions apart. Where none comes in between another
(`OneByOne`), for one where each starts after the end of the one before
(`oneByOne_of_oneAtATime`), no update is lost (`no_saved_update_lost`); two files that are
received at the same time can leave one entry (`entry_lost`). -/
namespace MagicShare.Store
open Snapshots

/-! ### Entries -/

inductive FileType where
  | image | video | pdf | text | apk | other
  deriving DecidableEq

structure ReceiveHistoryEntry where
  id : String
  /-- The name of the file, or a message. -/
  fileName : String
  fileType : FileType
  path : Option String
  savedToGallery : Bool
  isMessage : Bool
  fileSize : Int
  senderAlias : String
  /-- Microseconds in UTC. -/
  timestamp : Int
  deriving DecidableEq

structure FavoriteDevice where
  id : String
  fingerprint : String
  ip : String
  port : Int
  «alias» : String
  /-- Whether the alias was set by the user. -/
  customAlias : Bool := false
  deriving DecidableEq

/-! ### Actions -/

def maxHistoryEntries : Nat := 30

inductive HistoryAction where
  /-- With the answer of `isSaveToHistory` at its start. -/
  | addHistoryEntry (saveToHistory : Bool) (entry : ReceiveHistoryEntry)
  | removeHistoryEntry (entryId : String)
  | removeAllHistoryEntries
  deriving DecidableEq

inductive FavoriteAction where
  | addFavorite (device : FavoriteDevice)
  | updateFavorite (device : FavoriteDevice)
  | removeFavorite (deviceFingerprint : String)
  deriving DecidableEq

/-- The `reduce` of the actions on the history. -/
def reduceHistory : HistoryAction → List ReceiveHistoryEntry → Outcome (List ReceiveHistoryEntry)
  | .addHistoryEntry saveToHistory entry, state =>
    if saveToHistory then .saves ((entry :: state).take maxHistoryEntries) else .keeps
  | .removeHistoryEntry entryId, state =>
    match state.findIdx? fun e => e.id = entryId with
    | none => .keeps
    | some index => .saves (state.eraseIdx index)
  | .removeAllHistoryEntries, _ => .saves []

/-- The `reduce` of the actions on the favorites. -/
def reduceFavorites : FavoriteAction → List FavoriteDevice → Outcome (List FavoriteDevice)
  | .addFavorite device, state => .saves (state ++ [device])
  | .updateFavorite device, state =>
    match state.findIdx? fun e => e.id = device.id with
    -- A microtask comes before `state` is read again.
    | none => .rereads
    | some index => .saves (state.set index device)
  | .removeFavorite deviceFingerprint, state =>
    match state.findIdx? fun e => e.fingerprint = deviceFingerprint with
    | none => .keeps
    | some index => .saves (state.eraseIdx index)

/-! ### Both lists -/

structure SavedLists where
  receiveHistory : Snapshots (List ReceiveHistoryEntry) HistoryAction
  favorites : Snapshots (List FavoriteDevice) FavoriteAction

inductive SavedEvent where
  | history (e : Event HistoryAction)
  | favorites (e : Event FavoriteAction)

def SavedLists.step (s : SavedLists) : SavedEvent → Option SavedLists
  | .history e => (Snapshots.step reduceHistory s.receiveHistory e).map fun receiveHistory => {s with receiveHistory}
  | .favorites e => (Snapshots.step reduceFavorites s.favorites e).map fun favorites => {s with favorites}

/-- The lists as they were saved, with no action under way. -/
def savedLists (entries : List ReceiveHistoryEntry) (devices : List FavoriteDevice) :
    Transition.System SavedLists SavedEvent where
  init := ⟨(snapshots reduceHistory entries).init, (snapshots reduceFavorites devices).init⟩
  step := SavedLists.step

namespace SavedLists

/-- Once all actions on a list have finished, what is saved is what is in memory, and that is
what the actions make of the list one after another. -/
def NoneLost (entries : List ReceiveHistoryEntry) (devices : List FavoriteDevice) (s : SavedLists) : Prop :=
  Snapshots.NoneLost reduceHistory entries s.receiveHistory ∧ Snapshots.NoneLost reduceFavorites devices s.favorites

/-- The action that ends has read what is in memory, or makes the same of it. -/
def OneByOne (s : SavedLists) : SavedEvent → Prop
  | .history e => Current reduceHistory s.receiveHistory e
  | .favorites e => Current reduceFavorites s.favorites e

instance (s : SavedLists) : (e : SavedEvent) → Decidable (s.OneByOne e)
  | .history e => inferInstanceAs (Decidable (Current reduceHistory s.receiveHistory e))
  | .favorites e => inferInstanceAs (Decidable (Current reduceFavorites s.favorites e))

/-- The actions on a list come one at a time. -/
def OneAtATime (s : SavedLists) : SavedEvent → Prop
  | .history e => Snapshots.OneAtATime s.receiveHistory e
  | .favorites e => Snapshots.OneAtATime s.favorites e

variable {entries : List ReceiveHistoryEntry} {devices : List FavoriteDevice} {s t : SavedLists} {e : SavedEvent}

/-- An event is a step of one list, and the other stays. -/
theorem step_cases (h : s.step e = some t) :
    (∃ e' receiveHistory, e = .history e' ∧ Snapshots.step reduceHistory s.receiveHistory e' = some receiveHistory ∧
      t = {s with receiveHistory}) ∨
    ∃ e' favorites, e = .favorites e' ∧ Snapshots.step reduceFavorites s.favorites e' = some favorites ∧
      t = {s with favorites} := by
  cases e with
  | history e' =>
    obtain ⟨receiveHistory, hhistory, rfl⟩ := Option.map_eq_some_iff.mp h
    exact .inl ⟨e', receiveHistory, rfl, hhistory, rfl⟩
  | favorites e' =>
    obtain ⟨favorites, hfavorites, rfl⟩ := Option.map_eq_some_iff.mp h
    exact .inr ⟨e', favorites, rfl, hfavorites, rfl⟩

structure Ordered (entries : List ReceiveHistoryEntry) (devices : List FavoriteDevice) (s : SavedLists) : Prop where
  history : Snapshots.Ordered reduceHistory entries s.receiveHistory
  favorites : Snapshots.Ordered reduceFavorites devices s.favorites

theorem Ordered.init : (savedLists entries devices).init.Ordered entries devices := ⟨.init, .init⟩

theorem Ordered.step (h : s.Ordered entries devices) (hone : s.OneByOne e) (hst : s.step e = some t) :
    t.Ordered entries devices := by
  obtain ⟨e', receiveHistory, rfl, hstep, rfl⟩ | ⟨e', favorites, rfl, hstep, rfl⟩ := step_cases hst
  · exact {h with history := h.history.step hone hstep}
  · exact {h with favorites := h.favorites.step hone hstep}

structure Alone (s : SavedLists) : Prop where
  history : Snapshots.Alone reduceHistory s.receiveHistory
  favorites : Snapshots.Alone reduceFavorites s.favorites

theorem Alone.step (h : s.Alone) (hone : s.OneAtATime e) (hst : s.step e = some t) : t.Alone := by
  obtain ⟨e', receiveHistory, rfl, hstep, rfl⟩ | ⟨e', favorites, rfl, hstep, rfl⟩ := step_cases hst
  · exact {h with history := h.history.step hone hstep}
  · exact {h with favorites := h.favorites.step hone hstep}

theorem Alone.oneByOne (h : s.Alone) (hst : s.step e = some t) : s.OneByOne e := by
  obtain ⟨e', receiveHistory, rfl, hstep, -⟩ | ⟨e', favorites, rfl, hstep, -⟩ := step_cases hst
  · exact h.history.current hstep
  · exact h.favorites.current hstep

/-- No action comes in between another in a run in which each starts after the one before. -/
theorem oneByOne_of_oneAtATime {events : List SavedEvent}
    (hone : (savedLists entries devices).Meets OneAtATime (savedLists entries devices).init events) :
    (savedLists entries devices).Meets OneByOne (savedLists entries devices).init events :=
  hone.of_invariant (fun _ _ _ h hone hst => h.step hone hst) (fun _ _ _ h hst => h.oneByOne hst)
    (I := Alone) ⟨.init, .init⟩

end SavedLists

/-- **History and favorites lose no update** in a run in which no action comes in between
another. -/
theorem no_saved_update_lost (entries : List ReceiveHistoryEntry) (devices : List FavoriteDevice)
    {events : List SavedEvent}
    (hone : (savedLists entries devices).Meets SavedLists.OneByOne (savedLists entries devices).init events) :
    (savedLists entries devices).Along (SavedLists.NoneLost entries devices) (savedLists entries devices).init events :=
  Transition.System.along_of_meets (fun _ _ _ h hone hst => h.step hone hst)
    (fun _ h => ⟨h.history.noneLost, h.favorites.noneLost⟩) SavedLists.Ordered.init hone

namespace TwoFiles

def file (id : String) : ReceiveHistoryEntry := ⟨id, "photo.jpg", .image, none, true, false, 1000, "Phone", 0⟩

def phone : FavoriteDevice := {id := "1", fingerprint := "print", ip := "192.168.0.2", port := 53317, «alias» := "Phone"}

def adds (id : String) : SavedEvent := .history (.starts (.addHistoryEntry true (file id)))

end TwoFiles

open TwoFiles in
/-- The history is cleared while an entry is added, and a device that is not known is updated
while another is added. -/
theorem no_saved_update_lost_overlapping : (savedLists [file "1"] []).Along (SavedLists.NoneLost [file "1"] [])
    (savedLists [file "1"] []).init
    [adds "2", .history (.starts .removeAllHistoryEntries), .favorites (.starts (.updateFavorite phone)),
      .favorites (.starts (.addFavorite phone)), .history (.landed 0), .history (.installed 0),
      .history (.landed 1), .history (.installed 1), .favorites (.landed 1), .favorites (.installed 1),
      .favorites (.rereads 0), .favorites (.installed 0)] :=
  no_saved_update_lost [file "1"] [] (by decide +kernel)

open TwoFiles in
/-- Two files have been received at the same time, and one is not in the history. -/
theorem entry_lost : ¬ (savedLists [] []).Along (SavedLists.NoneLost [] []) (savedLists [] []).init
    [adds "1", adds "2", .history (.landed 0), .history (.installed 0), .history (.landed 1),
      .history (.installed 1)] := by
  intro h
  have hlast := h.reached (a := [adds "1", adds "2", .history (.landed 0), .history (.installed 0), .history (.landed 1),
    .history (.installed 1)]) (b := []) rfl
  obtain ⟨-, order, hserial, hmemory⟩ := hlast.1 (by decide +kernel)
  have hmem : ∀ i ∈ order, i < 2 := fun i hi => List.mem_range.mp (hserial.perm.mem_iff.mp hi)
  obtain ⟨i, j, rfl⟩ : ∃ i j, order = [i, j] := List.length_eq_two.mp hserial.perm.length_eq
  have hi : i < 2 := hmem i (by simp)
  have hj : j < 2 := hmem j (by simp)
  -- One after another both are in it, whichever comes first.
  have htwo := congrArg List.length hmemory
  obtain rfl | rfl : i = 0 ∨ i = 1 := by omega
  all_goals
    obtain rfl | rfl : j = 0 ∨ j = 1 := by omega
    all_goals exact absurd htwo (by decide +kernel)

end MagicShare.Store
