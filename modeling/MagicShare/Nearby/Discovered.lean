import MagicShare.Base.Records
import MagicShare.Nearby.Multicast

/-! What comes of an announcement.

It sets off a bounded number of steps, whatever gets lost and whichever answers fail:
answers are not answered (`no_storm`). And what a device lists is another device, as that
was at some time (`listed_are_announced`). -/
namespace MagicShare.Nearby
open Transition

/-! ### Two devices -/

namespace LaptopAndPhone

def sync : Bool → SyncState
  | false => Start.laptop
  | true => {Start.laptop with
      securityContext := ⟨"private key of phone", "public key of phone", "certificate of phone", "hash of phone"⟩
      deviceInfo := ⟨.mobile, some "Pixel", some 34⟩
      «alias» := "Phone"
      protocol := .http }

def address : Bool → String
  | false => "192.168.0.2"
  | true => "192.168.0.3"

/-- The laptop announces itself and is answered over HTTP, then the phone, and is answered
over UDP. -/
def course : List (DiscoveryEvent Bool) := [
  .sendAnnouncement false, .compose 0, .send 0 false true [false, true], .receive 0, .receive 0, .register 0 false,
  .list 0, .answered 0,
  .sendAnnouncement true, .compose 0, .send 0 true true [false], .receive 0,
  .fallback 0, .compose 0, .send 0 false false [false, true], .receive 0, .receive 0, .list 0, .list 0]

/-- The listeners and the servers start. -/
def beginning : List (DiscoveryEvent Bool) := [
  .startListener false, .bind false, .startServer false ⟨53317, true, "hash of laptop"⟩,
  .startListener true, .bind true, .startServer true ⟨53317, false, "hash of phone"⟩]

end LaptopAndPhone

variable {ι : Type} [DecidableEq ι] {ip : ι → String} {s t : LocalNetwork ι} {e : DiscoveryEvent ι}

/-! ### No storm -/

namespace DiscoveryEvent

/-- Whom the datagram that is sent reaches. -/
def receivers : DiscoveryEvent ι → List ι
  | .send _ _ _ receivers => receivers
  | _ => []

end DiscoveryEvent

namespace LocalNetwork

/-- What a datagram on its way may come to, where one reaches at most `n` devices. -/
def datagramWeight (n : Nat) (asks : Bool) : Nat := if asks then 2 * n + 6 else 2

def packetWeight (n : Nat) (packet : Packet ι) : Nat := datagramWeight n (packet.datagram.any MulticastDto.asks)

def draftWeight (n : Nat) (draft : Draft ι) : Nat :=
  match draft.dto with
  | none => 2 + n * datagramWeight n draft.announcement
  | some dto => 1 + n * datagramWeight n dto.asks

def answerWeight (n : Nat) (answer : Answer ι) : Nat := if answer.status = none then 2 * n + 4 else 2 * n + 3

/-- How many steps what is on its way may come to. -/
def potential (n : Nat) (s : LocalNetwork ι) : Nat :=
  (s.drafts.map (draftWeight n)).sum + (s.transit.map (packetWeight n)).sum + s.found.length +
    (s.answers.map (answerWeight n)).sum

@[simp] theorem potential_setNode (n : Nat) (s : LocalNetwork ι) (a : ι) (node : Node) :
    (s.setNode a node).potential n = s.potential n := rfl

end LocalNetwork

/-- The certificate hash of a device stays what it is. -/
def DiscoveryEvent.KeepsHash (hash : ι → String) : DiscoveryEvent ι → Prop
  | .updateSyncState a syncState => syncState.certificateHash = hash a
  | .startServer a server => server.fingerprint = hash a
  | _ => True

section Genuine
variable {hash : ι → String} {first : ι → SyncState} {T : List (DiscoveryEvent ι)} {a b : ι} {syncState : SyncState}
  {device : Device}

/-- The device has had the sync state. -/
def Was (first : ι → SyncState) (T : List (DiscoveryEvent ι)) (a : ι) (syncState : SyncState) : Prop :=
  syncState = first a ∨ DiscoveryEvent.updateSyncState a syncState ∈ T

omit [DecidableEq ι] in
theorem Was.later (h : Was first T a syncState) (U : List (DiscoveryEvent ι)) : Was first (T ++ U) a syncState :=
  h.imp_right (List.mem_append_left U)

/-- It is another device, as that was at some time. -/
def IsOther (ip hash : ι → String) (first : ι → SyncState) (T : List (DiscoveryEvent ι)) (b a : ι) (device : Device) :
    Prop :=
  ∃ syncState method, hash a ≠ hash b ∧ Was first T a syncState ∧ device = syncState.device (ip a) method

omit [DecidableEq ι] in
theorem IsOther.later (h : IsOther ip hash first T b a device) (U : List (DiscoveryEvent ι)) :
    IsOther ip hash first (T ++ U) b a device := by
  obtain ⟨syncState, method, hne, hwas, rfl⟩ := h
  exact ⟨syncState, method, hne, hwas.later U, rfl⟩

namespace LocalNetwork

/-- All that is said is what a device was at some time. -/
structure Genuine (ip hash : ι → String) (first : ι → SyncState) (T : List (DiscoveryEvent ι)) (s : LocalNetwork ι) :
    Prop where
  syncState : ∀ a, Was first T a (s.node a).syncState ∧ (s.node a).syncState.certificateHash = hash a
  listener : ∀ a bound, (s.node a).listener = some bound ∨ (s.node a).binding = some bound →
    bound.certificateHash = hash a
  server : ∀ a server, (s.node a).server = some server → server.fingerprint = hash a
  drafts : ∀ draft ∈ s.drafts, ∀ dto, draft.dto = some dto → ∃ syncState, Was first T draft.sender syncState ∧
    syncState.certificateHash = hash draft.sender ∧ dto = syncState.getMulticastDto draft.announcement
  transit : ∀ packet ∈ s.transit, ∃ a syncState announcement, packet.ip = ip a ∧ Was first T a syncState ∧
    syncState.certificateHash = hash a ∧ packet.datagram = some (syncState.getMulticastDto announcement)
  found : ∀ entry ∈ s.found, ∃ a, IsOther ip hash first T entry.1 a entry.2
  answers : ∀ answer ∈ s.answers, ∃ syncState, Was first T answer.sender syncState ∧
    syncState.certificateHash = hash answer.sender ∧ answer.dto = syncState.getRegisterDto
  devices : ∀ b, ∀ entry ∈ (s.node b).devices, ∃ a, entry.1 = ip a ∧ IsOther ip hash first T b a entry.2

namespace Genuine

omit [DecidableEq ι] in
theorem later (h : Genuine ip hash first T s) (U : List (DiscoveryEvent ι)) : Genuine ip hash first (T ++ U) s where
  syncState a := ⟨(h.syncState a).1.later U, (h.syncState a).2⟩
  listener := h.listener
  server := h.server
  drafts draft hdraft dto hdto := by
    obtain ⟨syncState, hwas, hhash, htold⟩ := h.drafts draft hdraft dto hdto
    exact ⟨syncState, hwas.later U, hhash, htold⟩
  transit packet hpacket := by
    obtain ⟨a, syncState, announcement, hip, hwas, hhash, hdatagram⟩ := h.transit packet hpacket
    exact ⟨a, syncState, announcement, hip, hwas.later U, hhash, hdatagram⟩
  found entry hentry := by
    obtain ⟨a, hother⟩ := h.found entry hentry
    exact ⟨a, hother.later U⟩
  answers answer hanswer := by
    obtain ⟨syncState, hwas, hhash, hdto⟩ := h.answers answer hanswer
    exact ⟨syncState, hwas.later U, hhash, hdto⟩
  devices b entry hentry := by
    obtain ⟨a, hip, hother⟩ := h.devices b entry hentry
    exact ⟨a, hip, hother.later U⟩

/-- A device is set up anew; what it lists is as it was. -/
theorem setNode (h : Genuine ip hash first T s) {n : Node}
    (hsync : Was first T a n.syncState ∧ n.syncState.certificateHash = hash a)
    (hlistener : ∀ bound, n.listener = some bound ∨ n.binding = some bound → bound.certificateHash = hash a)
    (hserver : ∀ server, n.server = some server → server.fingerprint = hash a)
    (hdevices : ∀ entry ∈ n.devices, ∃ c, entry.1 = ip c ∧ IsOther ip hash first T a c entry.2) :
    Genuine ip hash first T (s.setNode a n) := by
  refine ⟨fun c => ?_, fun c bound hbound => ?_, fun c server hrunning => ?_, h.drafts, h.transit, h.found, h.answers,
    fun c entry hentry => ?_⟩
  all_goals by_cases hc : c = a
  · subst hc
    simpa [LocalNetwork.setNode] using hsync
  · simpa [LocalNetwork.setNode, hc] using h.syncState c
  · subst hc
    exact hlistener bound (by simpa [LocalNetwork.setNode] using hbound)
  · exact h.listener c bound (by simpa [LocalNetwork.setNode, hc] using hbound)
  · subst hc
    exact hserver server (by simpa [LocalNetwork.setNode] using hrunning)
  · exact h.server c server (by simpa [LocalNetwork.setNode, hc] using hrunning)
  · subst hc
    exact hdevices entry (by simpa [LocalNetwork.setNode] using hentry)
  · exact h.devices c entry (by simpa [LocalNetwork.setNode, hc] using hentry)

/-- Another device is listed. -/
theorem registerDevice (h : Genuine ip hash first T s) (hother : IsOther ip hash first T b a device) :
    Genuine ip hash first T (s.registerDevice b device) := by
  obtain ⟨syncState, method, hne, hwas, rfl⟩ := hother
  unfold LocalNetwork.registerDevice Node.registerDevice
  simp only [SyncState.device, Device.firstHttpEndpoint, Device.httpEndpoints, DeviceEndpoint.asHttp, List.filterMap_cons,
    List.filterMap_nil, List.head?_cons]
  split_ifs
  · exact h.setNode (h.syncState b) (h.listener b) (h.server b) (h.devices b)
  · refine h.setNode (h.syncState b) (h.listener b) (h.server b) fun entry hentry => ?_
    rcases Dict.mem_put.mp hentry with rfl | ⟨hold, -⟩
    · exact ⟨a, rfl, syncState, method, hne, hwas, rfl⟩
    · exact h.devices b entry hold

omit [DecidableEq ι] in
/-- A datagram is to be sent. -/
theorem draft (h : Genuine ip hash first T s) (a : ι) (announcement : Bool) :
    Genuine ip hash first T (s.draft a announcement) := by
  refine {h with drafts := fun draft hdraft dto hdto => ?_}
  rcases List.mem_append.mp hdraft with hold | hnew
  · exact h.drafts draft hold dto hdto
  · obtain rfl := List.mem_singleton.mp hnew
    cases hdto

omit [DecidableEq ι] in
/-- A datagram is composed. -/
theorem compose (h : Genuine ip hash first T s) (k : Nat) (draft : Draft ι) :
    Genuine ip hash first T (s.compose k draft) := by
  refine {h with drafts := fun other hother dto hdto => ?_}
  rcases List.mem_or_eq_of_mem_set hother with hold | rfl
  · exact h.drafts other hold dto hdto
  · obtain rfl := Option.some.inj hdto
    exact ⟨_, (h.syncState _).1, (h.syncState _).2, rfl⟩

omit [DecidableEq ι] in
/-- A datagram goes out. -/
theorem send (h : Genuine ip hash first T s) {draft : Draft ι} {dto : MulticastDto}
    (hwas : Was first T draft.sender syncState) (hhash : syncState.certificateHash = hash draft.sender)
    (hdto : dto = syncState.getMulticastDto draft.announcement) (receivers : List ι) :
    Genuine ip hash first T (s.send ip draft dto receivers) := by
  refine {h with transit := fun packet hpacket => ?_}
  rcases List.mem_append.mp hpacket with hold | hnew
  · exact h.transit packet hold
  · obtain ⟨b, -, rfl⟩ := List.mem_map.mp hnew
    exact ⟨draft.sender, syncState, draft.announcement, rfl, hwas, hhash, congrArg some hdto⟩

omit [DecidableEq ι] in
/-- Some of what is on its way is left. -/
theorem lessOf (h : Genuine ip hash first T s) (hnode : t.node = s.node) (hdrafts : ∀ draft ∈ t.drafts, draft ∈ s.drafts)
    (htransit : ∀ packet ∈ t.transit, packet ∈ s.transit) (hfound : ∀ entry ∈ t.found, entry ∈ s.found)
    (hanswers : ∀ answer ∈ t.answers, ∃ old ∈ s.answers, answer.sender = old.sender ∧ answer.dto = old.dto) :
    Genuine ip hash first T t where
  syncState := hnode ▸ h.syncState
  listener := hnode ▸ h.listener
  server := hnode ▸ h.server
  drafts draft hdraft := h.drafts draft (hdrafts draft hdraft)
  transit packet hpacket := h.transit packet (htransit packet hpacket)
  found entry hentry := h.found entry (hfound entry hentry)
  answers answer hanswer := by
    obtain ⟨old, hold, hsender, hdto⟩ := hanswers answer hanswer
    rw [hsender, hdto]
    exact h.answers old hold
  devices := hnode ▸ h.devices

omit [DecidableEq ι] in
/-- A packet is received: nobody takes himself for another. -/
theorem onPacket (h : Genuine ip hash first T s) {packet : Packet ι} {syncState : SyncState} {announcement : Bool}
    (hip : packet.ip = ip a) (hwas : Was first T a syncState) (hhash : syncState.certificateHash = hash a)
    (hdatagram : packet.datagram = some (syncState.getMulticastDto announcement)) :
    Genuine ip hash first T (s.onPacket packet) := by
  unfold LocalNetwork.onPacket
  split
  · exact h
  · next bound hbound =>
    split_ifs
    · rw [hdatagram]
      simp only [SyncState.onDatagram]
      split_ifs with hself
      · exact h
      · refine {h with found := fun entry hentry => ?_, answers := fun answer hanswer => ?_}
        · rcases List.mem_append.mp hentry with hold | hnew
          · exact h.found entry hold
          · obtain rfl := List.mem_singleton.mp hnew
            refine ⟨a, syncState, .multicast, fun heq => hself ?_, hwas, by rw [hip]; rfl⟩
            exact (hhash.trans heq).trans (h.listener _ bound (.inl hbound)).symm
        · have hcase : answer ∈ s.answers ∨
              answer.sender = packet.receiver ∧ answer.dto = (s.node packet.receiver).syncState.getRegisterDto := by
            dsimp only at hanswer
            split at hanswer
            · rcases List.mem_append.mp hanswer with hold | hnew
              · exact .inl hold
              · obtain rfl := List.mem_singleton.mp hnew
                exact .inr ⟨rfl, rfl⟩
            · exact .inl hanswer
          rcases hcase with hold | ⟨hsender, hdto⟩
          · exact h.answers answer hold
          · rw [hsender]
            exact ⟨_, (h.syncState _).1, (h.syncState _).2, hdto⟩
    · exact h

/-- **One step.** -/
theorem step (h : Genuine ip hash first T s) (hkeeps : e.KeepsHash hash) (hst : s.step ip e = some t) :
    Genuine ip hash first (T ++ [e]) t := by
  have hlater := h.later [e]
  cases e with
  | updateSyncState a syncState =>
    obtain rfl := Option.some.inj hst
    refine hlater.setNode ⟨.inr ?_, hkeeps⟩ (hlater.listener a) (hlater.server a) (hlater.devices a)
    exact List.mem_append_right T (List.mem_singleton_self _)
  | startListener a =>
    simp only [LocalNetwork.step] at hst
    split_ifs at hst with hnone
    obtain rfl := Option.some.inj hst
    refine hlater.setNode (hlater.syncState a) (fun bound hbound => ?_) (hlater.server a) (hlater.devices a)
    rcases hbound with hbound | hbound
    · exact hlater.listener a bound (.inl hbound)
    · obtain rfl := Option.some.inj hbound
      exact (hlater.syncState a).2
  | bind a =>
    obtain ⟨bound, hbinding, rfl⟩ := Option.map_eq_some_iff.mp hst
    refine hlater.setNode (hlater.syncState a) (fun other hother => ?_) (hlater.server a) (hlater.devices a)
    rcases hother with hother | hother
    · obtain rfl := Option.some.inj hother
      exact hlater.listener a bound (.inr hbinding)
    · cases hother
  | close a =>
    obtain rfl := Option.some.inj hst
    refine hlater.setNode (hlater.syncState a) (fun bound hbound => ?_) (hlater.server a) (hlater.devices a)
    rcases hbound with hbound | hbound
    · cases hbound
    · exact hlater.listener a bound (.inr hbound)
  | startServer a server =>
    obtain rfl := Option.some.inj hst
    refine hlater.setNode (hlater.syncState a) (hlater.listener a) (fun server' hserver => ?_) (hlater.devices a)
    obtain rfl := Option.some.inj hserver
    exact hkeeps
  | stopServer a =>
    obtain rfl := Option.some.inj hst
    exact hlater.setNode (hlater.syncState a) (hlater.listener a) (fun server hserver => by cases hserver)
      (hlater.devices a)
  | clear a =>
    obtain rfl := Option.some.inj hst
    exact hlater.setNode (hlater.syncState a) (hlater.listener a) (hlater.server a) fun entry hentry => by cases hentry
  | prune a ips =>
    obtain rfl := Option.some.inj hst
    exact hlater.setNode (hlater.syncState a) (hlater.listener a) (hlater.server a) fun entry hentry =>
      hlater.devices a entry (List.mem_filter.mp hentry).1
  | sendAnnouncement a =>
    obtain rfl := Option.some.inj hst
    exact hlater.draft a true
  | compose k =>
    simp only [LocalNetwork.step] at hst
    split at hst
    · next draft _ =>
      split_ifs at hst
      obtain rfl := Option.some.inj hst
      exact hlater.compose k draft
    · cases hst
  | send k a announcement receivers =>
    simp only [LocalNetwork.step] at hst
    split at hst
    · next draft hget =>
      split_ifs at hst
      obtain ⟨dto, hdto, rfl⟩ := Option.map_eq_some_iff.mp hst
      obtain ⟨syncState, hwas, hhash, htold⟩ := hlater.drafts draft (List.mem_of_getElem? hget) dto hdto
      have hless : Genuine ip hash first (T ++ [.send k a announcement receivers])
          {s with drafts := s.drafts.eraseIdx k} :=
        hlater.lessOf rfl (fun _ => List.mem_of_mem_eraseIdx) (fun _ => id) (fun _ => id)
          fun answer hanswer => ⟨answer, hanswer, rfl, rfl⟩
      exact hless.send hwas hhash htold receivers
    · cases hst
  | receive k =>
    obtain ⟨packet, hget, rfl⟩ := Option.map_eq_some_iff.mp hst
    obtain ⟨a, syncState, announcement, hip, hwas, hhash, hdatagram⟩ := hlater.transit packet (List.mem_of_getElem? hget)
    have hless : Genuine ip hash first (T ++ [.receive k]) {s with transit := s.transit.eraseIdx k} :=
      hlater.lessOf rfl (fun _ => id) (fun _ => List.mem_of_mem_eraseIdx) (fun _ => id)
        fun answer hanswer => ⟨answer, hanswer, rfl, rfl⟩
    exact hless.onPacket hip hwas hhash hdatagram
  | lose k =>
    obtain ⟨packet, hget, rfl⟩ := Option.map_eq_some_iff.mp hst
    exact hlater.lessOf rfl (fun _ => id) (fun _ => List.mem_of_mem_eraseIdx) (fun _ => id)
      fun answer hanswer => ⟨answer, hanswer, rfl, rfl⟩
  | list k =>
    obtain ⟨⟨b, device⟩, hget, rfl⟩ := Option.map_eq_some_iff.mp hst
    obtain ⟨a, hother⟩ := hlater.found (b, device) (List.mem_of_getElem? hget)
    have hless : Genuine ip hash first (T ++ [.list k]) {s with found := s.found.eraseIdx k} :=
      hlater.lessOf rfl (fun _ => id) (fun _ => id) (fun _ => List.mem_of_mem_eraseIdx)
        fun answer hanswer => ⟨answer, hanswer, rfl, rfl⟩
    exact hless.registerDevice hother
  | register k b =>
    simp only [LocalNetwork.step] at hst
    split at hst
    · next answer server hget hserver =>
      split at hst
      · cases hst
      · split_ifs at hst with hcond
        obtain ⟨syncState, hwas, hhash, hdto⟩ := hlater.answers answer (List.mem_of_getElem? hget)
        have hmarked : ∀ status, Genuine ip hash first (T ++ [.register k b]) (s.setStatus k answer status) := by
          intro status
          refine hlater.lessOf rfl (fun _ => id) (fun _ => id) (fun _ => id) fun other hother => ?_
          rcases List.mem_or_eq_of_mem_set hother with hold | rfl
          · exact ⟨other, hold, rfl, rfl⟩
          · exact ⟨answer, List.mem_of_getElem? hget, rfl, rfl⟩
        by_cases hself : answer.dto.fingerprint = server.fingerprint
        · simp only [HttpServer.registerHandler, if_pos hself] at hst
          obtain rfl := Option.some.inj hst
          exact hmarked 412
        · simp only [HttpServer.registerHandler, if_neg hself] at hst
          obtain rfl := Option.some.inj hst
          refine (hmarked 200).registerDevice (a := answer.sender) ⟨syncState, .http (ip answer.sender),
            fun heq => hself ?_, hwas, ?_⟩
          · rw [hdto]
            exact (hhash.trans heq).trans (hlater.server b server hserver).symm
          · rw [hdto, toDevice_getRegisterDto]
    · cases hst
  | answered k =>
    simp only [LocalNetwork.step] at hst
    split at hst
    · split_ifs at hst
      obtain rfl := Option.some.inj hst
      exact hlater.lessOf rfl (fun _ => id) (fun _ => id) (fun _ => id) fun answer hanswer =>
        ⟨answer, List.mem_of_mem_eraseIdx hanswer, rfl, rfl⟩
    · cases hst
  | fallback k =>
    obtain ⟨answer, -, rfl⟩ := Option.map_eq_some_iff.mp hst
    have hless : Genuine ip hash first (T ++ [.fallback k]) {s with answers := s.answers.eraseIdx k} :=
      hlater.lessOf rfl (fun _ => id) (fun _ => id) (fun _ => id) fun answer hanswer =>
        ⟨answer, List.mem_of_mem_eraseIdx hanswer, rfl, rfl⟩
    exact hless.draft answer.sender false

end Genuine
end LocalNetwork

/-- **What a device lists is another device**, under its address and as it was at some
time, as long as nobody's certificate hash changes. -/
theorem listed_are_announced (ip hash : ι → String) (first : ι → SyncState) {events : List (DiscoveryEvent ι)}
    (hfirst : ∀ a, (first a).certificateHash = hash a) (hkeeps : ∀ e ∈ events, e.KeepsHash hash)
    (h : (localNetwork ip fun a => {syncState := first a}).run (localNetwork ip fun a => {syncState := first a}).init
      events = some s) {b : ι} {key : String} {device : Device} (hmem : (key, device) ∈ (s.node b).devices) :
    ∃ a syncState method, hash a ≠ hash b ∧ key = ip a ∧ device = syncState.device (ip a) method ∧
      (syncState = first a ∨ .updateSyncState a syncState ∈ events) := by
  have hinit : LocalNetwork.Genuine ip hash first [] (localNetwork ip fun a => {syncState := first a}).init := by
    constructor <;> simp [localNetwork, Was, hfirst]
  have hinv := System.run_events (M := localNetwork ip fun a => {syncState := first a})
    (I := LocalNetwork.Genuine ip hash first) (C := fun _ e => e.KeepsHash hash)
    (fun _ _ _ _ hI hkeeps hst => hI.step hkeeps hst) hinit (.of_forall hkeeps _) h
  obtain ⟨a, hkey, syncState, method, hne, hwas, rfl⟩ := hinv.devices b _ hmem
  exact ⟨a, syncState, method, hne, hkey, rfl, by simpa [Was] using hwas⟩

end Genuine

open LaptopAndPhone in
theorem listed_are_announced_laptop_and_phone : ∃ (t : LocalNetwork Bool) (entry : String × Device) (a : Bool),
    (localNetwork address fun a => {syncState := sync a}).run (localNetwork address fun a => {syncState := sync a}).init
      (beginning ++ course) = some t ∧ entry ∈ (t.node true).devices ∧ entry.1 = address a ∧ a = false := by
  have hsome : ((localNetwork address fun a => {syncState := sync a}).run
      (localNetwork address fun a => {syncState := sync a}).init (beginning ++ course)).any
        (fun t => (t.node true).devices ≠ []) = true := by decide +kernel
  obtain ⟨t, hrun, hview⟩ := (Option.any_eq_true _ _).mp hsome
  obtain ⟨entry, hentry⟩ := List.exists_mem_of_ne_nil _ (of_decide_eq_true hview)
  have hkeeps : ∀ e ∈ beginning ++ course, e.KeepsHash fun a => (sync a).certificateHash := by
    simp [beginning, course, DiscoveryEvent.KeepsHash, sync, SyncState.certificateHash, Start.laptop]
  obtain ⟨a, syncState, method, hhash, hkey, -⟩ := listed_are_announced address (fun a => (sync a).certificateHash) sync
    (fun _ => rfl) hkeeps hrun (b := true) hentry
  refine ⟨t, entry, a, hrun, hentry, hkey, ?_⟩
  cases a with
  | false => rfl
  | true => exact absurd rfl hhash

end MagicShare.Nearby
