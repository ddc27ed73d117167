import MagicShare.Nearby.Discovered

/-! Who lists whom, once nothing is on its way any more.

The device that announced itself and each that its datagram reached list each other, unless
a datagram was lost (`discover_each_other`): who hears of the announcement owes an answer,
which is a request or a datagram on its way until the other lists it. -/
namespace MagicShare.Nearby
open Transition
variable {ι : Type} [DecidableEq ι] {ip : ι → String} {s t : LocalNetwork ι} {e : DiscoveryEvent ι}

/-- A device whose listener and server run as its sync state says. -/
def SyncState.running (syncState : SyncState) : Node where
  syncState := syncState
  listener := some syncState
  server := some ⟨syncState.port, syncState.protocol = .https, syncState.certificateHash⟩

/-- Nothing is lost, set up anew or taken off a list, and an answer over UDP reaches all. -/
def DiscoveryEvent.Lossless : DiscoveryEvent ι → Prop
  | .sendAnnouncement _ | .compose _ | .receive _ | .list _ | .register _ _ | .answered _ | .fallback _ => True
  | .send _ _ announcement receivers => announcement = false → ∀ c, c ∈ receivers
  | _ => False

section Mutual
variable {sync : ι → SyncState} {T : List (DiscoveryEvent ι)} {a b c : ι}

namespace LocalNetwork

/-- The device lists the other, as that is. -/
def Lists (ip : ι → String) (sync : ι → SyncState) (s : LocalNetwork ι) (b a : ι) : Prop :=
  ∃ method, (ip a, (sync a).device (ip a) method) ∈ (s.node b).devices

/-- A datagram is on its way from one device to the other. -/
def InTransit (ip : ι → String) (sync : ι → SyncState) (s : LocalNetwork ι) (a b : ι) (announcement : Bool) : Prop :=
  ∃ packet ∈ s.transit, packet.ip = ip a ∧ packet.receiver = b ∧
    packet.datagram = some ((sync a).getMulticastDto announcement)

/-- The device lists the other, or is about to. -/
def Hears (ip : ι → String) (sync : ι → SyncState) (s : LocalNetwork ι) (b a : ι) : Prop :=
  (∃ announcement, InTransit ip sync s a b announcement) ∨
    (∃ method, (b, (sync a).device (ip a) method) ∈ s.found) ∨ Lists ip sync s b a

/-- The device is about to answer the other, over HTTP or UDP, or that hears of it. -/
def Owes (ip : ι → String) (sync : ι → SyncState) (s : LocalNetwork ι) (b a : ι) : Prop :=
  InTransit ip sync s a b true ∨
    (∃ answer ∈ s.answers, answer.sender = b ∧ answer.peer = (sync a).device (ip a) .multicast) ∨
    (∃ draft ∈ s.drafts, draft.sender = b ∧ draft.announcement = false) ∨ Hears ip sync s a b

/-- What is on its way, and what comes of it, where nothing is lost. -/
structure Mutual (ip : ι → String) (sync : ι → SyncState) (T : List (DiscoveryEvent ι)) (s : LocalNetwork ι) : Prop where
  node : ∀ a, ∃ devices, s.node a = {(sync a).running with devices}
  drafts : ∀ draft ∈ s.drafts, draft.multicastGroup = (sync draft.sender).multicastGroup ∧
    draft.port = (sync draft.sender).port ∧
    ∀ dto, draft.dto = some dto → dto = (sync draft.sender).getMulticastDto draft.announcement
  transit : ∀ packet ∈ s.transit, ∃ a announcement, packet.ip = ip a ∧
    packet.multicastGroup = (sync a).multicastGroup ∧ packet.port = (sync a).port ∧
    packet.datagram = some ((sync a).getMulticastDto announcement)
  found : ∀ entry ∈ s.found, ∃ a method, entry.2 = (sync a).device (ip a) method
  answers : ∀ answer ∈ s.answers, answer.dto = (sync answer.sender).getRegisterDto ∧
    ∃ a, answer.peer = (sync a).device (ip a) .multicast
  /-- A request that was accepted is one of a device that is listed by then. -/
  accepted : ∀ answer ∈ s.answers, answer.status = some 200 → ∀ endpoint ∈ answer.peer.firstHttpEndpoint, ∀ c,
    endpoint.ip = ip c → Lists ip sync s c answer.sender
  announced : ∀ k a receivers b, DiscoveryEvent.send k a true receivers ∈ T → b ∈ receivers →
    (sync a).certificateHash ≠ (sync b).certificateHash → Hears ip sync s b a ∧ Owes ip sync s b a

omit [DecidableEq ι] in
theorem Hears.mono (h : Hears ip sync s b a) (htransit : ∀ packet ∈ s.transit, packet ∈ t.transit)
    (hfound : ∀ entry ∈ s.found, entry ∈ t.found) (hlists : Lists ip sync s b a → Lists ip sync t b a) :
    Hears ip sync t b a := by
  rcases h with ⟨announcement, packet, hmem, hrest⟩ | ⟨method, hmem⟩ | hlisted
  · exact .inl ⟨announcement, packet, htransit packet hmem, hrest⟩
  · exact .inr (.inl ⟨method, hfound _ hmem⟩)
  · exact .inr (.inr (hlists hlisted))

omit [DecidableEq ι] in
theorem Owes.mono (h : Owes ip sync s b a) (htransit : ∀ packet ∈ s.transit, packet ∈ t.transit)
    (hanswers : ∀ answer ∈ s.answers, ∃ after ∈ t.answers, after.sender = answer.sender ∧ after.peer = answer.peer)
    (hdrafts : ∀ draft ∈ s.drafts, ∃ after ∈ t.drafts, after.sender = draft.sender ∧
      after.announcement = draft.announcement)
    (hhears : Hears ip sync s a b → Hears ip sync t a b) : Owes ip sync t b a := by
  rcases h with ⟨packet, hmem, hrest⟩ | ⟨answer, hmem, hsender, hpeer⟩ | ⟨draft, hmem, hsender, hanswer⟩ | hheard
  · exact .inl ⟨packet, htransit packet hmem, hrest⟩
  · obtain ⟨after, hafter, hsame, hsamePeer⟩ := hanswers answer hmem
    exact .inr (.inl ⟨after, hafter, hsame.trans hsender, hsamePeer.trans hpeer⟩)
  · obtain ⟨after, hafter, hsame, hsameAnswer⟩ := hdrafts draft hmem
    exact .inr (.inr (.inl ⟨after, hafter, hsame.trans hsender, hsameAnswer.trans hanswer⟩))
  · exact .inr (.inr (.inr (hhears hheard)))

/-- A device that is listed: its entry, and those of the others as they were. -/
theorem registerDevice_eq (sync : ι → SyncState) (hne : ∀ a, ip a ≠ "") (s : LocalNetwork ι) (b a : ι)
    (method : DiscoveryMethod) :
    s.registerDevice b ((sync a).device (ip a) method) =
      s.setNode b {s.node b with
        devices := Dict.put (s.node b).devices (ip a) ((sync a).device (ip a) method)} := by
  simp [registerDevice, Node.registerDevice, SyncState.device, Device.firstHttpEndpoint, Device.httpEndpoints,
    DeviceEndpoint.asHttp, hne a]

theorem lists_registerDevice (sync : ι → SyncState) (hne : ∀ a, ip a ≠ "") (s : LocalNetwork ι) (b a : ι)
    (method : DiscoveryMethod) :
    Lists ip sync (s.registerDevice b ((sync a).device (ip a) method)) b a := by
  refine ⟨method, ?_⟩
  rw [registerDevice_eq sync hne]
  simp only [setNode, Function.update_self]
  exact Dict.mem_put.mpr (.inl rfl)

/-- What is listed stays listed: an entry is replaced by one of the same device. -/
theorem Lists.registerDevice (hip : Function.Injective ip) (hne : ∀ a, ip a ≠ "") (h : Lists ip sync s b a) (c d : ι)
    (method : DiscoveryMethod) : Lists ip sync (s.registerDevice c ((sync d).device (ip d) method)) b a := by
  by_cases hb : b = c ∧ a = d
  · obtain ⟨rfl, rfl⟩ := hb
    exact lists_registerDevice sync hne s b a method
  · obtain ⟨known, hmem⟩ := h
    refine ⟨known, ?_⟩
    rw [registerDevice_eq sync hne]
    by_cases hc : b = c
    · subst hc
      have had : ip a ≠ ip d := fun heq => hb ⟨rfl, hip heq⟩
      simp only [setNode, Function.update_self]
      exact Dict.mem_put.mpr (.inr ⟨hmem, had⟩)
    · simpa [setNode, Function.update_of_ne hc] using hmem

namespace Mutual

omit [DecidableEq ι] in
/-- What was announced is heard of and owed, where what is heard of and owed stays so. -/
theorem of_announced (h : Mutual ip sync T s)
    (hhears : ∀ b a, (sync a).certificateHash ≠ (sync b).certificateHash → Hears ip sync s b a → Hears ip sync t b a)
    (howes : ∀ b a, (sync a).certificateHash ≠ (sync b).certificateHash → Owes ip sync s b a → Owes ip sync t b a)
    (k : Nat) (a : ι) (receivers : List ι) (b : ι) (hevent : DiscoveryEvent.send k a true receivers ∈ T)
    (hb : b ∈ receivers)
    (hhash : (sync a).certificateHash ≠ (sync b).certificateHash) : Hears ip sync t b a ∧ Owes ip sync t b a :=
  (h.announced k a receivers b hevent hb hhash).imp (hhears b a hhash) (howes b a hhash)

/-- A device that the handler or the list registers. -/
theorem registerDevice (h : Mutual ip sync T s) (hip : Function.Injective ip) (hne : ∀ a, ip a ≠ "") (b a : ι)
    (method : DiscoveryMethod) : Mutual ip sync T (s.registerDevice b ((sync a).device (ip a) method)) := by
  have heq := registerDevice_eq sync hne s b a method
  have hlists : ∀ {c d : ι}, Lists ip sync s c d →
      Lists ip sync (s.registerDevice b ((sync a).device (ip a) method)) c d := fun hlisted =>
    hlisted.registerDevice hip hne b a method
  refine ⟨fun c => ?_, ?_, ?_, ?_, ?_, fun answer hanswer hstatus endpoint hendpoint c hc => ?_,
    h.of_announced (fun c d _ hheard => hheard.mono ?_ ?_ hlists) fun c d _ howed =>
      howed.mono ?_ (fun answer hanswer => ⟨answer, ?_, rfl, rfl⟩) (fun draft hdraft => ⟨draft, ?_, rfl, rfl⟩)
        fun hheard => hheard.mono ?_ ?_ hlists⟩
  · obtain ⟨devices, hnode⟩ := h.node c
    rw [heq]
    by_cases hc : c = b
    · subst hc
      refine ⟨Dict.put (s.node c).devices (ip a) ((sync a).device (ip a) method), ?_⟩
      simp [setNode, hnode]
    · exact ⟨devices, by simp [setNode, hc, hnode]⟩
  · rw [heq]
    exact h.drafts
  · rw [heq]
    exact h.transit
  · rw [heq]
    exact h.found
  · rw [heq]
    exact h.answers
  · rw [heq] at hanswer
    exact hlists (h.accepted answer hanswer hstatus endpoint hendpoint c hc)
  all_goals rw [heq]
  · exact fun _ => id
  · exact fun _ => id
  · exact fun _ => id
  · exact hanswer
  · exact hdraft
  · exact fun _ => id
  · exact fun _ => id

omit [DecidableEq ι] in
/-- A datagram is to be sent. -/
theorem draft (h : Mutual ip sync T s) (a : ι) (announcement : Bool) : Mutual ip sync T (s.draft a announcement) := by
  refine {h with
    drafts := fun draft hdraft => ?_
    announced := h.of_announced (fun _ _ _ => id) fun b c _ howed =>
      howed.mono (fun _ => id) (fun answer hanswer => ⟨answer, hanswer, rfl, rfl⟩)
        (fun draft hdraft => ⟨draft, List.mem_append_left _ hdraft, rfl, rfl⟩) id}
  rcases List.mem_append.mp hdraft with hold | hnew
  · exact h.drafts draft hold
  · obtain rfl := List.mem_singleton.mp hnew
    obtain ⟨devices, hnode⟩ := h.node a
    exact ⟨by simp [hnode, SyncState.running], by simp [hnode, SyncState.running], fun dto hdto => by cases hdto⟩

omit [DecidableEq ι] in
/-- A datagram is composed. -/
theorem compose (h : Mutual ip sync T s) {k : Nat} {draft : Draft ι} (hget : s.drafts[k]? = some draft) :
    Mutual ip sync T (s.compose k draft) := by
  have hdraft := h.drafts draft (List.mem_of_getElem? hget)
  obtain ⟨devices, hnode⟩ := h.node draft.sender
  refine {h with
    drafts := fun other hother => ?_
    announced := h.of_announced (fun _ _ _ => id) fun b c _ howed =>
      howed.mono (fun _ => id) (fun answer hanswer => ⟨answer, hanswer, rfl, rfl⟩) (fun other hother => ?_) id}
  · rcases List.mem_or_eq_of_mem_set hother with hold | rfl
    · exact h.drafts other hold
    · refine ⟨hdraft.1, hdraft.2.1, fun dto hdto => ?_⟩
      obtain rfl := Option.some.inj hdto
      simp [hnode, SyncState.running]
  · obtain ⟨j, hj⟩ := List.mem_iff_getElem?.mp hother
    by_cases hjk : k = j
    · subst hjk
      obtain rfl := Option.some.inj (hj.symm.trans hget)
      exact ⟨_, List.mem_of_getElem? (Records.set_self hget), rfl, rfl⟩
    · refine ⟨other, List.mem_of_getElem? (i := j) ?_, rfl, rfl⟩
      rw [LocalNetwork.compose, List.getElem?_set_ne hjk]
      exact hj

omit [DecidableEq ι] in
/-- Whom a datagram reaches, it is on its way to. -/
theorem inTransit_send (ip : ι → String) (s : LocalNetwork ι) {draft : Draft ι} {dto : MulticastDto}
    (hdto : dto = (sync draft.sender).getMulticastDto draft.announcement) {receivers : List ι} (hb : b ∈ receivers) :
    InTransit ip sync (s.send ip draft dto receivers) draft.sender b draft.announcement :=
  ⟨_, List.mem_append_right _ (List.mem_map_of_mem hb), rfl, rfl, congrArg some hdto⟩

omit [DecidableEq ι] in
/-- A datagram goes out: where it is an answer, all it is owed to hear of its sender. -/
theorem send (h : Mutual ip sync T s) {k : Nat} {draft : Draft ι} {dto : MulticastDto} {receivers : List ι}
    (hget : s.drafts[k]? = some draft) (hdto : draft.dto = some dto)
    (hall : draft.announcement = false → ∀ c, c ∈ receivers) :
    Mutual ip sync T ({s with drafts := s.drafts.eraseIdx k}.send ip draft dto receivers) := by
  obtain ⟨hgroup, hport, htold⟩ := h.drafts draft (List.mem_of_getElem? hget)
  have hheard : ∀ b c, Hears ip sync s b c →
      Hears ip sync ({s with drafts := s.drafts.eraseIdx k}.send ip draft dto receivers) b c := fun b c hheard =>
    hheard.mono (fun _ => List.mem_append_left _) (fun _ => id) id
  refine {h with
    drafts := fun other hother => h.drafts other (List.mem_of_mem_eraseIdx hother)
    transit := fun packet hpacket => ?_
    announced := h.of_announced (fun b c _ => hheard b c) fun b a _ howed => ?_}
  · rcases List.mem_append.mp hpacket with hold | hnew
    · exact h.transit packet hold
    · obtain ⟨b, -, rfl⟩ := List.mem_map.mp hnew
      exact ⟨draft.sender, draft.announcement, rfl, hgroup, hport, congrArg some (htold dto hdto)⟩
  · rcases howed with ⟨packet, hmem, hrest⟩ | hanswer | ⟨other, hmem, hsender, hanswer⟩ | hheardBack
    · exact .inl ⟨packet, List.mem_append_left _ hmem, hrest⟩
    · exact .inr (.inl hanswer)
    · rcases Records.eq_or_mem_eraseIdx hget hmem with rfl | hleft
      · have htransit := inTransit_send ip {s with drafts := s.drafts.eraseIdx k} (htold dto hdto)
          (hall hanswer a)
        rw [hsender] at htransit
        exact .inr (.inr (.inr (.inl ⟨_, htransit⟩)))
      · exact .inr (.inr (.inl ⟨other, hleft, hsender, hanswer⟩))
    · exact .inr (.inr (.inr (hheard a b hheardBack)))

omit [DecidableEq ι] in
/-- A packet is received by its receiver, unless it is its own. -/
theorem onPacket_eq (hnode : ∀ a, ∃ devices, s.node a = {(sync a).running with devices})
    (hgroup : ∀ a b, (sync a).multicastGroup = (sync b).multicastGroup) (hport : ∀ a b, (sync a).port = (sync b).port)
    (hrunning : ∀ a, (sync a).serverRunning = true) {packet : Packet ι} {announcement : Bool} (hip : packet.ip = ip a)
    (hpacketGroup : packet.multicastGroup = (sync a).multicastGroup) (hpacketPort : packet.port = (sync a).port)
    (hdatagram : packet.datagram = some ((sync a).getMulticastDto announcement))
    (hhash : (sync a).certificateHash ≠ (sync packet.receiver).certificateHash) :
    s.onPacket packet = {s with
      found := s.found ++ [(packet.receiver, (sync a).device (ip a) .multicast)]
      answers := if announcement then s.answers ++ [⟨packet.receiver, (sync a).device (ip a) .multicast,
        (sync packet.receiver).getRegisterDto, none⟩] else s.answers} := by
  obtain ⟨devices, hreceiver⟩ := hnode packet.receiver
  have hself : ((sync a).getMulticastDto announcement).fingerprint ≠ (sync packet.receiver).certificateHash := hhash
  have hasks : ((sync a).getMulticastDto announcement).asks = announcement := by cases announcement <;> rfl
  have hsame : (sync packet.receiver).multicastGroup = packet.multicastGroup ∧
      (sync packet.receiver).port = packet.port :=
    ⟨(hgroup _ a).trans hpacketGroup.symm, (hport _ a).trans hpacketPort.symm⟩
  simp only [onPacket, hreceiver, SyncState.running, if_pos hsame, hdatagram, SyncState.onDatagram, if_neg hself, hasks,
    hrunning, Bool.and_true, hip]
  rfl

omit [DecidableEq ι] in
/-- Its own packet is nothing to a device. -/
theorem onPacket_self (hnode : ∀ a, ∃ devices, s.node a = {(sync a).running with devices}) {packet : Packet ι}
    {announcement : Bool} (hdatagram : packet.datagram = some ((sync a).getMulticastDto announcement))
    (hhash : (sync a).certificateHash = (sync packet.receiver).certificateHash) : s.onPacket packet = s := by
  obtain ⟨devices, hreceiver⟩ := hnode packet.receiver
  have hself : ((sync a).getMulticastDto announcement).fingerprint = (sync packet.receiver).certificateHash := hhash
  simp only [onPacket, hreceiver, SyncState.running, hdatagram, SyncState.onDatagram, if_pos hself]
  split_ifs <;> rfl

omit [DecidableEq ι] in
/-- A packet is received: its sender is found, and answered where it asks for it. -/
theorem receive (h : Mutual ip sync T s) (hip : Function.Injective ip)
    (hgroup : ∀ a b, (sync a).multicastGroup = (sync b).multicastGroup) (hport : ∀ a b, (sync a).port = (sync b).port)
    (hrunning : ∀ a, (sync a).serverRunning = true) {k : Nat} {packet : Packet ι} (hget : s.transit[k]? = some packet) :
    Mutual ip sync T ({s with transit := s.transit.eraseIdx k}.onPacket packet) := by
  obtain ⟨c, announcement, hpacketIp, hpacketGroup, hpacketPort, hdatagram⟩ :=
    h.transit packet (List.mem_of_getElem? hget)
  have hleft : ∀ p ∈ s.transit, p = packet ∨ p ∈ s.transit.eraseIdx k := fun p hp => Records.eq_or_mem_eraseIdx hget hp
  by_cases hhash : (sync c).certificateHash = (sync packet.receiver).certificateHash
  · rw [onPacket_self (s := {s with transit := s.transit.eraseIdx k}) h.node hdatagram hhash]
    -- It is a packet to the device itself, so nobody else is heard of by it.
    have hkept : ∀ a b announcement, (sync a).certificateHash ≠ (sync b).certificateHash →
        InTransit ip sync s a b announcement →
        InTransit ip sync {s with transit := s.transit.eraseIdx k} a b announcement := by
      rintro a b announcement hne ⟨p, hp, hpip, hpreceiver, hpdatagram⟩
      rcases hleft p hp with rfl | hp
      · obtain rfl : a = c := hip (hpip.symm.trans hpacketIp)
        rw [hpreceiver] at hhash
        exact absurd hhash hne
      · exact ⟨p, hp, hpip, hpreceiver, hpdatagram⟩
    have hhears : ∀ b a, (sync a).certificateHash ≠ (sync b).certificateHash → Hears ip sync s b a →
        Hears ip sync {s with transit := s.transit.eraseIdx k} b a := by
      rintro b a hne (⟨announcement, htransit⟩ | hrest)
      · exact .inl ⟨announcement, hkept a b announcement hne htransit⟩
      · exact .inr hrest
    refine {h with
      transit := fun p hp => h.transit p (List.mem_of_mem_eraseIdx hp)
      announced := h.of_announced hhears fun b a hne howed => ?_}
    rcases howed with htransit | hanswer | hdraft | hheard
    · exact .inl (hkept a b true hne htransit)
    · exact .inr (.inl hanswer)
    · exact .inr (.inr (.inl hdraft))
    · exact .inr (.inr (.inr (hhears a b hne.symm hheard)))
  · have heq := onPacket_eq (s := {s with transit := s.transit.eraseIdx k}) h.node hgroup hport hrunning hpacketIp
      hpacketGroup hpacketPort hdatagram hhash
    have hhears : ∀ b a, Hears ip sync s b a →
        Hears ip sync ({s with transit := s.transit.eraseIdx k}.onPacket packet) b a := by
      rw [heq]
      rintro b a (⟨announcement', p, hp, hpip, hpreceiver, hpdatagram⟩ | ⟨method, hfound⟩ | hlisted)
      · rcases hleft p hp with rfl | hp
        · obtain rfl : a = c := hip (hpip.symm.trans hpacketIp)
          exact .inr (.inl ⟨.multicast, List.mem_append_right _ (by simp [hpreceiver])⟩)
        · exact .inl ⟨announcement', p, hp, hpip, hpreceiver, hpdatagram⟩
      · exact .inr (.inl ⟨method, List.mem_append_left _ hfound⟩)
      · exact .inr (.inr hlisted)
    have howes : ∀ b a, Owes ip sync s b a →
        Owes ip sync ({s with transit := s.transit.eraseIdx k}.onPacket packet) b a := by
      rintro b a (⟨p, hp, hpip, hpreceiver, hpdatagram⟩ | ⟨answer, hanswer, hsender, hpeer⟩ | hdraft | hheard)
      · rw [heq]
        rcases hleft p hp with rfl | hp
        · obtain rfl : a = c := hip (hpip.symm.trans hpacketIp)
          obtain rfl : announcement = true := by
            have hannounce := congrArg MulticastDto.announce (Option.some.inj (hdatagram.symm.trans hpdatagram))
            exact Option.some.inj hannounce
          exact .inr (.inl ⟨_, List.mem_append_right _ (List.mem_singleton_self _), hpreceiver, rfl⟩)
        · exact .inl ⟨p, hp, hpip, hpreceiver, hpdatagram⟩
      · rw [heq]
        refine .inr (.inl ⟨answer, ?_, hsender, hpeer⟩)
        dsimp only
        split
        · exact List.mem_append_left _ hanswer
        · exact hanswer
      · rw [heq]
        exact .inr (.inr (.inl hdraft))
      · exact .inr (.inr (.inr (hhears a b hheard)))
    have hannounced := h.of_announced (fun b a _ => hhears b a) fun b a _ => howes b a
    rw [heq] at hannounced ⊢
    have hcase : ∀ answer ∈ (if announcement then s.answers ++ [⟨packet.receiver, (sync c).device (ip c) .multicast,
        (sync packet.receiver).getRegisterDto, none⟩] else s.answers), answer ∈ s.answers ∨
        answer = ⟨packet.receiver, (sync c).device (ip c) .multicast, (sync packet.receiver).getRegisterDto, none⟩ := by
      intro answer hanswer
      split at hanswer
      · rcases List.mem_append.mp hanswer with hold | hnew
        · exact .inl hold
        · exact .inr (List.mem_singleton.mp hnew)
      · exact .inl hanswer
    refine ⟨h.node, h.drafts, fun p hp => h.transit p (List.mem_of_mem_eraseIdx hp), fun entry hentry => ?_,
      fun answer hanswer => ?_, fun answer hanswer hstatus => ?_, hannounced⟩
    · rcases List.mem_append.mp hentry with hold | hnew
      · exact h.found entry hold
      · obtain rfl := List.mem_singleton.mp hnew
        exact ⟨c, .multicast, rfl⟩
    · rcases hcase answer hanswer with hold | rfl
      · exact h.answers answer hold
      · exact ⟨rfl, c, rfl⟩
    · rcases hcase answer hanswer with hold | rfl
      · exact h.accepted answer hold hstatus
      · cases hstatus

/-- What a listener has found is listed. -/
theorem list (h : Mutual ip sync T s) (hip : Function.Injective ip) (hne : ∀ a, ip a ≠ "") {k : Nat} {b : ι}
    {device : Device} (hget : s.found[k]? = some (b, device)) :
    Mutual ip sync T ({s with found := s.found.eraseIdx k}.registerDevice b device) := by
  obtain ⟨a, method, rfl : device = _⟩ := h.found _ (List.mem_of_getElem? hget)
  have hthen := h.registerDevice hip hne b a method
  have heq := registerDevice_eq sync hne s b a method
  have hshape : ({s with found := s.found.eraseIdx k}.registerDevice b ((sync a).device (ip a) method)) =
      {s.registerDevice b ((sync a).device (ip a) method) with found := s.found.eraseIdx k} := by
    rw [heq, registerDevice_eq sync hne]
    rfl
  have hhears : ∀ d c, Hears ip sync s d c →
      Hears ip sync ({s with found := s.found.eraseIdx k}.registerDevice b ((sync a).device (ip a) method)) d c := by
    rw [hshape]
    rintro d c (⟨announcement, p, hp, hrest⟩ | ⟨method', hfound⟩ | hlisted)
    · refine .inl ⟨announcement, p, ?_, hrest⟩
      rw [heq]
      exact hp
    · rcases Records.eq_or_mem_eraseIdx hget hfound with hthis | hleft
      · -- It is the one that is listed now.
        obtain ⟨rfl, hdevice⟩ := Prod.mk.inj hthis
        have hlists := lists_registerDevice sync hne s d c method'
        rw [hdevice] at hlists
        exact .inr (.inr hlists)
      · exact .inr (.inl ⟨method', hleft⟩)
    · exact .inr (.inr (hlisted.registerDevice hip hne b a method))
  have hannounced := h.of_announced (fun d c _ => hhears d c) fun d c _ howed => by
    refine howed.mono (fun p hp => ?_) (fun answer hanswer => ⟨answer, ?_, rfl, rfl⟩)
      (fun draft hdraft => ⟨draft, ?_, rfl, rfl⟩) (hhears c d)
    all_goals rw [hshape, heq]
    · exact hp
    · exact hanswer
    · exact hdraft
  rw [hshape] at hannounced ⊢
  exact {hthen with found := fun entry hentry => h.found entry (List.mem_of_mem_eraseIdx hentry), announced := hannounced}

omit [DecidableEq ι] in
/-- The request of an answer has been handled; where it was accepted, its sender is listed. -/
theorem setStatus (h : Mutual ip sync T s) {k : Nat} {answer : Answer ι} (hget : s.answers[k]? = some answer)
    (status : Nat) (hlisted : status = 200 → ∀ endpoint ∈ answer.peer.firstHttpEndpoint, ∀ c, endpoint.ip = ip c →
      Lists ip sync s c answer.sender) : Mutual ip sync T (s.setStatus k answer status) := by
  have hmem := List.mem_of_getElem? hget
  refine ⟨h.node, h.drafts, h.transit, h.found, fun other hother => ?_, fun other hother hstatus => ?_,
    h.of_announced (fun _ _ _ => id) fun b a _ howed => howed.mono (fun _ => id) (fun other hother => ?_)
      (fun draft hdraft => ⟨draft, hdraft, rfl, rfl⟩) id⟩
  · rcases List.mem_or_eq_of_mem_set hother with hold | rfl
    · exact h.answers other hold
    · exact h.answers answer hmem
  · rcases List.mem_or_eq_of_mem_set hother with hold | rfl
    · exact h.accepted other hold hstatus
    · exact hlisted (Option.some.inj hstatus)
  · by_cases hsame : other = answer
    · subst hsame
      exact ⟨_, List.mem_of_getElem? (Records.set_self hget), rfl, rfl⟩
    · obtain ⟨j, hj⟩ := List.mem_iff_getElem?.mp hother
      have hjk : k ≠ j := by
        rintro rfl
        exact hsame (Option.some.inj (hj.symm.trans hget))
      refine ⟨other, List.mem_of_getElem? (i := j) ?_, rfl, rfl⟩
      rw [LocalNetwork.setStatus, List.getElem?_set_ne hjk]
      exact hj

/-- The request of an answer reaches the server of the peer. -/
theorem register (h : Mutual ip sync T s) (hip : Function.Injective ip) (hne : ∀ a, ip a ≠ "") {k : Nat}
    (hst : s.step ip (.register k b) = some t) : Mutual ip sync T t := by
  simp only [LocalNetwork.step] at hst
  split at hst
  · next answer server hget hserver =>
    split at hst
    · cases hst
    · next endpoint hendpoint =>
      split_ifs at hst with hcond
      obtain ⟨hdto, -⟩ := h.answers answer (List.mem_of_getElem? hget)
      by_cases hself : answer.dto.fingerprint = server.fingerprint
      · simp only [HttpServer.registerHandler, if_pos hself] at hst
        obtain rfl := Option.some.inj hst
        exact h.setStatus hget 412 fun hstatus => by cases hstatus
      · simp only [HttpServer.registerHandler, if_neg hself] at hst
        obtain rfl := Option.some.inj hst
        rw [hdto, toDevice_getRegisterDto]
        have hthen := h.registerDevice hip hne b answer.sender (.http (ip answer.sender))
        have heq := registerDevice_eq sync hne s b answer.sender (.http (ip answer.sender))
        have hcomm : (s.setStatus k answer 200).registerDevice b
            ((sync answer.sender).device (ip answer.sender) (.http (ip answer.sender))) =
            (s.registerDevice b ((sync answer.sender).device (ip answer.sender) (.http (ip answer.sender)))).setStatus k
              answer 200 := by
          rw [heq, registerDevice_eq sync hne]
          rfl
        rw [hcomm]
        refine hthen.setStatus (by rw [heq]; exact hget) 200 fun _ endpoint' hendpoint' c hc => ?_
        obtain rfl := Option.some.inj (hendpoint.symm.trans hendpoint')
        obtain rfl : b = c := hip (hcond.2.1.symm.trans hc)
        exact lists_registerDevice sync hne s b answer.sender _
  · cases hst

omit [DecidableEq ι] in
/-- An answer was accepted: its sender is listed. -/
theorem answered (h : Mutual ip sync T s) {k : Nat} {answer : Answer ι} (hget : s.answers[k]? = some answer)
    (hstatus : answer.status = some 200) : Mutual ip sync T {s with answers := s.answers.eraseIdx k} := by
  refine {h with
    answers := fun other hother => h.answers other (List.mem_of_mem_eraseIdx hother)
    accepted := fun other hother => h.accepted other (List.mem_of_mem_eraseIdx hother)
    announced := h.of_announced (fun _ _ _ => id) fun b a _ howed => ?_}
  rcases howed with htransit | ⟨other, hother, hsender, hpeer⟩ | hrest
  · exact .inl htransit
  · rcases Records.eq_or_mem_eraseIdx hget hother with rfl | hleft
    · have haccepted := h.accepted other hother hstatus
      rw [hpeer, hsender] at haccepted
      exact .inr (.inr (.inr (.inr (.inr (haccepted _ rfl a rfl)))))
    · exact .inr (.inl ⟨other, hleft, hsender, hpeer⟩)
  · exact .inr (.inr hrest)

omit [DecidableEq ι] in
/-- An answer is to go out over UDP instead. -/
theorem fallback (h : Mutual ip sync T s) {k : Nat} {answer : Answer ι} (hget : s.answers[k]? = some answer) :
    Mutual ip sync T ({s with answers := s.answers.eraseIdx k}.draft answer.sender false) := by
  have hthen := h.draft answer.sender false
  refine {hthen with
    answers := fun other hother => h.answers other (List.mem_of_mem_eraseIdx hother)
    accepted := fun other hother => h.accepted other (List.mem_of_mem_eraseIdx hother)
    announced := h.of_announced (fun _ _ _ => id) fun b a _ howed => ?_}
  rcases howed with htransit | ⟨other, hother, hsender, hpeer⟩ | ⟨draft, hdraft, hrest⟩ | hheard
  · exact .inl htransit
  · rcases Records.eq_or_mem_eraseIdx hget hother with rfl | hleft
    · exact .inr (.inr (.inl ⟨_, List.mem_append_right _ (List.mem_singleton_self _), hsender, rfl⟩))
    · exact .inr (.inl ⟨other, hleft, hsender, hpeer⟩)
  · exact .inr (.inr (.inl ⟨draft, List.mem_append_left _ hdraft, hrest⟩))
  · exact .inr (.inr (.inr hheard))

/-- **One step.** -/
theorem step (h : Mutual ip sync T s) (hip : Function.Injective ip) (hne : ∀ a, ip a ≠ "")
    (hgroup : ∀ a b, (sync a).multicastGroup = (sync b).multicastGroup) (hport : ∀ a b, (sync a).port = (sync b).port)
    (hrunning : ∀ a, (sync a).serverRunning = true) (hlossless : e.Lossless) (hst : s.step ip e = some t) :
    Mutual ip sync (T ++ [e]) t := by
  -- An event that sends no announcement adds nothing that is to be heard of.
  have hlater : ∀ {t : LocalNetwork ι}, (∀ k a receivers, e ≠ .send k a true receivers) → Mutual ip sync T t →
      Mutual ip sync (T ++ [e]) t := by
    intro t he ht
    refine {ht with announced := fun k a receivers b hevent hb hhash => ?_}
    rcases List.mem_append.mp hevent with hold | hnew
    · exact ht.announced k a receivers b hold hb hhash
    · exact absurd (List.mem_singleton.mp hnew).symm (he k a receivers)
  cases e with
  | updateSyncState a syncState => cases hlossless
  | startListener a => cases hlossless
  | bind a => cases hlossless
  | close a => cases hlossless
  | startServer a server => cases hlossless
  | stopServer a => cases hlossless
  | clear a => cases hlossless
  | prune a ips => cases hlossless
  | lose k => cases hlossless
  | sendAnnouncement a =>
    obtain rfl := Option.some.inj hst
    exact hlater (fun _ _ _ => by simp) (h.draft a true)
  | compose k =>
    simp only [LocalNetwork.step] at hst
    split at hst
    · next draft hget =>
      split_ifs at hst
      obtain rfl := Option.some.inj hst
      exact hlater (fun _ _ _ => by simp) (h.compose hget)
    · cases hst
  | send k a announcement receivers =>
    simp only [LocalNetwork.step] at hst
    split at hst
    · next draft hget =>
      split_ifs at hst with hlabel
      obtain ⟨rfl, rfl⟩ := hlabel
      obtain ⟨dto, hdto, rfl⟩ := Option.map_eq_some_iff.mp hst
      have hthen := h.send hget hdto hlossless
      refine {hthen with announced := fun k' c others b hevent hb hhash => ?_}
      rcases List.mem_append.mp hevent with hold | hnew
      · exact hthen.announced k' c others b hold hb hhash
      · obtain ⟨-, rfl, hannouncement, rfl⟩ := DiscoveryEvent.send.inj (List.mem_singleton.mp hnew)
        have htold := (h.drafts draft (List.mem_of_getElem? hget)).2.2 dto hdto
        have htransit := inTransit_send ip {s with drafts := s.drafts.eraseIdx k} htold hb
        rw [← hannouncement] at htransit
        exact ⟨.inl ⟨true, htransit⟩, .inl htransit⟩
    · cases hst
  | receive k =>
    obtain ⟨packet, hget, rfl⟩ := Option.map_eq_some_iff.mp hst
    exact hlater (fun _ _ _ => by simp) (h.receive hip hgroup hport hrunning hget)
  | list k =>
    obtain ⟨⟨b, device⟩, hget, rfl⟩ := Option.map_eq_some_iff.mp hst
    exact hlater (fun _ _ _ => by simp) (h.list hip hne hget)
  | register k b => exact hlater (fun _ _ _ => by simp) (h.register hip hne hst)
  | answered k =>
    simp only [LocalNetwork.step] at hst
    split at hst
    · next answer hget =>
      split_ifs at hst with hstatus
      obtain rfl := Option.some.inj hst
      exact hlater (fun _ _ _ => by simp) (h.answered hget hstatus)
    · cases hst
  | fallback k =>
    obtain ⟨answer, hget, rfl⟩ := Option.map_eq_some_iff.mp hst
    exact hlater (fun _ _ _ => by simp) (h.fallback hget)

end Mutual
end LocalNetwork

/-- **Once nothing is on its way, who announced himself and whom that reached list each
other**, where all run on the same group and port and nothing is lost, in whatever order
packets arrive and whether answers go over HTTP or UDP. -/
theorem discover_each_other (ip : ι → String) (sync : ι → SyncState) (hip : Function.Injective ip) (hne : ∀ a, ip a ≠ "")
    (hgroup : ∀ a b, (sync a).multicastGroup = (sync b).multicastGroup) (hport : ∀ a b, (sync a).port = (sync b).port)
    (hrunning : ∀ a, (sync a).serverRunning = true) {events : List (DiscoveryEvent ι)}
    (hlossless : ∀ e ∈ events, e.Lossless)
    (h : (localNetwork ip fun a => (sync a).running).run (localNetwork ip fun a => (sync a).running).init events = some s)
    (hquiet : s.drafts = [] ∧ s.transit = [] ∧ s.found = [] ∧ s.answers = []) {k : Nat} {a b : ι} {receivers : List ι}
    (hannounced : .send k a true receivers ∈ events) (hb : b ∈ receivers)
    (hhash : (sync a).certificateHash ≠ (sync b).certificateHash) :
    (∃ method, (ip a, (sync a).device (ip a) method) ∈ (s.node b).devices) ∧
      ∃ method, (ip b, (sync b).device (ip b) method) ∈ (s.node a).devices := by
  have hinit : LocalNetwork.Mutual ip sync [] (localNetwork ip fun a => (sync a).running).init := by
    constructor
    · exact fun a => ⟨[], rfl⟩
    all_goals simp [localNetwork]
  have hinv := System.run_events (M := localNetwork ip fun a => (sync a).running) (I := LocalNetwork.Mutual ip sync)
    (C := fun _ e => e.Lossless)
    (fun _ _ _ _ hI hc hst => hI.step hip hne hgroup hport hrunning hc hst) hinit (.of_forall hlossless _) h
  obtain ⟨hdrafts, htransit, hfound, hanswers⟩ := hquiet
  -- Nothing is on its way, so what is heard of is listed.
  have hlisted : ∀ {c d : ι}, LocalNetwork.Hears ip sync s c d → LocalNetwork.Lists ip sync s c d := by
    rintro c d (⟨announcement, packet, hmem, -⟩ | ⟨method, hmem⟩ | hlists)
    · rw [htransit] at hmem
      cases hmem
    · rw [hfound] at hmem
      cases hmem
    · exact hlists
  obtain ⟨hhears, howes⟩ := hinv.announced k a receivers b hannounced hb hhash
  refine ⟨hlisted hhears, ?_⟩
  rcases howes with ⟨packet, hmem, -⟩ | ⟨answer, hmem, -⟩ | ⟨draft, hmem, -⟩ | hheard
  · rw [htransit] at hmem
    cases hmem
  · rw [hanswers] at hmem
    cases hmem
  · rw [hdrafts] at hmem
    cases hmem
  · exact hlisted hheard

end Mutual

open LaptopAndPhone in
theorem discover_each_other_laptop_and_phone : ∃ t : LocalNetwork Bool,
    (localNetwork address fun a => (sync a).running).run (localNetwork address fun a => (sync a).running).init course =
      some t ∧
    (∃ method, (address false, (sync false).device (address false) method) ∈ (t.node true).devices) ∧
      ∃ method, (address true, (sync true).device (address true) method) ∈ (t.node false).devices := by
  have hsome : ((localNetwork address fun a => (sync a).running).run
      (localNetwork address fun a => (sync a).running).init course).any
        (fun t => t.drafts.isEmpty && t.transit.isEmpty && t.found.isEmpty && t.answers.isEmpty) = true := by
    decide +kernel
  obtain ⟨t, hrun, hview⟩ := (Option.any_eq_true _ _).mp hsome
  have hquiet : t.drafts = [] ∧ t.transit = [] ∧ t.found = [] ∧ t.answers = [] := by simpa [and_assoc] using hview
  have hlossless : ∀ e ∈ course, e.Lossless := by simp [course, DiscoveryEvent.Lossless]
  have hannounced : .send 0 false true [false, true] ∈ course := by simp [course]
  have hinjective : Function.Injective address := by
    intro a b
    cases a <;> cases b <;> simp [address]
  exact ⟨t, hrun, discover_each_other address sync hinjective (by decide) (by decide) (by decide) (by decide) hlossless
    hrun hquiet hannounced (by simp) (by decide)⟩

end MagicShare.Nearby
