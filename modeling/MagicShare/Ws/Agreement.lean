import MagicShare.Ws.Views

/-! When the clients of a group agree on who is there.

Of every peer a client knows what is so, or what is so is still to be sent to it
(`Server.Current`): a step that changes what is so has the news sent to every
client of the group, and a send brings the client's map up to date, if it is sent
in order. With nothing left to send the maps are right (`views_agree`). -/
namespace MagicShare.Ws
open Documents

namespace Server

/-- What a client of the group should know of a peer: what it announced last, while
it is connected. -/
def shown (σ : Server) (viewer : Uuid) (ipGroup : String) (peer : Uuid) : Option ClientInfo :=
  if peer = viewer then none else (σ.announcedIn ipGroup peer).map fun info => .of info peer

/-- Nothing is left to send, and every handler serves its client or has left. -/
def Drained (σ : Server) : Prop := ∀ id h, σ.handlers id = some h → h.sends = [] ∧
  ((h.phase = .serving ∧ h.sendTask = .running ∧ h.recvTask = .idle ∧ h.queue = []) ∨
    (h.phase = .leaving ∧ (h.recvTask = .idle ∨ h.recvTask = .over)))

/-- Once everything is sent, every client's map shows its group. -/
def ViewsAgree (σ : Server) : Prop := σ.Drained → ∀ id h, σ.handlers id = some h → h.phase = .serving →
  ∀ peer, View.of h.received peer = σ.shown id h.ipGroup peer

/-- News is sent to a client after its `Hello`, and once a client has left an update
of it is sent before its `Left` only. -/
def InOrder (σ : Server) (e : ServerEvent) : Prop := ∀ s ∈ σ.sending e,
  (s.2.News → ∀ t ∈ σ.handlers s.1, ¬ t.phase.Connecting) ∧
  (s.2.Update → ∀ id ∈ e.handler, ∀ h ∈ σ.handlers id, h.phase = .leaving → (s.1, .left id) ∈ h.sends)

instance (σ : Server) (e : ServerEvent) : Decidable (InOrder σ e) :=
  inferInstanceAs (Decidable (∀ s ∈ σ.sending e, _ ∧ _))

/-! ### What is known or on its way -/

/-- A message that a handler owes, or the one that is being sent. -/
def Pending (σ : Server) (flight : Option (Uuid × Uuid × WsServerMessage)) (id target : Uuid)
    (message : WsServerMessage) : Prop :=
  flight = some (id, target, message) ∨ ∃ h, σ.handlers id = some h ∧ h.Owes target message

/-- The client knows what is so of the peer, or is still to be told. -/
def UpToDate (σ : Server) (flight : Option (Uuid × Uuid × WsServerMessage)) (viewer : Uuid) (h : Handler)
    (peer : Uuid) : Prop :=
  h.base peer = σ.shown viewer h.ipGroup peer ∨ ∃ message, σ.Pending flight peer viewer message ∧
    message.tells peer = some (σ.shown viewer h.ipGroup peer)

/-- A peer about to be removed need not be up to date: its `Left` is to come. -/
def Closing (σ : Server) (ipGroup : String) (peer : Uuid) : Prop :=
  ∃ k, σ.handlers peer = some k ∧ k.phase = .closing ∧ k.ipGroup = ipGroup

/-- Every connected client is up to date. -/
def Current (flight : Option (Uuid × Uuid × WsServerMessage)) (σ : Server) : Prop :=
  ∀ viewer h, σ.handlers viewer = some h → h.Live → h.sendTask ≠ .dropped →
    ∀ peer, ¬ σ.Closing h.ipGroup peer → σ.UpToDate flight viewer h peer

variable {limits : Limits} {σ τ : Server}

theorem announcedIn_congr {peer : Uuid} (h : τ.handlers peer = σ.handlers peer) (ipGroup : String) :
    τ.announcedIn ipGroup peer = σ.announcedIn ipGroup peer := by
  rw [announcedIn, announcedIn, h]

theorem shown_congr {peer : Uuid} (h : τ.handlers peer = σ.handlers peer) (viewer : Uuid) (ipGroup : String) :
    τ.shown viewer ipGroup peer = σ.shown viewer ipGroup peer := by
  rw [shown, shown, announcedIn_congr h]

/-- What is so stays so, and what is to be told stays to be told. -/
theorem UpToDate.congr {flight flight' : Option (Uuid × Uuid × WsServerMessage)} {viewer peer : Uuid}
    {h h' : Handler} (hup : σ.UpToDate flight viewer h peer) (hbase : h'.base peer = h.base peer)
    (hgroup : h'.ipGroup = h.ipGroup)
    (hshown : τ.shown viewer h.ipGroup peer = σ.shown viewer h.ipGroup peer)
    (hpending : ∀ message, message.tells peer = some (σ.shown viewer h.ipGroup peer) →
      σ.Pending flight peer viewer message → τ.Pending flight' peer viewer message) :
    τ.UpToDate flight' viewer h' peer := by
  rcases hup with heq | ⟨message, hpend, htells⟩
  · exact .inl (by rw [hbase, hgroup, hshown, heq])
  · exact .inr ⟨message, hpending message htells hpend, by rw [hgroup, hshown, htells]⟩

namespace Current

theorem init : Current none {} := fun _ _ h => nomatch h

theorem of_handlers (h : Current none σ) (hhandlers : τ.handlers = σ.handlers) : Current none τ := by
  intro viewer hv hhv hlive hkept peer hclosing
  have hup := h viewer hv (hhandlers ▸ hhv) hlive hkept peer (by rwa [Closing, ← hhandlers])
  refine hup.congr rfl rfl (shown_congr (congrFun hhandlers peer) ..) fun message _ hpend => ?_
  rwa [Pending, hhandlers]

/-- **One handler goes on**: the others are as up to date as before, and of its own
client they are told what the caller shows. -/
theorem setHandler (h : Current none σ) {s : Option (Uuid × WsServerMessage)} {id : Uuid} {k k' : Handler}
    (hk : σ.handlers id = some k)
    (hhandlers : ∀ id', τ.handlers id' = if id' = id then some k' else σ.handlers id')
    (hgroup : k'.ipGroup = k.ipGroup) (hbase : k'.base = k.base) (hlive : k'.Live → k.Live)
    (hkept : k'.sendTask ≠ .dropped → k.sendTask ≠ .dropped)
    (hself : ∀ viewer hv, σ.handlers viewer = some hv → hv.Live → hv.sendTask ≠ .dropped →
      (viewer = id → k'.Live) → ¬ τ.Closing hv.ipGroup id →
      τ.UpToDate (s.map fun s => (id, s)) viewer hv id) :
    Current (s.map fun s => (id, s)) τ := by
  -- The viewer before the step.
  have hviewer : ∀ viewer hv, τ.handlers viewer = some hv → hv.Live → hv.sendTask ≠ .dropped →
      ∃ hv₀, σ.handlers viewer = some hv₀ ∧ hv₀.Live ∧ hv₀.sendTask ≠ .dropped ∧ hv.base = hv₀.base ∧
        hv.ipGroup = hv₀.ipGroup ∧ (viewer = id → k'.Live) := by
    intro viewer hv hhv hvlive hvkept
    rw [hhandlers] at hhv
    split at hhv
    · next heq =>
      obtain rfl := Option.some.inj hhv
      exact ⟨k, heq ▸ hk, hlive hvlive, hkept hvkept, hbase, hgroup, fun _ => hvlive⟩
    · next hne => exact ⟨hv, hhv, hvlive, hvkept, rfl, rfl, fun heq => absurd heq hne⟩
  intro viewer hv hhv hvlive hvkept peer hclosing
  obtain ⟨hv₀, hhv₀, hvlive₀, hvkept₀, hvbase, hvgroup, hvself⟩ := hviewer viewer hv hhv hvlive hvkept
  by_cases hpeer : peer = id
  · subst hpeer
    have hup := hself viewer hv₀ hhv₀ hvlive₀ hvkept₀ hvself (hvgroup ▸ hclosing)
    exact hup.congr (by rw [hvbase]) hvgroup rfl fun _ _ hpend => hpend
  · have hsame : τ.handlers peer = σ.handlers peer := by rw [hhandlers, if_neg hpeer]
    have hup := h viewer hv₀ hhv₀ hvlive₀ hvkept₀ peer fun ⟨l, hl, hrest⟩ =>
      hclosing ⟨l, hsame ▸ hl, hvgroup ▸ hrest⟩
    refine hup.congr (by rw [hvbase]) hvgroup (shown_congr hsame ..) fun message _ hpend => ?_
    rcases hpend with hnone | ⟨l, hl, ho⟩
    · exact nomatch hnone
    · exact .inr ⟨l, hsame ▸ hl, ho⟩

/-- A peer that has left is not shown. -/
theorem shown_leaving {id : Uuid} {k : Handler} (hk : σ.handlers id = some k)
    (hleaving : k.phase = .leaving) (viewer : Uuid) (ipGroup : String) :
    σ.shown viewer ipGroup id = none := by
  have hlive : ¬ k.Live := by simp [Handler.Live, hleaving]
  simp [shown, announcedIn_of hk, hlive]

/-- A peer of another group is not shown. -/
theorem shown_other_group {viewer id : Uuid} {k : Handler} (hk : σ.handlers id = some k) {ipGroup : String}
    (hgroup : ipGroup ≠ k.ipGroup) : σ.shown viewer ipGroup id = none := by
  simp [shown, announcedIn_of hk, Ne.symm hgroup]

/-- A client of another group knows nothing of the peer. -/
theorem base_other_group (h : Current none σ) (haddr : Addressed σ) {id viewer : Uuid} {k hv : Handler}
    (hk : σ.handlers id = some k) (hhv : σ.handlers viewer = some hv) (hvlive : hv.Live)
    (hvkept : hv.sendTask ≠ .dropped) (hgroup : hv.ipGroup ≠ k.ipGroup) : hv.base id = none := by
  have hup := h viewer hv hhv hvlive hvkept id fun ⟨l, hl, _, heq⟩ =>
    hgroup (Option.some.inj (hk.symm.trans hl) ▸ heq.symm)
  rcases hup with heq | ⟨m, hnone | ⟨l, hl, ho⟩, _⟩
  · rw [heq, shown_other_group hk hgroup]
  · exact nomatch hnone
  · obtain ⟨⟨t, ht, heq⟩, _⟩ := haddr id l viewer m hl ho
    obtain rfl := Option.some.inj (hhv.symm.trans ht)
    obtain rfl := Option.some.inj (hk.symm.trans hl)
    exact absurd heq hgroup

/-- A client is not shown itself. -/
theorem shown_self (σ : Server) (id : Uuid) (ipGroup : String) : σ.shown id ipGroup id = none := if_pos rfl

/-- A client does not know itself. -/
theorem base_self (h : Current none σ) (haddr : Addressed σ) {id : Uuid} {k : Handler}
    (hk : σ.handlers id = some k) (hlive : k.Live) (hkept : k.sendTask ≠ .dropped) (hphase : k.phase ≠ .closing) :
    k.base id = none := by
  have hup := h id k hk hlive hkept id fun ⟨l, hl, hclosing, _⟩ =>
    hphase (Option.some.inj (hk.symm.trans hl) ▸ hclosing)
  rcases hup with heq | ⟨m, hnone | ⟨l, hl, ho⟩, htells⟩
  · rw [heq, shown_self]
  · exact nomatch hnone
  · exact absurd rfl ((haddr id l id m hl ho).2 (.of_tells htells))

/-- **A move that does not change what is so** may drop what it owes only when it
sends that, or is about to leave. -/
theorem move (h : Current none σ) (haddr : Addressed σ) {s : Option (Uuid × WsServerMessage)} {id : Uuid}
    {k k' : Handler} (hk : σ.handlers id = some k)
    (hhandlers : ∀ id', τ.handlers id' = if id' = id then some k' else σ.handlers id')
    (hsame : Handler.SameEntry k k') (hbase : k'.base = k.base)
    (hkept : k'.sendTask ≠ .dropped → k.sendTask ≠ .dropped)
    (hclosing : k'.phase ≠ .closing → k.phase ≠ .closing)
    (howes : k'.phase ≠ .closing → ∀ target m told, k.Owes target m → m.tells id = some told →
      (k.phase = .leaving → told = none) → k'.Owes target m ∨ s = some (target, m)) :
    Current (s.map fun s => (id, s)) τ := by
  refine h.setHandler hk hhandlers hsame.ipGroup hbase hsame.live.mp hkept
    fun viewer hv hhv hvlive hvkept hvself hopen => ?_
  have hk' : τ.handlers id = some k' := by rw [hhandlers, if_pos rfl]
  have hshown : τ.shown viewer hv.ipGroup id = σ.shown viewer hv.ipGroup id := by
    rw [shown, shown, announcedIn_of hk', announcedIn_of hk, hsame.ipGroup, hsame.announced]
    simp only [hsame.live]
  by_cases hphase : k'.phase = .closing
  · -- Only clients of other groups are to be up to date on it.
    have hgroup : hv.ipGroup ≠ k.ipGroup := fun heq => hopen ⟨k', hk', hphase, hsame.ipGroup.trans heq.symm⟩
    refine .inl ?_
    rw [h.base_other_group haddr hk hhv hvlive hvkept hgroup, hshown, shown_other_group hk hgroup]
  · have hup := h viewer hv hhv hvlive hvkept id fun ⟨l, hl, hlphase, _⟩ =>
      hclosing hphase (Option.some.inj (hk.symm.trans hl) ▸ hlphase)
    refine hup.congr rfl rfl hshown fun m htells hpend => ?_
    rcases hpend with hnone | ⟨l, hl, ho⟩
    · exact nomatch hnone
    · obtain rfl := Option.some.inj (hk.symm.trans hl)
      rcases howes hphase viewer m _ ho htells fun hleaving => shown_leaving hk hleaving _ _ with ho' | hs
      · exact .inr ⟨k', hk', ho'⟩
      · exact .inl (by rw [hs, Option.map_some])

/-- Every move but the `Hello` keeps the map with what is on its way to it. -/
theorem base_move {id : Uuid} {h h' : Handler} {e : ServerEvent} {s : Option (Uuid × WsServerMessage)}
    (hm : HandlerMove id h e h' s) (hhello : e ≠ .hello id) : h'.base = h.base := by
  cases hm with
  | hello => exact absurd rfl hhello
  | spawn hphase | close hphase => simp [Handler.base, hphase]
  | deliver _ hqueue => simp [Handler.base, hqueue]
  | _ => rfl

/-- A move that is not the `Hello`: what it no longer owes is what it sends. -/
theorem handlerMove (h : Current none σ) (hw : Wired σ) (haddr : Addressed σ) {e : ServerEvent}
    {s : Option (Uuid × WsServerMessage)} {id : Uuid} {k k' : Handler} (hk : σ.handlers id = some k)
    (hm : HandlerMove id k e k' s) (hhello : e ≠ .hello id) :
    Current (s.map fun s => (id, s)) (σ.setHandler id k') := by
  have hsound := hw.sound id k hk
  refine h.move haddr hk (fun id' => handlers_setHandler ..) (.move hm) (base_move hm hhello) ?_ ?_ ?_
  · cases hm with
    | spawn hphase =>
      intro _ hdropped
      exact nomatch hdropped.symm.trans (hsound.notStarted.mpr (.inr hphase))
    | sinkFailed | sendAborted => exact fun hne => absurd rfl hne
    | _ => exact fun hne => hne
  · cases hm with
    | hello => exact absurd rfl hhello
    | spawn hphase => exact fun _ hclosing => nomatch hphase.symm.trans hclosing
    | close => exact fun hne => absurd rfl hne
    | _ => exact fun hne => hne
  · intro hopen target m told ho htells hleaving
    cases hm with
    | hello => exact absurd rfl hhello
    | send hsends =>
      rcases ho with hmem | hrecv
      · rw [hsends] at hmem
        exact (List.mem_cons.mp hmem).elim (fun heq => .inr (heq ▸ rfl)) fun hmem => .inl (.inl hmem)
      · exact .inl (.inr hrecv)
    | recvSend hnext =>
      rcases ho with hmem | ⟨sends, htask, hmem⟩
      · exact .inl (.inl hmem)
      · rcases nextSend_cases hnext with ⟨rest, htask', rfl⟩ | ⟨htask', _, _⟩
        · obtain rfl := RecvTask.sending.inj (htask.symm.trans htask')
          refine (List.mem_cons.mp hmem).elim (fun heq => .inr (heq ▸ rfl)) fun hmem => .inl (.inr ⟨rest, ?_, hmem⟩)
          exact if_neg (List.ne_nil_of_mem hmem)
        · exact nomatch htask.symm.trans htask'
    | spawn hphase =>
      refine .inl (.inl (ho.resolve_right fun ⟨sends, htask, _⟩ => ?_))
      exact nomatch htask.symm.trans (hsound.quiet (.inr hphase))
    | message htask' | clientGone htask' =>
      refine .inl (.inl (ho.resolve_right fun ⟨sends, htask, _⟩ => ?_))
      exact nomatch htask.symm.trans htask'
    | recvAborted hphase =>
      have hleaves := hleaving (hphase.resolve_left hopen)
      refine .inl (.inl (ho.resolve_right fun ⟨sends, htask, hmem⟩ => ?_))
      -- The reading task has no `Left` to send.
      rcases hsound.updates sends htask _ hmem with heq | ⟨o, heq⟩ | ⟨o, heq⟩
      · obtain rfl : m = _ := heq
        obtain ⟨_, htold⟩ := Option.ite_none_right_eq_some.mp htells
        exact nomatch (Option.some.inj htold).trans hleaves
      · obtain rfl : m = _ := heq
        exact nomatch htells
      · obtain rfl : m = _ := heq
        exact nomatch htells
    | close => exact absurd rfl hopen
    | _ => exact .inl ho

theorem base_of_not_connecting {h : Handler} (hc : ¬ h.phase.Connecting) :
    h.base = View.of (h.received ++ h.queue) := by
  unfold Handler.base
  split
  · next hphase => exact absurd (Phase.connecting_iff.mpr ⟨_, hphase⟩) hc
  · rfl

/-- A message more, after the `Hello`. -/
theorem base_queued {t : Handler} {message : WsServerMessage} (hc : ¬ t.phase.Connecting) :
    {t with queue := t.queue ++ [message]}.base = t.base.handle message := by
  have hbase : {t with queue := t.queue ++ [message]}.base = View.of (t.received ++ (t.queue ++ [message])) :=
    base_of_not_connecting hc
  rw [hbase, base_of_not_connecting hc, ← List.append_assoc, View.of_append]

/-- A queued message that tells nothing of a peer. -/
theorem base_queued_none {t : Handler} {message : WsServerMessage} {peer : Uuid}
    (hhello : ∀ client peers, message ≠ .hello client peers) (htells : message.tells peer = none) :
    {t with queue := t.queue ++ [message]}.base peer = t.base peer := by
  by_cases hc : t.phase.Connecting
  · obtain ⟨peers, hphase⟩ := Phase.connecting_iff.mp hc
    simp only [Handler.base, hphase]
  · rw [base_queued hc, View.handle_tells _ hhello, htells, Option.getD_none]

/-- A queued message that tells of a peer. -/
theorem base_queued_some {t : Handler} {message : WsServerMessage} {peer : Uuid} {told : Option ClientInfo}
    (hhello : ∀ client peers, message ≠ .hello client peers) (hc : ¬ t.phase.Connecting)
    (htells : message.tells peer = some told) : {t with queue := t.queue ++ [message]}.base peer = told := by
  rw [base_queued hc, View.handle_tells _ hhello, htells, Option.getD_some]

/-- **A send** brings its target up to date, or leaves it with better news to come. -/
theorem push {id target : Uuid} {message : WsServerMessage} (h : Current (some (id, target, message)) σ)
    (hst : σ.push target message = some τ) (hhello : ∀ client peers, message ≠ .hello client peers)
    {k : Handler} (hk : σ.handlers id = some k) (hfrom : ∀ peer told, message.tells peer = some told → peer = id)
    (hnews : ∀ t told, σ.handlers target = some t → t.Live → message.tells id = some told →
      ¬ t.phase.Connecting ∧ (told = σ.shown target t.ipGroup id ∨
        ∃ m, k.Owes target m ∧ m.tells id = some (σ.shown target t.ipGroup id))) : Current none τ := by
  -- Only the target was to be told by it.
  have hothers : ∀ viewer hv peer, viewer ≠ target → σ.UpToDate (some (id, target, message)) viewer hv peer →
      σ.UpToDate none viewer hv peer := by
    intro viewer hv peer hne hup
    refine hup.congr rfl rfl rfl fun m _ hpend => ?_
    rcases hpend with hflight | ho
    · simp only [Option.some.injEq, Prod.mk.injEq] at hflight
      exact absurd hflight.2.1.symm hne
    · exact .inr ho
  rcases push_cases hst with ⟨rfl, hdropped⟩ | ⟨t, ht, _, _, rfl⟩
  · intro viewer hv hhv hvlive hvkept peer hclosing
    refine hothers viewer hv peer ?_ (h viewer hv hhv hvlive hvkept peer hclosing)
    rintro rfl
    exact hvkept (hdropped hv hhv)
  · have hshown : ∀ viewer ipGroup peer, (σ.setHandler target {t with queue := t.queue ++ [message]}).shown
        viewer ipGroup peer = σ.shown viewer ipGroup peer := by
      intro viewer ipGroup peer
      have hentry : Handler.SameEntry t {t with queue := t.queue ++ [message]} := ⟨rfl, rfl, Iff.rfl⟩
      rw [shown, shown, announcedIn_sameEntry ht hentry]
    have howes : ∀ peer viewer m, (∃ l, σ.handlers peer = some l ∧ l.Owes viewer m) →
        (σ.setHandler target {t with queue := t.queue ++ [message]}).Pending none peer viewer m := by
      rintro peer viewer m ⟨l, hl, ho⟩
      by_cases hpeer : peer = target
      · subst hpeer
        obtain rfl := Option.some.inj (ht.symm.trans hl)
        exact .inr ⟨_, handlers_setHandler_self .., ho⟩
      · exact .inr ⟨l, by rw [handlers_setHandler, if_neg hpeer, hl], ho⟩
    have hopen : ∀ ipGroup peer, ¬ (σ.setHandler target {t with queue := t.queue ++ [message]}).Closing
        ipGroup peer → ¬ σ.Closing ipGroup peer := by
      rintro ipGroup peer hclosing ⟨l, hl, hrest⟩
      by_cases hpeer : peer = target
      · subst hpeer
        obtain rfl := Option.some.inj (ht.symm.trans hl)
        exact hclosing ⟨_, handlers_setHandler_self .., hrest⟩
      · exact hclosing ⟨l, by rw [handlers_setHandler, if_neg hpeer, hl], hrest⟩
    intro viewer hv hhv hvlive hvkept peer hclosing
    rw [handlers_setHandler] at hhv
    split at hhv
    · next heq =>
      subst heq
      obtain rfl := Option.some.inj hhv
      have hclosing' := hopen _ _ hclosing
      have hup := h viewer t ht hvlive hvkept peer hclosing'
      cases htells : message.tells peer with
      | none =>
        refine hup.congr (base_queued_none hhello htells) rfl (hshown ..) fun m hm hpend => ?_
        rcases hpend with hflight | ho
        · simp only [Option.some.injEq, Prod.mk.injEq] at hflight
          rw [← hflight.2.2, htells] at hm
          exact nomatch hm
        · exact howes _ _ _ ho
      | some told =>
        obtain rfl := hfrom peer told htells
        obtain ⟨hc, htold⟩ := hnews t told ht hvlive htells
        rcases htold with heq | ⟨m, ho, hm⟩
        · exact .inl (by rw [base_queued_some hhello hc htells, hshown, heq])
        · exact .inr ⟨m, howes _ _ _ ⟨k, hk, ho⟩, by rw [hshown, hm]⟩
    · next hne =>
      have hup := hothers viewer hv peer hne (h viewer hv hhv hvlive hvkept peer (hopen _ _ hclosing))
      refine hup.congr rfl rfl (hshown ..) fun m _ hpend => ?_
      rcases hpend with hnone | ho
      · exact nomatch hnone
      · exact howes _ _ _ ho

/-- What a move other than the `Hello` sends was owed, or is the error it ends on. -/
theorem sent {id target : Uuid} {h h' : Handler} {e : ServerEvent} {message : WsServerMessage}
    (hh : σ.handlers id = some h) (hm : HandlerMove id h e h' (some (target, message)))
    (hhello : e ≠ .hello id) : σ.sending e = some (target, message) ∧
      (h.Owes target message ∨ message = .error 429) := by
  cases hm with
  | hello => exact absurd rfl hhello
  | send hsends =>
    exact ⟨by simp [sending, hh, hsends], .inl (.inl (hsends ▸ List.mem_cons_self))⟩
  | recvSend hnext =>
    refine ⟨by simp [sending, hh, hnext], ?_⟩
    rcases nextSend_cases hnext with ⟨rest, htask, _⟩ | ⟨_, heq, _⟩
    · exact .inl (.inr ⟨_, htask, List.mem_cons_self⟩)
    · exact .inr (Prod.mk.inj heq).2

/-- Only the reading task has an update to send after the removal. -/
theorem left_to_come {id target : Uuid} {k k' : Handler} {e : ServerEvent} {message : WsServerMessage}
    {info : ClientInfo} (hs : k.Sound id) (hm : HandlerMove id k e k' (some (target, message)))
    (hleaving : k.phase = .leaving) (htells : message.tells id = some (some info))
    (hbefore : e.handler = some id → message.Update → (target, .left id) ∈ k.sends) :
    (target, .left id) ∈ k'.sends := by
  cases hm with
  | hello hphase => exact nomatch hphase.symm.trans hleaving
  | send hsends =>
    obtain rfl : message = .left id := hs.lefts hleaving _ (hsends ▸ List.mem_cons_self)
    obtain ⟨_, heq⟩ := Option.ite_none_right_eq_some.mp htells
    exact nomatch heq
  | recvSend hnext =>
    rcases nextSend_cases hnext with ⟨rest, htask, _⟩ | ⟨_, heq, _⟩
    · rcases hs.updates _ htask _ List.mem_cons_self with heq | ⟨o, heq⟩ | ⟨o, heq⟩
      · obtain rfl : message = .update _ := heq
        exact hbefore rfl trivial
      · obtain rfl : message = .offer o := heq
        exact nomatch htells
      · obtain rfl : message = .answer o := heq
        exact nomatch htells
    · obtain rfl := (Prod.mk.inj heq).2
      exact nomatch htells

/-- **A handler's move keeps every client up to date**, if what it sends is in order. -/
theorem emit (h : Current none σ) (hw : Wired σ) (haddr : Addressed σ) {e : ServerEvent} (horder : InOrder σ e)
    {s : Option (Uuid × WsServerMessage)} {id : Uuid} {k k' : Handler} (hk : σ.handlers id = some k)
    (hm : HandlerMove id k e k' s) (hhello : e ≠ .hello id) (hemit : (σ.setHandler id k').emit s = some τ) :
    Current none τ := by
  have hsound := hw.sound id k hk
  have hmoved := h.handlerMove hw haddr hk hm hhello
  match s, hm, hemit, hmoved with
  | none, _, hemit, hmoved => exact Option.some.inj hemit ▸ hmoved
  | some (target, message), hm, hemit, hmoved =>
    obtain ⟨hsending, howed⟩ := sent hk hm hhello
    have hentry := Handler.SameEntry.move hm
    have htold : ∀ peer told, message.tells peer = some told → k.Owes target message ∧ peer = id ∧
        (told = some (.of k.announced id) ∨ (told = none ∧ k.phase = .leaving)) := by
      intro peer told htells
      have ho : k.Owes target message := howed.resolve_right fun heq => nomatch (heq ▸ htells)
      exact ⟨ho, hsound.tells ho htells⟩
    refine hmoved.push hemit ?_ (handlers_setHandler_self ..) (fun peer told htells => (htold peer told htells).2.1) ?_
    · rintro client peers rfl
      rcases howed with ho | heq
      · rcases hsound.owes ho with ⟨_, h⟩ | ⟨_, h⟩ | h | ⟨_, h⟩ | ⟨_, h⟩ <;> exact nomatch h
      · exact nomatch heq
    · intro t told ht _ htells
      obtain ⟨ho, _, hvalue⟩ := htold id told htells
      obtain ⟨⟨t', ht', hgroup⟩, hne⟩ := haddr id k target message hk ho
      have hother : target ≠ id := hne (.of_tells htells)
      rw [handlers_setHandler, if_neg hother] at ht
      obtain rfl := Option.some.inj (ht'.symm.trans ht)
      obtain ⟨hgreeted, hbefore⟩ := horder (target, message) hsending
      refine ⟨hgreeted (.of_tells htells) t' ht', ?_⟩
      have hshown : (σ.setHandler id k').shown target t'.ipGroup id = σ.shown target t'.ipGroup id := by
        rw [shown, shown, announcedIn_sameEntry hk hentry]
      rw [hshown]
      by_cases hleaving : k.phase = .leaving
      · rw [shown_leaving hk hleaving]
        refine hvalue.symm.imp And.left fun hannounced => ?_
        -- An update after the removal: the `Left` is to come.
        have hleft := left_to_come hsound hm hleaving (hannounced ▸ htells) fun he hupdate =>
          hbefore hupdate id he k hk hleaving
        exact ⟨_, .inl hleft, if_pos rfl⟩
      · have hvalue : told = some (.of k.announced id) := hvalue.resolve_right fun h => hleaving h.2
        rw [hvalue, shown, if_neg (Ne.symm hother), announcedIn_of hk, if_pos ⟨hleaving, hgroup.symm⟩]
        exact .inl rfl

/-- **The `Hello`** says what its handler found in the room. -/
theorem hello (h : Current none σ) (hw : Wired σ) (haddr : Addressed σ) {id : Uuid} {k k' : Handler}
    {s : Option (Uuid × WsServerMessage)} (hk : σ.handlers id = some k) (hm : HandlerMove id k (.hello id) k' s)
    (hemit : (σ.setHandler id k').emit s = some τ) : Current none τ := by
  cases hm with
  | @hello peers hphase hsends =>
    have hc : k.phase.Connecting := Phase.connecting_iff.mpr ⟨peers, hphase⟩
    rcases push_cases hemit with ⟨_, hdropped⟩ | ⟨t, ht, _, _, rfl⟩
    · exact absurd (hdropped _ (handlers_setHandler_self ..)) (hw.not_dropped hk hc :)
    · obtain rfl := Option.some.inj ((handlers_setHandler_self ..).symm.trans ht)
      have hbase : {k with
          phase := .greeted, queue := k.queue ++ [WsServerMessage.hello k.peer peers]}.base = k.base := by
        simp only [Handler.base, hphase, ← List.append_assoc, View.of_append]
        rfl
      have hmoved : Current ((none : Option (Uuid × WsServerMessage)).map fun s => (id, s))
          (σ.setHandler id {k with phase := .greeted, queue := k.queue ++ [WsServerMessage.hello k.peer peers]}) :=
        h.move haddr hk (fun id' => handlers_setHandler ..) ⟨rfl, rfl, by simp [Handler.Live, hphase]⟩ hbase
          (fun h => h) (fun _ hclosing => nomatch hphase.symm.trans hclosing) fun _ _ _ _ ho _ _ => .inl ho
      refine hmoved.of_handlers (funext fun id' => ?_)
      simp only [handlers_setHandler]
      split <;> rfl

/-- **An update** is to be told to every client of the group. -/
theorem update (h : Current none σ) (hw : Wired σ) (haddr : Addressed σ) {id : Uuid} {k : Handler}
    (hk : σ.handlers id = some k) {info : ClientInfoWithoutId} {order : List Uuid}
    (horder : Iterates order (σ.room k.ipGroup)) {old : ClientInfoWithoutId}
    (hmember : (σ.room k.ipGroup).lookup id = some old) : Current none (σ.sendUpdate id k info order) := by
  obtain ⟨k₀, hk₀, hlive, _⟩ := hw.tracked.member hmember
  obtain rfl := Option.some.inj (hk.symm.trans hk₀)
  unfold sendUpdate
  rw [hmember]
  dsimp only
  generalize hτ : Server.setHandler _ id _ = τ
  set fanOut := (order.filter fun other => decide (other ≠ id)).map fun other =>
    (other, WsServerMessage.update (.of info id)) with hfanOut
  set k' : Handler := {k with
    announced := info, recvTask := if fanOut = [] then RecvTask.idle else RecvTask.sending fanOut} with hk'def
  have hhandlers : ∀ id', τ.handlers id' = if id' = id then some k' else σ.handlers id' := fun id' =>
    hτ ▸ handlers_setHandler ..
  have hk' : τ.handlers id = some k' := by rw [hhandlers, if_pos rfl]
  have hmoved : Current ((none : Option (Uuid × WsServerMessage)).map fun s => (id, s)) τ := by
    refine h.setHandler hk hhandlers rfl rfl (fun h => h) (fun h => h)
      fun viewer hv hhv hvlive hvkept _ hopen => ?_
    by_cases hgroup : hv.ipGroup = k.ipGroup
    · by_cases hviewer : viewer = id
      · subst hviewer
        obtain rfl := Option.some.inj (hk.symm.trans hhv)
        have hphase : k.phase ≠ .closing := fun hclosing => hopen ⟨k', hk', hclosing, rfl⟩
        exact .inl (by rw [h.base_self haddr hk hvlive hvkept hphase, shown_self])
      · -- The viewer is in the room, so the update is among those to be sent.
        have hin : viewer ∈ order := by
          rw [horder.mem, ← hgroup, hw.tracked, announcedIn_of hhv, if_pos ⟨hvlive, rfl⟩]
          rfl
        have hmem : (viewer, WsServerMessage.update (.of info id)) ∈ fanOut :=
          List.mem_map.mpr ⟨viewer, List.mem_filter.mpr ⟨hin, decide_eq_true hviewer⟩, rfl⟩
        have hshown : τ.shown viewer hv.ipGroup id = some (.of info id) := by
          rw [shown, if_neg (Ne.symm hviewer), announcedIn_of hk', if_pos ⟨hlive, hgroup.symm⟩]
          rfl
        refine .inr ⟨_, .inr ⟨k', hk', .inr ⟨fanOut, if_neg (List.ne_nil_of_mem hmem), hmem⟩⟩, ?_⟩
        rw [hshown]
        exact if_pos rfl
    · refine .inl ?_
      rw [h.base_other_group haddr hk hhv hvlive hvkept hgroup, shown_other_group hk' hgroup]
  exact hmoved

theorem process (h : Current none σ) (hw : Wired σ) (haddr : Addressed σ) {id : Uuid} {k : Handler}
    (hk : σ.handlers id = some k) {message : WsClientMessage} (htask : k.recvTask = .accepted message)
    {order : List Uuid} (horder : Iterates order (σ.room k.ipGroup)) :
    Current none (σ.process id k order message) := by
  have hquiet : ∀ task, Current none (σ.setHandler id {k with recvTask := task}) := by
    intro task
    have hmoved : Current ((none : Option (Uuid × WsServerMessage)).map fun s => (id, s))
        (σ.setHandler id {k with recvTask := task}) := by
      refine h.move haddr hk (fun id' => handlers_setHandler ..) ⟨rfl, rfl, Iff.rfl⟩ rfl (fun h => h) (fun h => h)
        fun _ target m told ho _ _ => .inl (.inl (ho.resolve_right fun ⟨sends, hsends, _⟩ => ?_))
      exact nomatch htask.symm.trans hsends
    exact hmoved
  cases message with
  | offer | answer => exact hquiet _
  | update info =>
    cases hmember : (σ.room k.ipGroup).lookup id with
    | some old => exact h.update hw haddr hk horder hmember
    | none =>
      rw [Server.process, sendUpdate, hmember]
      exact hquiet _

/-- **A removal** is to be told to every client of the group. -/
theorem remove (h : Current none σ) (hw : Wired σ) (haddr : Addressed σ) {id : Uuid} {k : Handler}
    (hk : σ.handlers id = some k) (hphase : k.phase = .closing) {order : List Uuid}
    (horder : Iterates order ((σ.room k.ipGroup).erase id)) : Current none (σ.remove id k order) := by
  have hlive : k.Live := by simp [Handler.Live, hphase]
  obtain ⟨sends, hhandlers, hsends⟩ := handlers_remove σ id k order
  generalize σ.remove id k order = τ at hhandlers
  have hk' : τ.handlers id = some {k with phase := .leaving, sends := sends} := by rw [hhandlers, if_pos rfl]
  have hmoved : Current ((none : Option (Uuid × WsServerMessage)).map fun s => (id, s)) τ := by
    refine h.setHandler hk hhandlers rfl (by simp [Handler.base, hphase]) (fun _ => hlive) (fun h => h)
      fun viewer hv hhv hvlive hvkept hvself _ => ?_
    have hviewer : viewer ≠ id := fun heq => absurd rfl (hvself heq)
    have hshown := shown_leaving hk' rfl viewer hv.ipGroup
    by_cases hgroup : hv.ipGroup = k.ipGroup
    · -- The viewer is in the room, so the `Left` is among those to be sent.
      have hin : ((σ.room k.ipGroup).lookup viewer).isSome := by
        rw [← hgroup, hw.tracked, announcedIn_of hhv, if_pos ⟨hvlive, rfl⟩]
        rfl
      have hmem : (viewer, WsServerMessage.left id) ∈ sends := by
        rw [hsends ⟨viewer, hviewer, hin⟩]
        refine List.mem_map.mpr ⟨viewer, horder.mem.mpr ?_, rfl⟩
        rwa [Finmap.lookup_erase_ne hviewer]
      refine .inr ⟨_, .inr ⟨_, hk', .inl hmem⟩, ?_⟩
      rw [hshown]
      exact if_pos rfl
    · exact .inl (by rw [h.base_other_group haddr hk hhv hvlive hvkept hgroup, hshown])
  exact hmoved

/-- The peers of a `Hello` are the members of the room. -/
theorem set_peersOf (members : Room) (order : List Uuid) (id : Uuid) :
    View.set (peersOf members order) id =
      if id ∈ order then (members.lookup id).map fun info => .of info id else none := by
  induction order with
  | nil => rfl
  | cons other rest ih =>
    unfold View.set peersOf at ih ⊢
    cases hother : members.lookup other with
    | none =>
      rw [List.filterMap_cons_none (by simp [hother]), ih]
      by_cases heq : id = other
      · subst heq
        simp [hother]
      · simp [heq]
    | some info =>
      have hcons : List.filterMap (fun i => (members.lookup i).map fun info => ClientInfo.of info i)
          (other :: rest) = .of info other :: List.filterMap (fun i =>
            (members.lookup i).map fun info => ClientInfo.of info i) rest :=
        List.filterMap_cons_some (by rw [hother, Option.map_some])
      rw [hcons]
      by_cases heq : other = id
      · subst heq
        rw [List.find?_cons, if_pos List.mem_cons_self, hother, Option.map_some]
        simp [ClientInfo.of]
      · have hid : decide ((ClientInfo.of info other).id = id) = false := decide_eq_false heq
        simp only [List.find?_cons, hid, ih, List.mem_cons, Ne.symm heq, false_or]

/-- **A connection** is to be told to every client of the group, and finds them in
its `Hello`. -/
theorem connect (h : Current none σ) (hw : Wired σ) {id : Uuid} {ipGroup : String} {order : List Uuid}
    (hid : σ.handlers id = none) (horder : Iterates order (σ.room ipGroup)) (info : ClientInfoWithoutId) :
    Current none (σ.connect limits id ipGroup info order) := by
  rcases handlers_connect limits σ id ipGroup info order with heq | heq
  · exact h.of_handlers heq
  generalize σ.connect limits id ipGroup info order = τ at heq
  have hnew : τ.handlers id = some (σ.newcomer id ipGroup info order) := by rw [heq, if_pos rfl]
  have hpeer : ∀ peer, peer ≠ id → τ.handlers peer = σ.handlers peer := fun peer hne => by rw [heq, if_neg hne]
  intro viewer hv hhv hvlive hvkept peer hclosing
  by_cases hviewer : viewer = id
  · -- The newcomer has the members of the room in its `Hello`.
    subst hviewer
    obtain rfl := Option.some.inj (hnew.symm.trans hhv)
    refine .inl ((set_peersOf (σ.room ipGroup) order peer).trans ?_)
    have hin : (if peer ∈ order then ((σ.room ipGroup).lookup peer).map fun info => ClientInfo.of info peer
        else none) = ((σ.room ipGroup).lookup peer).map fun info => .of info peer := by
      split
      · rfl
      · next hout =>
        rw [horder.mem, Option.not_isSome_iff_eq_none] at hout
        rw [hout, Option.map_none]
    rw [hin, hw.tracked]
    by_cases heq' : peer = viewer
    · subst heq'
      rw [shown_self, announcedIn, hid, Option.bind_none, Option.map_none]
    · rw [shown, if_neg heq', announcedIn_congr (hpeer peer heq')]
      rfl
  · rw [hpeer viewer hviewer] at hhv
    by_cases heq' : peer = id
    · subst heq'
      by_cases hgroup : hv.ipGroup = ipGroup
      · -- The viewer is in the room, so the `Join` is among those to be sent.
        have hin : viewer ∈ order := by
          rw [horder.mem, ← hgroup, hw.tracked, announcedIn_of hhv, if_pos ⟨hvlive, rfl⟩]
          rfl
        have hshown : τ.shown viewer hv.ipGroup peer = some (.of info peer) := by
          rw [shown, if_neg (Ne.symm hviewer), announcedIn_of hnew, if_pos ⟨by simp [Handler.Live, newcomer], hgroup.symm⟩]
          rfl
        refine .inr ⟨_, .inr ⟨_, hnew, .inl (List.mem_map.mpr ⟨viewer, hin, rfl⟩)⟩, ?_⟩
        rw [hshown]
        exact if_pos rfl
      · -- Nothing was known of the peer, and in another group nothing is.
        have hopen : ¬ σ.Closing hv.ipGroup peer := by
          rintro ⟨l, hl, _⟩
          cases hid.symm.trans hl
        have hup := h viewer hv hhv hvlive hvkept peer hopen
        have hunknown : σ.shown viewer hv.ipGroup peer = none := by
          rw [shown, announcedIn, hid, Option.bind_none, Option.map_none, ite_self]
        rcases hup with hbase | ⟨m, hnone | ⟨l, hl, ho⟩, _⟩
        · exact .inl (by rw [hbase, hunknown, shown_other_group hnew hgroup])
        · cases hnone
        · cases hid.symm.trans hl
    · have hopen : ¬ σ.Closing hv.ipGroup peer := by
        rintro ⟨l, hl, hrest⟩
        exact hclosing ⟨l, (hpeer peer heq').trans hl, hrest⟩
      have hup := h viewer hv hhv hvlive hvkept peer hopen
      refine hup.congr rfl rfl (shown_congr (hpeer peer heq') ..) fun m _ hpend => ?_
      rcases hpend with hnone | ⟨l, hl, ho⟩
      · cases hnone
      · exact .inr ⟨l, (hpeer peer heq').trans hl, ho⟩

end Current

/-- What holds along a run that sends in order. -/
structure Synced (σ : Server) : Prop where
  wired : Wired σ
  addressed : Addressed σ
  current : Current none σ

theorem Synced.init : Synced {} := ⟨.init, .init, .init⟩

theorem Synced.step (h : Synced σ) {e : ServerEvent} (horder : InOrder σ e)
    (hst : (signaling limits).step σ e = some τ) : Synced τ := by
  refine ⟨h.wired.step hst, h.addressed.step h.wired hst, ?_⟩
  rcases signaling_cases hst with
    ⟨id, ipGroup, info, order, rfl, hid, hiter, rfl⟩ | ⟨rfl, rfl⟩ | ⟨id, k, he, hk, hst⟩
  · exact h.current.connect h.wired hid hiter info
  · exact h.current.of_handlers rfl
  · rcases handlerStep_cases he hst with
      ⟨order, message, rfl, htask, hiter, rfl⟩ | ⟨order, rfl, hphase, hiter, rfl⟩ | ⟨σ', k', s, hcounts, hm, hemit⟩
    · exact h.current.process h.wired h.addressed hk htask hiter
    · exact h.current.remove h.wired h.addressed hk hphase hiter
    · have hsame := hcounts.sameHandlers
      have hcurrent := h.current.of_handlers hsame.handlers
      have hwired := h.wired.same hsame
      have haddressed := h.addressed.of_handlers hsame.handlers
      have hk' : σ'.handlers id = some k := hsame.handlers ▸ hk
      by_cases hhello : e = .hello id
      · exact hcurrent.hello hwired haddressed hk' (hhello ▸ hm) hemit
      · refine hcurrent.emit hwired haddressed ?_ hk' hm hhello hemit
        have hsending : σ'.sending e = σ.sending e := by
          cases e <;> simp [sending, hsame.handlers]
        rw [InOrder, hsending, hsame.handlers]
        exact horder

/-- With nothing left to send, up to date is all there is. -/
theorem Synced.viewsAgree (h : Synced σ) : σ.ViewsAgree := by
  intro hdrained id k hk hserving peer
  have hlive : k.Live := by simp [Handler.Live, hserving]
  obtain ⟨_, hsettled⟩ := hdrained id k hk
  obtain ⟨_, htask, _, hqueue⟩ := hsettled.resolve_right fun hleft => hlive hleft.1
  have hbase : k.base = View.of k.received := by
    simp [Handler.base, hserving, hqueue]
  have hopen : ¬ σ.Closing k.ipGroup peer := by
    rintro ⟨l, hl, hclosing, _⟩
    rcases (hdrained peer l hl).2 with ⟨hphase, _⟩ | ⟨hphase, _⟩ <;> simp [hphase] at hclosing
  rw [← hbase]
  refine (h.current id k hk hlive (by simp [htask]) peer hopen).resolve_right ?_
  rintro ⟨m, hnone | ⟨l, hl, hmem | ⟨sends, hsends, _⟩⟩, _⟩
  · cases hnone
  · rw [(hdrained peer l hl).1] at hmem
    cases hmem
  · rcases (hdrained peer l hl).2 with ⟨_, _, hidle, _⟩ | ⟨_, hidle | hover⟩
    · exact absurd (hidle.symm.trans hsends) (by simp)
    · exact absurd (hidle.symm.trans hsends) (by simp)
    · exact absurd (hover.symm.trans hsends) (by simp)

end Server

/-- **The clients of a group agree on who is there** whenever everything is sent, in
every state of a run that sends its news in order. -/
theorem views_agree (limits : Limits) (events : List ServerEvent)
    (h : (signaling limits).Meets Server.InOrder {} events) :
    (signaling limits).Along Server.ViewsAgree {} events :=
  Transition.System.along_of_meets (fun _ _ _ hs horder hst => hs.step horder hst)
    (fun _ hs => hs.viewsAgree) Server.Synced.init h

/-- Two clients, an update and a departure, each told before the next. -/
def oneByOne : List ServerEvent := [
  .connect ⟨1⟩ "203.0.113.5" phone [], .hello ⟨1⟩, .spawn ⟨1⟩, .deliver ⟨1⟩,
  .connect ⟨2⟩ "203.0.113.5" phone [⟨1⟩], .send ⟨2⟩, .hello ⟨2⟩, .spawn ⟨2⟩, .deliver ⟨1⟩, .deliver ⟨2⟩,
  .message ⟨1⟩ (.update {phone with «alias» := "Quick Fox"}), .process ⟨1⟩ [⟨1⟩, ⟨2⟩], .recvSend ⟨1⟩, .deliver ⟨2⟩,
  .clientGone ⟨2⟩, .close ⟨2⟩, .sendAborted ⟨2⟩, .remove ⟨2⟩ [⟨1⟩], .send ⟨2⟩, .deliver ⟨1⟩]

theorem views_agree_one_by_one : (signaling ⟨10, 1000⟩).Along Server.ViewsAgree {} oneByOne :=
  views_agree ⟨10, 1000⟩ oneByOne (by decide +kernel)

/-- A second client connects and announces itself before the first one's `Hello`. -/
def joinBeforeHello : List ServerEvent := [
  .connect ⟨1⟩ "203.0.113.5" phone [], .connect ⟨2⟩ "203.0.113.5" phone [⟨1⟩], .send ⟨2⟩,
  .hello ⟨1⟩, .spawn ⟨1⟩, .deliver ⟨1⟩, .deliver ⟨1⟩, .hello ⟨2⟩, .spawn ⟨2⟩, .deliver ⟨2⟩]

/-- The `Hello` takes the second client out of the first one's map again. -/
theorem join_before_hello_is_lost : ¬ (signaling ⟨10, 1000⟩).Along Server.ViewsAgree {} joinBeforeHello := by
  intro h
  have hserving : ∀ id ∈ [Uuid.mk 1, Uuid.mk 2], ((signaling ⟨10, 1000⟩).run {} joinBeforeHello).map (fun σ =>
      (σ.handlers id).map fun k => decide (k.sends = [] ∧ k.phase = .serving ∧ k.sendTask = .running ∧
        k.recvTask = .idle ∧ k.queue = [])) = some (some true) := by decide
  have hmissed : ((signaling ⟨10, 1000⟩).run {} joinBeforeHello).map (fun σ => (σ.handlers ⟨1⟩).map fun k =>
      (View.of k.received ⟨2⟩, (σ.shown ⟨1⟩ k.ipGroup ⟨2⟩).isSome)) = some (some (none, true)) := by decide
  obtain ⟨σ, hrun, hσ⟩ := Option.map_eq_some_iff.mp hmissed
  obtain ⟨k, hk, hview⟩ := Option.map_eq_some_iff.mp hσ
  obtain ⟨hnone, hshown⟩ := Prod.mk.inj hview
  have hrest : ∀ id l, σ.handlers id = some l →
      l.sends = [] ∧ l.phase = .serving ∧ l.sendTask = .running ∧ l.recvTask = .idle ∧ l.queue = [] := by
    intro id l hl
    by_cases hid : id ∈ [Uuid.mk 1, Uuid.mk 2]
    · have hsettled := hserving id hid
      rw [hrun, Option.map_some, hl, Option.map_some] at hsettled
      exact of_decide_eq_true (Option.some.inj (Option.some.inj hsettled))
    · have habsent : σ.handlers id = none := by
        refine Server.Wired.init.absent hrun rfl fun ipGroup info order hconnect => hid ?_
        simp only [joinBeforeHello, List.mem_cons, ServerEvent.connect.injEq, reduceCtorEq, List.not_mem_nil,
          or_false] at hconnect
        rcases hconnect with ⟨rfl, _⟩ | ⟨rfl, _⟩
        · exact List.mem_cons_self
        · exact List.mem_cons_of_mem _ List.mem_cons_self
      exact nomatch hl.symm.trans habsent
  have hdrained : σ.Drained := fun id l hl => ⟨(hrest id l hl).1, .inl (hrest id l hl).2⟩
  have hphase : k.phase = .serving := (hrest ⟨1⟩ k hk).2.1
  rw [← List.append_nil joinBeforeHello] at h
  have hagree := h.reached hrun hdrained ⟨1⟩ k hk hphase ⟨2⟩
  rw [← hagree, hnone] at hshown
  exact nomatch hshown

end MagicShare.Ws
