import Mathlib.Data.List.Basic
import MagicShare.Base.Records
import MagicShare.Base.Transition

/-! The nonce exchange of protocol v3 (`client/v3.rs`, `server/controller/v3.rs`).

A client sends a nonce and is answered with one; each side keeps the pair of the latest
exchange, under the identifier of the other. Both halves of a pair are written under one
lock, so they are always of one exchange; but which exchange was the latest is up to the
order of the requests on one side and of the responses on the other. Where the client
stores the response that the server gave last after the others, both keep the same pair
once all exchanges have completed (`nonces_agree`). -/
namespace MagicShare.Lan

abbrev Bytes := List UInt8

/-- `generate_nonce`: 32 random bytes. -/
abbrev GeneratedNonce := {nonce : Bytes // nonce.length = 32}

def validateNonce (nonce : Bytes) : Bool := 16 ≤ nonce.length && nonce.length ≤ 128

theorem GeneratedNonce.valid (nonce : GeneratedNonce) : validateNonce nonce.val = true := by
  simp [validateNonce, nonce.property]

/-! ### The maps -/

/-- The entries, the one put last first. -/
abbrev LruCache (α : Type) := List (String × α)

namespace LruCache
variable {α : Type}

def capacity : Nat := 200

def put (cache : LruCache α) (key : String) (value : α) : LruCache α :=
  ((key, value) :: cache.filter fun entry => entry.1 ≠ key).take capacity

def get (cache : LruCache α) (key : String) : Option α := cache.lookup key

@[simp] theorem get_put (cache : LruCache α) (key : String) (value : α) : (cache.put key value).get key = some value := by
  simp [get, put, capacity]

theorem mem_put {cache : LruCache α} {key : String} {value : α} {entry : String × α}
    (h : entry ∈ cache.put key value) : entry = (key, value) ∨ entry ∈ cache := by
  rcases List.mem_cons.mp (List.mem_of_mem_take h) with hnew | hold
  · exact .inl hnew
  · exact .inr (List.mem_filter.mp hold).1

end LruCache

/-! ### State -/

inductive ExchangePhase where
  /-- The request is on its way. -/
  | requested
  /-- The handler holds the lock of the received nonces. -/
  | handling
  /-- The response is on its way. -/
  | answered (response : GeneratedNonce)
  /-- The client holds the lock of the received nonces. -/
  | storing (response : GeneratedNonce)
  | completed (response : GeneratedNonce)
  | refused
  deriving DecidableEq

structure Exchange where
  /-- The nonce that the client has generated. -/
  nonce : GeneratedNonce
  phase : ExchangePhase
  deriving DecidableEq

/-- The maps of one side, and who holds the lock of the received nonces. -/
structure NonceMaps where
  received : LruCache Bytes := []
  generated : LruCache Bytes := []
  lock : Option Nat := none
  deriving DecidableEq

structure NonceRun where
  exchanges : List Exchange := []
  client : NonceMaps := {}
  server : NonceMaps := {}
  /-- The exchanges in the order the server has handled them. -/
  handled : List Nat := []
  /-- The exchanges in the order the client has stored them. -/
  stored : List Nat := []
  deriving DecidableEq

/-- How each side identifies the other. -/
structure Identifiers where
  client : String
  server : String

inductive NonceEvent where
  | request (nonce : GeneratedNonce)
  /-- The handler has the lock, and saves the nonce. -/
  | handle (exchange : Nat)
  /-- The handler has the second lock, and answers with a new nonce. -/
  | answer (exchange : Nat) (nonce : GeneratedNonce)
  /-- The client has the lock, and saves the nonce of the response. -/
  | store (exchange : Nat)
  /-- The client has the second lock, and saves its own nonce. -/
  | complete (exchange : Nat)

namespace NonceRun

def setPhase (s : NonceRun) (i : Nat) (exchange : Exchange) (phase : ExchangePhase) : NonceRun :=
  {s with exchanges := s.exchanges.set i {exchange with phase}}

def step (ids : Identifiers) (s : NonceRun) : NonceEvent → Option NonceRun
  | .request nonce => some {s with exchanges := s.exchanges ++ [⟨nonce, .requested⟩]}
  | .handle i =>
    match s.exchanges[i]?, s.server.lock with
    | some ⟨nonce, .requested⟩, none =>
      if validateNonce nonce.val then
        some {s.setPhase i ⟨nonce, .requested⟩ .handling with
          server := {s.server with received := s.server.received.put ids.client nonce.val, lock := some i}
          handled := s.handled ++ [i]}
      else some (s.setPhase i ⟨nonce, .requested⟩ .refused)
    | _, _ => none
  | .answer i response =>
    match s.exchanges[i]? with
    | some ⟨nonce, .handling⟩ =>
      some {s.setPhase i ⟨nonce, .handling⟩ (.answered response) with
        server := {s.server with generated := s.server.generated.put ids.client response.val, lock := none}}
    | _ => none
  | .store i =>
    match s.exchanges[i]?, s.client.lock with
    | some ⟨nonce, .answered response⟩, none =>
      some {s.setPhase i ⟨nonce, .answered response⟩ (.storing response) with
        client := {s.client with received := s.client.received.put ids.server response.val, lock := some i}
        stored := s.stored ++ [i]}
    | _, _ => none
  | .complete i =>
    match s.exchanges[i]? with
    | some ⟨nonce, .storing response⟩ =>
      some {s.setPhase i ⟨nonce, .storing response⟩ (.completed response) with
        client := {s.client with generated := s.client.generated.put ids.server nonce.val, lock := none}}
    | _ => none

end NonceRun

/-- One client and one server. -/
def nonceExchange (ids : Identifiers) : Transition.System NonceRun NonceEvent where
  init := {}
  step := NonceRun.step ids

namespace NonceRun

/-! ### The property and its condition -/

/-- All exchanges have completed. -/
def Completed (s : NonceRun) : Prop := ∀ exchange ∈ s.exchanges, ∃ response, exchange.phase = .completed response

/-- Received nonces are valid, and once all is completed both sides hold the same pair. -/
structure NoncesAgree (ids : Identifiers) (s : NonceRun) : Prop where
  valid : ∀ entry ∈ s.client.received ++ s.server.received, validateNonce entry.2 = true
  received : s.Completed → s.client.received.get ids.server = s.server.generated.get ids.client
  generated : s.Completed → s.client.generated.get ids.server = s.server.received.get ids.client

/-- The client stores the response of the exchange that the server has handled last, or
has not stored that one yet, or there is one still to handle. -/
def InTurn (s : NonceRun) : NonceEvent → Prop
  | .store i => s.handled.getLast? = some i ∨ (∀ last ∈ s.handled.getLast?, last ∉ s.stored) ∨
      ∃ exchange ∈ s.exchanges, exchange.phase = .requested
  | _ => True

instance (s : NonceRun) : (e : NonceEvent) → Decidable (s.InTurn e)
  | .store _ => inferInstanceAs (Decidable (_ ∨ _ ∨ _))
  | .request _ | .handle _ | .answer _ _ | .complete _ => .isTrue trivial

end NonceRun

/-! ### The invariant -/

@[simp] def ExchangePhase.rank : ExchangePhase → Nat
  | .requested | .refused => 0
  | .handling => 1
  | .answered _ => 2
  | .storing _ => 3
  | .completed _ => 4

def ExchangePhase.response : ExchangePhase → Option Bytes
  | .answered response | .storing response | .completed response => some response.val
  | _ => none

/-- What one side keeps: the halves `first` and `second` of the exchange that is last in
`order`; the second one may be missing while an exchange of rank `busy` holds the lock. -/
structure Latest (exchanges : List Exchange) (maps : NonceMaps) (key : String) (order : List Nat) (busy : Nat)
    (first second : Exchange → Option Bytes) : Prop where
  none : order = [] → maps.received.get key = none ∧ maps.generated.get key = none
  received : ∀ i, order.getLast? = some i → ∃ exchange, exchanges[i]? = some exchange ∧
    maps.received.get key = first exchange
  generated : maps.lock = .none → ∀ i, order.getLast? = some i → ∃ exchange, exchanges[i]? = some exchange ∧
    maps.generated.get key = second exchange
  holder : ∀ i exchange, exchanges[i]? = some exchange → exchange.phase.rank = busy → maps.lock = some i
  locked : ∀ i, maps.lock = some i → order.getLast? = some i ∧
    ∃ exchange, exchanges[i]? = some exchange ∧ exchange.phase.rank = busy

namespace Latest
variable {exchanges : List Exchange} {maps : NonceMaps} {key : String} {order : List Nat} {busy i : Nat}
  {first second : Exchange → Option Bytes} {before after : Exchange} {value : Bytes}

theorem nil (key : String) (busy : Nat) (first second : Exchange → Option Bytes) :
    Latest [] {} key [] busy first second where
  none _ := ⟨rfl, rfl⟩
  received _ h := by cases h
  generated _ _ h := by cases h
  holder _ _ h := by cases h
  locked _ h := by cases h

/-- A new exchange is of no side yet. -/
theorem append (h : Latest exchanges maps key order busy first second) (hrank : after.phase.rank ≠ busy) :
    Latest (exchanges ++ [after]) maps key order busy first second where
  none := h.none
  received i hi := by
    obtain ⟨exchange, hget, hfirst⟩ := h.received i hi
    exact ⟨exchange, Records.append hget, hfirst⟩
  generated hlock i hi := by
    obtain ⟨exchange, hget, hsecond⟩ := h.generated hlock i hi
    exact ⟨exchange, Records.append hget, hsecond⟩
  holder i exchange hget hbusy := by
    rcases Records.of_append hget with hold | ⟨-, hnew⟩
    · exact h.holder i exchange hold hbusy
    · exact absurd hbusy (hnew ▸ hrank)
  locked i hi := by
    obtain ⟨hlast, exchange, hget, hbusy⟩ := h.locked i hi
    exact ⟨hlast, exchange, Records.append hget, hbusy⟩

/-- A step of the other side changes an exchange that is not the last one here, or leaves
its halves. -/
theorem other (h : Latest exchanges maps key order busy first second) (hget : exchanges[i]? = some before)
    (hbefore : before.phase.rank ≠ busy) (hafter : after.phase.rank ≠ busy)
    (hsame : order.getLast? = some i → first after = first before ∧ second after = second before) :
    Latest (exchanges.set i after) maps key order busy first second := by
  refine ⟨h.none, fun j hj => ?_, fun hlock j hj => ?_, fun j exchange hj hbusy => ?_, fun j hj => ?_⟩
  · obtain ⟨exchange, hexchange, hfirst⟩ := h.received j hj
    by_cases hij : i = j
    · subst hij
      obtain rfl := Option.some.inj (hget.symm.trans hexchange)
      exact ⟨after, Records.set_self hget, hfirst.trans (hsame hj).1.symm⟩
    · exact ⟨exchange, (List.getElem?_set_ne hij).trans hexchange, hfirst⟩
  · obtain ⟨exchange, hexchange, hsecond⟩ := h.generated hlock j hj
    by_cases hij : i = j
    · subst hij
      obtain rfl := Option.some.inj (hget.symm.trans hexchange)
      exact ⟨after, Records.set_self hget, hsecond.trans (hsame hj).2.symm⟩
    · exact ⟨exchange, (List.getElem?_set_ne hij).trans hexchange, hsecond⟩
  · rcases Records.of_set hj with ⟨-, rfl⟩ | ⟨-, hold⟩
    · exact absurd hbusy hafter
    · exact h.holder j exchange hold hbusy
  · obtain ⟨hlast, exchange, hexchange, hbusy⟩ := h.locked j hj
    refine ⟨hlast, exchange, ?_, hbusy⟩
    rw [List.getElem?_set_ne]
    · exact hexchange
    · rintro rfl
      obtain rfl := Option.some.inj (hget.symm.trans hexchange)
      exact hbefore hbusy

/-- An exchange takes the lock, and the first half is saved. -/
theorem lock (h : Latest exchanges maps key order busy first second) (hlock : maps.lock = .none)
    (hget : exchanges[i]? = some before) (hafter : after.phase.rank = busy) (hfirst : first after = some value) :
    Latest (exchanges.set i after) {maps with received := maps.received.put key value, lock := some i} key
      (order ++ [i]) busy first second := by
  refine ⟨fun hnil => absurd hnil (by simp), fun j hj => ?_, fun hfree => (Option.some_ne_none _ hfree).elim,
    fun j exchange hj hbusy => ?_, fun j hj => ?_⟩
  · obtain rfl := Option.some.inj (List.getLast?_concat.symm.trans hj)
    exact ⟨after, Records.set_self hget, by rw [LruCache.get_put, hfirst]⟩
  · rcases Records.of_set hj with ⟨rfl, -⟩ | ⟨-, hold⟩
    · rfl
    · have hheld := h.holder j exchange hold hbusy
      rw [hlock] at hheld
      cases hheld
  · obtain rfl := Option.some.inj hj
    exact ⟨List.getLast?_concat, after, Records.set_self hget, hafter⟩

/-- The exchange that holds the lock saves the second half, and gives the lock back. -/
theorem unlock (h : Latest exchanges maps key order busy first second) (hget : exchanges[i]? = some before)
    (hbefore : before.phase.rank = busy) (hafter : after.phase.rank ≠ busy) (hfirst : first after = first before)
    (hsecond : second after = some value) :
    Latest (exchanges.set i after) {maps with generated := maps.generated.put key value, lock := .none} key
      order busy first second := by
  have hheld := h.holder i before hget hbefore
  have hlast := (h.locked i hheld).1
  refine ⟨fun hnil => ?_, fun j hj => ?_, fun _ j hj => ?_, fun j exchange hj hbusy => ?_, fun j hj => (Option.some_ne_none _ hj.symm).elim⟩
  · rw [hnil] at hlast
    cases hlast
  · obtain rfl := Option.some.inj (hlast.symm.trans hj)
    obtain ⟨exchange, hexchange, hsaved⟩ := h.received i hj
    obtain rfl := Option.some.inj (hget.symm.trans hexchange)
    exact ⟨after, Records.set_self hget, hsaved.trans hfirst.symm⟩
  · obtain rfl := Option.some.inj (hlast.symm.trans hj)
    exact ⟨after, Records.set_self hget, by rw [LruCache.get_put, hsecond]⟩
  · rcases Records.of_set hj with ⟨-, rfl⟩ | ⟨hne, hold⟩
    · exact absurd hbusy hafter
    · have hother := h.holder j exchange hold hbusy
      exact absurd (Option.some.inj (hother.symm.trans hheld)) hne

end Latest

namespace NonceRun
variable {ids : Identifiers} {s t : NonceRun} {e : NonceEvent}

def sent (exchange : Exchange) : Option Bytes := some exchange.nonce.val
def given (exchange : Exchange) : Option Bytes := exchange.phase.response

structure Paired (ids : Identifiers) (s : NonceRun) : Prop where
  valid : ∀ entry ∈ s.client.received ++ s.server.received, validateNonce entry.2 = true
  server : Latest s.exchanges s.server ids.client s.handled 1 sent given
  client : Latest s.exchanges s.client ids.server s.stored 3 given sent
  handled : ∀ i exchange, s.exchanges[i]? = some exchange → (i ∈ s.handled ↔ 1 ≤ exchange.phase.rank)
  stored : ∀ i exchange, s.exchanges[i]? = some exchange → (i ∈ s.stored ↔ 3 ≤ exchange.phase.rank)
  known : ∀ i ∈ s.handled ++ s.stored, i < s.exchanges.length
  /-- Once all requests are handled, the response of the last is stored last. -/
  turn : (∀ exchange ∈ s.exchanges, exchange.phase ≠ .requested) → ∀ last, s.handled.getLast? = some last →
    last ∈ s.stored → s.stored.getLast? = some last

/-- An order lists the exchanges of a rank: one that keeps its rank there, -/
theorem order_of_set {exchanges : List Exchange} {order : List Nat} {i n : Nat} {before after : Exchange}
    (h : ∀ j exchange, exchanges[j]? = some exchange → (j ∈ order ↔ n ≤ exchange.phase.rank))
    (hget : exchanges[i]? = some before) (hsame : n ≤ after.phase.rank ↔ n ≤ before.phase.rank) :
    ∀ j exchange, (exchanges.set i after)[j]? = some exchange → (j ∈ order ↔ n ≤ exchange.phase.rank) := by
  intro j exchange hj
  by_cases hij : i = j
  · subst hij
    rw [Records.set_self hget] at hj
    rw [← Option.some.inj hj, hsame]
    exact h i before hget
  · rw [List.getElem?_set_ne hij] at hj
    exact h j exchange hj

/-- and one that reaches it. -/
theorem order_of_reached {exchanges : List Exchange} {order : List Nat} {i n : Nat} {before after : Exchange}
    (h : ∀ j exchange, exchanges[j]? = some exchange → (j ∈ order ↔ n ≤ exchange.phase.rank))
    (hget : exchanges[i]? = some before) (hafter : n ≤ after.phase.rank) :
    ∀ j exchange, (exchanges.set i after)[j]? = some exchange → (j ∈ order ++ [i] ↔ n ≤ exchange.phase.rank) := by
  intro j exchange hj
  by_cases hij : i = j
  · subst hij
    rw [Records.set_self hget] at hj
    exact iff_of_true (List.mem_append_right _ (List.mem_singleton_self _)) (Option.some.inj hj ▸ hafter)
  · rw [List.getElem?_set_ne hij] at hj
    rw [← h j exchange hj]
    simp [Ne.symm hij]

/-- A request that is changed and still to handle leaves the others to handle. -/
theorem requested_of_set {exchanges : List Exchange} {i : Nat} {before after : Exchange}
    (hget : exchanges[i]? = some before) (hbefore : before.phase ≠ .requested)
    (h : ∀ exchange ∈ exchanges.set i after, exchange.phase ≠ .requested) :
    ∀ exchange ∈ exchanges, exchange.phase ≠ .requested := by
  intro exchange hmem
  obtain ⟨j, hj⟩ := List.getElem?_of_mem hmem
  by_cases hij : i = j
  · subst hij
    exact Option.some.inj (hget.symm.trans hj) ▸ hbefore
  · exact h exchange (List.mem_of_getElem? ((List.getElem?_set_ne hij).trans hj))

theorem Paired.step (h : s.Paired ids) (hturn : s.InTurn e) (hst : s.step ids e = some t) : t.Paired ids := by
  cases e with
  | request nonce =>
    obtain rfl := Option.some.inj hst
    refine ⟨h.valid, h.server.append (by simp), h.client.append (by simp), ?_, ?_, ?_, ?_⟩
    · intro i exchange hget
      rcases Records.of_append hget with hold | ⟨hlength, hnew⟩
      · exact h.handled i exchange hold
      · refine iff_of_false (fun hmem => ?_) (hnew ▸ by simp)
        have hlt := h.known i (List.mem_append_left _ hmem)
        omega
    · intro i exchange hget
      rcases Records.of_append hget with hold | ⟨hlength, hnew⟩
      · exact h.stored i exchange hold
      · refine iff_of_false (fun hmem => ?_) (hnew ▸ by simp)
        have hlt := h.known i (List.mem_append_right _ hmem)
        omega
    · intro i hi
      exact Nat.lt_of_lt_of_le (h.known i hi) (by simp)
    · intro hnone
      exact absurd rfl (hnone ⟨nonce, .requested⟩ (List.mem_append_right _ (List.mem_singleton_self _)))
  | handle i =>
    simp only [NonceRun.step] at hst
    split at hst
    · next nonce hget hlock =>
      rw [if_pos nonce.valid] at hst
      obtain rfl := Option.some.inj hst
      have hlt := (List.getElem?_eq_some_iff.mp hget).1
      have hfresh : i ∉ s.stored := fun hmem => absurd ((h.stored i _ hget).mp hmem) (by simp)
      refine ⟨fun entry hmem => ?_, h.server.lock hlock hget rfl rfl, ?_, ?_, ?_, ?_, ?_⟩
      · rcases List.mem_append.mp hmem with hclient | hserver
        · exact h.valid entry (List.mem_append_left _ hclient)
        · rcases LruCache.mem_put hserver with rfl | hold
          · exact nonce.valid
          · exact h.valid entry (List.mem_append_right _ hold)
      · exact h.client.other hget (by simp) (by simp) fun hlast => absurd (List.mem_of_getLast? hlast) hfresh
      · exact order_of_reached h.handled hget (by simp)
      · exact order_of_set h.stored hget (by simp)
      · intro j hj
        simp only [setPhase, List.length_set]
        rcases List.mem_append.mp hj with hhandled | hstored
        · rcases List.mem_append.mp hhandled with hold | hnew
          · exact h.known j (List.mem_append_left _ hold)
          · exact List.mem_singleton.mp hnew ▸ hlt
        · exact h.known j (List.mem_append_right _ hstored)
      · intro _ last hlast hmem
        obtain rfl := Option.some.inj (List.getLast?_concat.symm.trans hlast)
        exact absurd hmem hfresh
    · cases hst
  | answer i response =>
    simp only [NonceRun.step] at hst
    split at hst
    · next nonce hget =>
      obtain rfl := Option.some.inj hst
      have hfresh : i ∉ s.stored := fun hmem => absurd ((h.stored i _ hget).mp hmem) (by simp)
      refine ⟨h.valid, ?_, ?_, ?_, ?_, ?_, ?_⟩
      · exact h.server.unlock hget rfl (by simp) rfl rfl
      · exact h.client.other hget (by simp) (by simp) fun hlast =>
          absurd (List.mem_of_getLast? hlast) hfresh
      · exact order_of_set h.handled hget (by simp)
      · exact order_of_set h.stored hget (by simp)
      · simpa [setPhase] using h.known
      · intro hnone
        exact h.turn (requested_of_set hget (by simp) hnone)
    · cases hst
  | store i =>
    simp only [NonceRun.step] at hst
    split at hst
    · next nonce response hget hlock =>
      obtain rfl := Option.some.inj hst
      have hlt := (List.getElem?_eq_some_iff.mp hget).1
      refine ⟨fun entry hmem => ?_, ?_, h.client.lock hlock hget rfl rfl, ?_, ?_, ?_, ?_⟩
      · rcases List.mem_append.mp hmem with hclient | hserver
        · rcases LruCache.mem_put hclient with rfl | hold
          · exact response.valid
          · exact h.valid entry (List.mem_append_left _ hold)
        · exact h.valid entry (List.mem_append_right _ hserver)
      · exact h.server.other hget (by simp) (by simp) fun _ => ⟨rfl, rfl⟩
      · exact order_of_set h.handled hget (by simp)
      · exact order_of_reached h.stored hget (by simp)
      · intro j hj
        simp only [setPhase, List.length_set]
        rcases List.mem_append.mp hj with hhandled | hstored
        · exact h.known j (List.mem_append_left _ hhandled)
        · rcases List.mem_append.mp hstored with hold | hnew
          · exact h.known j (List.mem_append_right _ hold)
          · exact List.mem_singleton.mp hnew ▸ hlt
      · intro hnone last hlast hmem
        have hhandled := requested_of_set hget (by simp) hnone
        rcases hturn with hown | hopen | ⟨exchange, hexchange, hrequested⟩
        · obtain rfl := Option.some.inj (hown.symm.trans hlast)
          exact List.getLast?_concat
        · rcases List.mem_append.mp hmem with hold | hnew
          · exact absurd hold (hopen last hlast)
          · rw [List.mem_singleton.mp hnew]
            exact List.getLast?_concat
        · exact absurd hrequested (hhandled exchange hexchange)
    · cases hst
  | complete i =>
    simp only [NonceRun.step] at hst
    split at hst
    · next nonce response hget =>
      obtain rfl := Option.some.inj hst
      refine ⟨h.valid, ?_, ?_, ?_, ?_, ?_, ?_⟩
      · exact h.server.other hget (by simp) (by simp) fun _ => ⟨rfl, rfl⟩
      · exact h.client.unlock hget rfl (by simp) rfl rfl
      · exact order_of_set h.handled hget (by simp)
      · exact order_of_set h.stored hget (by simp)
      · simpa [setPhase] using h.known
      · intro hnone
        exact h.turn (requested_of_set hget (by simp) hnone)
    · cases hst

theorem paired_init : (nonceExchange ids).init.Paired ids where
  valid _ hmem := absurd hmem (List.not_mem_nil)
  server := Latest.nil _ _ _ _
  client := Latest.nil _ _ _ _
  handled _ _ h := by cases h
  stored _ _ h := by cases h
  known _ h := absurd h (List.not_mem_nil)
  turn _ _ h := by cases h

/-- Where all has completed, the last exchange of both sides is the same. -/
theorem Paired.noncesAgree (h : s.Paired ids) : s.NoncesAgree ids := by
  have hlocks : s.Completed → s.server.lock = none ∧ s.client.lock = none := by
    intro hcompleted
    constructor
    · cases hlock : s.server.lock with
      | none => rfl
      | some i =>
        obtain ⟨-, exchange, hget, hrank⟩ := h.server.locked i hlock
        obtain ⟨response, hphase⟩ := hcompleted exchange (List.mem_of_getElem? hget)
        rw [hphase] at hrank
        cases hrank
    · cases hlock : s.client.lock with
      | none => rfl
      | some i =>
        obtain ⟨-, exchange, hget, hrank⟩ := h.client.locked i hlock
        obtain ⟨response, hphase⟩ := hcompleted exchange (List.mem_of_getElem? hget)
        rw [hphase] at hrank
        cases hrank
  have hpair : s.Completed → s.client.received.get ids.server = s.server.generated.get ids.client ∧
      s.client.generated.get ids.server = s.server.received.get ids.client := by
    intro hcompleted
    obtain ⟨hserver, hclient⟩ := hlocks hcompleted
    cases hlast : s.handled.getLast? with
    | none =>
      have hhandled : s.handled = [] := List.getLast?_eq_none_iff.mp hlast
      have hstored : s.stored = [] := by
        refine List.eq_nil_iff_forall_not_mem.mpr fun i hi => ?_
        obtain ⟨exchange, hget⟩ : ∃ exchange, s.exchanges[i]? = some exchange :=
          ⟨_, List.getElem?_eq_getElem (h.known i (List.mem_append_right _ hi))⟩
        have hrank := (h.stored i exchange hget).mp hi
        have hmem := (h.handled i exchange hget).mpr (by omega)
        rw [hhandled] at hmem
        cases hmem
      obtain ⟨hreceived, hgenerated⟩ := h.server.none hhandled
      obtain ⟨hreceived', hgenerated'⟩ := h.client.none hstored
      exact ⟨hreceived'.trans hgenerated.symm, hgenerated'.trans hreceived.symm⟩
    | some last =>
      obtain ⟨exchange, hget, hreceived⟩ := h.server.received last hlast
      obtain ⟨same, hsame, hgenerated⟩ := h.server.generated hserver last hlast
      obtain rfl := Option.some.inj (hget.symm.trans hsame)
      obtain ⟨response, hphase⟩ := hcompleted exchange (List.mem_of_getElem? hget)
      have hstored : last ∈ s.stored := (h.stored last exchange hget).mpr (by simp [hphase])
      have hturn := h.turn (fun other hother hrequested => by
        obtain ⟨response', hphase'⟩ := hcompleted other hother
        rw [hrequested] at hphase'
        cases hphase') last hlast hstored
      obtain ⟨other, hother, hreceived'⟩ := h.client.received last hturn
      obtain rfl := Option.some.inj (hget.symm.trans hother)
      obtain ⟨other, hother, hgenerated'⟩ := h.client.generated hclient last hturn
      obtain rfl := Option.some.inj (hget.symm.trans hother)
      exact ⟨hreceived'.trans hgenerated.symm, hgenerated'.trans hreceived.symm⟩
  exact ⟨h.valid, fun hcompleted => (hpair hcompleted).1, fun hcompleted => (hpair hcompleted).2⟩

end NonceRun

/-- **Both sides agree on the nonces.** In every run in which the client stores the
response of the last handled exchange after the others, received nonces are valid and
the pairs of both sides are the same whenever all exchanges have completed. -/
theorem nonces_agree (ids : Identifiers) {events : List NonceEvent}
    (hturn : (nonceExchange ids).Meets NonceRun.InTurn (nonceExchange ids).init events) :
    (nonceExchange ids).Along (NonceRun.NoncesAgree ids) (nonceExchange ids).init events :=
  Transition.System.along_of_meets (fun _ _ _ h hc hst => h.step hc hst) (fun _ h => h.noncesAgree)
    NonceRun.paired_init hturn

namespace Overlap

def ids : Identifiers := ⟨"phone", "laptop"⟩

def nonce (byte : UInt8) : GeneratedNonce := ⟨List.replicate 32 byte, List.length_replicate⟩

/-- Two exchanges whose requests are handled one after the other. -/
def handled : List NonceEvent :=
  [.request (nonce 1), .request (nonce 2), .handle 0, .answer 0 (nonce 3), .handle 1, .answer 1 (nonce 4)]

end Overlap

/-- Two exchanges that overlap, and whose responses are stored in the order of their
requests. -/
theorem nonces_agree_in_order :
    (nonceExchange Overlap.ids).Along (NonceRun.NoncesAgree Overlap.ids) (nonceExchange Overlap.ids).init
      (Overlap.handled ++ [.store 0, .complete 0, .store 1, .complete 1]) :=
  nonces_agree Overlap.ids (by decide +kernel)

/-- The response of the first exchange is stored after that of the second one: the
server keeps the pair of the second exchange, and the client that of the first. -/
theorem nonces_of_different_exchanges :
    ∃ t, (nonceExchange Overlap.ids).run (nonceExchange Overlap.ids).init
        (Overlap.handled ++ [.store 1, .complete 1, .store 0, .complete 0]) = some t ∧
      t.exchanges = [⟨Overlap.nonce 1, .completed (Overlap.nonce 3)⟩, ⟨Overlap.nonce 2, .completed (Overlap.nonce 4)⟩] ∧
      t.client.generated.get "laptop" = some (Overlap.nonce 1).val ∧
      t.server.received.get "phone" = some (Overlap.nonce 2).val ∧ ¬ t.NoncesAgree Overlap.ids := by
  have hreached : ∃ t, (nonceExchange Overlap.ids).run (nonceExchange Overlap.ids).init
        (Overlap.handled ++ [.store 1, .complete 1, .store 0, .complete 0]) = some t ∧
      t.exchanges = [⟨Overlap.nonce 1, .completed (Overlap.nonce 3)⟩, ⟨Overlap.nonce 2, .completed (Overlap.nonce 4)⟩] ∧
      t.client.generated.get "laptop" = some (Overlap.nonce 1).val ∧
      t.server.received.get "phone" = some (Overlap.nonce 2).val :=
    ⟨_, rfl, rfl, by decide +kernel, by decide +kernel⟩
  obtain ⟨t, hrun, hexchanges, hclient, hserver⟩ := hreached
  refine ⟨t, hrun, hexchanges, hclient, hserver, fun hagree => ?_⟩
  have hcompleted : t.Completed := by
    intro exchange hexchange
    rw [hexchanges] at hexchange
    rcases List.mem_pair.mp hexchange with rfl | rfl
    · exact ⟨_, rfl⟩
    · exact ⟨_, rfl⟩
  have hsame : some (Overlap.nonce 1).val = some (Overlap.nonce 2).val :=
    hclient.symm.trans ((hagree.generated hcompleted).trans hserver)
  exact absurd hsame (by decide)

end MagicShare.Lan
