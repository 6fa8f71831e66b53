import VirtioDrivers.Device.Net.Run
import VirtioDrivers.Queue.OwningRun

/-! The receive-buffer bookkeeping of the network driver over whole runs. After `new`,
the device completes the chains it holds in any order, writing at least a header into
each, and the client receives buffers and gives them back in any order, or keeps them.
Between the calls the slots of `rx_buffers` that hold a buffer are exactly the receive
queue's outstanding chains, slot `i` the chain of token `i`; the client's buffers are in
none of them. So `receive` never meets a wrong token, and `recycle_rx_buffer` always
finds the slot of its new token empty. -/
namespace VirtioDrivers
open Net LinkWalk

namespace VirtIONet
variable {QUEUE_SIZE : Nat}

/-- A network driver and its device between the driver's calls: the receive queue's
device area, the tokens of the chains the device holds, the chains it has completed and
the driver has not received yet with the length written into each, and the buffers the
client holds. -/
structure World (QUEUE_SIZE : Nat) where
  net : VirtIONet QUEUE_SIZE
  used : UsedRing
  held : List Nat
  done : List (Nat × Nat)
  client : List RxBuffer

namespace World

/-- Right after `new`: the device holds every token. -/
def start (net : VirtIONet QUEUE_SIZE) : World QUEUE_SIZE :=
  ⟨net, UsedRing.zero, List.range QUEUE_SIZE, [], []⟩

/-- The device completes the chain of token `t`, having written `len` bytes into it. -/
def complete (w : World QUEUE_SIZE) (t len : Nat) : World QUEUE_SIZE :=
  { w with
    used := w.used.push QUEUE_SIZE ⟨UInt32.ofNat t, UInt32.ofNat len⟩
    held := w.held.erase t
    done := w.done ++ [(t, len)] }

/-- The used elements the device has published and the driver has not received. -/
def pending (w : World QUEUE_SIZE) : List UsedElem :=
  w.done.map fun p => ⟨UInt32.ofNat p.1, UInt32.ofNat p.2⟩

/-- The chains of the slots. -/
def chains (w : World QUEUE_SIZE) : List Chain := rxChains w.net.rxBuffers QUEUE_SIZE

/-- Where every buffer's bytes are: the client's buffers, then those in the slots. -/
def addrs (w : World QUEUE_SIZE) : List Nat :=
  w.client.map (·.buf) ++ w.chains.flatMap fun c => c.outputs.map (·.addr)

end World

/-- One step of a run: the device completes a chain it holds, writing at least a header
and at most the buffer; or the client receives a buffer; or it gives back one it holds. -/
inductive Step (H : Hal) : World QUEUE_SIZE → World QUEUE_SIZE → Prop
  | complete {w : World QUEUE_SIZE} {t len : Nat} {b : RxBuffer} :
      t ∈ w.held → w.net.rxBuffers t = some b → NET_HDR_SIZE ≤ len → len ≤ b.len →
      Step H w (w.complete t len)
  | receive {w : World QUEUE_SIZE} {b : RxBuffer} {net : VirtIONet QUEUE_SIZE} :
      (VirtIONet.receive H w.used).run w.net = .ok b net →
      Step H w { w with net := net, done := w.done.tail, client := w.client ++ [b] }
  | recycle {w : World QUEUE_SIZE} {b : RxBuffer} {net : VirtIONet QUEUE_SIZE} :
      b ∈ w.client → (recycleRxBuffer H w.used b).run w.net = .ok () net →
      Step H w { w with
        net := net
        held := w.held ++ [w.net.inner.recvQueue.freeHead]
        client := w.client.erase b }

/-- The worlds a run reaches from `new`. -/
def Reachable (H : Hal) (T : TransportBehaviour) (dm : DeviceMemory) (fuel : Nat)
    (boxes : Nat → Nat) (bufLen : Nat) (transport : List TransportCall) (w : World QUEUE_SIZE) :
    Prop :=
  ∃ net, new H T dm fuel boxes bufLen transport = .ok net ∧
    Relation.ReflTransGen (Step H) (World.start net) w

/-- The invariant of a run, between the driver's calls. The slots' chains are the
queue's outstanding chains, each slot's buffer carrying the slot's index; the device
holds or has completed each of them, having written into each completed one at least a
header and at most the buffer; every buffer is long enough; each buffer the client holds
stands for an empty slot; and no two buffers share their bytes. -/
structure World.Inv (w : World QUEUE_SIZE) : Prop where
  size : SizeOk QUEUE_SIZE
  queue : w.net.inner.recvQueue.Inv w.chains
  idx : ∀ i b, w.net.rxBuffers i = some b → b.idx.toNat = i
  lens : ∀ i b, w.net.rxBuffers i = some b → MIN_BUFFER_LEN ≤ b.len ∧ b.len < 2 ^ 32
  clientLens : ∀ b ∈ w.client, MIN_BUFFER_LEN ≤ b.len ∧ b.len < 2 ^ 32
  pending : w.net.inner.recvQueue.UsedPending w.used w.pending
  tokens : (w.held ++ w.done.map Prod.fst).Perm (w.chains.map Chain.token)
  written : ∀ p ∈ w.done, ∃ b, w.net.rxBuffers p.1 = some b ∧ NET_HDR_SIZE ≤ p.2 ∧ p.2 ≤ b.len
  count : w.client.length + w.chains.length = QUEUE_SIZE
  addrs : w.addrs.Nodup

theorem forall_update_slots {α : Type} {slots : Nat → Option α} {t : Nat} {o : Option α}
    {P : Nat → α → Prop} (hall : ∀ i b, slots i = some b → P i b)
    (ht : ∀ b, o = some b → P t b) : ∀ i b, Function.update slots t o i = some b → P i b := by
  intro i b hb
  by_cases hit : i = t
  · subst hit
    exact ht b (by simpa using hb)
  · exact hall i b (by simpa [Function.update_of_ne hit] using hb)

namespace World
variable {w : World QUEUE_SIZE}

theorem Inv.lt_of_mem_tokens (h : w.Inv) {t : Nat} (ht : t ∈ w.held ++ w.done.map Prod.fst) :
    t < QUEUE_SIZE := by
  obtain ⟨c, hc, rfl⟩ := List.mem_map.mp (h.tokens.mem_iff.mp ht)
  obtain ⟨i, hi, b, -, rfl⟩ := mem_rxChains.mp hc
  exact hi

theorem Inv.nodup_tokens (h : w.Inv) : (w.held ++ w.done.map Prod.fst).Nodup :=
  h.tokens.nodup_iff.mpr nodup_map_token_rxChains

theorem Inv.complete (h : w.Inv) {t len : Nat} {b : RxBuffer} (ht : t ∈ w.held)
    (hb : w.net.rxBuffers t = some b) (hlo : NET_HDR_SIZE ≤ len) (hhi : len ≤ b.len) :
    (w.complete t len).Inv := by
  have hroom : w.pending.length < QUEUE_SIZE := by
    have hlen := h.tokens.length_eq
    have hpos : 0 < w.held.length := List.length_pos_of_mem ht
    have hcount := h.count
    simp only [List.length_append, List.length_map] at hlen
    simp only [World.pending, List.length_map]
    omega
  refine ⟨h.size, h.queue, h.idx, h.lens, h.clientLens, ?_, ?_, ?_, h.count, h.addrs⟩
  · simpa [World.complete, World.pending] using
      h.pending.push h.size hroom ⟨UInt32.ofNat t, UInt32.ofNat len⟩
  · have hperm : (w.held.erase t ++ (w.done.map Prod.fst ++ [t])).Perm
        (w.held ++ w.done.map Prod.fst) := by
      rw [← List.append_assoc]
      exact (List.perm_append_singleton _ _).trans
        (((List.perm_cons_erase ht).symm).append_right _)
    show (w.held.erase t ++ (w.done ++ [(t, len)]).map Prod.fst).Perm (w.chains.map Chain.token)
    rw [List.map_append]
    exact hperm.trans h.tokens
  · intro p hp
    rcases List.mem_append.mp hp with hp | hp
    · exact h.written p hp
    · obtain rfl := List.mem_singleton.mp hp
      exact ⟨b, hb, hlo, hhi⟩

theorem Inv.outstanding_iff (h : w.Inv) {i : Nat} (hi : i < QUEUE_SIZE) :
    i ∉ w.net.inner.recvQueue.freeList ↔ ∃ b, w.net.rxBuffers i = some b := by
  constructor
  · intro hfree
    rcases h.queue.mem_free_or_footprint hi with hf | ⟨c, hc, hic⟩
    · exact absurd hf hfree
    · obtain ⟨j, -, b, hb, rfl⟩ := mem_rxChains.mp hc
      rw [footprint_rxChain, List.mem_singleton] at hic
      exact ⟨b, hic ▸ hb⟩
  · rintro ⟨b, hb⟩ hfree
    have hc : rxChain i b ∈ w.chains := mem_rxChains.mpr ⟨i, hi, b, hb, rfl⟩
    exact h.queue.partitions.not_mem_fp_of_mem_free hfree hc (by simp [footprint_rxChain])

theorem Inv.receive_nil (H : Hal) (h : w.Inv) (hd : w.done = []) :
    (VirtIONet.receive H w.used).run w.net = .error (.err .notReady) w.net := by
  have hp : w.net.inner.recvQueue.UsedPending w.used [] := by
    simpa [World.pending, hd] using h.pending
  exact receive_of_none H w.used (hp.peekUsed_nil h.size)

/-- The device returned the chain of slot `t` next: its `pop_used` returns the length the
device wrote, and the popped queue keeps the invariant for the other slots. -/
theorem Inv.popUsed_slot (H : Hal) (h : w.Inv) {t : Nat} {b : RxBuffer} (ht : t < QUEUE_SIZE)
    (hb : w.net.rxBuffers t = some b) {used : UsedRing} {e : UsedElem} {es : List UsedElem}
    (hpend : w.net.inner.recvQueue.UsedPending used (e :: es)) (he : e.id = UInt32.ofNat t) :
    ∃ us, w.net.inner.recvQueue.popUsed H used (rxChain t b).token (rxChain t b).inputs
        (rxChain t b).outputs =
      .ok ((w.net.inner.recvQueue.afterRecycleDirect (rxChain t b).token
        (rxChain t b).count).consumeUsed, e.len, us) ∧
      (w.net.inner.recvQueue.afterRecycleDirect (rxChain t b).token
        (rxChain t b).count).consumeUsed.Inv (rxChains (Function.update w.net.rxBuffers t none) QUEUE_SIZE) := by
  have hsize := h.size
  have hc : rxChain t b ∈ w.chains := mem_rxChains.mpr ⟨t, ht, b, hb, rfl⟩
  have ht16 : t < 2 ^ 16 := by have := hsize.lt; omega
  have hslot := hpend.slot_eq hsize
  have hcan := (hpend.canPop_iff hsize).mpr (List.cons_ne_nil _ _)
  have htok : (used.ring w.net.inner.recvQueue.lastUsedSlot).id.toUInt16.toNat =
      (rxChain t b).token := by
    rw [hslot, he]
    exact OwningQueue.toNat_toUInt16_ofNat ht16
  obtain ⟨us, hpop⟩ := h.queue.popUsed_eq_of_direct H hc (isIndirect_rxChain _ _ _) hcan htok
  rw [hslot] at hpop
  exact ⟨us, hpop, (h.queue.popUsed hc hpop).perm (rxChains_erase_perm ht hb)⟩

/-- `receive` when the device completed token `t` first, with `len` bytes: the slot of
`t` holds a buffer, which `receive` hands out with a packet of `len - NET_HDR_SIZE` bytes,
emptying the slot; the popped queue keeps the invariant for the remaining slots. -/
theorem Inv.receive_cons (H : Hal) (h : w.Inv) {t len : Nat} {rest : List (Nat × Nat)}
    (hd : w.done = (t, len) :: rest) :
    ∃ b q, w.net.rxBuffers t = some b ∧ t < QUEUE_SIZE ∧
      (VirtIONet.receive H w.used).run w.net = .ok { b with packetLen := len - NET_HDR_SIZE }
        ⟨{ w.net.inner with recvQueue := q }, Function.update w.net.rxBuffers t none⟩ ∧
      q.Inv (rxChains (Function.update w.net.rxBuffers t none) QUEUE_SIZE) ∧
      q.UsedPending w.used (rest.map fun p => ⟨UInt32.ofNat p.1, UInt32.ofNat p.2⟩) ∧
      ∃ len us, w.net.inner.recvQueue.popUsed H w.used (rxChain t b).token (rxChain t b).inputs
        (rxChain t b).outputs = .ok (q, len, us) := by
  have hsize := h.size
  obtain ⟨b, hb, hlo, hhi⟩ : ∃ b, w.net.rxBuffers t = some b ∧ NET_HDR_SIZE ≤ len ∧ len ≤ b.len :=
    h.written (t, len) (by simp [hd])
  have ht : t < QUEUE_SIZE := h.lt_of_mem_tokens (by simp [hd])
  have hlen32 : len < 2 ^ 32 := lt_of_le_of_lt hhi (h.lens t b hb).2
  have ht16 : t < 2 ^ 16 := by have := hsize.lt; omega
  have hpend : w.net.inner.recvQueue.UsedPending w.used
      (⟨UInt32.ofNat t, UInt32.ofNat len⟩ :: rest.map fun p => ⟨UInt32.ofNat p.1, UInt32.ofNat p.2⟩) := by
    simpa [World.pending, hd] using h.pending
  obtain ⟨us, hpop, hinv⟩ := h.popUsed_slot H ht hb hpend rfl
  have hpeek : w.net.inner.pollReceive w.used = some t := by
    rw [VirtIONetRaw.pollReceive, hpend.peekUsed_cons hsize]
    exact congrArg some (OwningQueue.toNat_toUInt16_ofNat ht16)
  have hrecv := receive_of_slot H w.used hpeek ht hb (h.idx t b hb) hpop
    (by rw [OwningQueue.toNat_ofNat_of_lt hlen32]; exact hlo)
  rw [OwningQueue.toNat_ofNat_of_lt hlen32] at hrecv
  exact ⟨b, _, hb, ht, hrecv, hinv, hpend.consumeUsed hsize rfl, _, us, hpop⟩

/-- A `receive` that returns keeps the invariant: the buffer moves from its slot to the
client, and its completed chain is gone. -/
theorem Inv.receive (H : Hal) (h : w.Inv) {b : RxBuffer} {net : VirtIONet QUEUE_SIZE}
    (hrun : (VirtIONet.receive H w.used).run w.net = .ok b net) :
    ({ w with net := net, done := w.done.tail, client := w.client ++ [b] } : World QUEUE_SIZE).Inv := by
  cases hd : w.done with
  | nil =>
    rw [h.receive_nil H hd] at hrun
    cases hrun
  | cons p rest =>
    obtain ⟨t, len⟩ := p
    obtain ⟨b0, q, hb0, ht, hrecv, hinv, hpend, -⟩ := h.receive_cons H hd
    rw [hrecv] at hrun
    cases hrun
    have hperm := rxChains_perm_update ht hb0
    have hnodup := h.nodup_tokens
    rw [hd] at hnodup
    have htrest : t ∉ rest.map Prod.fst := by
      simp only [List.map_cons, List.nodup_append, List.nodup_cons] at hnodup
      exact hnodup.2.1.1
    refine ⟨h.size, hinv, forall_update_slots h.idx (by simp),
      forall_update_slots h.lens (by simp), ?_, hpend, ?_, ?_, ?_, ?_⟩
    · intro b hb
      rcases List.mem_append.mp hb with hb | hb
      · exact h.clientLens b hb
      · obtain rfl := List.mem_singleton.mp hb
        exact h.lens t b0 hb0
    · -- token `t` leaves both the completed chains and the slots' chains
      have htok := h.tokens
      rw [hd, List.map_cons] at htok
      have hslots : (w.chains.map Chain.token).Perm
          (t :: (rxChains (Function.update w.net.rxBuffers t none) QUEUE_SIZE).map Chain.token) := by
        simpa [World.chains] using (hperm.map Chain.token).symm
      exact (List.perm_middle.symm.trans (htok.trans hslots)).cons_inv
    · intro p hp
      replace hp : p ∈ rest := hp
      obtain ⟨b, hb, hlo, hhi⟩ := h.written p (by simp [hd, hp])
      have hpt : p.1 ≠ t := fun heq => htrest (heq ▸ List.mem_map_of_mem hp)
      exact ⟨b, by simpa [Function.update_of_ne hpt] using hb, hlo, hhi⟩
    · have hlen := hperm.length_eq
      have hcount := h.count
      simp only [List.length_cons] at hlen
      simp only [World.chains, List.length_append, List.length_singleton] at hcount ⊢
      omega
    · -- the buffer's bytes move from the slots to the client
      have hflat := (hperm.flatMap_right fun c => c.outputs.map (·.addr)).symm
      have haddrs := h.addrs
      unfold World.addrs World.chains at haddrs ⊢
      refine (List.Perm.nodup_iff ?_).mp haddrs
      simp only [List.map_append, List.map_singleton, List.append_assoc]
      refine List.Perm.append_left _ (hflat.trans ?_)
      simp [rxChain, RxBuffer.asBytes]

/-- A `recycle_rx_buffer` of a buffer the client holds: the queue hands out the head of
its free list, whose slot is empty, and the buffer goes in under it. -/
theorem Inv.recycle_eq (H : Hal) (h : w.Inv) {b : RxBuffer} (hb : b ∈ w.client) :
    ∃ q log, (recycleRxBuffer H w.used b).run w.net = .ok ()
        ⟨{ w.net.inner with recvQueue := q, transport := log },
          Function.update w.net.rxBuffers w.net.inner.recvQueue.freeHead
            (some { b with idx := UInt16.ofNat w.net.inner.recvQueue.freeHead })⟩ ∧
      w.net.rxBuffers w.net.inner.recvQueue.freeHead = none ∧
      w.net.inner.recvQueue.freeHead < QUEUE_SIZE ∧
      q.Inv (rxChains (Function.update w.net.rxBuffers w.net.inner.recvQueue.freeHead
        (some { b with idx := UInt16.ofNat w.net.inner.recvQueue.freeHead })) QUEUE_SIZE) ∧
      q.lastUsedIdx = w.net.inner.recvQueue.lastUsedIdx ∧
      w.net.inner.recvQueue.add H [] [b.asBytes] = .ok (q, w.net.inner.recvQueue.freeHead) := by
  set q := w.net.inner.recvQueue with hq
  have hroom : q.numUsed < QUEUE_SIZE := by
    have hpos : 0 < w.client.length := List.length_pos_of_mem hb
    have hcount := h.count
    have hnum : q.numUsed = w.chains.length := numUsed_eq_length h.queue
    omega
  have hslot := slot_freeHead_eq_none h.queue hroom
  have hfh := h.queue.freeHead_lt
  obtain ⟨hmin, hmax⟩ := h.clientLens b hb
  have hadd := add_rxBuffer_eq H h.queue hroom hmin hmax
  obtain ⟨log, hrun⟩ := recycleRxBuffer_of_add H w.used hmin hadd hfh hslot
  refine ⟨_, log, hrun, hslot, hfh, ?_, rfl, hadd⟩
  exact (h.queue.add hadd).perm
    (rxChains_update_some_perm (b := { b with idx := UInt16.ofNat q.freeHead }) hfh hslot).symm

/-- A `recycle_rx_buffer` that returns keeps the invariant: the buffer moves from the
client to the slot of the token it got, the head of the free list, which the device now
holds. -/
theorem Inv.recycle (H : Hal) (h : w.Inv) {b : RxBuffer} {net : VirtIONet QUEUE_SIZE}
    (hb : b ∈ w.client) (hrun : (recycleRxBuffer H w.used b).run w.net = .ok () net) :
    ({ w with
        net := net
        held := w.held ++ [w.net.inner.recvQueue.freeHead]
        client := w.client.erase b } : World QUEUE_SIZE).Inv := by
  obtain ⟨q, log, hrec, hslot, hfh, hinv, hlast, -⟩ := h.recycle_eq H hb
  rw [hrec] at hrun
  cases hrun
  set t := w.net.inner.recvQueue.freeHead with ht
  have hperm := rxChains_update_some_perm (b := { b with idx := UInt16.ofNat t }) hfh hslot
  have ht16 : t < 2 ^ 16 := by have := h.size.lt; omega
  refine ⟨h.size, hinv,
    forall_update_slots h.idx (by rintro _ ⟨⟩; exact UInt16.toNat_ofNat_of_lt ht16),
    forall_update_slots h.lens (by rintro _ ⟨⟩; exact h.clientLens b hb),
    ?_, h.pending.congr hlast, ?_, ?_, ?_, ?_⟩
  · exact fun b' hb' => h.clientLens b' (List.mem_of_mem_erase hb')
  · -- the device now holds the new token, the one chain the slots gained
    have hslots : (t :: w.chains.map Chain.token).Perm
        ((rxChains (Function.update w.net.rxBuffers t (some { b with idx := UInt16.ofNat t }))
          QUEUE_SIZE).map Chain.token) := by
      simpa [World.chains] using (hperm.map Chain.token).symm
    show ((w.held ++ [t]) ++ w.done.map Prod.fst).Perm _
    rw [List.append_assoc, List.singleton_append]
    exact List.perm_middle.trans ((h.tokens.cons t).trans hslots)
  · intro p hp
    obtain ⟨b', hb', hlo, hhi⟩ := h.written p hp
    have hpt : p.1 ≠ t := fun heq => by rw [heq, hslot] at hb'; cases hb'
    exact ⟨b', by simpa [Function.update_of_ne hpt] using hb', hlo, hhi⟩
  · have hlen := hperm.length_eq
    have hcount := h.count
    have herase := List.length_erase_of_mem hb
    have hpos : 0 < w.client.length := List.length_pos_of_mem hb
    simp only [List.length_cons] at hlen
    simp only [World.chains] at hcount ⊢
    omega
  · -- the buffer's bytes move from the client to the slots
    have hflat := hperm.flatMap_right fun c => c.outputs.map (·.addr)
    have hclient := (List.perm_cons_erase hb).map (·.buf)
    have haddrs := h.addrs
    unfold World.addrs World.chains at haddrs ⊢
    refine (List.Perm.nodup_iff ?_).mpr haddrs
    refine ((List.Perm.append_left _ hflat).trans ?_)
    simp only [List.flatMap_cons, rxChain, RxBuffer.asBytes, List.map_cons, List.map_nil,
      List.singleton_append]
    exact List.perm_middle.trans (hclient.symm.append_right _)

theorem rxChains_initialSlots (boxes : Nat → Nat) (bufLen n : Nat) :
    rxChains (initialSlots boxes bufLen n) n =
      (List.range n).map fun i => rxChain i (rxBufferAt boxes bufLen i) := by
  unfold rxChains
  rw [← List.filterMap_eq_map]
  apply List.filterMap_congr
  intro i hi
  simp [initialSlots, List.mem_range.mp hi]

theorem Inv.start (hsize : SizeOk QUEUE_SIZE) {boxes : Nat → Nat} {bufLen : Nat}
    (hboxes : ((List.range QUEUE_SIZE).map boxes).Nodup) (hlen : MIN_BUFFER_LEN ≤ bufLen / 8 * 8)
    (hfit : bufLen / 8 * 8 < 2 ^ 32) {net : VirtIONet QUEUE_SIZE}
    (hslots : net.rxBuffers = initialSlots boxes bufLen QUEUE_SIZE)
    (hinv : net.inner.recvQueue.Inv (rxChains net.rxBuffers QUEUE_SIZE))
    (hlast : net.inner.recvQueue.lastUsedIdx = 0) : (World.start net).Inv := by
  have hchains : (World.start net).chains =
      (List.range QUEUE_SIZE).map fun i => rxChain i (rxBufferAt boxes bufLen i) := by
    rw [World.chains, World.start, hslots, rxChains_initialSlots]
  have hslot : ∀ i b, net.rxBuffers i = some b → i < QUEUE_SIZE ∧ b = rxBufferAt boxes bufLen i := by
    intro i b hb
    rw [hslots, initialSlots] at hb
    split at hb
    · exact ⟨‹_›, (Option.some.inj hb).symm⟩
    · cases hb
  refine ⟨hsize, hinv, ?_, ?_, by simp [World.start], ?_, ?_, by simp [World.start], ?_, ?_⟩
  · intro i b hb
    obtain ⟨hi, rfl⟩ := hslot i b hb
    exact UInt16.toNat_ofNat_of_lt (show i < 2 ^ 16 by have := hsize.lt; omega)
  · intro i b hb
    obtain ⟨-, rfl⟩ := hslot i b hb
    exact ⟨hlen, hfit⟩
  · show IndexRing.Holds QUEUE_SIZE UsedRing.zero.ring 0 net.inner.recvQueue.lastUsedIdx []
    rw [hlast]
    exact IndexRing.holds_nil _ _ 0
  · rw [hchains, List.map_map]
    simp [World.start, Function.comp_def]
  · rw [hchains]
    simp [World.start]
  · unfold World.addrs
    rw [hchains]
    simpa [World.start, List.flatMap_map, rxChain, RxBuffer.asBytes, rxBufferAt,
      ← List.map_eq_flatMap] using hboxes

theorem Inv.step {H : Hal} {w' : World QUEUE_SIZE} (h : w.Inv) (hs : Step H w w') : w'.Inv := by
  cases hs with
  | complete ht hb hlo hhi => exact h.complete ht hb hlo hhi
  | receive hrun => exact h.receive H hrun
  | recycle hb hrun => exact h.recycle H hb hrun

/-- Each step is one of the receive queue's own: a completion changes nothing of the driver,
a `receive` pops the chain of the slot it empties, and a `recycle_rx_buffer` adds the chain
of the slot it fills. -/
theorem Inv.reachableWith_step {H : Hal} {w' : World QUEUE_SIZE} (h : w.Inv)
    (hq : w.net.inner.recvQueue.ReachableWith H QUEUE_RECEIVE w.chains) (hs : Step H w w') :
    w'.net.inner.recvQueue.ReachableWith H QUEUE_RECEIVE w'.chains := by
  cases hs with
  | complete => exact hq
  | receive hrun =>
    cases hd : w.done with
    | nil =>
      rw [h.receive_nil H hd] at hrun
      cases hrun
    | cons p rest =>
      obtain ⟨b, q, hb, ht, hrecv, -, -, len, us, hpop⟩ := h.receive_cons H hd
      rw [hrecv] at hrun
      cases hrun
      exact hq.popUsed (mem_rxChains.mpr ⟨p.1, ht, b, hb, rfl⟩) hpop (rxChains_erase_perm ht hb)
  | @recycle b _ hb hrun =>
    obtain ⟨q, log, hrec, hslot, hfh, -, -, hadd⟩ := h.recycle_eq H hb
    rw [hrec] at hrun
    cases hrun
    exact hq.add hadd
      (rxChains_update_some_perm (b := { b with idx := UInt16.ofNat w.net.inner.recvQueue.freeHead }) hfh hslot).symm

/-- Every world a run reaches from `new` keeps the invariant, for buffers long enough
for a receive and at distinct places, and its receive queue got where it is by the
queue's own steps. -/
theorem Inv.reachable (hsize : SizeOk QUEUE_SIZE) {H : Hal} {T : TransportBehaviour}
    {dm : DeviceMemory} {fuel : Nat} {boxes : Nat → Nat} {bufLen : Nat}
    {transport : List TransportCall} (hboxes : ((List.range QUEUE_SIZE).map boxes).Nodup)
    (hlen : MIN_BUFFER_LEN ≤ bufLen / 8 * 8) (hfit : bufLen / 8 * 8 < 2 ^ 32)
    (hr : Reachable H T dm fuel boxes bufLen transport w) :
    w.Inv ∧ w.net.inner.recvQueue.ReachableWith H QUEUE_RECEIVE w.chains := by
  obtain ⟨net, hnew, hrun⟩ := hr
  obtain ⟨inner, hraw⟩ : ∃ inner : VirtIONetRaw QUEUE_SIZE, VirtIONetRaw.new H T fuel transport = .ok inner := by
    unfold new at hnew
    split at hnew
    · cases hnew
    · exact ⟨_, ‹_›⟩
  obtain ⟨net0, hnew0, hslots, hinv, hlast, hreach⟩ := new_eq_ok H dm boxes hsize hlen hfit hraw
  rw [hnew0] at hnew
  cases hnew
  induction hrun with
  | refl => exact ⟨Inv.start hsize hboxes hlen hfit hslots hinv hlast, hreach⟩
  | tail _ hs ih => exact ⟨ih.1.step hs, ih.1.reachableWith_step ih.2 hs⟩

/-- What a world between the driver's calls guarantees. The slots' chains are the
receive queue's outstanding chains, with its descriptor accounting, and each slot's
buffer carries the slot's index; no buffer the client holds is in one of them. `receive`
is not ready while the device has completed nothing, and otherwise hands out the buffer
of the chain the device completed first with a packet of the length it wrote less the
header; `recycle_rx_buffer` of any buffer the client holds returns. -/
structure Good (H : Hal) (w : World QUEUE_SIZE) : Prop where
  accounting : w.net.inner.recvQueue.Accounting w.chains
  outstanding : ∀ i < QUEUE_SIZE, i ∉ w.net.inner.recvQueue.freeList ↔ ∃ b, w.net.rxBuffers i = some b
  over_buffer : ∀ i < QUEUE_SIZE, ∀ b, w.net.rxBuffers i = some b →
    w.net.inner.recvQueue.chainAt H i = encodeChain H [(b.asBytes, .deviceToDriver)]
  slots : ∀ i b, w.net.rxBuffers i = some b → b.idx.toNat = i
  client_not_outstanding : ∀ b ∈ w.client, ∀ c ∈ w.chains, b.asBytes ∉ c.outputs
  receive_idle : w.done = [] →
    (VirtIONet.receive H w.used).run w.net = .error (.err .notReady) w.net
  receive_done : ∀ {t len : Nat} {rest : List (Nat × Nat)}, w.done = (t, len) :: rest →
    ∃ b net, w.net.rxBuffers t = some b ∧
      (VirtIONet.receive H w.used).run w.net = .ok { b with packetLen := len - NET_HDR_SIZE } net
  recycle_ok : ∀ b ∈ w.client, ∃ net, (recycleRxBuffer H w.used b).run w.net = .ok () net

theorem Inv.good (H : Hal) (h : w.Inv) (hq : w.net.inner.recvQueue.ReachableWith H QUEUE_RECEIVE w.chains) :
    w.Good H where
  accounting := h.queue.accounting
  outstanding := fun i hi => h.outstanding_iff hi
  over_buffer := fun i hi b hb =>
    (hq.chainAt h.size (rxChain i b) (mem_rxChains.mpr ⟨i, hi, b, hb, rfl⟩)
      fun hind => absurd hind (by rw [isIndirect_rxChain]; decide)).trans rfl
  slots := h.idx
  client_not_outstanding := by
    intro b hb c hc hmem
    obtain ⟨i, -, b', -, rfl⟩ := mem_rxChains.mp hc
    have hbuf : b.buf = b'.buf := by
      simp only [rxChain, List.mem_singleton] at hmem
      exact congrArg Buf.addr hmem
    exact List.disjoint_of_nodup_append h.addrs (List.mem_map_of_mem hb)
      (List.mem_flatMap.mpr ⟨rxChain i b', hc, by simp [rxChain, RxBuffer.asBytes, hbuf]⟩)
  receive_idle := h.receive_nil H
  receive_done := fun hd => by
    obtain ⟨b, q, hb, -, hrecv, -⟩ := h.receive_cons H hd
    exact ⟨b, _, hb, hrecv⟩
  recycle_ok := fun b hb => by
    obtain ⟨q, log, hrec, -⟩ := h.recycle_eq H hb
    exact ⟨_, hrec⟩

end World

/-- `new` returns for buffers long enough for a receive, the assertion in its loop
holding; and in every run after it, with the device completing the chains it holds in any
order and the client receiving and giving back buffers in any order, the slots of
`rx_buffers` track the receive queue's outstanding chains, `receive` meets no wrong token
and reports the packet's length, and `recycle_rx_buffer` always finds its slot empty. -/
theorem rx_buffers_track_outstanding_chains (hsize : SizeOk QUEUE_SIZE) (H : Hal)
    (T : TransportBehaviour) (dm : DeviceMemory) (fuel : Nat) (boxes : Nat → Nat) (bufLen : Nat)
    (transport : List TransportCall) (hboxes : ((List.range QUEUE_SIZE).map boxes).Nodup)
    (hlen : MIN_BUFFER_LEN ≤ bufLen / 8 * 8) (hfit : bufLen / 8 * 8 < 2 ^ 32)
    (hraw : ∃ inner : VirtIONetRaw QUEUE_SIZE, VirtIONetRaw.new H T fuel transport = .ok inner) :
    (∃ net : VirtIONet QUEUE_SIZE, new H T dm fuel boxes bufLen transport = .ok net) ∧
      ∀ w : World QUEUE_SIZE, Reachable H T dm fuel boxes bufLen transport w → w.Good H := by
  obtain ⟨inner, hraw⟩ := hraw
  obtain ⟨net, hnew, -⟩ := new_eq_ok H dm boxes hsize hlen hfit hraw
  refine ⟨⟨net, hnew⟩, fun w hr => ?_⟩
  obtain ⟨hinv, hq⟩ := World.Inv.reachable hsize hboxes hlen hfit hr
  exact hinv.good H hq

theorem rx_buffers_track_outstanding_chains_four :
    (∃ net : VirtIONet 4,
      new VirtQueue.identityHal (.plain 4) .idle 1 (fun i => 0x10000 * (i + 1)) 2048 [] = .ok net) ∧
      ∀ w : World 4, Reachable VirtQueue.identityHal (.plain 4) .idle 1 (fun i => 0x10000 * (i + 1))
        2048 [] w → w.Good VirtQueue.identityHal := by
  have hok : (VirtIONetRaw.new VirtQueue.identityHal (.plain 4) 1 [] :
      Except Fault (VirtIONetRaw 4)).toOption.isSome := by decide +kernel
  cases hraw : (VirtIONetRaw.new VirtQueue.identityHal (.plain 4) 1 [] : Except Fault (VirtIONetRaw 4)) with
  | error e => simp [hraw, Except.toOption] at hok
  | ok inner =>
    exact rx_buffers_track_outstanding_chains (by decide) _ _ _ _ _ _ _ (by decide) (by decide)
      (by decide) ⟨inner, hraw⟩

end VirtIONet
end VirtioDrivers
