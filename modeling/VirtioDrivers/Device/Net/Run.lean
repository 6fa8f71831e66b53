import VirtioDrivers.Device.Net.Dev
import VirtioDrivers.Queue.Device
import VirtioDrivers.Queue.Progress
import VirtioDrivers.Queue.Capacity
import VirtioDrivers.Queue.DeviceView

/-! Runs of the network driver. The slots of `rx_buffers` that hold a buffer are exactly
the receive queue's outstanding chains, each the one buffer of its slot under the slot's
index as token. Every `recycle_rx_buffer` finds its slot empty because the token the
queue hands out is the head of the free list, which no outstanding chain holds; every
`receive` finds the buffer of the completed token in its slot. -/
namespace VirtioDrivers
open Net LinkWalk

namespace VirtIONet
variable {QUEUE_SIZE : Nat}

/-! ### The chains of the slots -/

/-- The chain of a buffer in slot `i`: its bytes alone, written by the device. -/
def rxChain (i : Nat) (b : RxBuffer) : Chain := ⟨i, [], [b.asBytes]⟩

/-- The chains of the buffers in the first `n` slots. -/
def rxChains (slots : Nat → Option RxBuffer) (n : Nat) : List Chain :=
  (List.range n).filterMap fun i => (slots i).map (rxChain i)

section Chains
variable {slots : Nat → Option RxBuffer} {n t : Nat} {b : RxBuffer}

@[simp] theorem token_rxChain (i : Nat) (b : RxBuffer) : (rxChain i b).token = i := rfl

theorem mem_rxChains {c : Chain} :
    c ∈ rxChains slots n ↔ ∃ i < n, ∃ b, slots i = some b ∧ rxChain i b = c := by
  simp [rxChains, Option.map_eq_some_iff]

theorem nodup_rxChains : (rxChains slots n).Nodup := by
  refine List.Nodup.filterMap ?_ List.nodup_range
  intro i i' c hc hc'
  obtain ⟨b, -, rfl⟩ := Option.map_eq_some_iff.mp hc
  obtain ⟨b', -, hb'⟩ := Option.map_eq_some_iff.mp hc'
  exact (congrArg Chain.token hb').symm

theorem nodup_map_token_rxChains : ((rxChains slots n).map Chain.token).Nodup := by
  rw [rxChains, List.map_filterMap]
  refine List.Nodup.filterMap ?_ List.nodup_range
  intro i i' t ht ht'
  simp only [Option.mem_def, Option.map_map, Option.map_eq_some_iff, Function.comp_apply,
    token_rxChain] at ht ht'
  obtain ⟨-, -, rfl⟩ := ht
  obtain ⟨-, -, rfl⟩ := ht'
  rfl

theorem rxChains_perm_update (ht : t < n) (hs : slots t = some b) :
    (rxChain t b :: rxChains (Function.update slots t none) n).Perm (rxChains slots n) := by
  have hnot : rxChain t b ∉ rxChains (Function.update slots t none) n := by
    rw [mem_rxChains]
    rintro ⟨i, -, b', hb', heq⟩
    have hi : i = t := congrArg Chain.token heq
    subst hi
    simp at hb'
  refine (List.perm_ext_iff_of_nodup (List.nodup_cons.mpr ⟨hnot, nodup_rxChains⟩)
    nodup_rxChains).mpr fun c => ?_
  simp only [List.mem_cons, mem_rxChains]
  constructor
  · rintro (rfl | ⟨i, hi, b', hb', rfl⟩)
    · exact ⟨t, ht, b, hs, rfl⟩
    · by_cases hit : i = t
      · subst hit
        simp at hb'
      · exact ⟨i, hi, b', by simpa [Function.update_of_ne hit] using hb', rfl⟩
  · rintro ⟨i, hi, b', hb', rfl⟩
    by_cases hit : i = t
    · subst hit
      rw [hs] at hb'
      cases hb'
      exact .inl rfl
    · exact .inr ⟨i, hi, b', by simpa [Function.update_of_ne hit] using hb', rfl⟩

theorem rxChains_erase_perm (ht : t < n) (hs : slots t = some b) :
    ((rxChains slots n).erase (rxChain t b)).Perm (rxChains (Function.update slots t none) n) :=
  ((List.perm_cons_erase (mem_rxChains.mpr ⟨t, ht, b, hs, rfl⟩)).symm.trans
    (rxChains_perm_update ht hs).symm).cons_inv

theorem rxChains_update_some_perm (ht : t < n) (hs : slots t = none) :
    (rxChains (Function.update slots t (some b)) n).Perm (rxChain t b :: rxChains slots n) := by
  have h := @rxChains_perm_update (Function.update slots t (some b)) n t b ht (by simp)
  have hself : Function.update slots t none = slots := by
    rw [Function.update_eq_self_iff, hs]
  rw [Function.update_idem, hself] at h
  exact h.symm

theorem footprint_rxChain (q : VirtQueue QUEUE_SIZE) (i : Nat) (b : RxBuffer) :
    q.footprint (rxChain i b) = [i] := by
  simp [VirtQueue.footprint, VirtQueue.isIndirect, Chain.count, rxChain, walk_succ]

theorem isIndirect_rxChain (q : VirtQueue QUEUE_SIZE) (i : Nat) (b : RxBuffer) :
    q.isIndirect (rxChain i b) = false := by
  simp [VirtQueue.isIndirect, Chain.count, rxChain]

theorem numUsed_eq_length {q : VirtQueue QUEUE_SIZE} (h : q.Inv (rxChains slots n)) :
    q.numUsed = (rxChains slots n).length := by
  rw [h.numUsed_eq, List.length_flatMap]
  have hone : ∀ c ∈ rxChains slots n, (q.footprint c).length = 1 := by
    intro c hc
    obtain ⟨i, -, b, -, rfl⟩ := mem_rxChains.mp hc
    simp [footprint_rxChain]
  rw [List.map_congr_left hone]
  simp

theorem slot_freeHead_eq_none {q : VirtQueue QUEUE_SIZE} (h : q.Inv (rxChains slots QUEUE_SIZE))
    (hroom : q.numUsed < QUEUE_SIZE) : slots q.freeHead = none := by
  have hmem : q.freeHead ∈ q.freeList := by
    obtain ⟨k, hk⟩ : ∃ k, QUEUE_SIZE - q.numUsed = k + 1 := ⟨QUEUE_SIZE - q.numUsed - 1, by omega⟩
    rw [VirtQueue.freeList, hk, walk_succ]
    exact List.mem_cons_self
  cases hs : slots q.freeHead with
  | none => rfl
  | some b =>
    have hc : rxChain q.freeHead b ∈ rxChains slots QUEUE_SIZE :=
      mem_rxChains.mpr ⟨q.freeHead, h.freeHead_lt, b, hs, rfl⟩
    have hnot := h.partitions.not_mem_fp_of_mem_free hmem hc
    simp [footprint_rxChain] at hnot

theorem add_rxBuffer_eq (H : Hal) {q : VirtQueue QUEUE_SIZE} {cs : List Chain}
    (h : q.Inv cs) (hroom : q.numUsed < QUEUE_SIZE) (hmin : MIN_BUFFER_LEN ≤ b.len)
    (hmax : b.len < 2 ^ 32) :
    q.add H [] [b.asBytes] =
      .ok ((q.afterAddDirect H [] [b.asBytes]).publish q.freeHead, q.freeHead) :=
  VirtQueue.add_eq_of_direct H (by simp [inputOutputIter]) (by simp) (by simp; omega)
    (by simp [inputOutputIter, Buf.Fits, RxBuffer.asBytes, MIN_BUFFER_LEN] at hmin ⊢; omega)
    (h.walk_free_lt _)

end Chains

end VirtIONet

namespace VirtIONetRaw
variable {QUEUE_SIZE : Nat} (H : Hal) (used : UsedRing) {inner : VirtIONetRaw QUEUE_SIZE}

/-- A `receive_begin` whose `add` returns: the queue is the one `add` returned, and the
transport may have been notified. -/
theorem receiveBegin_of_add {buf : Buf} {q : VirtQueue QUEUE_SIZE} {t : Nat}
    (hlen : MIN_BUFFER_LEN ≤ buf.len) (hadd : inner.recvQueue.add H [] [buf] = .ok (q, t)) :
    ∃ log, (receiveBegin H used buf).run inner =
      .ok t { inner with recvQueue := q, transport := log } := by
  have hcheck : (ofResult (checkRxBufLen buf) : EStateM Fault (VirtIONetRaw QUEUE_SIZE) Unit).run inner =
      .ok () inner := by
    simp [checkRxBufLen, checkBufLen, Nat.not_lt.mpr hlen]
  have hpart : (EStateM.onPart (·.recvQueue) (fun n q => { n with recvQueue := q })
      (fun q => q.add H [] [buf])).run inner = .ok t { inner with recvQueue := q } :=
    EStateM.run_onPart_ok hadd
  unfold receiveBegin
  rw [EStateM.run_bind_of_ok hcheck, EStateM.run_bind_of_ok hpart]
  simp only [EStateM.run, EStateM.bind_apply, EStateM.getThe_apply]
  -- the device may or may not ask to be notified of the new buffer
  by_cases hn : q.shouldNotify used = true
  · refine ⟨inner.transport ++ [.notify QUEUE_RECEIVE], ?_⟩
    rw [if_pos hn]
    rfl
  · refine ⟨inner.transport, ?_⟩
    rw [if_neg hn]
    rfl

theorem receiveComplete_of_popUsed {t : Nat} {buf : Buf} {q : VirtQueue QUEUE_SIZE} {len : UInt32}
    {us : List Unshare} (hpop : inner.recvQueue.popUsed H used t [] [buf] = .ok (q, len, us))
    (hlen : NET_HDR_SIZE ≤ len.toNat) :
    (receiveComplete H used t buf).run inner =
      .ok (NET_HDR_SIZE, len.toNat - NET_HDR_SIZE) { inner with recvQueue := q } := by
  simp [receiveComplete, EStateM.run, EStateM.bind_apply, EStateM.onPart, hpop, hlen]

theorem new_recvQueue {T : TransportBehaviour} {fuel : Nat} {transport : List TransportCall}
    (h : new H T fuel transport = .ok inner) :
    ∃ indirect eventIdx, inner.recvQueue = VirtQueue.init QUEUE_RECEIVE indirect eventIdx := by
  unfold new at h
  split at h
  · cases h
  · rename_i mac recvQueue sendQueue log hinit
    cases h
    unfold initDevice at hinit
    obtain ⟨f, _, -, hinit⟩ := EStateM.run_bind_eq_ok.mp hinit
    obtain ⟨_, _, -, hinit⟩ := EStateM.run_bind_eq_ok.mp hinit
    obtain ⟨_, _, -, hinit⟩ := EStateM.run_bind_eq_ok.mp hinit
    obtain ⟨_, _, -, hinit⟩ := EStateM.run_bind_eq_ok.mp hinit
    obtain ⟨_, _, -, hinit⟩ := EStateM.run_bind_eq_ok.mp hinit
    obtain ⟨rq, _, hrq, hinit⟩ := EStateM.run_bind_eq_ok.mp hinit
    obtain ⟨_, _, -, hinit⟩ := EStateM.run_bind_eq_ok.mp hinit
    obtain ⟨hres, -⟩ := EStateM.run_pure_eq_ok.mp hinit
    cases hres
    exact ⟨_, _, (VirtQueue.new_ok_spec hrq).1⟩

end VirtIONetRaw

namespace VirtIONet
variable {QUEUE_SIZE : Nat} (H : Hal) (used : UsedRing) {net : VirtIONet QUEUE_SIZE}

theorem receive_of_none (hpeek : net.inner.pollReceive used = none) :
    (receive H used).run net = .error (.err .notReady) net := by
  simp only [receive, EStateM.run, EStateM.bind_apply, EStateM.getThe_apply, hpeek]
  rfl

/-- `receive` of a completed token whose slot holds the buffer added under it: the slot
is emptied, the chain popped, and the buffer handed out with the packet's length. -/
theorem receive_of_slot {t : Nat} {b : RxBuffer} {q : VirtQueue QUEUE_SIZE} {len : UInt32}
    {us : List Unshare} (hpeek : net.inner.pollReceive used = some t) (ht : t < QUEUE_SIZE)
    (hslot : net.rxBuffers t = some b) (hidx : b.idx.toNat = t)
    (hpop : net.inner.recvQueue.popUsed H used t [] [b.asBytes] = .ok (q, len, us))
    (hlen : NET_HDR_SIZE ≤ len.toNat) :
    (receive H used).run net = .ok { b with packetLen := len.toNat - NET_HDR_SIZE }
      ⟨{ net.inner with recvQueue := q }, Function.update net.rxBuffers t none⟩ := by
  have hcomplete := VirtIONetRaw.receiveComplete_of_popUsed H used hpop hlen
  simp only [receive, EStateM.run, EStateM.bind_apply, EStateM.getThe_apply, hpeek, getIdx_of_lt ht,
    hslot, EStateM.ofExcept_ok_apply, EStateM.set_apply, hidx, bne_self_eq_false,
    Bool.false_eq_true, if_false, EStateM.bind_apply]
  have hz : onInner (VirtIONetRaw.receiveComplete H used t b.asBytes)
      (⟨net.inner, Function.update net.rxBuffers t none⟩ : VirtIONet QUEUE_SIZE) =
      .ok (NET_HDR_SIZE, len.toNat - NET_HDR_SIZE)
        ⟨{ net.inner with recvQueue := q }, Function.update net.rxBuffers t none⟩ :=
    EStateM.run_zoom_ok hcomplete
  rw [hz]
  rfl

theorem recycleRxBuffer_of_add {b : RxBuffer} {q : VirtQueue QUEUE_SIZE} {t : Nat}
    (hlen : MIN_BUFFER_LEN ≤ b.len) (hadd : net.inner.recvQueue.add H [] [b.asBytes] = .ok (q, t))
    (ht : t < QUEUE_SIZE) (hslot : net.rxBuffers t = none) :
    ∃ log, (recycleRxBuffer H used b).run net = .ok ()
      ⟨{ net.inner with recvQueue := q, transport := log },
        Function.update net.rxBuffers t (some { b with idx := UInt16.ofNat t })⟩ := by
  obtain ⟨log, hbegin⟩ := VirtIONetRaw.receiveBegin_of_add H used hlen hadd
  refine ⟨log, ?_⟩
  have hz : onInner (VirtIONetRaw.receiveBegin H used b.asBytes) net =
      .ok t ⟨{ net.inner with recvQueue := q, transport := log }, net.rxBuffers⟩ :=
    EStateM.run_zoom_ok hbegin
  simp only [recycleRxBuffer, EStateM.run, EStateM.bind_apply]
  rw [hz]
  simp only [EStateM.getThe_apply, getIdx_of_lt ht, hslot, EStateM.ofExcept_ok_apply,
    Option.isSome_none, Bool.false_eq_true, if_false]
  rfl

/-! ### `new` -/

/-- The buffer `new` makes for slot `i`. -/
def rxBufferAt (boxes : Nat → Nat) (bufLen i : Nat) : RxBuffer :=
  ⟨boxes i, bufLen / 8 * 8, 0, UInt16.ofNat i⟩

/-- The slots after `new` has filled the first `k`. -/
def initialSlots (boxes : Nat → Nat) (bufLen k : Nat) : Nat → Option RxBuffer :=
  fun i => if i < k then some (rxBufferAt boxes bufLen i) else none

theorem initialSlots_succ (boxes : Nat → Nat) (bufLen k : Nat) :
    Function.update (initialSlots boxes bufLen k) k (some (rxBufferAt boxes bufLen k)) =
      initialSlots boxes bufLen (k + 1) := by
  funext i
  by_cases hik : i = k
  · subst hik
    simp [initialSlots]
  · have hlt : i < k ↔ i < k + 1 := by omega
    rw [Function.update_of_ne hik]
    simp only [initialSlots, hlt]

/-- One turn of the loop of `new`: the buffer made for slot `i` goes in the queue under
token `i`, and into slot `i`. -/
theorem fillRxBuffers_cons {boxes : Nat → Nat} {bufLen i : Nat} {is : List Nat}
    {inner : VirtIONetRaw QUEUE_SIZE} (hi : i < 2 ^ 16)
    (hbegin : (VirtIONetRaw.receiveBegin H used (rxBufferAt boxes bufLen i).asBytes).run net.inner =
      .ok i inner) :
    (fillRxBuffers H used boxes bufLen (i :: is)).run net =
      (fillRxBuffers H used boxes bufLen is).run
        ⟨inner, Function.update net.rxBuffers i (some (rxBufferAt boxes bufLen i))⟩ := by
  have hnew : RxBuffer.new (boxes i) i bufLen = .ok (rxBufferAt boxes bufLen i) := by
    unfold RxBuffer.new
    rw [if_pos hi]
    rfl
  have hz : (onInner (VirtIONetRaw.receiveBegin H used (rxBufferAt boxes bufLen i).asBytes)).run net =
      .ok i ⟨inner, net.rxBuffers⟩ := EStateM.run_zoom_ok hbegin
  simp only [fillRxBuffers]
  rw [EStateM.run_bind_of_ok (by rw [hnew]; rfl), EStateM.run_bind_of_ok hz]
  simp only [EStateM.run, EStateM.bind_apply, beq_self_eq_true, assert_true,
    EStateM.ofExcept_ok_apply, EStateM.modifyThe_apply]

/-- The loop of `new` from slot `k` on, with the first `k` slots filled and the free list
the descriptors `k, …, QUEUE_SIZE - 1`: each buffer gets the head of the free list, which
is its own index, so no assertion fails, and at the end every slot holds its buffer. -/
theorem fillRxBuffers_range' {boxes : Nat → Nat} {bufLen : Nat} (hsize : SizeOk QUEUE_SIZE)
    (hlen : MIN_BUFFER_LEN ≤ bufLen / 8 * 8) (hfit : bufLen / 8 * 8 < 2 ^ 32) :
    ∀ (n k : Nat) (net : VirtIONet QUEUE_SIZE), k + n = QUEUE_SIZE →
      net.rxBuffers = initialSlots boxes bufLen k →
      net.inner.recvQueue.Inv (rxChains net.rxBuffers QUEUE_SIZE) →
      net.inner.recvQueue.ReachableWith H QUEUE_RECEIVE (rxChains net.rxBuffers QUEUE_SIZE) →
      net.inner.recvQueue.freeList = List.range' k n → net.inner.recvQueue.numUsed = k →
      ∃ net', (fillRxBuffers H used boxes bufLen (List.range' k n)).run net = .ok () net' ∧
        net'.rxBuffers = initialSlots boxes bufLen QUEUE_SIZE ∧
        net'.inner.recvQueue.Inv (rxChains net'.rxBuffers QUEUE_SIZE) ∧
        net'.inner.recvQueue.lastUsedIdx = net.inner.recvQueue.lastUsedIdx ∧
        net'.inner.recvQueue.ReachableWith H QUEUE_RECEIVE (rxChains net'.rxBuffers QUEUE_SIZE) := by
  intro n
  induction n with
  | zero =>
    intro k net hsum hslots hinv hreach _ _
    obtain rfl : k = QUEUE_SIZE := by omega
    exact ⟨net, rfl, hslots, hinv, rfl, hreach⟩
  | succ n ih =>
    intro k net hsum hslots hinv hreach hfree hnum
    set q := net.inner.recvQueue with hq
    set buf := rxBufferAt boxes bufLen k
    have hk : k < QUEUE_SIZE := by omega
    have hleft : QUEUE_SIZE - q.numUsed = n + 1 := by omega
    have hfh : q.freeHead = k := VirtQueue.freeHead_of_freeList_eq_range' hleft hfree
    have hadd : q.add H [] [buf.asBytes] =
        .ok ((q.afterAddDirect H [] [buf.asBytes]).publish k, k) := by
      rw [← hfh]
      exact add_rxBuffer_eq H hinv (by omega) hlen hfit
    set q1 := (q.afterAddDirect H [] [buf.asBytes]).publish k with hq1
    obtain ⟨log, hbegin⟩ := VirtIONetRaw.receiveBegin_of_add H used hlen hadd
    have hslot : net.rxBuffers k = none := by simp [hslots, initialSlots]
    have hinv1 : q1.Inv (rxChains (Function.update net.rxBuffers k (some buf)) QUEUE_SIZE) :=
      (hinv.add hadd).perm (rxChains_update_some_perm hk hslot).symm
    have hfree1 : q1.freeList = List.range' (k + 1) n :=
      VirtQueue.freeList_afterAddDirect_of_range' H (by simp) hleft hfree
    obtain ⟨net', hrun, hslots', hinv', hlast, hreach'⟩ := ih (k + 1)
      ⟨{ net.inner with recvQueue := q1, transport := log },
        Function.update net.rxBuffers k (some buf)⟩ (by omega)
      (by rw [hslots]; exact initialSlots_succ boxes bufLen k) hinv1
      (hreach.add hadd (rxChains_update_some_perm hk hslot).symm) hfree1 (by simp [hq1, hnum])
    refine ⟨net', ?_, hslots', hinv', by rw [hlast]; rfl, hreach'⟩
    rw [List.range'_succ, fillRxBuffers_cons H used (by have := hsize.lt; omega) hbegin]
    exact hrun

/-- `new` on a transport the raw driver accepts, with buffers long enough for a receive
and short enough for a descriptor: every buffer goes in under its own index, so the
assertion holds and `new` returns, with every slot holding its buffer. -/
theorem new_eq_ok {T : TransportBehaviour} (dm : DeviceMemory) {fuel : Nat} (boxes : Nat → Nat)
    {bufLen : Nat} {transport : List TransportCall} {inner : VirtIONetRaw QUEUE_SIZE}
    (hsize : SizeOk QUEUE_SIZE) (hlen : MIN_BUFFER_LEN ≤ bufLen / 8 * 8)
    (hfit : bufLen / 8 * 8 < 2 ^ 32) (hraw : VirtIONetRaw.new H T fuel transport = .ok inner) :
    ∃ net : VirtIONet QUEUE_SIZE, new H T dm fuel boxes bufLen transport = .ok net ∧
      net.rxBuffers = initialSlots boxes bufLen QUEUE_SIZE ∧
      net.inner.recvQueue.Inv (rxChains net.rxBuffers QUEUE_SIZE) ∧
      net.inner.recvQueue.lastUsedIdx = 0 ∧
      net.inner.recvQueue.ReachableWith H QUEUE_RECEIVE (rxChains net.rxBuffers QUEUE_SIZE) := by
  obtain ⟨indirect, eventIdx, hq⟩ := VirtIONetRaw.new_recvQueue H hraw
  have hempty : (fun _ => none : Nat → Option RxBuffer) = initialSlots boxes bufLen 0 := by
    funext i
    simp [initialSlots]
  have hinit : inner.recvQueue.Inv (rxChains (fun _ => none) QUEUE_SIZE) := by
    rw [hq]
    simpa [rxChains] using VirtQueue.Inv.init hsize.pos QUEUE_RECEIVE indirect eventIdx
  have hreach : inner.recvQueue.ReachableWith H QUEUE_RECEIVE (rxChains (fun _ => none) QUEUE_SIZE) := by
    rw [hq]
    have h0 : (VirtQueue.init QUEUE_RECEIVE indirect eventIdx : VirtQueue QUEUE_SIZE).ReachableWith H
        QUEUE_RECEIVE [] := VirtQueue.ReachableWith.init indirect eventIdx
    simpa [rxChains] using h0
  obtain ⟨net, hrun, hslots, hinv, hlast, hreach'⟩ := fillRxBuffers_range' H (dm.used QUEUE_RECEIVE) hsize
    hlen hfit QUEUE_SIZE 0 ⟨inner, fun _ => none⟩ (by omega) hempty hinit hreach
    (by rw [hq]; exact VirtQueue.init_freeList QUEUE_RECEIVE indirect eventIdx) (by rw [hq]; rfl)
  refine ⟨net, ?_, hslots, hinv, by rw [hlast, hq]; rfl, hreach'⟩
  simp only [new, hraw, List.range_eq_range', hrun]

end VirtIONet
end VirtioDrivers
