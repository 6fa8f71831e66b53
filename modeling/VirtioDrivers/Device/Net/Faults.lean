import VirtioDrivers.Device.Net.Bookkeeping

/-! What `receive` does with a used element the device writes, whatever it writes. The id
indexes `rx_buffers` before any check, so an id past the table panics. The length is
checked only against the header, after the buffer has left its slot and its chain has
been popped: a length shorter than a header fails with `IoError` and the buffer is gone,
from the slots and from the receive queue; a length past the buffer is handed out as the
packet's length. -/
namespace VirtioDrivers
open Net LinkWalk

namespace VirtIONetRaw
variable {QUEUE_SIZE : Nat} (H : Hal) (used : UsedRing) {inner : VirtIONetRaw QUEUE_SIZE}

theorem receiveComplete_of_popUsed_short {t : Nat} {buf : Buf} {q : VirtQueue QUEUE_SIZE}
    {len : UInt32} {us : List Unshare}
    (hpop : inner.recvQueue.popUsed H used t [] [buf] = .ok (q, len, us))
    (hlen : len.toNat < NET_HDR_SIZE) :
    (receiveComplete H used t buf).run inner = .error (.err .ioError) { inner with recvQueue := q } := by
  simp [receiveComplete, EStateM.run, EStateM.bind_apply, EStateM.onPart, hpop,
    Nat.not_le.mpr hlen]

end VirtIONetRaw

namespace VirtIONet
variable {QUEUE_SIZE : Nat} (H : Hal) (used : UsedRing) {net : VirtIONet QUEUE_SIZE}

theorem receive_panics_of_size_le {t : Nat} (hpeek : net.inner.pollReceive used = some t)
    (ht : QUEUE_SIZE ≤ t) : (receive H used).run net = .error .panic net := by
  simp [receive, EStateM.run, EStateM.bind_apply, hpeek, getIdx, Nat.not_lt.mpr ht]

/-- `receive` of a completed token whose slot holds the buffer added under it, with a
length shorter than a header: the slot is emptied and the chain popped before the length
is checked, and `receive` fails with `IoError`. -/
theorem receive_of_slot_short {t : Nat} {b : RxBuffer} {q : VirtQueue QUEUE_SIZE} {len : UInt32}
    {us : List Unshare} (hpeek : net.inner.pollReceive used = some t) (ht : t < QUEUE_SIZE)
    (hslot : net.rxBuffers t = some b) (hidx : b.idx.toNat = t)
    (hpop : net.inner.recvQueue.popUsed H used t [] [b.asBytes] = .ok (q, len, us))
    (hlen : len.toNat < NET_HDR_SIZE) :
    (receive H used).run net = .error (.err .ioError)
      ⟨{ net.inner with recvQueue := q }, Function.update net.rxBuffers t none⟩ := by
  have hcomplete := VirtIONetRaw.receiveComplete_of_popUsed_short H used hpop hlen
  have hz : onInner (VirtIONetRaw.receiveComplete H used t b.asBytes)
      (⟨net.inner, Function.update net.rxBuffers t none⟩ : VirtIONet QUEUE_SIZE) =
      .error (.err .ioError)
        ⟨{ net.inner with recvQueue := q }, Function.update net.rxBuffers t none⟩ :=
    EStateM.run_zoom_error hcomplete
  simp only [receive, EStateM.run, EStateM.bind_apply, EStateM.getThe_apply, hpeek, getIdx_of_lt ht,
    hslot, EStateM.ofExcept_ok_apply, EStateM.set_apply, hidx, bne_self_eq_false,
    Bool.false_eq_true, if_false]
  rw [hz]

namespace World
variable {w : World QUEUE_SIZE}

theorem Inv.peek_push (h : w.Inv) (hd : w.done = []) (e : UsedElem) :
    w.net.inner.recvQueue.UsedPending (w.used.push QUEUE_SIZE e) [e] ∧
      w.net.inner.pollReceive (w.used.push QUEUE_SIZE e) = some e.id.toUInt16.toNat := by
  have hnil : w.net.inner.recvQueue.UsedPending w.used [] := by
    simpa [World.pending, hd] using h.pending
  have hpush := hnil.push h.size (by have := h.size.pos; simp; omega) e
  exact ⟨hpush, hpush.peekUsed_cons h.size⟩

theorem Inv.receive_panics (h : w.Inv) (hd : w.done = []) {id len : UInt32}
    (hid : QUEUE_SIZE ≤ id.toUInt16.toNat) :
    (VirtIONet.receive H (w.used.push QUEUE_SIZE ⟨id, len⟩)).run w.net = .error .panic w.net :=
  receive_panics_of_size_le H _ (h.peek_push hd ⟨id, len⟩).2 hid

/-- The device returns the chain of a token it holds, with any length: `receive` empties
the slot and pops the chain, which leaves the queue keeping the invariant for the other
slots, and then hands the buffer out when the length covers a header and fails with
`IoError` otherwise. -/
theorem Inv.receive_fresh (h : w.Inv) (hd : w.done = []) {t : Nat} (ht : t ∈ w.held) {len : Nat}
    (hlen : len < 2^32) :
    ∃ (b : RxBuffer) (q : VirtQueue QUEUE_SIZE), w.net.rxBuffers t = some b ∧ t < QUEUE_SIZE ∧
      q.Inv (rxChains (Function.update w.net.rxBuffers t none) QUEUE_SIZE) ∧
      (VirtIONet.receive H (w.used.push QUEUE_SIZE ⟨UInt32.ofNat t, UInt32.ofNat len⟩)).run w.net =
        (if NET_HDR_SIZE ≤ len then EStateM.Result.ok { b with packetLen := len - NET_HDR_SIZE }
          else EStateM.Result.error (.err .ioError))
          ⟨{ w.net.inner with recvQueue := q }, Function.update w.net.rxBuffers t none⟩ := by
  have hsize := h.size
  have htlt : t < QUEUE_SIZE := h.lt_of_mem_tokens (List.mem_append_left _ ht)
  obtain ⟨c, hc, hct⟩ := List.mem_map.mp (h.tokens.mem_iff.mp (List.mem_append_left _ ht))
  obtain ⟨i, -, b, hb, rfl⟩ := mem_rxChains.mp hc
  obtain rfl : t = i := hct.symm
  have ht16 : t < 2 ^ 16 := by have := hsize.lt; omega
  obtain ⟨hpend, hpeek⟩ := h.peek_push hd ⟨UInt32.ofNat t, UInt32.ofNat len⟩
  rw [OwningQueue.toNat_toUInt16_ofNat ht16] at hpeek
  obtain ⟨us, hpop, hinv⟩ := h.popUsed_slot H htlt hb hpend rfl
  refine ⟨b, _, hb, htlt, hinv, ?_⟩
  have hlen' : (UInt32.ofNat len).toNat = len := OwningQueue.toNat_ofNat_of_lt hlen
  split
  · rename_i hhdr
    have hrecv := receive_of_slot H _ hpeek htlt hb (h.idx t b hb) hpop (by rw [hlen']; exact hhdr)
    rwa [hlen'] at hrecv
  · rename_i hhdr
    exact receive_of_slot_short H _ hpeek htlt hb (h.idx t b hb) hpop
      (by rw [hlen']; exact Nat.lt_of_not_le hhdr)

end World

/-- What `receive` does with the element the device writes next, in any world a run
reaches from `new` with nothing completed. An id past the table makes it panic. The
chain of a token the device holds, with a length shorter than a header, makes it fail
after the buffer has left its slot and its chain has been popped: the buffer is in no
slot and in no outstanding chain, and the queue has one descriptor fewer in use. The
same chain with a length past the buffer is handed out, its packet ending past the
buffer. -/
theorem receive_trusts_used_element (hsize : SizeOk QUEUE_SIZE) {T : TransportBehaviour}
    {dm : DeviceMemory} {fuel : Nat} {boxes : Nat → Nat} {bufLen : Nat}
    {transport : List TransportCall} (hboxes : ((List.range QUEUE_SIZE).map boxes).Nodup)
    (hlen : MIN_BUFFER_LEN ≤ bufLen / 8 * 8) (hfit : bufLen / 8 * 8 < 2 ^ 32)
    {w : World QUEUE_SIZE} (hr : Reachable H T dm fuel boxes bufLen transport w)
    (hd : w.done = []) :
    (∀ id len : UInt32, QUEUE_SIZE ≤ id.toUInt16.toNat →
      (receive H (w.used.push QUEUE_SIZE ⟨id, len⟩)).run w.net = .error .panic w.net) ∧
    (∀ t ∈ w.held, ∀ len < NET_HDR_SIZE, ∃ net' : VirtIONet QUEUE_SIZE,
      (receive H (w.used.push QUEUE_SIZE ⟨UInt32.ofNat t, UInt32.ofNat len⟩)).run w.net =
        .error (.err .ioError) net' ∧
      (w.net.rxBuffers t).isSome ∧ net'.rxBuffers t = none ∧
      net'.inner.recvQueue.Inv (rxChains net'.rxBuffers QUEUE_SIZE) ∧
      net'.inner.recvQueue.numUsed + 1 = w.net.inner.recvQueue.numUsed) ∧
    (∀ t ∈ w.held, ∀ b, w.net.rxBuffers t = some b → ∀ len < 2 ^ 32, b.len < len →
      ∃ (b' : RxBuffer) (net' : VirtIONet QUEUE_SIZE),
        (receive H (w.used.push QUEUE_SIZE ⟨UInt32.ofNat t, UInt32.ofNat len⟩)).run w.net =
          .ok b' net' ∧
        b'.len < NET_HDR_SIZE + b'.packetLen) := by
  have h := (World.Inv.reachable hsize hboxes hlen hfit hr).1
  refine ⟨fun id len hid => h.receive_panics H hd hid, ?_, ?_⟩
  · intro t ht len hshort
    obtain ⟨b, q, hb, htlt, hq, hrecv⟩ :=
      h.receive_fresh H hd ht (show len < 2 ^ 32 by unfold NET_HDR_SIZE at hshort; omega)
    rw [if_neg (Nat.not_le.mpr hshort)] at hrecv
    refine ⟨_, hrecv, by simp [hb], Function.update_self .., hq, ?_⟩
    have hperm := rxChains_perm_update htlt hb
    rw [numUsed_eq_length hq, numUsed_eq_length h.queue, ← hperm.length_eq, List.length_cons]
  · intro t ht b hb len hlt hover
    obtain ⟨b₀, q, hb₀, -, -, hrecv⟩ := h.receive_fresh H hd ht hlt
    obtain rfl : b₀ = b := Option.some.inj (hb₀.symm.trans hb)
    have hhdr : NET_HDR_SIZE ≤ len := by
      have := (h.lens t b₀ hb).1
      unfold NET_HDR_SIZE
      unfold MIN_BUFFER_LEN at this
      omega
    rw [if_pos hhdr] at hrecv
    exact ⟨_, _, hrecv, by dsimp only; omega⟩

theorem receive_trusts_used_element_four :
    ∃ w : World 4, Reachable VirtQueue.identityHal (.plain 4) .idle 1 (fun i => 0x10000 * (i + 1))
        2048 [] w ∧
      (receive VirtQueue.identityHal (w.used.push 4 ⟨4, 0⟩)).run w.net = .error .panic w.net ∧
      ∃ net' : VirtIONet 4,
        (receive VirtQueue.identityHal (w.used.push 4 ⟨0, 4⟩)).run w.net = .error (.err .ioError) net' ∧
        (w.net.rxBuffers 0).isSome ∧ net'.rxBuffers 0 = none := by
  have hok : (VirtIONetRaw.new VirtQueue.identityHal (.plain 4) 1 [] :
      Except Fault (VirtIONetRaw 4)).toOption.isSome := by decide +kernel
  cases hraw : (VirtIONetRaw.new VirtQueue.identityHal (.plain 4) 1 [] : Except Fault (VirtIONetRaw 4)) with
  | error e => simp [hraw, Except.toOption] at hok
  | ok inner =>
    obtain ⟨net, hnew, -⟩ := new_eq_ok VirtQueue.identityHal .idle (fun i => 0x10000 * (i + 1))
      (by decide) (show MIN_BUFFER_LEN ≤ 2048 / 8 * 8 by decide) (by decide) hraw
    have hr : Reachable VirtQueue.identityHal (.plain 4) .idle 1 (fun i => 0x10000 * (i + 1)) 2048 []
        (World.start net) := ⟨net, hnew, .refl⟩
    obtain ⟨hpanic, hshort, -⟩ := receive_trusts_used_element VirtQueue.identityHal (by decide)
      (by decide) (by decide) (by decide) hr rfl
    obtain ⟨net', hrecv, hsome, hnone, -⟩ :=
      hshort 0 (show 0 ∈ List.range 4 from List.mem_range.mpr (by decide)) 4 (by decide)
    exact ⟨_, hr, hpanic 4 0 (by decide), net', hrecv, hsome, hnone⟩

end VirtIONet
end VirtioDrivers
