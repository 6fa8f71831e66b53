import VirtioDrivers.Device.Socket.Vsock
import VirtioDrivers.Queue.WaitPop

/-! Send-side credit of a connection. The peer's free space is `peer_buf_alloc` less the
bytes in flight, `tx_cnt - peer_fwd_cnt`. A peer that shrinks its allocation below the
bytes in flight makes `peer_free` subtract past zero, which panics in a debug build and
in a release build wraps round to a credit of nearly `2 ^ 32` bytes. The bytes are
counted as sent before the packet goes to the device, and stay counted when its round
trip fails. -/
namespace VirtioDrivers
open Vsock

theorem Vsock.sizeOk_QUEUE_SIZE : SizeOk QUEUE_SIZE := ⟨⟨3, rfl⟩, by decide⟩

namespace ConnectionInfo
variable (o : Overflow) (info : ConnectionInfo)

/-- The bytes we have sent that the peer has not yet forwarded. -/
def inFlight : Nat := info.txCnt.toNat - info.peerFwdCnt.toNat

theorem peerFree_panics_of_shrunk (hfwd : info.peerFwdCnt.toNat ≤ info.txCnt.toNat)
    (hshrunk : info.peerBufAlloc.toNat < info.inFlight) :
    info.peerFree .panics = .error .panic := by
  have hsub : (info.txCnt - info.peerFwdCnt).toNat = info.inFlight := UInt32.toNat_sub_of_le _ _ hfwd
  have hshrunk' : info.peerBufAlloc.toNat < (info.txCnt - info.peerFwdCnt).toNat := by
    rw [hsub]
    exact hshrunk
  simp [peerFree, Overflow.sub_of_le _ hfwd, Overflow.sub_panics_of_lt hshrunk', arith]

/-- A release build's free space wraps round when the peer's allocation is below the
bytes in flight. -/
theorem peerFree_wraps_of_shrunk (hfwd : info.peerFwdCnt.toNat ≤ info.txCnt.toNat)
    (hshrunk : info.peerBufAlloc.toNat < info.inFlight) :
    ∃ p, info.peerFree .wraps = .ok p ∧
      p.toNat = 2 ^ 32 + info.peerBufAlloc.toNat - info.inFlight := by
  have hsub : (info.txCnt - info.peerFwdCnt).toNat = info.inFlight := UInt32.toNat_sub_of_le _ _ hfwd
  have hshrunk' : info.peerBufAlloc.toNat < (info.txCnt - info.peerFwdCnt).toNat := by
    rw [hsub]
    exact hshrunk
  obtain ⟨hwrap, hval⟩ := Overflow.toNat_wraps_sub_of_lt hshrunk'
  refine ⟨info.peerBufAlloc - (info.txCnt - info.peerFwdCnt), ?_, ?_⟩
  · simp [peerFree, Overflow.sub_of_le _ hfwd, hwrap, arith]
  · rw [hval, hsub]

end ConnectionInfo

namespace VirtIOSocket
variable {RX_BUFFER_SIZE : Nat} (H : Hal) (dm : DeviceMemory) (views : List UsedRing) (stack : Nat)
  (o : Overflow) {checkViews : List UsedRing} {s : VirtIOSocket RX_BUFFER_SIZE} {info : ConnectionInfo}

/-! ### The credit check -/

theorem checkPeerBufferIsSufficient_of_le {p : UInt32} {len : Nat} (hfree : info.peerFree o = .ok p)
    (hlen : len ≤ p.toNat) :
    (checkPeerBufferIsSufficient H dm views stack o len).run (s, info) = .ok () (s, info) := by
  simp only [checkPeerBufferIsSufficient, EStateM.run, EStateM.bind_apply, EStateM.getThe_apply,
    hfree, EStateM.ofExcept_ok_apply]
  rw [if_pos hlen]
  rfl

theorem checkPeerBufferIsSufficient_of_error {f : Fault} {len : Nat} (hfree : info.peerFree o = .error f) :
    (checkPeerBufferIsSufficient H dm views stack o len).run (s, info) = .error f (s, info) := by
  simp only [checkPeerBufferIsSufficient, EStateM.run, EStateM.bind_apply, EStateM.getThe_apply,
    hfree, EStateM.ofExcept_error_apply]

/-! ### `send` -/

/-- After a check that passes, `send` counts the bytes as sent and hands the packet to
the transmit queue. -/
theorem send_of_check {buffer : Buf} {t : UInt32}
    (hcheck : (checkPeerBufferIsSufficient H dm checkViews stack o buffer.len).run (s, info) =
      .ok () (s, info))
    (hadd : o.add info.txCnt (UInt32.ofNat buffer.len) = some t) :
    (send H dm views stack o checkViews buffer).run (s, info) =
      (onDriver (sendPacketToTxQueue H dm views stack
        { info.newHeader s.guestCid with op := VirtioVsockOp.rw.toU16, len := UInt32.ofNat buffer.len }
        buffer)).run (s, { info with txCnt := t }) := by
  unfold send
  rw [EStateM.run_bind_of_ok hcheck]
  simp only [EStateM.run, EStateM.bind_apply, EStateM.getThe_apply, hadd, arith,
    Except.pure_eq_ok, EStateM.ofExcept_ok_apply, EStateM.modifyThe_apply]

theorem send_of_check_error {buffer : Buf} {f : Fault} {r : VirtIOSocket RX_BUFFER_SIZE × ConnectionInfo}
    (hcheck : (checkPeerBufferIsSufficient H dm checkViews stack o buffer.len).run (s, info) =
      .error f r) :
    (send H dm views stack o checkViews buffer).run (s, info) = .error f r := by
  unfold send
  exact EStateM.run_bind_of_error hcheck

/-- A peer that shrinks its allocation below the bytes in flight: a debug build's `send`
panics in `peer_free`, and a release build's `send` passes the check for any buffer up to
nearly `2 ^ 32` bytes, which the peer has no room for, and sends it. -/
theorem send_after_shrunk_credit (s : VirtIOSocket RX_BUFFER_SIZE) (info : ConnectionInfo)
    (buffer : Buf) (hfwd : info.peerFwdCnt.toNat ≤ info.txCnt.toNat)
    (hshrunk : info.peerBufAlloc.toNat < info.inFlight)
    (hlen : buffer.len ≤ 2 ^ 32 + info.peerBufAlloc.toNat - info.inFlight) :
    (send H dm views stack .panics checkViews buffer).run (s, info) = .error .panic (s, info) ∧
      (send H dm views stack .wraps checkViews buffer).run (s, info) =
        (onDriver (sendPacketToTxQueue H dm views stack
          { info.newHeader s.guestCid with op := VirtioVsockOp.rw.toU16, len := UInt32.ofNat buffer.len }
          buffer)).run (s, { info with txCnt := info.txCnt + UInt32.ofNat buffer.len }) := by
  constructor
  · exact send_of_check_error H dm views stack .panics
      (checkPeerBufferIsSufficient_of_error H dm checkViews stack .panics
        (info.peerFree_panics_of_shrunk hfwd hshrunk))
  · obtain ⟨p, hfree, hp⟩ := info.peerFree_wraps_of_shrunk hfwd hshrunk
    have hadd : Overflow.wraps.add info.txCnt (UInt32.ofNat buffer.len) =
        some (info.txCnt + UInt32.ofNat buffer.len) := by
      unfold Overflow.add
      split <;> rfl
    exact send_of_check H dm views stack .wraps
      (checkPeerBufferIsSufficient_of_le H dm checkViews stack .wraps hfree (hp ▸ hlen)) hadd

/-- The peer allowed 100 bytes, we sent them, and it then cut its allocation to 50 with
nothing forwarded: a send of 1000 more bytes. -/
theorem send_after_shrunk_credit_cut :
    ∃ s, (VirtIOSocket.new VirtQueue.identityHal (.plain 8) .idle 1 (fun i => 0x10000 + 512 * i) [] :
        Except Fault (VirtIOSocket 512)) = .ok s ∧
      (send VirtQueue.identityHal .idle [] 0 .panics [] ⟨0x8000, 1000⟩).run
          (s, { ConnectionInfo.new ⟨2, 1234⟩ 4321 with peerBufAlloc := 50, txCnt := 100 }) =
        .error .panic (s, { ConnectionInfo.new ⟨2, 1234⟩ 4321 with peerBufAlloc := 50, txCnt := 100 }) ∧
      (send VirtQueue.identityHal .idle [] 0 .wraps [] ⟨0x8000, 1000⟩).run
          (s, { ConnectionInfo.new ⟨2, 1234⟩ 4321 with peerBufAlloc := 50, txCnt := 100 }) =
        (onDriver (sendPacketToTxQueue VirtQueue.identityHal .idle [] 0
          { ConnectionInfo.newHeader { ConnectionInfo.new ⟨2, 1234⟩ 4321 with
              peerBufAlloc := 50, txCnt := 100 } s.guestCid with
            op := VirtioVsockOp.rw.toU16, len := UInt32.ofNat 1000 } ⟨0x8000, 1000⟩)).run
          (s, { ConnectionInfo.new ⟨2, 1234⟩ 4321 with peerBufAlloc := 50, txCnt := 100 + UInt32.ofNat 1000 }) := by
  have hok : (VirtIOSocket.new VirtQueue.identityHal (.plain 8) .idle 1 (fun i => 0x10000 + 512 * i) [] :
      Except Fault (VirtIOSocket 512)).toOption.isSome := by decide +kernel
  cases hnew : (VirtIOSocket.new VirtQueue.identityHal (.plain 8) .idle 1 (fun i => 0x10000 + 512 * i) [] :
      Except Fault (VirtIOSocket 512)) with
  | error e => simp [hnew, Except.toOption] at hok
  | ok s => exact ⟨s, rfl, send_after_shrunk_credit VirtQueue.identityHal .idle [] 0 s
      { ConnectionInfo.new ⟨2, 1234⟩ 4321 with peerBufAlloc := 50, txCnt := 100 } ⟨0x8000, 1000⟩
      (by decide) (by decide) (by decide)⟩

/-! ### A send whose packet the device does not return -/

theorem run_onTx_error {α : Type} {m : EStateM Fault (VirtQueue QUEUE_SIZE × List TransportCall) α}
    {e : Fault} {q : VirtQueue QUEUE_SIZE} {log : List TransportCall}
    (h : m.run (s.tx, s.transport) = .error e (q, log)) :
    (onTx m).run s = .error e { s with tx := q, transport := log } := by
  unfold onTx
  exact @EStateM.run_zoom_error _ _ _ _ _ _ s m (q, log) e h

theorem sendPacketToTxQueue_of_error {header : VirtioVsockHdr} {buffer : Buf} {e : Fault}
    {q : VirtQueue QUEUE_SIZE} {log : List TransportCall} (hne : buffer.len ≠ 0)
    (h : (VirtQueue.addNotifyWaitPop H [⟨stack, header.asBytes.length⟩, buffer] []
      (dm.used TX_QUEUE_IDX) views).run (s.tx, s.transport) = .error e (q, log)) :
    (sendPacketToTxQueue H dm views stack header buffer).run s =
      .error e { s with tx := q, transport := log } := by
  unfold sendPacketToTxQueue
  rw [if_neg hne]
  exact EStateM.run_bind_of_error (run_onTx_error h)

/-- A packet with a body, on a transmit queue with nothing outstanding, whose slot the
device fills with the id of another chain before the spin first looks: the send of it
fails with `WrongToken`. -/
theorem sendPacketToTxQueue_of_ne_token {idx : UInt16} {indirect eventIdx : Bool}
    (hr : VirtQueue.Reachable H idx indirect eventIdx (s.tx, [])) (header : VirtioVsockHdr)
    {buffer : Buf} (hbuf : buffer.Fits) {u : UsedRing} {e : UsedElem} (hu : s.tx.UsedPending u [e])
    (hid : e.id.toUInt16.toNat ≠ s.tx.freeHead) :
    ∃ s', (sendPacketToTxQueue H dm (u :: views) stack header buffer).run s =
      .error (.err .wrongToken) s' := by
  have hhdr : (⟨stack, header.asBytes.length⟩ : Buf).Fits := by
    simp [Buf.Fits, VirtioVsockHdr.SIZE]
  have hfit : ∀ b ∈ inputOutputIter [⟨stack, header.asBytes.length⟩, buffer] [], b.1.Fits := by
    simp only [inputOutputIter, List.map_cons, List.map_nil, List.append_nil, List.mem_cons,
      List.not_mem_nil, or_false]
    rintro b (rfl | rfl)
    · exact hhdr
    · exact hbuf
  obtain ⟨q₁, hrun, -⟩ := VirtQueue.addNotifyWaitPop_lone_of_ne H sizeOk_QUEUE_SIZE hr hfit
    (by simp) (by simp [QUEUE_SIZE]) hu hid (dm.used TX_QUEUE_IDX) views s.transport
  exact ⟨_, sendPacketToTxQueue_of_error H dm (u :: views) stack hbuf.1 hrun⟩

theorem run_onDriver_error {α : Type} {m : EStateM Fault (VirtIOSocket RX_BUFFER_SIZE) α} {e : Fault}
    {s' : VirtIOSocket RX_BUFFER_SIZE} (h : m.run s = .error e s') :
    (onDriver m).run (s, info) = .error e (s', info) := by
  unfold onDriver
  exact @EStateM.run_zoom_error _ _ _ _ _ _ (s, info) m s' e h

/-- A send within the peer's credit, of a buffer that fits and of bytes the counter has
room for, on a transmit queue with nothing outstanding, whose slot the device fills with
the id of another chain: `send` fails with `WrongToken`, and the bytes stay counted in
`tx_cnt` as sent. -/
theorem send_failure_keeps_tx_cnt {idx : UInt16} {indirect eventIdx : Bool}
    (hr : VirtQueue.Reachable H idx indirect eventIdx (s.tx, [])) {p : UInt32}
    (hfree : info.peerFree o = .ok p) {buffer : Buf} (hlen : buffer.len ≤ p.toNat) (hbuf : buffer.Fits)
    (hcnt : info.txCnt.toNat + buffer.len < 2 ^ 32) {u : UsedRing} {e : UsedElem}
    (hu : s.tx.UsedPending u [e]) (hid : e.id.toUInt16.toNat ≠ s.tx.freeHead) :
    ∃ s', (send H dm (u :: views) stack o checkViews buffer).run (s, info) =
        .error (.err .wrongToken) (s', { info with txCnt := info.txCnt + UInt32.ofNat buffer.len }) ∧
      (info.txCnt + UInt32.ofNat buffer.len).toNat = info.txCnt.toNat + buffer.len := by
  have hlen32 : (UInt32.ofNat buffer.len).toNat = buffer.len := UInt32.toNat_ofNat_of_lt' hbuf.2
  have hadd : o.add info.txCnt (UInt32.ofNat buffer.len) = some (info.txCnt + UInt32.ofNat buffer.len) :=
    Overflow.add_of_lt o (by rw [hlen32]; exact hcnt)
  obtain ⟨s', hpkt⟩ := sendPacketToTxQueue_of_ne_token H dm views stack hr
    { info.newHeader s.guestCid with op := VirtioVsockOp.rw.toU16, len := UInt32.ofNat buffer.len }
    hbuf hu hid
  refine ⟨s', ?_, ?_⟩
  · rw [send_of_check H dm (u :: views) stack o
      (checkPeerBufferIsSufficient_of_le H dm checkViews stack o hfree hlen) hadd]
    exact run_onDriver_error hpkt
  · rw [UInt32.toNat_add, hlen32]
    exact Nat.mod_eq_of_lt hcnt

/-- A fresh transmit queue, 1000 bytes of credit and a send of 100: the device puts id 5
in the first used slot. -/
theorem send_failure_keeps_tx_cnt_id_five :
    ∃ s' : VirtIOSocket 512,
      (send VirtQueue.identityHal .idle [UsedRing.zero.push QUEUE_SIZE ⟨5, 0⟩] 0 .panics []
          ⟨0x8000, 100⟩).run
          (⟨[], ⟨VirtQueue.init 0 false false, fun i => 0x10000 + 512 * i⟩, VirtQueue.init 1 false false,
            VirtQueue.init 2 false false, 3⟩,
            { ConnectionInfo.new ⟨2, 1234⟩ 4321 with peerBufAlloc := 1000 }) =
        .error (.err .wrongToken)
          (s', { ConnectionInfo.new ⟨2, 1234⟩ 4321 with peerBufAlloc := 1000, txCnt := 100 }) := by
  obtain ⟨s', h, -⟩ := send_failure_keeps_tx_cnt VirtQueue.identityHal .idle [] 0 .panics
    (s := (⟨[], ⟨VirtQueue.init 0 false false, fun i => 0x10000 + 512 * i⟩, VirtQueue.init 1 false false,
      VirtQueue.init 2 false false, 3⟩ : VirtIOSocket 512)) .refl
    (show ConnectionInfo.peerFree .panics { ConnectionInfo.new ⟨2, 1234⟩ 4321 with peerBufAlloc := 1000 } =
      .ok 1000 from rfl) (by decide) (show (⟨0x8000, 100⟩ : Buf).Fits from ⟨by decide, by decide⟩)
    (by decide)
    (VirtQueue.UsedPending.push sizeOk_QUEUE_SIZE
      (show (VirtQueue.init 1 false false : VirtQueue QUEUE_SIZE).UsedPending UsedRing.zero [] from
        IndexRing.holds_nil _ _ _) (by decide) ⟨5, 0⟩) (by decide)
  exact ⟨s', h⟩

end VirtIOSocket
end VirtioDrivers
