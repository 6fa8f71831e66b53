import VirtioDrivers.Device.Console
import VirtioDrivers.Queue.Device
import VirtioDrivers.Queue.Progress

/-! What the console's methods do to its receive state, and runs of them. `recv(true)`
hands out a byte and asks for more once the page is used up; `read` hands out bytes
without moving `cursor`; `consume` moves `cursor` without asking for more. A console
whose page is used up with no request outstanding stays deaf to `recv` and
`ack_interrupt`. On the send side, an empty buffer reaches the assertion of
`add_direct`. -/
namespace VirtioDrivers
open Console

namespace VirtIOConsole
variable (H : Hal) (T : TransportBehaviour) (dm : DeviceMemory) {c : VirtIOConsole}

theorem pollRetrieve_of_ne (h : c.cursor ≠ c.pendingLen) : (pollRetrieve H dm).run c = .ok () c := by
  simp only [pollRetrieve, EStateM.run, EStateM.bind_apply, EStateM.getThe_apply]
  simp [h]

theorem finishReceive_of_none (h : c.receiveToken = none) : (finishReceive H dm).run c = .ok false c := by
  simp only [finishReceive, EStateM.run, EStateM.bind_apply, EStateM.getThe_apply]
  simp [h]

/-- `ack_interrupt` records the call, and finishes a receive only if the transport says an
interrupt was pending. -/
theorem ackInterrupt_eq (c : VirtIOConsole) :
    (ackInterrupt H T dm).run c =
      if T.ackInterrupt c.transport then
        (finishReceive H dm).run { c with transport := c.transport ++ [.ackInterrupt] }
      else .ok false { c with transport := c.transport ++ [.ackInterrupt] } := by
  by_cases ha : T.ackInterrupt c.transport
  · simp only [ackInterrupt, onTransport, EStateM.zoom, Transport.ackInterrupt, Transport.query,
      EStateM.run, EStateM.bind_apply, ha]
    rfl
  · simp only [ackInterrupt, onTransport, EStateM.zoom, Transport.ackInterrupt, Transport.query,
      EStateM.run, EStateM.bind_apply, ha]
    rfl

theorem consume_eq {amt : Nat} (h : c.cursor + amt ≤ c.pendingLen) :
    (consume amt).run c = .ok () { c with cursor := c.cursor + amt } := by
  simp only [consume, EStateM.run, EStateM.bind_apply, EStateM.getThe_apply]
  simp [h, assert]

theorem waitLoop_of_ne (h : c.cursor ≠ c.pendingLen) (dm : DeviceMemory) (views : List DeviceMemory) :
    (waitLoop H dm views).run c = .ok dm c := by
  cases views <;> simp only [waitLoop, EStateM.run, EStateM.bind_apply, EStateM.getThe_apply] <;>
    simp [h]

theorem waitForReceive_of_ne (h : c.cursor ≠ c.pendingLen) (views : List DeviceMemory) :
    (waitForReceive H dm views).run c = .ok dm c := by
  simp only [waitForReceive]
  rw [EStateM.run_bind_of_ok (pollRetrieve_of_ne H dm h)]
  exact waitLoop_of_ne H h dm views

theorem fillBuf_of_pending (views : List DeviceMemory) (hc : c.cursor < c.pendingLen)
    (hp : c.pendingLen ≤ PAGE_SIZE) :
    (fillBuf H dm views).run c =
      .ok (Memory.read dm.mem (c.queueBufRx + c.cursor) (c.pendingLen - c.cursor)) c := by
  simp only [fillBuf]
  rw [EStateM.run_bind_of_ok (waitForReceive_of_ne H dm (Nat.ne_of_lt hc) views)]
  simp only [EStateM.run, EStateM.bind_apply, EStateM.getThe_apply]
  simp [rxSlice, hp, Nat.le_of_lt hc, assert]

/-! ### A console that has stopped receiving -/

/-- Everything received has been handed out, and no receive request is outstanding. -/
def Drained (c : VirtIOConsole) : Prop := c.receiveToken = none ∧ c.cursor = c.pendingLen

/-- The receive state the console is meant to be in between calls: either bytes are left
and the page is the driver's, or none are and the page is lent to the device. -/
def ReceiveInv (c : VirtIOConsole) : Prop :=
  c.cursor ≤ c.pendingLen ∧ c.pendingLen ≤ PAGE_SIZE ∧
    ((c.cursor < c.pendingLen ∧ c.receiveToken = none) ∨
      (c.cursor = c.pendingLen ∧ c.receiveToken.isSome))

instance : DecidablePred ReceiveInv := fun c => by unfold ReceiveInv; infer_instance

instance : DecidablePred Drained := fun c => by unfold Drained; infer_instance

theorem Drained.not_receiveInv (h : Drained c) : ¬ c.ReceiveInv := by
  rintro ⟨-, -, ⟨hlt, -⟩ | ⟨-, hsome⟩⟩
  · exact absurd h.2 (Nat.ne_of_lt hlt)
  · simp [h.1] at hsome

theorem recv_of_drained (h : Drained c) (pop : Bool) : (recv H dm pop).run c = .ok none c := by
  simp only [recv, finishReceive, EStateM.run, EStateM.bind_apply, EStateM.getThe_apply]
  simp [h.1, h.2]

theorem ackInterrupt_of_drained (h : Drained c) :
    (ackInterrupt H T dm).run c = .ok false { c with transport := c.transport ++ [.ackInterrupt] } := by
  rw [ackInterrupt_eq]
  split
  · exact finishReceive_of_none H dm h.1
  · rfl

/-- The calls a client polls the console with, each with the shared memory it reads. -/
inductive PollCall where
  | recv (dm : DeviceMemory) (pop : Bool)
  | ackInterrupt (dm : DeviceMemory)

/-- Makes the calls in order; returns whether any of them received something. -/
def pollCalls : List PollCall → EStateM Fault VirtIOConsole Bool
  | [] => pure false
  | .recv dm pop :: calls => do
    let ch ← recv H dm pop
    let rest ← pollCalls calls
    pure (ch.isSome || rest)
  | .ackInterrupt dm :: calls => do
    let received ← ackInterrupt H T dm
    let rest ← pollCalls calls
    pure (received || rest)

/-- A drained console receives nothing however long it is polled, whatever the device
has written meanwhile. -/
theorem pollCalls_of_drained (calls : List PollCall) :
    ∀ c, Drained c → ∃ c', (pollCalls H T calls).run c = .ok false c' ∧ Drained c' := by
  induction calls with
  | nil => exact fun c h => ⟨c, rfl, h⟩
  | cons call calls ih =>
    intro c h
    cases call with
    | recv dm pop =>
      obtain ⟨c', hrun, h'⟩ := ih c h
      refine ⟨c', ?_, h'⟩
      simp only [pollCalls]
      rw [EStateM.run_bind_of_ok (recv_of_drained H dm h pop), EStateM.run_bind_of_ok hrun]
      rfl
    | ackInterrupt dm =>
      have hd : Drained { c with transport := c.transport ++ [.ackInterrupt] } := h
      obtain ⟨c', hrun, h'⟩ := ih _ hd
      refine ⟨c', ?_, h'⟩
      simp only [pollCalls]
      rw [EStateM.run_bind_of_ok (ackInterrupt_of_drained H T dm h), EStateM.run_bind_of_ok hrun]
      rfl

/-- `fill_buf` followed by `consume` of everything it showed drains a console that had
bytes left and no request outstanding. -/
theorem fillBuf_consume_drained (views : List DeviceMemory) (hr : c.receiveToken = none)
    (hc : c.cursor < c.pendingLen) (hp : c.pendingLen ≤ PAGE_SIZE) :
    ∃ c', (do
      let bytes ← fillBuf H dm views
      consume bytes.length : EStateM Fault VirtIOConsole Unit).run c = .ok () c' ∧ Drained c' := by
  have hconsume : (consume (c.pendingLen - c.cursor)).run c =
      .ok () { c with cursor := c.cursor + (c.pendingLen - c.cursor) } := consume_eq (by omega)
  refine ⟨{ c with cursor := c.cursor + (c.pendingLen - c.cursor) }, ?_, hr, ?_⟩
  · rw [EStateM.run_bind_of_ok (fillBuf_of_pending H dm views hc hp), Memory.length_read]
    exact hconsume
  · show c.cursor + (c.pendingLen - c.cursor) = c.pendingLen
    omega

theorem deaf_of_drained_run {run : Option VirtIOConsole}
    (h : run.map (fun c => decide (Drained c)) = some true) :
    ∃ c, run = some c ∧ ¬ c.ReceiveInv ∧
      ∀ calls, ∃ c', (pollCalls H T calls).run c = .ok false c' := by
  obtain ⟨c, hc, hd⟩ := Option.map_eq_some_iff.mp h
  have hdr : Drained c := of_decide_eq_true hd
  refine ⟨c, hc, hdr.not_receiveInv, fun calls => ?_⟩
  obtain ⟨c', hcalls, -⟩ := pollCalls_of_drained H T calls c hdr
  exact ⟨c', hcalls⟩

/-- From any console with bytes left to hand out and no request outstanding, `fill_buf`
followed by `consume` of everything it showed leaves a console that breaks the receive
invariant and that no sequence of `recv` and `ack_interrupt` calls ever makes receive again,
whatever the device writes. -/
theorem fillBuf_consume_deafens (views : List DeviceMemory) (hr : c.receiveToken = none)
    (hc : c.cursor < c.pendingLen) (hp : c.pendingLen ≤ PAGE_SIZE) :
    ∃ c', (do
      let bytes ← fillBuf H dm views
      consume bytes.length : EStateM Fault VirtIOConsole Unit).run c = .ok () c' ∧
      ¬ c'.ReceiveInv ∧ ∀ calls, ∃ c'', (pollCalls H T calls).run c' = .ok false c'' := by
  obtain ⟨c', hrun, hdrained⟩ := fillBuf_consume_drained H dm views hr hc hp
  refine ⟨c', hrun, hdrained.not_receiveInv, fun calls => ?_⟩
  obtain ⟨c'', hcalls, -⟩ := pollCalls_of_drained H T calls c' hdrained
  exact ⟨c'', hcalls⟩

theorem fillBuf_consume_deafens_one_byte :
    ∃ c', (do
      let bytes ← fillBuf VirtQueue.identityHal .idle []
      consume bytes.length : EStateM Fault VirtIOConsole Unit).run
        ⟨[], 0, VirtQueue.init 0 false false, VirtQueue.init 1 false false, 0x3000, 0, 1, none⟩ =
        .ok () c' ∧
      ¬ c'.ReceiveInv ∧ ∀ calls, ∃ c'', (pollCalls VirtQueue.identityHal (.plain 2) calls).run c' =
        .ok false c'' :=
  fillBuf_consume_deafens VirtQueue.identityHal (.plain 2) .idle []
    (c := ⟨[], 0, VirtQueue.init 0 false false, VirtQueue.init 1 false false, 0x3000, 0, 1, none⟩)
    rfl (by decide) (by decide)

/-! ### Runs from `new` -/

/-- A console made by `new` on a plain device that then fills the receive page with one
byte: after `ack_interrupt`, `fill_buf` and `consume(1)` no receive request is
outstanding, and no call of `recv` or `ack_interrupt` receives anything again. -/
theorem consume_leaves_console_deaf :
    ∃ c, (new VirtQueue.identityHal (.plain 2) .idle []).toOption.bind (fun c =>
      ((do
        let _ ← ackInterrupt VirtQueue.identityHal (.plain 2)
          (DeviceMemory.idle.complete QUEUE_SIZE QUEUE_RECEIVEQ_PORT_0 0 PAGE_SIZE [97])
        let _ ← fillBuf VirtQueue.identityHal
          (DeviceMemory.idle.complete QUEUE_SIZE QUEUE_RECEIVEQ_PORT_0 0 PAGE_SIZE [97]) []
        consume 1 : EStateM Fault VirtIOConsole Unit).run c).state?) = some c ∧
      ¬ c.ReceiveInv ∧
      ∀ calls, ∃ c', (pollCalls VirtQueue.identityHal (.plain 2) calls).run c = .ok false c' :=
  deaf_of_drained_run _ _ (by decide +kernel)

/-- `read` hands out the same bytes again: on a console made by `new` on a plain device
that then fills the receive page with two bytes, two reads of one byte both return the
first. -/
theorem read_returns_first_byte_twice :
    (new VirtQueue.identityHal (.plain 2) .idle []).toOption.bind (fun c =>
      ((do
        let _ ← ackInterrupt VirtQueue.identityHal (.plain 2)
          (DeviceMemory.idle.complete QUEUE_SIZE QUEUE_RECEIVEQ_PORT_0 0 PAGE_SIZE [97, 98])
        let first ← VirtIOConsole.read VirtQueue.identityHal
          (DeviceMemory.idle.complete QUEUE_SIZE QUEUE_RECEIVEQ_PORT_0 0 PAGE_SIZE [97, 98]) [] 1
        let second ← VirtIOConsole.read VirtQueue.identityHal
          (DeviceMemory.idle.complete QUEUE_SIZE QUEUE_RECEIVEQ_PORT_0 0 PAGE_SIZE [97, 98]) [] 1
        pure (first, second) : EStateM Fault VirtIOConsole _).run c).value?) = some ([97], [97]) := by
  decide +kernel

/-! ### Sends -/

theorem pollRetrieve_keeps_transmitq : EStateM.Keeps transmitq (pollRetrieve H dm) := by
  unfold pollRetrieve
  refine .bind .getThe fun c => .ite ?_ (.pure _)
  refine .bind (.onPart fun _ _ => rfl) fun _ => .bind (.modifyThe fun _ => rfl) fun _ => ?_
  exact .bind .getThe fun _ => .ite (.zoom fun _ _ => rfl) (.pure _)

theorem initDevice_transmitq {log log' : List TransportCall} {f : UInt64}
    {rq tq : VirtQueue QUEUE_SIZE} (h : (initDevice H T).run log = .ok (f, rq, tq) log') :
    tq = VirtQueue.init QUEUE_TRANSMITQ_PORT_0 (Features.contains f Features.RING_INDIRECT_DESC)
      (Features.contains f Features.RING_EVENT_IDX) := by
  simp only [initDevice] at h
  obtain ⟨f', log₁, -, h⟩ := EStateM.run_bind_eq_ok.mp h
  obtain ⟨rq', log₂, -, h⟩ := EStateM.run_bind_eq_ok.mp h
  obtain ⟨tq', log₃, htq, h⟩ := EStateM.run_bind_eq_ok.mp h
  obtain ⟨u, log₄, -, h⟩ := EStateM.run_bind_eq_ok.mp h
  cases h
  exact (VirtQueue.new_ok_spec htq).1

theorem numUsed_transmitq_of_new {log : List TransportCall} (h : new H T dm log = .ok c) :
    c.transmitq.numUsed = 0 := by
  unfold new at h
  cases hinit : (initDevice H T).run log with
  | error e _ => simp [hinit] at h
  | ok r log' =>
    obtain ⟨f, rq, tq⟩ := r
    simp only [hinit] at h
    split at h
    · cases h
    · rename_i c' hpoll
      cases h
      rw [pollRetrieve_keeps_transmitq H dm _ _ _ hpoll, initDevice_transmitq H T hinit]
      rfl

/-- `send_bytes` of an empty buffer stops at the assertion of `add_direct` whenever the
transmit queue has room, and leaves the console as it was. -/
theorem sendBytes_empty (views : List UsedRing) (addr : Nat)
    (hroom : c.transmitq.numUsed + 1 ≤ QUEUE_SIZE) :
    (sendBytes H dm views ⟨addr, 0⟩).run c = .error .panic c := by
  have hadd : c.transmitq.add H [⟨addr, 0⟩] [] = .error .panic :=
    VirtQueue.add_eq_panic_of_empty H
      (show inputOutputIter [⟨addr, 0⟩] [] = [(⟨addr, 0⟩, .driverToDevice)] from rfl) rfl
      (by simp) (by simpa using hroom)
  have hwait : (VirtQueue.addNotifyWaitPop H [⟨addr, 0⟩] [] (dm.used QUEUE_TRANSMITQ_PORT_0)
      views).run (c.transmitq, c.transport) = .error .panic (c.transmitq, c.transport) :=
    EStateM.run_bind_of_error (EStateM.run_onPart_error hadd)
  have hzoom : (onTransmitq (VirtQueue.addNotifyWaitPop H [⟨addr, 0⟩] []
      (dm.used QUEUE_TRANSMITQ_PORT_0) views)).run c = .error .panic c :=
    @EStateM.run_zoom_error _ _ _ _ (fun c : VirtIOConsole => (c.transmitq, c.transport)) _ c _ _ _ hwait
  simp only [sendBytes]
  rw [EStateM.run_bind_of_error hzoom]

/-- Every console `new` returns panics on `write_str("")`: the empty string reaches the
transmit queue as an empty buffer. -/
theorem writeStr_empty_panics {log : List TransportCall} (hnew : new H T dm log = .ok c)
    (dm' : DeviceMemory) (views : List UsedRing) (addr : Nat) :
    (writeStr H dm' views ⟨addr, 0⟩).run c = .error .panic c :=
  sendBytes_empty H dm' views addr (by rw [numUsed_transmitq_of_new H T dm hnew]; decide)

theorem writeStr_empty_panics_after_new :
    ∃ c, new VirtQueue.identityHal (.plain 2) .idle [] = .ok c ∧
      (writeStr VirtQueue.identityHal .idle [] ⟨0, 0⟩).run c = .error .panic c := by
  have hok : (new VirtQueue.identityHal (.plain 2) .idle []).toOption.isSome := by decide +kernel
  cases hnew : new VirtQueue.identityHal (.plain 2) .idle [] with
  | error e => simp [hnew, Except.toOption] at hok
  | ok c => exact ⟨c, rfl, writeStr_empty_panics _ _ _ hnew _ _ _⟩

end VirtIOConsole
end VirtioDrivers
