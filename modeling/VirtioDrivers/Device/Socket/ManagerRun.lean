import VirtioDrivers.Device.Socket.ConnectionManager
import VirtioDrivers.Device.Socket.Receive

/-! Runs of the connection manager. The closure of `poll` finds an event's connection by
its addresses alone, whatever the event, and what `poll` then does depends only on the
event's type: a connection request on a port we do not listen on is refused and its
connection removed, even when that connection is an open one whose buffer still holds
bytes, and one on a port we listen on is accepted again and passed on. A connection made
with a buffer capacity of zero panics at the `%` of its ring buffer on the first body it
stores, even an empty one. -/
namespace VirtioDrivers
open Vsock

theorem getConnectionForEvent_spec {connections : List Connection} {event : VsockEvent}
    {localCid : UInt64} {i : Nat} {c : Connection}
    (h : getConnectionForEvent connections event localCid = some (i, c)) :
    connections[i]? = some c ∧ event.matchesConnection c.info localCid = true := by
  unfold getConnectionForEvent at h
  split at h
  · rename_i c' i' hfind
    cases h
    have hmatch := List.find?_some hfind
    exact ⟨List.mem_zipIdx_iff_getElem?.mp (List.mem_of_find?_eq_some hfind), hmatch⟩
  · cases h

/-- The first entry a test picks in a numbered list is still picked, at the same place,
after it is replaced by one the test takes the same way. -/
theorem find?_zipIdx_set {α : Type} {p : α → Bool} {a b : α} (hb : p b = p a) :
    ∀ (l : List α) (k i : Nat), (l.zipIdx k).find? (fun q => p q.1) = some (a, k + i) →
      ((l.set i b).zipIdx k).find? (fun q => p q.1) = some (b, k + i)
  | [], _, _, h => by simp at h
  | x :: xs, k, 0, h => by
    simp only [List.zipIdx_cons, List.find?_cons, List.set_cons_zero] at h ⊢
    cases hx : p x
    · -- then the entry found lies further on, at an index past `k`
      simp only [hx] at h
      have := (List.mem_zipIdx (List.mem_of_find?_eq_some h)).1
      omega
    · simp only [hx, Option.some.injEq, Prod.mk.injEq] at h
      obtain ⟨rfl, -⟩ := h
      simp [hb, hx]
  | x :: xs, k, i + 1, h => by
    simp only [List.zipIdx_cons, List.find?_cons, List.set_cons_succ] at h ⊢
    cases hx : p x
    · simp only [hx] at h ⊢
      rw [show k + (i + 1) = k + 1 + i by omega] at h ⊢
      exact find?_zipIdx_set hb xs (k + 1) i h
    · simp [hx] at h

theorem getConnectionForEvent_set {connections : List Connection} {event : VsockEvent}
    {localCid : UInt64} {i : Nat} {c : Connection} (c' : Connection)
    (h : getConnectionForEvent connections event localCid = some (i, c))
    (hc : event.matchesConnection c'.info localCid = event.matchesConnection c.info localCid) :
    getConnectionForEvent (connections.set i c') event localCid = some (i, c') := by
  unfold getConnectionForEvent at h ⊢
  split at h
  · rename_i c₀ i₀ hfind
    simp only [Option.some.injEq, Prod.mk.injEq] at h
    obtain ⟨rfl, rfl⟩ := h
    rw [find?_zipIdx_set (p := fun c : Connection => event.matchesConnection c.info localCid) hc
      connections 0 i₀ (by rw [Nat.zero_add]; exact hfind), Nat.zero_add]
  · cases h

@[simp] theorem matchesConnection_updateForEvent (event e : VsockEvent) (info : ConnectionInfo)
    (localCid : UInt64) :
    event.matchesConnection (info.updateForEvent e) localCid = event.matchesConnection info localCid :=
  rfl

namespace RingBuffer

end RingBuffer

namespace VsockConnectionManager
variable {RX_BUFFER_SIZE : Nat}

/-- A packet from `src` to `dst` with a body of `len` bytes, as the peer sends it. -/
def peerHeader (src dst : VsockAddr) (op : VirtioVsockOp) (len : UInt32) : VirtioVsockHdr :=
  { VirtioVsockHdr.default with
    srcCid := src.cid, dstCid := dst.cid, srcPort := src.port, dstPort := dst.port,
    len := len, op := op.toU16 }

/-- The transmit queue's device area after the device has used `n` one-descriptor chains. -/
def txDone (n : Nat) : UsedRing := (List.replicate n (⟨0, 0⟩ : UsedElem)).foldl (·.push QUEUE_SIZE ·) .zero

/-! ### The closure -/

section Handler
variable {guestCid : UInt64} {capacity : UInt32} {event : VsockEvent} {body : List UInt8}
  {connections : List Connection} {i : Nat} {c : Connection}

theorem pollHandler_of_found (hfind : getConnectionForEvent connections event guestCid = some (i, c))
    (hne : ∀ n, event.eventType ≠ .received n) :
    pollHandler guestCid capacity event body connections =
      (.ok (some event), connections.set i { c with info := c.info.updateForEvent event }) := by
  unfold pollHandler
  -- `hne` discharges the condition of the catch-all branch of the match on the type
  simp only [hfind]

end Handler

/-! ### After the driver's poll -/

section Event
variable (H : Hal) (dm : DeviceMemory) (views : List UsedRing) (stack : Nat)

theorem run_withDriver_ok {α : Type} {m : VsockConnectionManager RX_BUFFER_SIZE}
    {x : EStateM Fault (VirtIOSocket RX_BUFFER_SIZE) α} {a : α} {d : VirtIOSocket RX_BUFFER_SIZE}
    (h : x.run m.driver = .ok a d) : (withDriver x).run m = .ok a { m with driver := d } :=
  EStateM.run_zoom_ok h

theorem run_removeConnection {m : VsockConnectionManager RX_BUFFER_SIZE} {index : Nat}
    {connections : List Connection} (h : swapRemove m.connections index = .ok connections) :
    (removeConnection index).run m = .ok () { m with connections := connections } := by
  simp only [removeConnection, EStateM.run, EStateM.bind_apply, EStateM.getThe_apply, h,
    EStateM.ofExcept_ok_apply, EStateM.set_apply]

/-- A connection request for a known connection on a port we do not listen on: `poll`
resets the connection and removes it, whatever its buffer holds. -/
theorem pollEvent_refuses_request {guestCid : UInt64} {event : VsockEvent}
    {m : VsockConnectionManager RX_BUFFER_SIZE} {i : Nat} {c : Connection}
    {d : VirtIOSocket RX_BUFFER_SIZE} {connections : List Connection}
    (hfind : getConnectionForEvent m.connections event guestCid = some (i, c))
    (hreq : event.eventType = .connectionRequest)
    (hport : m.listeningPorts.contains event.destination.port = false)
    (hclose : (VirtIOSocket.forceClose H dm views stack c.info).run m.driver = .ok () d)
    (hremove : swapRemove m.connections i = .ok connections) :
    (pollEvent H dm views stack guestCid event).run m =
      .ok none { m with driver := d, connections := connections } := by
  have hclose' : withDriver (VirtIOSocket.forceClose H dm views stack c.info) m =
      .ok () { m with driver := d } := run_withDriver_ok hclose
  have hremove' : removeConnection i { m with driver := d } =
      .ok () { m with driver := d, connections := connections } := run_removeConnection hremove
  unfold pollEvent
  simp only [EStateM.run, EStateM.bind_apply, EStateM.getThe_apply, hfind, hreq, hport,
    Bool.false_eq_true, if_false, hclose', hremove', EStateM.pure_apply]

/-- A connection request for a known connection on a port we listen on: `poll` accepts
it again and passes it on. -/
theorem pollEvent_accepts_request {guestCid : UInt64} {event : VsockEvent}
    {m : VsockConnectionManager RX_BUFFER_SIZE} {i : Nat} {c : Connection}
    {d : VirtIOSocket RX_BUFFER_SIZE}
    (hfind : getConnectionForEvent m.connections event guestCid = some (i, c))
    (hreq : event.eventType = .connectionRequest)
    (hport : m.listeningPorts.contains event.destination.port = true)
    (hacc : (VirtIOSocket.accept H dm views stack c.info).run m.driver = .ok () d) :
    (pollEvent H dm views stack guestCid event).run m = .ok (some event) { m with driver := d } := by
  have hacc' : withDriver (VirtIOSocket.accept H dm views stack c.info) m =
      .ok () { m with driver := d } := run_withDriver_ok hacc
  unfold pollEvent
  simp only [EStateM.run, EStateM.bind_apply, EStateM.getThe_apply, hfind, hreq, hport, if_true,
    hacc', EStateM.pure_apply]

theorem poll_of_driver {m : VsockConnectionManager RX_BUFFER_SIZE} {event : VsockEvent}
    {d : VirtIOSocket RX_BUFFER_SIZE} {connections : List Connection}
    (hdrv : (VirtIOSocket.poll H (dm.used RX_QUEUE_IDX) dm.mem
      (pollHandler m.driver.guestCid m.perConnectionBufferCapacity)).run (m.driver, m.connections) =
        .ok (some event) (d, connections)) :
    (poll H dm views stack).run m = (pollEvent H dm views stack m.driver.guestCid event).run
      { m with driver := d, connections := connections } := by
  have hz : (EStateM.zoom (fun m : VsockConnectionManager RX_BUFFER_SIZE => (m.driver, m.connections))
      (fun m p => { m with driver := p.1, connections := p.2 })
      (VirtIOSocket.poll H (dm.used RX_QUEUE_IDX) dm.mem
        (pollHandler m.driver.guestCid m.perConnectionBufferCapacity))).run m =
      .ok (some event) { m with driver := d, connections := connections } := by
    apply EStateM.run_zoom_ok (t := (d, connections))
    exact hdrv
  simp only [EStateM.run] at hz
  simp only [poll, EStateM.run, EStateM.bind_apply, EStateM.getThe_apply, hz]

/-- A connection request for a connection we already have is answered, not ignored. From
any state, when the device delivers a request packet whose addresses match an existing
connection, `poll` accepts it again and returns the event on a port we listen on, and on
any other port resets the connection and removes it. -/
theorem poll_answers_known_request (m : VsockConnectionManager RX_BUFFER_SIZE)
    {bytes : List UInt8} {t : Nat} {s₁ s₂ : OwningQueue QUEUE_SIZE RX_BUFFER_SIZE × List TransportCall}
    {header : VirtioVsockHdr} {body : List UInt8} {event : VsockEvent} {i : Nat} {c : Connection}
    (hpop : (OwningQueue.pop H (dm.used RX_QUEUE_IDX) dm.mem).run (m.driver.rx, m.driver.transport) =
      .ok (some (bytes, t)) s₁)
    (hread : readHeaderAndBody bytes = .ok (header, body))
    (hev : VsockEvent.fromHeader header = .ok event)
    (hadd : (OwningQueue.addBufferToQueue H (dm.used RX_QUEUE_IDX) t).run s₁ = .ok () s₂)
    (hreq : event.eventType = .connectionRequest)
    (hfind : getConnectionForEvent m.connections event m.driver.guestCid = some (i, c)) :
    (m.listeningPorts.contains event.destination.port = true →
      ∀ d, (VirtIOSocket.accept H dm views stack (c.info.updateForEvent event)).run
          { m.driver with rx := s₂.1, transport := s₂.2 } = .ok () d →
        (poll H dm views stack).run m = .ok (some event)
          { m with driver := d,
                   connections := m.connections.set i { c with info := c.info.updateForEvent event } }) ∧
    (m.listeningPorts.contains event.destination.port = false →
      ∀ d connections, (VirtIOSocket.forceClose H dm views stack (c.info.updateForEvent event)).run
          { m.driver with rx := s₂.1, transport := s₂.2 } = .ok () d →
        swapRemove (m.connections.set i { c with info := c.info.updateForEvent event }) i =
          .ok connections →
        (poll H dm views stack).run m = .ok none { m with driver := d, connections := connections }) := by
  have hne : ∀ n, event.eventType ≠ .received n := by simp [hreq]
  have hdrv := VirtIOSocket.poll_of_pop_some H (dm.used RX_QUEUE_IDX) dm.mem
    (pollHandler m.driver.guestCid m.perConnectionBufferCapacity) hpop hread hev
    (pollHandler_of_found hfind hne) hadd
  have hfind' := getConnectionForEvent_set { c with info := c.info.updateForEvent event } hfind
    (matchesConnection_updateForEvent _ _ _ _)
  rw [poll_of_driver H dm views stack hdrv]
  refine ⟨fun hport d hacc => ?_, fun hport d connections hclose hremove => ?_⟩
  · exact pollEvent_accepts_request H dm views stack hfind' hreq hport hacc
  · exact pollEvent_refuses_request H dm views stack hfind' hreq hport hclose hremove

set_option synthInstance.maxSize 256 in
/-- The request that opened a connection, delivered again: a manager listening on port
4321 holds the connection from port 1234 of context 2 that the first request made, and
the device delivers that request once more. `poll` accepts it a second time and passes it
on. -/
theorem poll_answers_known_request_again :
    ∃ (s : VirtIOSocket 512) (m' : VsockConnectionManager 512),
      VirtIOSocket.new VirtQueue.identityHal (.plain 8) .idle 1 (fun i => 0x10000 + 512 * i) [] =
        .ok s ∧
      (poll VirtQueue.identityHal
          (DeviceMemory.idle.complete QUEUE_SIZE RX_QUEUE_IDX 0 0x10000
            (peerHeader ⟨2, 1234⟩ ⟨0, 4321⟩ .request 0).asBytes) [txDone 1] 0).run
        { (new s).listen 4321 with
          connections := [Connection.new ⟨2, 1234⟩ 4321 DEFAULT_PER_CONNECTION_BUFFER_CAPACITY] } =
        .ok (some ⟨⟨2, 1234⟩, ⟨0, 4321⟩, ⟨0, 0⟩, .connectionRequest⟩) m' := by
  have hread : readHeaderAndBody (peerHeader ⟨2, 1234⟩ ⟨0, 4321⟩ .request 0).asBytes =
      .ok (peerHeader ⟨2, 1234⟩ ⟨0, 4321⟩ .request 0, []) := by decide +kernel
  have hev : VsockEvent.fromHeader (peerHeader ⟨2, 1234⟩ ⟨0, 4321⟩ .request 0) =
      .ok ⟨⟨2, 1234⟩, ⟨0, 4321⟩, ⟨0, 0⟩, .connectionRequest⟩ := by decide +kernel
  have hfacts : (VirtIOSocket.new VirtQueue.identityHal (.plain 8) .idle 1
      (fun i => 0x10000 + 512 * i) [] : Except Fault (VirtIOSocket 512)).toOption.map (fun s =>
        (s.guestCid,
          ((OwningQueue.pop VirtQueue.identityHal
            ((DeviceMemory.idle.complete QUEUE_SIZE RX_QUEUE_IDX 0 0x10000
              (peerHeader ⟨2, 1234⟩ ⟨0, 4321⟩ .request 0).asBytes).used RX_QUEUE_IDX)
            (DeviceMemory.idle.complete QUEUE_SIZE RX_QUEUE_IDX 0 0x10000
              (peerHeader ⟨2, 1234⟩ ⟨0, 4321⟩ .request 0).asBytes).mem).run (s.rx, s.transport)).value?,
          ((OwningQueue.pop VirtQueue.identityHal
            ((DeviceMemory.idle.complete QUEUE_SIZE RX_QUEUE_IDX 0 0x10000
              (peerHeader ⟨2, 1234⟩ ⟨0, 4321⟩ .request 0).asBytes).used RX_QUEUE_IDX)
            (DeviceMemory.idle.complete QUEUE_SIZE RX_QUEUE_IDX 0 0x10000
              (peerHeader ⟨2, 1234⟩ ⟨0, 4321⟩ .request 0).asBytes).mem).run (s.rx, s.transport)).state?.bind
            fun s₁ => ((OwningQueue.addBufferToQueue VirtQueue.identityHal
              ((DeviceMemory.idle.complete QUEUE_SIZE RX_QUEUE_IDX 0 0x10000
                (peerHeader ⟨2, 1234⟩ ⟨0, 4321⟩ .request 0).asBytes).used RX_QUEUE_IDX) 0).run s₁).state?.map
              fun s₂ => ((VirtIOSocket.accept VirtQueue.identityHal
                (DeviceMemory.idle.complete QUEUE_SIZE RX_QUEUE_IDX 0 0x10000
                  (peerHeader ⟨2, 1234⟩ ⟨0, 4321⟩ .request 0).asBytes) [txDone 1] 0
                ((Connection.new ⟨2, 1234⟩ 4321 DEFAULT_PER_CONNECTION_BUFFER_CAPACITY).info.updateForEvent
                  ⟨⟨2, 1234⟩, ⟨0, 4321⟩, ⟨0, 0⟩, .connectionRequest⟩)).run
                { s with rx := s₂.1, transport := s₂.2 }).value?.isSome)) =
      some (0, some (some ((peerHeader ⟨2, 1234⟩ ⟨0, 4321⟩ .request 0).asBytes, 0)), some true) := by
    decide +kernel
  cases hs : (VirtIOSocket.new VirtQueue.identityHal (.plain 8) .idle 1
      (fun i => 0x10000 + 512 * i) [] : Except Fault (VirtIOSocket 512)) with
  | error e => simp [hs, Except.toOption] at hfacts
  | ok s =>
    simp only [hs, Except.toOption, Option.map_some, Option.some.injEq, Prod.mk.injEq] at hfacts
    obtain ⟨hcid, hpopv, hrest⟩ := hfacts
    have hfind : getConnectionForEvent [Connection.new ⟨2, 1234⟩ 4321 DEFAULT_PER_CONNECTION_BUFFER_CAPACITY]
        ⟨⟨2, 1234⟩, ⟨0, 4321⟩, ⟨0, 0⟩, .connectionRequest⟩ s.guestCid =
        some (0, Connection.new ⟨2, 1234⟩ 4321 DEFAULT_PER_CONNECTION_BUFFER_CAPACITY) := by
      rw [hcid]
      decide +kernel
    cases hp : (OwningQueue.pop VirtQueue.identityHal
        ((DeviceMemory.idle.complete QUEUE_SIZE RX_QUEUE_IDX 0 0x10000
          (peerHeader ⟨2, 1234⟩ ⟨0, 4321⟩ .request 0).asBytes).used RX_QUEUE_IDX)
        (DeviceMemory.idle.complete QUEUE_SIZE RX_QUEUE_IDX 0 0x10000
          (peerHeader ⟨2, 1234⟩ ⟨0, 4321⟩ .request 0).asBytes).mem).run (s.rx, s.transport) with
    | error e s₁ => simp [hp, EStateM.Result.value?] at hpopv
    | ok v s₁ =>
      simp only [hp, EStateM.Result.value?, EStateM.Result.state?, Option.some.injEq,
        Option.bind_some] at hpopv hrest
      subst hpopv
      cases ha : (OwningQueue.addBufferToQueue VirtQueue.identityHal
          ((DeviceMemory.idle.complete QUEUE_SIZE RX_QUEUE_IDX 0 0x10000
            (peerHeader ⟨2, 1234⟩ ⟨0, 4321⟩ .request 0).asBytes).used RX_QUEUE_IDX) 0).run s₁ with
      | error e s₂ => simp [ha] at hrest
      | ok u s₂ =>
        simp only [ha, Option.map_some, Option.some.injEq] at hrest
        cases hacc : (VirtIOSocket.accept VirtQueue.identityHal
            (DeviceMemory.idle.complete QUEUE_SIZE RX_QUEUE_IDX 0 0x10000
              (peerHeader ⟨2, 1234⟩ ⟨0, 4321⟩ .request 0).asBytes) [txDone 1] 0
            ((Connection.new ⟨2, 1234⟩ 4321 DEFAULT_PER_CONNECTION_BUFFER_CAPACITY).info.updateForEvent
              ⟨⟨2, 1234⟩, ⟨0, 4321⟩, ⟨0, 0⟩, .connectionRequest⟩)).run
            { s with rx := s₂.1, transport := s₂.2 } with
        | error e d => simp [hacc] at hrest
        | ok u' d =>
          exact ⟨s, _, rfl, (poll_answers_known_request VirtQueue.identityHal _ [txDone 1] 0
            { (new s).listen 4321 with
              connections := [Connection.new ⟨2, 1234⟩ 4321 DEFAULT_PER_CONNECTION_BUFFER_CAPACITY] }
            hp hread hev ha rfl hfind).1 rfl d hacc⟩

end Event

/-! ### Two runs -/

/-- An open connection dropped with unread bytes. The driver connects from port 4321 to
port 1234 of context 2, the peer sends two bytes, which the connection holds, and then a
connection request for the same pair of ports. `poll` refuses it and removes the
connection; its two bytes are lost, and `recv` finds no connection. -/
theorem request_drops_unread_connection :
    (VirtIOSocket.new VirtQueue.identityHal (.plain 8) .idle 1 (fun i => 0x10000 + 512 * i) [] :
        Except Fault (VirtIOSocket 512)).toOption.bind (fun s =>
      ((do
        connect VirtQueue.identityHal .idle [txDone 1, txDone 2] 0 ⟨2, 1234⟩ 4321
        let _ ← poll VirtQueue.identityHal
          (DeviceMemory.idle.complete QUEUE_SIZE RX_QUEUE_IDX 0 0x10000
            ((peerHeader ⟨2, 1234⟩ ⟨0, 4321⟩ .rw 2).asBytes ++ [97, 98])) [txDone 1, txDone 2] 0
        let held ← recvBufferAvailableBytes ⟨2, 1234⟩ 4321
        let event ← poll VirtQueue.identityHal
          ((DeviceMemory.idle.complete QUEUE_SIZE RX_QUEUE_IDX 0 0x10000
            ((peerHeader ⟨2, 1234⟩ ⟨0, 4321⟩ .rw 2).asBytes ++ [97, 98])).complete
              QUEUE_SIZE RX_QUEUE_IDX 1 0x10200 (peerHeader ⟨2, 1234⟩ ⟨0, 4321⟩ .request 0).asBytes)
          [txDone 1, txDone 2] 0
        let after ← tryCatch
          (do let _ ← recv VirtQueue.identityHal .idle [] 0 .wraps ⟨2, 1234⟩ 4321 2; pure none)
          (fun e => pure (some e))
        pure (held, event, after) : EStateM Fault (VsockConnectionManager 512) _).run
          (new s)).value?) =
      some (2, none, some (.err (.socketDeviceError .notConnected))) := by
  decide +kernel

/-- A buffer capacity of zero. The driver connects with a credit of zero, and the peer
sends a data packet with an empty body, within that credit: `poll` panics. -/
theorem zero_capacity_received_panics :
    (VirtIOSocket.new VirtQueue.identityHal (.plain 8) .idle 1 (fun i => 0x10000 + 512 * i) [] :
        Except Fault (VirtIOSocket 512)).toOption.bind (fun s =>
      ((do
        connect VirtQueue.identityHal .idle [txDone 1] 0 ⟨2, 1234⟩ 4321
        poll VirtQueue.identityHal
          (DeviceMemory.idle.complete QUEUE_SIZE RX_QUEUE_IDX 0 0x10000
            (peerHeader ⟨2, 1234⟩ ⟨0, 4321⟩ .rw 0).asBytes) [] 0 :
          EStateM Fault (VsockConnectionManager 512) _).run
          (newWithCapacity s 0)).error?) = some .panic := by
  decide +kernel

end VsockConnectionManager
end VirtioDrivers
