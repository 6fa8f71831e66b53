import VirtioDrivers.Device.Socket.Vsock
import VirtioDrivers.Device.Socket.RingBuffer

/-! The connection manager over the socket driver (`device/socket/connectionmanager.rs`).
It keeps a list of connections, each with its credit state and a ring buffer of received
bytes, and the ports it listens on. `poll` hands the driver a closure that finds (or, for
a connection request, adds) the event's connection and stores a received body; after the
driver returns, `poll` answers requests, removes disconnected connections and answers
credit requests. Removing a connection is `Vec::swap_remove`. -/
namespace VirtioDrivers
open Vsock

def DEFAULT_PER_CONNECTION_BUFFER_CAPACITY : UInt32 := 1024

/-- `Connection`: the peer sent a shutdown that waits until the buffer is read. -/
structure Connection where
  info : ConnectionInfo
  buffer : RingBuffer
  peerRequestedShutdown : Bool
deriving DecidableEq, Repr

/-- `Connection::new`: the buffer capacity is also what we tell the peer we have
allocated. A `u32` always fits a `usize`. -/
def Connection.new (peer : VsockAddr) (localPort bufferCapacity : UInt32) : Connection :=
  ⟨{ ConnectionInfo.new peer localPort with bufAlloc := bufferCapacity },
    RingBuffer.new bufferCapacity.toNat, false⟩

/-- A `SocketError` as the error of a driver call. -/
def socketFault {α : Type} (r : Except SocketError α) : Except Fault α :=
  r.mapError fun e => .err (.socketDeviceError e)

/-- `Vec::swap_remove(index)`: the last element takes the place of the one removed; an
index out of range panics. -/
def swapRemove {α : Type} (xs : List α) (index : Nat) : Except Fault (List α) :=
  match xs.getLast? with
  | some last => if index < xs.length then pure ((xs.set index last).dropLast) else throw .panic
  | none => throw .panic

/-- `get_connection`: the first connection to `peer` from `localPort`, and its index. -/
def getConnection (connections : List Connection) (peer : VsockAddr) (localPort : UInt32) :
    Except SocketError (Nat × Connection) :=
  match connections.zipIdx.find? (fun p => p.1.info.dst == peer && p.1.info.srcPort == localPort) with
  | some (connection, i) => pure (i, connection)
  | none => throw .notConnected

/-- `get_connection_for_event`: the first connection the event matches, and its index. -/
def getConnectionForEvent (connections : List Connection) (event : VsockEvent) (localCid : UInt64) :
    Option (Nat × Connection) :=
  match connections.zipIdx.find? (fun p => event.matchesConnection p.1.info localCid) with
  | some (connection, i) => some (i, connection)
  | none => none

structure VsockConnectionManager (RX_BUFFER_SIZE : Nat) where
  driver : VirtIOSocket RX_BUFFER_SIZE
  perConnectionBufferCapacity : UInt32
  connections : List Connection
  listeningPorts : List UInt32

namespace VsockConnectionManager
variable {RX_BUFFER_SIZE : Nat}

def newWithCapacity (driver : VirtIOSocket RX_BUFFER_SIZE) (perConnectionBufferCapacity : UInt32) :
    VsockConnectionManager RX_BUFFER_SIZE :=
  ⟨driver, perConnectionBufferCapacity, [], []⟩

def new (driver : VirtIOSocket RX_BUFFER_SIZE) : VsockConnectionManager RX_BUFFER_SIZE :=
  newWithCapacity driver DEFAULT_PER_CONNECTION_BUFFER_CAPACITY

def listen (port : UInt32) (m : VsockConnectionManager RX_BUFFER_SIZE) :
    VsockConnectionManager RX_BUFFER_SIZE :=
  if m.listeningPorts.contains port then m else { m with listeningPorts := m.listeningPorts ++ [port] }

def unlisten (port : UInt32) (m : VsockConnectionManager RX_BUFFER_SIZE) :
    VsockConnectionManager RX_BUFFER_SIZE :=
  { m with listeningPorts := m.listeningPorts.filter (· != port) }

/-- The closure `poll` hands the driver: the event's connection, or for a connection
request to our context id a new one at the end of the list, takes the peer's buffer
status and stores a received body. -/
def pollHandler (guestCid : UInt64) (perConnectionBufferCapacity : UInt32) (event : VsockEvent)
    (body : List UInt8) (connections : List Connection) :
    Except Fault (Option VsockEvent) × List Connection :=
  let connection := getConnectionForEvent connections event guestCid
  let target : Option (Nat × Connection × List Connection) :=
    match connection with
    | some (i, c) => some (i, c, connections)
    | none =>
      if event.eventType = .connectionRequest then
        -- `connection.is_some()` cannot hold in this branch
        if connection.isSome || event.destination.cid != guestCid then none
        else
          let c := Connection.new event.source event.destination.port perConnectionBufferCapacity
          some (connections.length, c, connections ++ [c])
      else none
  match target with
  | none => (.ok none, connections)
  | some (i, c, connections) =>
    let c := { c with info := c.info.updateForEvent event }
    match event.eventType with
    | .received length =>
      match c.buffer.add body with
      | .ok (buffer, added) =>
        let connections := connections.set i { c with buffer := buffer }
        if added then (.ok (some event), connections)
        else (.error (.err (.socketDeviceError (.outputBufferTooShort length))), connections)
      | .error f => (.error f, connections.set i c)
    | _ => (.ok (some event), connections.set i c)

section Calls
variable (H : Hal) (dm : DeviceMemory) (views : List UsedRing) (stack : Nat)

/-- Runs a method of the driver on the manager. -/
def withDriver {α : Type} (m : EStateM Fault (VirtIOSocket RX_BUFFER_SIZE) α) :
    EStateM Fault (VsockConnectionManager RX_BUFFER_SIZE) α :=
  EStateM.zoom (·.driver) (fun m d => { m with driver := d }) m

/-- `self.connections.swap_remove(index)`. -/
def removeConnection (index : Nat) : EStateM Fault (VsockConnectionManager RX_BUFFER_SIZE) Unit := do
  let m ← getThe (VsockConnectionManager RX_BUFFER_SIZE)
  let connections ← MonadExcept.ofExcept (swapRemove m.connections index)
  set { m with connections := connections }

/-- `connect(destination, src_port)`: a request to the peer, and a new connection. -/
def connect (destination : VsockAddr) (srcPort : UInt32) :
    EStateM Fault (VsockConnectionManager RX_BUFFER_SIZE) Unit := do
  let m ← getThe (VsockConnectionManager RX_BUFFER_SIZE)
  if m.connections.any (fun c => c.info.dst == destination && c.info.srcPort == srcPort) then
    throw (.err (.socketDeviceError .connectionExists))
  let newConnection := Connection.new destination srcPort m.perConnectionBufferCapacity
  withDriver (VirtIOSocket.connect H dm views stack newConnection.info)
  modifyThe (VsockConnectionManager RX_BUFFER_SIZE)
    fun m => { m with connections := m.connections ++ [newConnection] }

/-- The part of `poll` after the driver returned an event: a connection request is
accepted on a port we listen on and otherwise refused and removed; a disconnected
connection is removed once its buffer is empty; a credit request is answered. -/
def pollEvent (guestCid : UInt64) (event : VsockEvent) :
    EStateM Fault (VsockConnectionManager RX_BUFFER_SIZE) (Option VsockEvent) := do
  let m ← getThe (VsockConnectionManager RX_BUFFER_SIZE)
  -- the closure found or added the connection: the `unwrap`
  let some (connectionIndex, connection) := getConnectionForEvent m.connections event guestCid
    | throw .panic
  match event.eventType with
  | .connectionRequest =>
    if m.listeningPorts.contains event.destination.port then
      withDriver (VirtIOSocket.accept H dm views stack connection.info)
      pure (some event)
    else
      withDriver (VirtIOSocket.forceClose H dm views stack connection.info)
      removeConnection connectionIndex
      pure none
  | .disconnected reason =>
    if connection.buffer.isEmpty then
      if reason = .shutdown then
        withDriver (VirtIOSocket.forceClose H dm views stack connection.info)
      removeConnection connectionIndex
    else
      let connection := { connection with peerRequestedShutdown := true }
      modifyThe (VsockConnectionManager RX_BUFFER_SIZE) fun m =>
        { m with connections := m.connections.set connectionIndex connection }
    pure (some event)
  | .creditRequest =>
    withDriver (VirtIOSocket.creditUpdate H dm views stack connection.info)
    pure none
  | _ => pure (some event)

/-- `poll()`: the driver's poll with `pollHandler` on the connections, then `pollEvent`. -/
def poll : EStateM Fault (VsockConnectionManager RX_BUFFER_SIZE) (Option VsockEvent) := do
  let m ← getThe (VsockConnectionManager RX_BUFFER_SIZE)
  let guestCid := m.driver.guestCid
  let result ← EStateM.zoom (fun m => (m.driver, m.connections))
    (fun m p => { m with driver := p.1, connections := p.2 })
    (VirtIOSocket.poll H (dm.used RX_QUEUE_IDX) dm.mem
      (pollHandler guestCid m.perConnectionBufferCapacity))
  let some event := result | pure none
  pollEvent H dm views stack guestCid event

/-- `wait_for_event()`: polls, one view of the device for each try, until an event comes. -/
def waitForEvent : List DeviceMemory → EStateM Fault (VsockConnectionManager RX_BUFFER_SIZE) VsockEvent
  | [] => throw .stuck
  | dm :: dms => do
    match ← poll H dm views stack with
    | some event => pure event
    | none => waitForEvent dms

def updateCredit (peer : VsockAddr) (srcPort : UInt32) :
    EStateM Fault (VsockConnectionManager RX_BUFFER_SIZE) Unit := do
  let m ← getThe (VsockConnectionManager RX_BUFFER_SIZE)
  let (_, connection) ← MonadExcept.ofExcept (socketFault (getConnection m.connections peer srcPort))
  withDriver (VirtIOSocket.creditUpdate H dm views stack connection.info)

def shutdown (destination : VsockAddr) (srcPort : UInt32) :
    EStateM Fault (VsockConnectionManager RX_BUFFER_SIZE) Unit := do
  let m ← getThe (VsockConnectionManager RX_BUFFER_SIZE)
  let (_, connection) ← MonadExcept.ofExcept
    (socketFault (getConnection m.connections destination srcPort))
  withDriver (VirtIOSocket.shutdown H dm views stack connection.info)

/-- `force_close(destination, src_port)`: a reset to the peer, and the connection goes. -/
def forceClose (destination : VsockAddr) (srcPort : UInt32) :
    EStateM Fault (VsockConnectionManager RX_BUFFER_SIZE) Unit := do
  let m ← getThe (VsockConnectionManager RX_BUFFER_SIZE)
  let (index, connection) ← MonadExcept.ofExcept
    (socketFault (getConnection m.connections destination srcPort))
  withDriver (VirtIOSocket.forceClose H dm views stack connection.info)
  removeConnection index

def recvBufferAvailableBytes (peer : VsockAddr) (srcPort : UInt32) :
    EStateM Fault (VsockConnectionManager RX_BUFFER_SIZE) Nat := do
  let m ← getThe (VsockConnectionManager RX_BUFFER_SIZE)
  let (_, connection) ← MonadExcept.ofExcept (socketFault (getConnection m.connections peer srcPort))
  pure connection.buffer.used

variable (o : Overflow)

/-- `send(destination, src_port, buffer)`: the driver's send on the connection's info. -/
def send (checkViews : List UsedRing) (destination : VsockAddr) (srcPort : UInt32) (buffer : Buf) :
    EStateM Fault (VsockConnectionManager RX_BUFFER_SIZE) Unit := do
  let m ← getThe (VsockConnectionManager RX_BUFFER_SIZE)
  let (index, connection) ← MonadExcept.ofExcept
    (socketFault (getConnection m.connections destination srcPort))
  EStateM.zoom (fun m => (m.driver, connection.info))
    (fun m p => { m with
      driver := p.1
      connections := m.connections.set index { connection with info := p.2 } })
    (VirtIOSocket.send H dm views stack o checkViews buffer)

/-- `recv(peer, src_port, buffer)` into a buffer of `outLen` bytes: the bytes read, which
the peer may now send again; a connection the peer has shut down goes once it is read. -/
def recv (peer : VsockAddr) (srcPort : UInt32) (outLen : Nat) :
    EStateM Fault (VsockConnectionManager RX_BUFFER_SIZE) (List UInt8) := do
  let m ← getThe (VsockConnectionManager RX_BUFFER_SIZE)
  let (connectionIndex, connection) ← MonadExcept.ofExcept
    (socketFault (getConnection m.connections peer srcPort))
  let (buffer, bytes) ← MonadExcept.ofExcept (connection.buffer.drain outLen)
  let info ← MonadExcept.ofExcept (connection.info.doneForwarding o bytes.length)
  let connection := { connection with buffer := buffer, info := info }
  set { m with connections := m.connections.set connectionIndex connection }
  if connection.peerRequestedShutdown && connection.buffer.isEmpty then
    withDriver (VirtIOSocket.forceClose H dm views stack connection.info)
    removeConnection connectionIndex
  pure bytes

end Calls
end VsockConnectionManager
end VirtioDrivers
