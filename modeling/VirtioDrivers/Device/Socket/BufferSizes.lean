import VirtioDrivers.Device.Socket.ManagerRun

/-! The size of every connection's ring buffer over whole runs of the connection manager.
`Connection::new` makes a buffer of the manager's per-connection capacity, which
`new_with_capacity` takes unchecked; `add` and `drain` write into the buffer and never
resize it, and no call changes the capacity. So between calls every connection's buffer
has exactly that many bytes, and the `%` by `buffer.len()` in `add` and `drain` divides
by the capacity. A capacity of zero makes every `recv` panic there. -/
namespace VirtioDrivers
open Vsock

theorem length_copyToSlice {α : Type} {dst src dst' : List α} {start : Nat}
    (h : copyToSlice dst start src = .ok dst') : dst'.length = dst.length := by
  unfold copyToSlice at h
  split at h
  · rename_i hle
    cases h
    simp only [List.length_append, List.length_take, List.length_drop]
    omega
  · cases h

namespace RingBuffer
variable {rb rb' : RingBuffer}

theorem length_add {bytes : List UInt8} {added : Bool} (h : rb.add bytes = .ok (rb', added)) :
    rb'.buffer.length = rb.buffer.length := by
  unfold add at h
  split at h
  · cases h
    rfl
  · obtain ⟨first, -, h⟩ := Except.bind_eq_ok.mp h
    obtain ⟨buffer, hcopy, h⟩ := Except.bind_eq_ok.mp h
    -- the part past the end, if any, goes to the front of the buffer the first copy left
    simp only at h
    split at h
    · obtain ⟨buffer', hwrap, h⟩ := Except.bind_eq_ok.mp h
      cases h
      exact (length_copyToSlice hwrap).trans (length_copyToSlice hcopy)
    · cases h
      exact length_copyToSlice hcopy

theorem buffer_drain {outLen : Nat} {bytes : List UInt8} (h : rb.drain outLen = .ok (rb', bytes)) :
    rb'.buffer = rb.buffer := by
  unfold drain at h
  obtain ⟨before, -, h⟩ := Except.bind_eq_ok.mp h
  obtain ⟨after, -, h⟩ := Except.bind_eq_ok.mp h
  obtain ⟨start, -, h⟩ := Except.bind_eq_ok.mp h
  cases h
  rfl

theorem drain_of_buffer_nil (h : rb.buffer = []) (outLen : Nat) : rb.drain outLen = .error .panic := by
  simp only [drain, h, List.length_nil, Nat.zero_sub, Nat.min_zero, Nat.sub_zero, Nat.add_zero]
  by_cases hstart : rb.start = 0
  · by_cases hread : min rb.used outLen = 0
    · simp [slice, hstart, hread, remUsize]
    · simp [slice, hstart, hread]
  · simp [slice, hstart]

end RingBuffer

/-- Every connection's ring buffer holds `capacity` bytes. -/
def Sized (capacity : UInt32) (connections : List Connection) : Prop :=
  ∀ c ∈ connections, c.buffer.buffer.length = capacity.toNat

section Sized
variable {capacity : UInt32} {connections connections' : List Connection} {c : Connection}

theorem Sized.set (h : Sized capacity connections) (hc : c.buffer.buffer.length = capacity.toNat)
    (i : Nat) : Sized capacity (connections.set i c) := by
  intro c' hc'
  rcases List.mem_or_eq_of_mem_set hc' with h' | rfl
  · exact h c' h'
  · exact hc

theorem Sized.append_new (h : Sized capacity connections) (peer : VsockAddr) (localPort : UInt32) :
    Sized capacity (connections ++ [Connection.new peer localPort capacity]) := by
  intro c' hc'
  rcases List.mem_append.mp hc' with h' | h'
  · exact h c' h'
  · rw [List.mem_singleton.mp h']
    simp [Connection.new, RingBuffer.new]

theorem mem_of_swapRemove {α : Type} {xs ys : List α} {index : Nat} (h : swapRemove xs index = .ok ys)
    {y : α} (hy : y ∈ ys) : y ∈ xs := by
  unfold swapRemove at h
  split at h
  · rename_i last hlast
    split at h
    · cases h
      rcases List.mem_or_eq_of_mem_set (List.dropLast_subset _ hy) with h' | rfl
      · exact h'
      · exact List.mem_of_getLast? hlast
    · cases h
  · cases h

theorem Sized.swapRemove {index : Nat} (h : Sized capacity connections)
    (hs : swapRemove connections index = .ok connections') : Sized capacity connections' :=
  fun c' hc' => h c' (mem_of_swapRemove hs hc')

theorem Sized.of_getConnection {peer : VsockAddr} {localPort : UInt32} {i : Nat}
    (h : Sized capacity connections) (hget : getConnection connections peer localPort = .ok (i, c)) :
    c.buffer.buffer.length = capacity.toNat := by
  unfold getConnection at hget
  split at hget
  · rename_i c' i' hfind
    cases hget
    exact h c (List.mem_zipIdx_iff_getElem?.mp (List.mem_of_find?_eq_some hfind) |> List.mem_of_getElem?)
  · cases hget

theorem Sized.of_getConnectionForEvent {event : VsockEvent} {localCid : UInt64} {i : Nat}
    (h : Sized capacity connections)
    (hget : getConnectionForEvent connections event localCid = some (i, c)) :
    c.buffer.buffer.length = capacity.toNat :=
  h c (List.mem_of_getElem? (getConnectionForEvent_spec hget).1)

end Sized

namespace OwningQueue
variable {SIZE BUFFER_SIZE : Nat} (H : Hal) (used : UsedRing) (mem : Nat → UInt8)

/-- `poll` keeps an invariant of the state of the closure it runs, when the closure keeps
it: the queue's own steps leave that state alone. -/
theorem pollWith_preserves {ρ T : Type} {Q : ρ → Prop}
    {handler : List UInt8 → ρ → Except Fault (Option T) × ρ}
    (hh : ∀ bytes r, Q r → Q (handler bytes r).2) :
    EStateM.Preserves (fun s : (OwningQueue SIZE BUFFER_SIZE × List TransportCall) × ρ => Q s.2)
      (pollWith H used mem handler) := by
  have hqueue : ∀ {α : Type} (x : EStateM Fault (OwningQueue SIZE BUFFER_SIZE × List TransportCall) α),
      EStateM.Preserves (fun s : (OwningQueue SIZE BUFFER_SIZE × List TransportCall) × ρ => Q s.2)
        (EStateM.zoom Prod.fst (fun s q => (q, s.2)) x) := fun x =>
    .zoom (Q := fun _ _ => True) (fun _ _ => trivial) (fun _ _ _ _ => trivial) fun _ _ hs _ => hs
  unfold pollWith
  refine .bind (hqueue _) fun o => ?_
  rcases o with _ | ⟨buffer, token⟩
  · exact .pure _
  · refine .getThe_bind fun s hs => ?_
    obtain ⟨q, r⟩ := s
    refine .bind (.modifyThe fun _ _ => hh buffer r hs) fun _ => ?_
    split
    · exact .bind (hqueue _) fun _ => .throw _
    · exact .throw _
    · exact .bind (hqueue _) fun _ => .pure _

end OwningQueue

namespace VirtIOSocket
variable {RX_BUFFER_SIZE : Nat} (H : Hal) (used : UsedRing) (mem : Nat → UInt8)

theorem poll_preserves {ρ : Type} {Q : ρ → Prop}
    {handler : VsockEvent → List UInt8 → ρ → Except Fault (Option VsockEvent) × ρ}
    (hh : ∀ event body r, Q r → Q (handler event body r).2) :
    EStateM.Preserves (fun s : VirtIOSocket RX_BUFFER_SIZE × ρ => Q s.2) (poll H used mem handler) := by
  unfold poll
  refine .zoom (Q := fun _ p => Q p.2) (fun _ hs => hs)
    (fun _ _ => OwningQueue.pollWith_preserves H used mem fun bytes r hr => ?_) fun _ _ _ ht => ht
  split
  · exact hr
  · exact hh _ _ r hr

end VirtIOSocket

namespace VsockConnectionManager
variable {RX_BUFFER_SIZE : Nat}

/-- Every connection's buffer has `capacity` bytes, and `capacity` is the manager's
per-connection capacity. -/
def BuffersSized (capacity : UInt32) (m : VsockConnectionManager RX_BUFFER_SIZE) : Prop :=
  m.perConnectionBufferCapacity = capacity ∧ Sized capacity m.connections

/-- The closure of `poll` keeps every buffer at the capacity it makes new ones with: it
stores a body with `add`, and a connection it adds is a new one. -/
theorem sized_pollHandler {guestCid : UInt64} {capacity : UInt32} (event : VsockEvent)
    (body : List UInt8) {connections : List Connection} (h : Sized capacity connections) :
    Sized capacity (pollHandler guestCid capacity event body connections).2 := by
  unfold pollHandler
  simp only
  split
  · exact h
  · rename_i i c cs htarget
    have hsized : Sized capacity cs ∧ c.buffer.buffer.length = capacity.toNat := by
      split at htarget
      · rename_i i' c' hfind
        cases htarget
        exact ⟨h, h.of_getConnectionForEvent hfind⟩
      · split_ifs at htarget
        cases htarget
        exact ⟨h.append_new _ _, by simp [Connection.new, RingBuffer.new]⟩
    obtain ⟨hcs, hc⟩ := hsized
    split
    · -- a received body goes in with `add`, which keeps the buffer's size
      split
      · rename_i buffer added hadd
        have hlen := (RingBuffer.length_add hadd).trans hc
        split <;> exact hcs.set hlen i
      · apply hcs.set _ i
        exact hc
    · apply hcs.set _ i
      exact hc

theorem getConnection_of_socketFault {connections : List Connection} {peer : VsockAddr}
    {localPort : UInt32} {p : Nat × Connection}
    (h : socketFault (getConnection connections peer localPort) = .ok p) :
    getConnection connections peer localPort = .ok p := by
  revert h
  unfold socketFault
  cases getConnection connections peer localPort <;> simp [Except.mapError]

section Preserves
variable (H : Hal) (dm : DeviceMemory) (views : List UsedRing) (stack : Nat) (capacity : UInt32)

theorem withDriver_preserves {α : Type} (x : EStateM Fault (VirtIOSocket RX_BUFFER_SIZE) α) :
    EStateM.Preserves (BuffersSized capacity) (withDriver x) :=
  .zoom (Q := fun _ _ => True) (fun _ _ => trivial) (fun _ _ _ _ => trivial) fun _ _ hs _ => hs

theorem removeConnection_preserves (index : Nat) :
    EStateM.Preserves (BuffersSized capacity)
      (removeConnection index : EStateM Fault (VsockConnectionManager RX_BUFFER_SIZE) Unit) :=
  .getThe_bind fun _ hm => .ofExcept_bind fun _ hs => .set ⟨hm.1, hm.2.swapRemove hs⟩

theorem connect_preserves (destination : VsockAddr) (srcPort : UInt32) :
    EStateM.Preserves (BuffersSized capacity)
      (connect H dm views stack destination srcPort : EStateM Fault (VsockConnectionManager RX_BUFFER_SIZE) Unit) := by
  refine .getThe_bind fun m hm => ?_
  simp only
  split
  · exact .throw_bind _ _
  refine .bind (withDriver_preserves capacity _) fun _ => .modifyThe fun m' hm' => ?_
  refine ⟨hm'.1, ?_⟩
  rw [hm.1]
  exact hm'.2.append_new _ _

theorem pollEvent_preserves (guestCid : UInt64) (event : VsockEvent) :
    EStateM.Preserves (BuffersSized capacity)
      (pollEvent H dm views stack guestCid event : EStateM Fault (VsockConnectionManager RX_BUFFER_SIZE) _) := by
  refine .getThe_bind fun m hm => ?_
  split
  · rename_i i c hfind
    have hc := hm.2.of_getConnectionForEvent hfind
    split
    · split
      · exact .bind (withDriver_preserves capacity _) fun _ => .pure _
      · exact .bind (withDriver_preserves capacity _) fun _ =>
          .bind (removeConnection_preserves capacity _) fun _ => .pure _
    · simp only
      split
      · split
        · exact .bind (withDriver_preserves capacity _) fun _ =>
            .bind (removeConnection_preserves capacity _) fun _ => .pure _
        · exact .bind (removeConnection_preserves capacity _) fun _ => .pure _
      · -- a shut-down connection stays, marked, with its buffer
        exact .bind (.modifyThe fun m' hm' =>
          ⟨hm'.1, hm'.2.set (c := { c with peerRequestedShutdown := true }) hc i⟩) fun _ => .pure _
    · exact .bind (withDriver_preserves capacity _) fun _ => .pure _
    · exact .pure _
  · exact .throw _

theorem poll_preserves :
    EStateM.Preserves (BuffersSized capacity)
      (poll H dm views stack : EStateM Fault (VsockConnectionManager RX_BUFFER_SIZE) _) := by
  refine .getThe_bind fun m hm => ?_
  refine .bind (.zoom (Q := fun _ p => Sized capacity p.2) (fun _ hs => hs.2)
    (fun _ _ => VirtIOSocket.poll_preserves H _ _ fun event body r hr => ?_)
    fun _ _ hs ht => ⟨hs.1, ht⟩) fun result => ?_
  · rw [hm.1]
    exact sized_pollHandler event body hr
  · rcases result with _ | event
    · exact .pure _
    · exact pollEvent_preserves H dm views stack capacity _ _

theorem updateCredit_preserves (peer : VsockAddr) (srcPort : UInt32) :
    EStateM.Preserves (BuffersSized capacity)
      (updateCredit H dm views stack peer srcPort : EStateM Fault (VsockConnectionManager RX_BUFFER_SIZE) Unit) :=
  .getThe_bind fun _ _ => .ofExcept_bind fun _ _ => withDriver_preserves capacity _

theorem shutdown_preserves (destination : VsockAddr) (srcPort : UInt32) :
    EStateM.Preserves (BuffersSized capacity)
      (shutdown H dm views stack destination srcPort : EStateM Fault (VsockConnectionManager RX_BUFFER_SIZE) Unit) :=
  .getThe_bind fun _ _ => .ofExcept_bind fun _ _ => withDriver_preserves capacity _

theorem forceClose_preserves (destination : VsockAddr) (srcPort : UInt32) :
    EStateM.Preserves (BuffersSized capacity)
      (forceClose H dm views stack destination srcPort : EStateM Fault (VsockConnectionManager RX_BUFFER_SIZE) Unit) :=
  .getThe_bind fun _ _ => .ofExcept_bind fun _ _ =>
    .bind (withDriver_preserves capacity _) fun _ => removeConnection_preserves capacity _

variable (o : Overflow)

theorem send_preserves (checkViews : List UsedRing) (destination : VsockAddr) (srcPort : UInt32)
    (buffer : Buf) :
    EStateM.Preserves (BuffersSized capacity)
      (send H dm views stack o checkViews destination srcPort buffer :
        EStateM Fault (VsockConnectionManager RX_BUFFER_SIZE) Unit) := by
  refine .getThe_bind fun m hm => .ofExcept_bind fun p hget => ?_
  obtain ⟨index, connection⟩ := p
  have hc := hm.2.of_getConnection (getConnection_of_socketFault hget)
  refine .zoom (Q := fun _ _ => True) (fun _ _ => trivial) (fun _ _ _ _ => trivial)
    fun _ _ hs _ => ⟨hs.1, ?_⟩
  apply hs.2.set _ index
  exact hc

theorem recv_preserves (peer : VsockAddr) (srcPort : UInt32) (outLen : Nat) :
    EStateM.Preserves (BuffersSized capacity)
      (recv H dm views stack o peer srcPort outLen :
        EStateM Fault (VsockConnectionManager RX_BUFFER_SIZE) _) := by
  refine .getThe_bind fun m hm => .ofExcept_bind fun p hget => ?_
  obtain ⟨index, connection⟩ := p
  have hc := hm.2.of_getConnection (getConnection_of_socketFault hget)
  refine .ofExcept_bind fun q hdrain => .ofExcept_bind fun info _ => ?_
  obtain ⟨buffer, bytes⟩ := q
  have hlen : buffer.buffer.length = capacity.toNat := by
    rw [RingBuffer.buffer_drain hdrain]
    exact hc
  refine .bind (.set ⟨hm.1, hm.2.set hlen index⟩) fun _ => ?_
  simp only
  split
  · exact .bind (withDriver_preserves capacity _) fun _ =>
      .bind (removeConnection_preserves capacity _) fun _ => .pure _
  · exact .pure _

end Preserves

/-! ### Runs -/

/-- A call returned to its caller, with a value or with an error, leaving `s'`; a panic,
or a device that never answers, ends the run. -/
def Returned {σ α : Type} (r : EStateM.Result Fault σ α) (s' : σ) : Prop :=
  (∃ a, r = .ok a s') ∨ ∃ e, r = .error (.err e) s'

theorem Returned.state_eq {σ α : Type} {r : EStateM.Result Fault σ α} {s' : σ} (h : Returned r s') :
    r.state = s' := by
  rcases h with ⟨a, rfl⟩ | ⟨e, rfl⟩ <;> rfl

/-- One call of the manager's interface that returns, the device behaving in any way. -/
inductive Step (H : Hal) : VsockConnectionManager RX_BUFFER_SIZE → VsockConnectionManager RX_BUFFER_SIZE → Prop
  | connect {m m' : VsockConnectionManager RX_BUFFER_SIZE} (dm : DeviceMemory) (views : List UsedRing)
      (stack : Nat) (destination : VsockAddr) (srcPort : UInt32) :
      Returned ((connect H dm views stack destination srcPort).run m) m' → Step H m m'
  | poll {m m' : VsockConnectionManager RX_BUFFER_SIZE} (dm : DeviceMemory) (views : List UsedRing)
      (stack : Nat) :
      Returned ((poll H dm views stack).run m) m' → Step H m m'
  | recv {m m' : VsockConnectionManager RX_BUFFER_SIZE} (dm : DeviceMemory) (views : List UsedRing)
      (stack : Nat) (o : Overflow) (peer : VsockAddr) (srcPort : UInt32) (outLen : Nat) :
      Returned ((recv H dm views stack o peer srcPort outLen).run m) m' → Step H m m'
  | send {m m' : VsockConnectionManager RX_BUFFER_SIZE} (dm : DeviceMemory) (views : List UsedRing)
      (stack : Nat) (o : Overflow) (checkViews : List UsedRing) (destination : VsockAddr)
      (srcPort : UInt32) (buffer : Buf) :
      Returned ((send H dm views stack o checkViews destination srcPort buffer).run m) m' → Step H m m'
  | updateCredit {m m' : VsockConnectionManager RX_BUFFER_SIZE} (dm : DeviceMemory)
      (views : List UsedRing) (stack : Nat) (peer : VsockAddr) (srcPort : UInt32) :
      Returned ((updateCredit H dm views stack peer srcPort).run m) m' → Step H m m'
  | shutdown {m m' : VsockConnectionManager RX_BUFFER_SIZE} (dm : DeviceMemory) (views : List UsedRing)
      (stack : Nat) (destination : VsockAddr) (srcPort : UInt32) :
      Returned ((shutdown H dm views stack destination srcPort).run m) m' → Step H m m'
  | forceClose {m m' : VsockConnectionManager RX_BUFFER_SIZE} (dm : DeviceMemory) (views : List UsedRing)
      (stack : Nat) (destination : VsockAddr) (srcPort : UInt32) :
      Returned ((forceClose H dm views stack destination srcPort).run m) m' → Step H m m'
  | listen {m : VsockConnectionManager RX_BUFFER_SIZE} (port : UInt32) : Step H m (m.listen port)
  | unlisten {m : VsockConnectionManager RX_BUFFER_SIZE} (port : UInt32) : Step H m (m.unlisten port)

/-- The managers a run of calls reaches from `new_with_capacity(driver, capacity)`. -/
def Reachable (H : Hal) (driver : VirtIOSocket RX_BUFFER_SIZE) (capacity : UInt32)
    (m : VsockConnectionManager RX_BUFFER_SIZE) : Prop :=
  Relation.ReflTransGen (Step H) (newWithCapacity driver capacity) m

section Run
variable {H : Hal} {capacity : UInt32} {m m' : VsockConnectionManager RX_BUFFER_SIZE}

theorem BuffersSized.of_returned {α : Type} {x : EStateM Fault (VsockConnectionManager RX_BUFFER_SIZE) α}
    (hx : EStateM.Preserves (BuffersSized capacity) x) (h : BuffersSized capacity m)
    (hret : Returned (x.run m) m') : BuffersSized capacity m' :=
  hret.state_eq ▸ hx m h

theorem BuffersSized.step (h : BuffersSized capacity m) (hs : Step H m m') : BuffersSized capacity m' := by
  cases hs with
  | connect dm views stack destination srcPort hret =>
    exact h.of_returned (connect_preserves H dm views stack capacity destination srcPort) hret
  | poll dm views stack hret => exact h.of_returned (poll_preserves H dm views stack capacity) hret
  | recv dm views stack o peer srcPort outLen hret =>
    exact h.of_returned (recv_preserves H dm views stack capacity o peer srcPort outLen) hret
  | send dm views stack o checkViews destination srcPort buffer hret =>
    exact h.of_returned (send_preserves H dm views stack capacity o checkViews destination srcPort buffer) hret
  | updateCredit dm views stack peer srcPort hret =>
    exact h.of_returned (updateCredit_preserves H dm views stack capacity peer srcPort) hret
  | shutdown dm views stack destination srcPort hret =>
    exact h.of_returned (shutdown_preserves H dm views stack capacity destination srcPort) hret
  | forceClose dm views stack destination srcPort hret =>
    exact h.of_returned (forceClose_preserves H dm views stack capacity destination srcPort) hret
  | listen port =>
    unfold listen
    split
    · exact h
    · exact h
  | unlisten port => exact h

theorem Reachable.buffersSized {driver : VirtIOSocket RX_BUFFER_SIZE}
    (hr : Reachable H driver capacity m) : BuffersSized capacity m := by
  induction hr with
  | refl => exact ⟨rfl, fun c hc => by simp [newWithCapacity] at hc⟩
  | tail _ hs ih => exact ih.step hs

end Run

theorem getConnection_of_mem {connections : List Connection} {c : Connection} (hc : c ∈ connections) :
    ∃ i c', getConnection connections c.info.dst c.info.srcPort = .ok (i, c') ∧ c' ∈ connections := by
  unfold getConnection
  split
  · rename_i c' i hfind
    exact ⟨i, c', rfl,
      List.mem_of_getElem? (List.mem_zipIdx_iff_getElem?.mp (List.mem_of_find?_eq_some hfind))⟩
  · rename_i hnone
    obtain ⟨n, hn⟩ := List.mem_iff_getElem?.mp hc
    have hno := List.find?_eq_none.mp hnone (c, n) (List.mem_zipIdx_iff_getElem?.mpr hn)
    simp at hno

/-- A manager made with a per-connection capacity of zero, which `new_with_capacity`
accepts: in every run of calls, with the device behaving in any way, a `recv` on any
connection the manager holds panics, its buffer having no bytes for `drain` to take the
`%` by. -/
theorem recv_panics_at_zero_capacity (H : Hal) (driver : VirtIOSocket RX_BUFFER_SIZE)
    {m : VsockConnectionManager RX_BUFFER_SIZE} (hr : Reachable H driver 0 m) {c : Connection}
    (hc : c ∈ m.connections) (dm : DeviceMemory) (views : List UsedRing) (stack : Nat) (o : Overflow)
    (outLen : Nat) :
    (recv H dm views stack o c.info.dst c.info.srcPort outLen).run m = .error .panic m := by
  obtain ⟨-, hsized⟩ := hr.buffersSized
  obtain ⟨i, c', hget, hc'⟩ := getConnection_of_mem hc
  have hnil : c'.buffer.buffer = [] := List.eq_nil_of_length_eq_zero (by simpa using hsized c' hc')
  simp [recv, EStateM.run, EStateM.bind_apply, socketFault, hget, Except.mapError,
    RingBuffer.drain_of_buffer_nil hnil]

/-- The driver connects from port 4321 to port 1234 of context 2 on a manager of
capacity zero, and then reads 16 bytes from the connection. -/
theorem recv_panics_at_zero_capacity_after_connect :
    ∃ m : VsockConnectionManager 512,
      Reachable VirtQueue.identityHal
        ⟨[], ⟨VirtQueue.init 0 false false, fun i => 0x10000 + 512 * i⟩, VirtQueue.init 1 false false,
          VirtQueue.init 2 false false, 3⟩ 0 m ∧
      Connection.new ⟨2, 1234⟩ 4321 0 ∈ m.connections ∧
      (recv VirtQueue.identityHal .idle [] 0 .wraps ⟨2, 1234⟩ 4321 16).run m = .error .panic m := by
  have hconnect : ((connect VirtQueue.identityHal .idle [txDone 1] 0 ⟨2, 1234⟩ 4321).run
      (newWithCapacity (⟨[], ⟨VirtQueue.init 0 false false, fun i => 0x10000 + 512 * i⟩,
        VirtQueue.init 1 false false, VirtQueue.init 2 false false, 3⟩ : VirtIOSocket 512) 0)).state?.map
      (·.connections) = some [Connection.new ⟨2, 1234⟩ 4321 0] := by
    decide +kernel
  cases h : (connect VirtQueue.identityHal .idle [txDone 1] 0 ⟨2, 1234⟩ 4321).run
      (newWithCapacity (⟨[], ⟨VirtQueue.init 0 false false, fun i => 0x10000 + 512 * i⟩,
        VirtQueue.init 1 false false, VirtQueue.init 2 false false, 3⟩ : VirtIOSocket 512) 0) with
  | error e m' => simp [h, EStateM.Result.state?] at hconnect
  | ok u m' =>
    simp only [h, EStateM.Result.state?, Option.map_some, Option.some.injEq] at hconnect
    have hr : Reachable VirtQueue.identityHal
        ⟨[], ⟨VirtQueue.init 0 false false, fun i => 0x10000 + 512 * i⟩, VirtQueue.init 1 false false,
          VirtQueue.init 2 false false, 3⟩ 0 m' :=
      .single (Step.connect .idle [txDone 1] 0 ⟨2, 1234⟩ 4321 (.inl ⟨u, h⟩))
    have hc : Connection.new ⟨2, 1234⟩ 4321 0 ∈ m'.connections := by
      rw [hconnect]
      exact List.mem_singleton_self _
    exact ⟨m', hr, hc, recv_panics_at_zero_capacity VirtQueue.identityHal _ hr hc .idle [] 0 .wraps 16⟩

end VsockConnectionManager

end VirtioDrivers
