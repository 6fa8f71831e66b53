import VirtioDrivers.Queue.OwningRun
import VirtioDrivers.Queue.New

/-! The input driver (`device/input.rs`): an event queue that the driver fills at once
with one 8-byte event buffer per descriptor, and a status queue it never uses. The
device writes events into the buffers; `pop_pending_event` takes the next one and puts
its buffer back. The configuration queries are modelled in `InputConfig`. -/
namespace VirtioDrivers
open Transport

namespace Input

def QUEUE_EVENT : UInt16 := 0
def QUEUE_STATUS : UInt16 := 1
def QUEUE_SIZE : Nat := 32

def SUPPORTED_FEATURES : UInt64 := Features.RING_EVENT_IDX ||| Features.RING_INDIRECT_DESC

/-- `size_of::<InputEvent>()`: a `u16` type, a `u16` code and a `u32` value. -/
def EVENT_SIZE : Nat := 8

end Input

open Input

/-- `VirtIOInput`: the transport's calls so far, the two queues, and where the box of
event buffers is. -/
structure VirtIOInput where
  transport : List TransportCall
  eventQueue : VirtQueue QUEUE_SIZE
  statusQueue : VirtQueue QUEUE_SIZE
  eventBuf : Nat

namespace VirtIOInput
variable (H : Hal) (T : TransportBehaviour) (dm : DeviceMemory)

/-- Event buffer `i` of the box at `eventBuf`. -/
def event (eventBuf i : Nat) : Nat := eventBuf + EVENT_SIZE * i

/-- The loop of `new` that lends every event buffer to the device: buffer `i` must get
token `i`. It is the loop of `OwningQueue::new` over the event buffers. -/
def fillEventQueue (eventBuf : Nat) (q : VirtQueue QUEUE_SIZE) : Except Fault (VirtQueue QUEUE_SIZE) :=
  OwningQueue.addAll H EVENT_SIZE (event eventBuf) (List.range QUEUE_SIZE) q

/-- The part of `new` that talks to the transport: negotiation, the two queues, the
event buffers, a notification if the device asks for one, and `finish_init`. -/
def initDevice (eventBuf : Nat) :
    EStateM Fault (List TransportCall) (VirtQueue QUEUE_SIZE × VirtQueue QUEUE_SIZE) := do
  let negotiatedFeatures ← beginInit T SUPPORTED_FEATURES
  let eventQueue ← VirtQueue.new H T QUEUE_EVENT
    (Features.contains negotiatedFeatures Features.RING_INDIRECT_DESC)
    (Features.contains negotiatedFeatures Features.RING_EVENT_IDX)
  let statusQueue ← VirtQueue.new H T QUEUE_STATUS
    (Features.contains negotiatedFeatures Features.RING_INDIRECT_DESC)
    (Features.contains negotiatedFeatures Features.RING_EVENT_IDX)
  let eventQueue ← MonadExcept.ofExcept (fillEventQueue H eventBuf eventQueue)
  if eventQueue.shouldNotify (dm.used QUEUE_EVENT) then
    notify QUEUE_EVENT
  finishInit
  pure (eventQueue, statusQueue)

/-- `VirtIOInput::new`: the event buffers are a new box from the allocator. -/
def new (transport : List TransportCall) : Except Fault VirtIOInput :=
  let eventBuf := H.boxAddr (EVENT_SIZE * QUEUE_SIZE)
  match (initDevice H T dm eventBuf).run transport with
  | .error e _ => .error e
  | .ok (eventQueue, statusQueue) log => .ok ⟨log, eventQueue, statusQueue, eventBuf⟩

def ackInterrupt : EStateM Fault VirtIOInput Bool :=
  EStateM.zoom (·.transport) (fun v log => { v with transport := log }) (Transport.ackInterrupt T)

/-- `pop_pending_event`: the event the device wrote into the next buffer it used; the
buffer goes back in the queue, where it must get the same token. An error from the pop
or the add is `None`. -/
def popPendingEvent : EStateM Fault VirtIOInput (Option (List UInt8)) := do
  let v ← getThe VirtIOInput
  let some token := v.eventQueue.peekUsed (dm.used QUEUE_EVENT) | pure none
  let event ← MonadExcept.ofExcept (getIdx (event v.eventBuf) QUEUE_SIZE token)
  let buffer : Buf := ⟨event, EVENT_SIZE⟩
  let some (q, _, _) ← MonadExcept.ofExcept
      (Fault.ok (v.eventQueue.popUsed H (dm.used QUEUE_EVENT) token [] [buffer]))
    | pure none
  set { v with eventQueue := q }
  let eventSaved := Memory.read dm.mem event EVENT_SIZE
  let some (q, newToken) ← MonadExcept.ofExcept (Fault.ok (q.add H [] [buffer])) | pure none
  set { v with eventQueue := q }
  MonadExcept.ofExcept (assert (newToken == token))
  if q.shouldNotify (dm.used QUEUE_EVENT) then
    EStateM.zoom (·.transport) (fun v log => { v with transport := log }) (notify QUEUE_EVENT)
  pure (some eventSaved)

/-! ### `new` notifies before `DRIVER_OK` -/

theorem fillEventQueue_init (eventBuf : Nat) (indirect eventIdx : Bool) :
    ∃ q, fillEventQueue H eventBuf (VirtQueue.init QUEUE_EVENT indirect eventIdx) = .ok q ∧
      q.availIdx = UInt16.ofNat QUEUE_SIZE := by
  obtain ⟨q, hnew, -, -, havail⟩ := @OwningQueue.new_eq_ok QUEUE_SIZE EVENT_SIZE
    H (by decide) ⟨by decide, by decide⟩ (event eventBuf) QUEUE_EVENT indirect eventIdx
  obtain ⟨q', hq', hpure⟩ := Except.bind_eq_ok.mp hnew
  cases hpure
  exact ⟨q, hq', havail⟩

theorem shouldNotify_of_filled {q : VirtQueue QUEUE_SIZE} (havail : q.availIdx = UInt16.ofNat QUEUE_SIZE) :
    q.shouldNotify UsedRing.zero = true := by
  unfold VirtQueue.shouldNotify
  split
  · rw [havail]
    decide
  · rfl

/-- The calls of a successful `initDevice` on a device that has not written the event
queue's device area: the event buffers make the queue ask for a notification, which is
sent before `finish_init`. -/
theorem initDevice_ok_spec {eventBuf : Nat} {log log' : List TransportCall}
    {r : VirtQueue QUEUE_SIZE × VirtQueue QUEUE_SIZE} (hused : dm.used QUEUE_EVENT = UsedRing.zero)
    (h : (initDevice H T dm eventBuf).run log = .ok r log') :
    ∃ device d a u d' a' u', log' = log ++ beginInitCalls device SUPPORTED_FEATURES ++
      [.queueUsed QUEUE_EVENT, .maxQueueSize QUEUE_EVENT, .requiresLegacyLayout,
        .queueSet QUEUE_EVENT (UInt32.ofNat QUEUE_SIZE) d a u,
        .queueUsed QUEUE_STATUS, .maxQueueSize QUEUE_STATUS, .requiresLegacyLayout,
        .queueSet QUEUE_STATUS (UInt32.ofNat QUEUE_SIZE) d' a' u',
        .notify QUEUE_EVENT, .setStatus ⟨15⟩] := by
  unfold initDevice at h
  simp only at h
  obtain ⟨f, log₁, h₁, h⟩ := EStateM.run_bind_eq_ok.mp h
  simp only [run_beginInit, EStateM.Result.ok.injEq] at h₁
  obtain ⟨-, rfl⟩ := h₁
  obtain ⟨eq, log₂, h₂, h⟩ := EStateM.run_bind_eq_ok.mp h
  obtain ⟨rfl, d, a, u, rfl⟩ := VirtQueue.new_ok_spec h₂
  obtain ⟨sq, log₃, h₃, h⟩ := EStateM.run_bind_eq_ok.mp h
  obtain ⟨rfl, d', a', u', rfl⟩ := VirtQueue.new_ok_spec h₃
  obtain ⟨eq', log₄, h₄, h⟩ := EStateM.run_bind_eq_ok.mp h
  obtain ⟨hfill, rfl⟩ := EStateM.run_ofExcept_eq_ok.mp h₄
  obtain ⟨q, hq, havail⟩ := fillEventQueue_init H eventBuf
    (Features.contains f Features.RING_INDIRECT_DESC) (Features.contains f Features.RING_EVENT_IDX)
  have hnotify : q.shouldNotify (dm.used QUEUE_EVENT) = true := by
    rw [hused]
    exact shouldNotify_of_filled havail
  rw [hq] at hfill
  cases hfill
  rw [if_pos hnotify] at h
  obtain ⟨_, log₅, h₅, h⟩ := EStateM.run_bind_eq_ok.mp h
  obtain rfl := run_command_eq_ok.mp h₅
  obtain ⟨_, log₆, h₆, h⟩ := EStateM.run_bind_eq_ok.mp h
  rw [run_finishInit] at h₆
  cases h₆
  obtain ⟨-, rfl⟩ := EStateM.run_pure_eq_ok.mp h
  exact ⟨T.deviceFeatures (log ++ [.setStatus DeviceStatus.empty, .setStatus ⟨3⟩]), d, a, u, d', a', u',
    by simp⟩

/-- `new` notifies the device of the event queue before it sets `DRIVER_OK`: on a device
that has not written the queue's device area, a successful `new` ends its calls with the
notification and then `DRIVER_OK`, which no earlier call of `new` set. -/
theorem new_notifies_before_driverOk {log : List TransportCall} {v : VirtIOInput}
    (hused : dm.used QUEUE_EVENT = UsedRing.zero) (h : new H T dm log = .ok v) :
    ∃ mid, v.transport = log ++ mid ++ [.notify QUEUE_EVENT, .setStatus ⟨15⟩] ∧
      .setStatus ⟨15⟩ ∉ mid := by
  unfold new at h
  simp only at h
  split at h
  · cases h
  · rename_i r log' hinit
    cases h
    obtain ⟨device, d, a, u, d', a', u', rfl⟩ := initDevice_ok_spec H T dm hused hinit
    refine ⟨beginInitCalls device SUPPORTED_FEATURES ++
      [.queueUsed QUEUE_EVENT, .maxQueueSize QUEUE_EVENT, .requiresLegacyLayout,
        .queueSet QUEUE_EVENT (UInt32.ofNat QUEUE_SIZE) d a u,
        .queueUsed QUEUE_STATUS, .maxQueueSize QUEUE_STATUS, .requiresLegacyLayout,
        .queueSet QUEUE_STATUS (UInt32.ofNat QUEUE_SIZE) d' a' u'], by simp, ?_⟩
    simp [beginInitCalls, DeviceStatus.empty]

theorem new_notifies_before_driverOk_plain :
    ∃ v, new VirtQueue.identityHal (.plain 32) .idle [] = .ok v ∧
      ∃ mid, v.transport = [] ++ mid ++ [.notify QUEUE_EVENT, .setStatus ⟨15⟩] ∧
        .setStatus ⟨15⟩ ∉ mid := by
  have hok : (new VirtQueue.identityHal (.plain 32) .idle []).toOption.isSome := by decide +kernel
  cases hnew : new VirtQueue.identityHal (.plain 32) .idle [] with
  | error e => simp [hnew, Except.toOption] at hok
  | ok v => exact ⟨v, rfl, new_notifies_before_driverOk _ _ _ rfl hnew⟩

end VirtIOInput
end VirtioDrivers
