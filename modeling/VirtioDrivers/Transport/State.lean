import VirtioDrivers.Queue.New

/-! What the calls of the `Transport` trait mean, as the state of a device that they set and
read: its status, the features the driver accepted, the queues in use, the notifications,
whether an interrupt is pending, and the config space. The state follows the calls one
after the other. Three things it depends on differ from one transport to another: the
register that marks a queue in use, which on the PCI transport the driver cannot clear; the
bits of a status the device keeps; and the config space, if the device has one. A transport
whose answers are those of this state is one a driver can run on: over it, a second
`VirtQueue::new` of a queue already set up is refused, and on a PCI transport a queue once
set up stays in use, `queue_unset` or not, until the device is reset. -/
namespace VirtioDrivers

/-- The register by which a transport marks a queue in use: the page number of a legacy
MMIO device, the ready bit of a modern one, or the `queue_enable` of a PCI device, which the
driver cannot clear. -/
inductive QueueFlag where
  | pfn
  | ready
  | enable
deriving DecidableEq, Repr

/-- What the meaning of the calls depends on, from one transport to another: the register
that marks a queue in use, the bits of a status written that the device keeps, and the size
in bytes of the config space, if the device has one. -/
structure TransportKind where
  queueFlag : QueueFlag
  statusBits : UInt32 → UInt32
  configSpaceSize : Option Nat

namespace TransportKind

/-- The check of a config field of `size` bytes at `offset`: a config space at all, and the
field within it. -/
def checkField (k : TransportKind) (offset size : Nat) : Except Error Unit :=
  match k.configSpaceSize with
  | none => .error .configSpaceMissing
  | some n => if n < offset + size then .error .configSpaceTooSmall else .ok ()

/-- Whether a status written resets the device: the bits the device keeps of it are zero. -/
def resets (k : TransportKind) : TransportCall → Bool
  | .setStatus status => k.statusBits status.bits == 0
  | .readDeviceFeatures | .writeDriverFeatures _ | .maxQueueSize _ | .notify _
  | .setGuestPageSize _ | .requiresLegacyLayout | .queueSet _ _ _ _ _ | .queueUnset _
  | .queueUsed _ | .ackInterrupt | .readConfigGeneration | .readConfigSpace _ _
  | .writeConfigSpace _ _ _ => false

end TransportKind

/-- What a call leaves of the queues in use. A queue set up on a legacy device is in use when
its descriptors are at a nonzero address, whose page number is then nonzero. -/
def useAfter (k : TransportKind) (use : UInt16 → Bool) : TransportCall → UInt16 → Bool
  | .queueSet queue _ descriptors _ _ =>
    Function.update use queue
      (match k.queueFlag with
        | .pfn => descriptors != 0
        | .ready | .enable => true)
  | .queueUnset queue =>
    match k.queueFlag with
    | .pfn | .ready => Function.update use queue false
    | .enable => use
  | .setStatus status => if k.statusBits status.bits = 0 then fun _ => false else use
  | .readDeviceFeatures | .writeDriverFeatures _ | .maxQueueSize _ | .notify _
  | .setGuestPageSize _ | .requiresLegacyLayout | .queueUsed _ | .ackInterrupt
  | .readConfigGeneration | .readConfigSpace _ _ | .writeConfigSpace _ _ _ => use

theorem useAfter_queueSet_self (k : TransportKind) (use : UInt16 → Bool) {queue : UInt16}
    {size : UInt32} {descriptors : Nat} (driverArea deviceArea : Nat) (hd : descriptors ≠ 0) :
    useAfter k use (.queueSet queue size descriptors driverArea deviceArea) queue = true := by
  cases hf : k.queueFlag <;> simp [useAfter, hf, hd]

theorem useAfter_of_enable {k : TransportKind} (hk : k.queueFlag = .enable)
    {use : UInt16 → Bool} {c : TransportCall} (hc : k.resets c = false) {queue : UInt16}
    (hq : use queue = true) : useAfter k use c queue = true := by
  cases c
  case queueSet queue' size descriptors driverArea deviceArea =>
    by_cases he : queue = queue' <;> simp [useAfter, hk, he, hq]
  case setStatus status =>
    simp only [TransportKind.resets, beq_eq_false_iff_ne] at hc
    simp [useAfter, hc, hq]
  all_goals simp [useAfter, hk, hq]

theorem useAfter_foldl_of_enable {k : TransportKind} (hk : k.queueFlag = .enable) {queue : UInt16}
    {calls : List TransportCall} (hcalls : ∀ c ∈ calls, k.resets c = false) {use : UInt16 → Bool}
    (hq : use queue = true) : calls.foldl (useAfter k) use queue = true := by
  induction calls generalizing use with
  | nil => exact hq
  | cons c calls ih =>
    rw [List.foldl_cons]
    exact ih (fun c' hc' => hcalls c' (List.mem_cons_of_mem c hc'))
      (useAfter_of_enable hk (hcalls c List.mem_cons_self) hq)

/-- The state of a device that the calls of the `Transport` trait set and read: the
status, the features the driver accepted, the queues in use, the queues notified, whether
an interrupt is pending, and the config space by offset and size. -/
structure TransportState where
  status : UInt32
  driverFeatures : UInt64
  inUse : UInt16 → Bool
  notified : List UInt32
  interruptPending : Bool
  config : Nat → Nat → Nat

namespace TransportState

/-- What one call leaves of the state on a transport of kind `k`: a status whose kept bits
are zero resets the device, and a config field the check refuses is not written. -/
def after (k : TransportKind) (s : TransportState) (c : TransportCall) : TransportState :=
  let s' := { s with inUse := useAfter k s.inUse c }
  match c with
  | .writeDriverFeatures driverFeatures => { s' with driverFeatures := driverFeatures }
  | .notify queue => { s' with notified := s.notified ++ [queue.toUInt32] }
  | .setStatus status =>
    if k.statusBits status.bits = 0 then { s' with status := 0, interruptPending := false }
    else { s' with status := k.statusBits status.bits }
  | .ackInterrupt => { s' with interruptPending := false }
  | .writeConfigSpace offset size value =>
    match k.checkField offset size with
    | .ok () => { s' with config := fun o z => if o = offset ∧ z = size then value else s.config o z }
    | .error _ => s'
  -- the calls that set nothing else, each with its own equation
  | .readDeviceFeatures | .maxQueueSize _ | .setGuestPageSize _ | .requiresLegacyLayout
  | .queueSet _ _ _ _ _ | .queueUnset _ | .queueUsed _ | .readConfigGeneration
  | .readConfigSpace _ _ => s'

@[simp] theorem after_inUse (k : TransportKind) (s : TransportState) (c : TransportCall) :
    (s.after k c).inUse = useAfter k s.inUse c := by
  cases c <;> simp only [after] <;> split <;> rfl

theorem inUse_foldl (k : TransportKind) (s : TransportState) (calls : List TransportCall) :
    (calls.foldl (after k) s).inUse = calls.foldl (useAfter k) s.inUse := by
  induction calls generalizing s with
  | nil => rfl
  | cons c calls ih => rw [List.foldl_cons, List.foldl_cons, ih, after_inUse]

/-- The transport of kind `k` whose device starts in `s₀`: its answers about the queues in
use, the interrupt and the config space are those of the state the calls before leave, and
its other answers are `T`'s. -/
def behaviour (k : TransportKind) (s₀ : TransportState) (T : TransportBehaviour) :
    TransportBehaviour :=
  { T with
    queueUsed := fun calls queue => (calls.foldl (after k) s₀).inUse queue
    ackInterrupt := fun calls => (calls.foldl (after k) s₀).interruptPending
    readConfigSpace := fun calls offset size => do
      k.checkField offset size
      pure ((calls.foldl (after k) s₀).config offset size)
    writeConfigSpace := fun _ offset size _ => k.checkField offset size }

theorem inUse_after_new {SIZE : Nat} {H : Hal} {k : TransportKind} {s₀ : TransportState}
    {T : TransportBehaviour} {idx : UInt16} {indirect eventIdx : Bool}
    {log log₁ : List TransportCall} {q : VirtQueue SIZE}
    (h : (VirtQueue.new H (behaviour k s₀ T) idx indirect eventIdx).run log = .ok q log₁) :
    (log₁.foldl (after k) s₀).inUse idx = true := by
  obtain ⟨-, layout, hlayout, rfl⟩ := VirtQueue.new_ok_layout h
  simp only [List.foldl_append, List.foldl_cons, List.foldl_nil, after_inUse]
  exact useAfter_queueSet_self k _ _ _ (VirtQueueLayout.descriptorsPaddr_ne_zero hlayout)

theorem new_alreadyUsed {SIZE : Nat} {H : Hal} {k : TransportKind} {s₀ : TransportState}
    {T : TransportBehaviour} {idx : UInt16} {indirect eventIdx : Bool} {log : List TransportCall}
    (hused : (log.foldl (after k) s₀).inUse idx = true) :
    (VirtQueue.new H (behaviour k s₀ T) idx indirect eventIdx :
        EStateM Fault (List TransportCall) (VirtQueue SIZE)).run log =
      .error (.err .alreadyUsed) (log ++ [.queueUsed idx]) := by
  simp [VirtQueue.new, Transport.queueUsed, Transport.query, behaviour, hused, EStateM.run,
    EStateM.bind_apply]

/-- On a transport whose driver cannot clear a queue's flag, as on PCI, a queue that
`VirtQueue::new` set up stays in use over any later calls that do not reset the device,
`queue_unset` among them: every later `new` of it is refused with `AlreadyUsed`. -/
theorem new_refused_until_reset {SIZE SIZE' : Nat} {H H' : Hal} {k : TransportKind}
    (hk : k.queueFlag = .enable) {s₀ : TransportState} {T : TransportBehaviour} {idx : UInt16}
    {indirect eventIdx indirect' eventIdx' : Bool} {log log₁ : List TransportCall}
    {q : VirtQueue SIZE}
    (h : (VirtQueue.new H (behaviour k s₀ T) idx indirect eventIdx).run log = .ok q log₁)
    (calls : List TransportCall) (hcalls : ∀ c ∈ calls, k.resets c = false) :
    (VirtQueue.new H' (behaviour k s₀ T) idx indirect' eventIdx' :
        EStateM Fault (List TransportCall) (VirtQueue SIZE')).run (log₁ ++ calls) =
      .error (.err .alreadyUsed) (log₁ ++ calls ++ [.queueUsed idx]) := by
  apply new_alreadyUsed
  rw [List.foldl_append, inUse_foldl]
  exact useAfter_foldl_of_enable hk hcalls (inUse_after_new h)

theorem new_refused_until_reset_unset :
    ∃ q log₁, (VirtQueue.new ⟨fun _ _ => (0x8000, 0x8000), fun b _ => b.addr, id, fun _ n => n⟩
        (behaviour ⟨.enable, fun bits => bits % 256, none⟩ ⟨0, 0, fun _ => false, [], false, fun _ _ => 0⟩
          (.plain 4)) 0 false false : EStateM Fault (List TransportCall) (VirtQueue 4)).run [] =
        .ok q log₁ ∧
      (VirtQueue.new ⟨fun _ _ => (0x8000, 0x8000), fun b _ => b.addr, id, fun _ n => n⟩
        (behaviour ⟨.enable, fun bits => bits % 256, none⟩ ⟨0, 0, fun _ => false, [], false, fun _ _ => 0⟩
          (.plain 4)) 0 true true : EStateM Fault (List TransportCall) (VirtQueue 4)).run
          (log₁ ++ [.queueUnset 0, .notify 0]) =
        .error (.err .alreadyUsed) (log₁ ++ [.queueUnset 0, .notify 0] ++ [.queueUsed 0]) := by
  obtain ⟨q, log₁, h⟩ : ∃ q log₁, (VirtQueue.new ⟨fun _ _ => (0x8000, 0x8000), fun b _ => b.addr, id, fun _ n => n⟩
        (behaviour ⟨.enable, fun bits => bits % 256, none⟩ ⟨0, 0, fun _ => false, [], false, fun _ _ => 0⟩
          (.plain 4)) 0 false false : EStateM Fault (List TransportCall) (VirtQueue 4)).run [] =
        .ok q log₁ := ⟨_, _, rfl⟩
  exact ⟨q, log₁, h, new_refused_until_reset rfl h _ (by decide)⟩

end TransportState
end VirtioDrivers
