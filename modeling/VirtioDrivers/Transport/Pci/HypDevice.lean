import VirtioDrivers.Transport.Pci.Hyp
import VirtioDrivers.Lib.Memory
import VirtioDrivers.Lib.LittleEndian

/-! A device behind the pKVM hypercalls whose registers are bytes that keep what the driver
writes: a `hyp_io_write` stores the low bytes of its data, little-endian, and a `hyp_io_read`
returns the bytes there. On it `read_config_generation` shows what its four-byte read covers.
`config_generation` is one byte at offset 21 of `CommonCfg`, but `configread!` reads it at the
`u32` the method returns, so the answer also holds `queue_select`, the two bytes after it, and
the low byte of `queue_size`: right after the driver selects a queue, bits 8 to 23 of the
generation it reads are that queue. -/
namespace VirtioDrivers
open Pci

namespace HypIoAccess

/-- What a hypercall leaves of the device's bytes: a write stores the `size` low bytes of its
data from its address on, and a read changes nothing. -/
def store (mem : Nat → UInt8) : HypIoAccess → Nat → UInt8
  | .read _ _ => mem
  | .write access => Memory.write mem access.address (LittleEndian.encode access.size access.data)

/-- Whether a hypercall leaves the `n` bytes at `address` alone: a read, or a write that
does not reach them. -/
def avoids (address n : Nat) : HypIoAccess → Bool
  | .read _ _ => true
  | .write access => decide (address + n ≤ access.address ∨ access.address + access.size ≤ address)

theorem read_store_of_avoids (mem : Nat → UInt8) {address n : Nat} {a : HypIoAccess}
    (h : a.avoids address n) : Memory.read (a.store mem) address n = Memory.read mem address n := by
  cases a with
  | read _ _ => rfl
  | write access =>
    simp only [avoids, decide_eq_true_eq] at h
    exact Memory.read_write_of_disjoint mem (by simpa using h)

theorem read_foldl_store_of_avoids (mem : Nat → UInt8) {address n : Nat} {accesses : List HypIoAccess}
    (h : ∀ a ∈ accesses, a.avoids address n) :
    Memory.read (accesses.foldl store mem) address n = Memory.read mem address n := by
  induction accesses generalizing mem with
  | nil => rfl
  | cons a accesses ih =>
    rw [List.foldl_cons, ih (a.store mem) fun a' ha' => h a' (List.mem_cons_of_mem a ha'),
      read_store_of_avoids mem (h a List.mem_cons_self)]

end HypIoAccess

/-- The device whose registers keep the bytes the driver writes: a `hyp_io_read` returns, as
a number, the bytes the hypercalls before it left from `mem₀`. -/
def memoryDevice (mem₀ : Nat → UInt8) (log : List HypIoAccess) (address size : Nat) : UInt64 :=
  UInt64.ofNat (LittleEndian.decode (Memory.read (log.foldl HypIoAccess.store mem₀) address size))

/-- Four bytes read from `address`, of which the two after the first hold `v`: the number they
make shows `v` in its bits 8 to 23. -/
theorem decode_read_four {mem : Nat → UInt8} {address : Nat} {v : Nat} (hv : v < 2 ^ 16)
    (hmid : Memory.read mem (address + 1) 2 = LittleEndian.encode 2 v) :
    LittleEndian.decode (Memory.read mem address 4) / 2 ^ 8 % 2 ^ 16 = v ∧
      LittleEndian.decode (Memory.read mem address 4) < 2 ^ 32 := by
  have hsplit : Memory.read mem address 4 =
      Memory.read mem address 1 ++ (LittleEndian.encode 2 v ++ Memory.read mem (address + 3) 1) := by
    rw [show 4 = 1 + (2 + 1) from rfl, Memory.read_add, Memory.read_add, hmid, Nat.add_assoc]
  have hlow := LittleEndian.decode_lt (Memory.read mem address 1)
  have hhigh := LittleEndian.decode_lt (Memory.read mem (address + 3) 1)
  simp only [Memory.length_read, pow_one] at hlow hhigh
  rw [hsplit, LittleEndian.decode_append, LittleEndian.decode_append,
    LittleEndian.decode_encode_of_lt (by simpa using hv)]
  simp only [Memory.length_read, LittleEndian.length_encode, pow_one]
  omega

namespace HypPciTransport.Impl
variable {dev : List HypIoAccess → Nat → Nat → UInt64} {o : Overflow} {w : Nat} {t : HypPciTransport}

/-- The calls that select a queue and then touch only fields of `CommonCfg` past
`queue_select`: `max_queue_size`, `queue_used` and `queue_set`. -/
def selectsQueue (queue : UInt16) : TransportCall → Bool
  | .maxQueueSize q | .queueUsed q | .queueSet q _ _ _ _ => q == queue
  | .readDeviceFeatures | .writeDriverFeatures _ | .notify _ | .setStatus _ | .setGuestPageSize _
  | .requiresLegacyLayout | .queueUnset _ | .ackInterrupt | .readConfigGeneration
  | .readConfigSpace _ _ | .writeConfigSpace _ _ _ => false

section Select
variable (ht : t.Sized) (hcommon : t.commonCfg.paddr + COMMON_CFG_SIZE < 2 ^ w)
include ht hcommon

/-- A call that selects a queue writes it to `queue_select` first, and nothing it does after
reaches those two bytes again. -/
theorem perform_selects {alignOf : Nat → Nat} {queue : UInt16} {c : TransportCall}
    (hc : selectsQueue queue c = true) {log log₁ : List HypIoAccess}
    (hrun : (perform dev o w t alignOf c).run log = .ok () log₁) :
    ∃ rest, log₁ = log ++ .write ⟨t.commonCfg.paddr + 22, 2, queue.toNat⟩ :: rest ∧
      ∀ a ∈ rest, a.avoids (t.commonCfg.paddr + 22) 2 := by
  cases c
  case maxQueueSize q =>
    obtain rfl : q = queue := by simpa [selectsQueue] using hc
    obtain ⟨v, log₂, hmax, ⟨⟩⟩ := EStateM.run_bind_eq_ok.mp hrun
    rw [maxQueueSize_run ht hcommon] at hmax
    cases hmax
    exact ⟨[.read (t.commonCfg.paddr + 24) 2], by simp, by simp [HypIoAccess.avoids]⟩
  case queueUsed q =>
    obtain rfl : q = queue := by simpa [selectsQueue] using hc
    obtain ⟨v, log₂, hused, ⟨⟩⟩ := EStateM.run_bind_eq_ok.mp hrun
    rw [queueUsed_run ht hcommon] at hused
    cases hused
    exact ⟨[.read (t.commonCfg.paddr + 28) 2], by simp, by simp [HypIoAccess.avoids]⟩
  case queueSet q size descriptors driverArea deviceArea =>
    obtain rfl : q = queue := by simpa [selectsQueue] using hc
    rw [perform, queueSet_run ht hcommon] at hrun
    cases hrun
    refine ⟨_, rfl, ?_⟩
    simp [HypIoAccess.avoids]
  all_goals simp [selectsQueue] at hc

/-- On a device whose registers keep the bytes the driver writes, `read_config_generation`
right after a call that selects a queue answers with that queue in bits 8 to 23: it reads four
bytes from the offset of the one-byte `config_generation`, over `queue_select`. -/
theorem readConfigGeneration_after_select (mem₀ : Nat → UInt8) {alignOf : Nat → Nat}
    {queue : UInt16} {c : TransportCall} (hc : selectsQueue queue c = true)
    {log log₁ : List HypIoAccess} (hrun : (perform (memoryDevice mem₀) o w t alignOf c).run log = .ok () log₁) :
    ∃ generation : UInt32,
      (readConfigGeneration (memoryDevice mem₀) o w t).run log₁ =
        .ok generation (log₁ ++ [.read (t.commonCfg.paddr + 21) 4]) ∧
      generation.toNat / 2 ^ 8 % 2 ^ 16 = queue.toNat := by
  obtain ⟨rest, hlog₁, hrest⟩ := perform_selects ht hcommon hc hrun
  have hmid : Memory.read (log₁.foldl HypIoAccess.store mem₀) (t.commonCfg.paddr + 21 + 1) 2 =
      LittleEndian.encode 2 queue.toNat := by
    rw [hlog₁, List.foldl_append, List.foldl_cons, HypIoAccess.read_foldl_store_of_avoids _ hrest]
    simp [HypIoAccess.store, Memory.read_write_self, List.take_of_length_le]
  obtain ⟨hshow, hlt⟩ := decode_read_four queue.toNat_lt hmid
  refine ⟨(memoryDevice mem₀ log₁ (t.commonCfg.paddr + 21) 4).toUInt32, ?_, ?_⟩
  · rw [readConfigGeneration, EStateM.run_bind_of_ok (configread_run ht hcommon (by decide) (by decide) _)]
    rfl
  · simp only [memoryDevice, UInt64.toNat_toUInt32, UInt64.toNat_ofNat']
    rw [Nat.mod_eq_of_lt (Nat.lt_of_lt_of_le hlt (by decide)), Nat.mod_eq_of_lt hlt]
    exact hshow

end Select

/-- `queue_set` of queue 1 with 16 entries on a device of zero bytes: the generation read
after it is `0x10000100`, the queue in bits 8 to 23 and the low byte of the size above. -/
theorem readConfigGeneration_after_queueSet_one :
    let t : HypPciTransport :=
      ⟨0x1041, ⟨0, 1, 0⟩, ⟨0x10000000, 56⟩, ⟨0x10000100, 4⟩, 0, ⟨0x10000200, 1⟩, none⟩
    let log₁ : List HypIoAccess := [.write ⟨0x10000016, 2, 1⟩, .write ⟨0x10000018, 2, 16⟩,
      .write ⟨0x10000020, 8, 0x4000⟩, .write ⟨0x10000028, 8, 0x5000⟩,
      .write ⟨0x10000030, 8, 0x6000⟩, .write ⟨0x1000001c, 2, 1⟩]
    (perform (memoryDevice fun _ => 0) .panics 64 t (fun _ => 1)
        (.queueSet 1 16 0x4000 0x5000 0x6000)).run [] = .ok () log₁ ∧
    (readConfigGeneration (memoryDevice fun _ => 0) .panics 64 t).run log₁ =
      .ok 0x10000100 (log₁ ++ [.read 0x10000015 4]) ∧
    ∃ generation : UInt32,
      (readConfigGeneration (memoryDevice fun _ => 0) .panics 64 t).run log₁ =
        .ok generation (log₁ ++ [.read 0x10000015 4]) ∧
      generation.toNat / 2 ^ 8 % 2 ^ 16 = 1 := by
  intro t log₁
  have ht : t.Sized := ⟨by decide, by decide, by decide, by simp [t]⟩
  have hrun : (perform (memoryDevice fun _ => 0) .panics 64 t (fun _ => 1)
      (.queueSet 1 16 0x4000 0x5000 0x6000)).run [] = .ok () log₁ := by
    unfold t log₁
    rfl
  refine ⟨hrun, by unfold t log₁; rfl, ?_⟩
  exact readConfigGeneration_after_select ht (by decide) (fun _ => 0)
    (show selectsQueue 1 (.queueSet 1 16 0x4000 0x5000 0x6000) = true from rfl) hrun


end HypPciTransport.Impl
end VirtioDrivers
