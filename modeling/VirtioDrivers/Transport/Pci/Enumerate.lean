import VirtioDrivers.Transport.Pci.Bus
import VirtioDrivers.Lib.FilterMapIter

/-! Bus enumeration (`PciRoot::enumerate_bus` and `BusDeviceIterator`). The iterator keeps
a cursor on the next device function of the bus; `next` reads the vendor word there,
moves the cursor one function on, carrying into the device number, and returns the
function if the word is not all ones. Its configuration access is the parameter `read`
of `next?`, so the same definition runs against any access; `recordRead` is one that
answers from a fixed content and records each read.

The 256 functions of a bus, in cursor order, are `slots`. From a cursor, one call of
`next` is one call of a lazy `filter_map` over the slots still ahead of it
(`FilterMapIter.scan`), reading each slot it passes; so the calls return the present
functions in order, then `none`, and read the vendor word of each slot once. -/
namespace VirtioDrivers
open FilterMapIter

namespace Pci

/-- What a read returns where no function answers. -/
def INVALID_READ : UInt32 := 0xffffffff
/-- The number of devices on a bus. -/
def MAX_DEVICES : UInt8 := 32
/-- The number of functions of a device. -/
def MAX_FUNCTIONS : UInt8 := 8

end Pci
open Pci

inductive HeaderType where
  | standard
  | pciPciBridge
  | pciCardbusBridge
  | unrecognised (value : UInt8)
deriving DecidableEq, Repr

/-- `From<u8> for HeaderType`. -/
def HeaderType.fromU8 (value : UInt8) : HeaderType :=
  match value.toNat with
  | 0x00 => .standard
  | 0x01 => .pciPciBridge
  | 0x02 => .pciCardbusBridge
  | _ => .unrecognised value

structure DeviceFunctionInfo where
  vendorId : UInt16
  deviceId : UInt16
  «class» : UInt8
  subclass : UInt8
  progIf : UInt8
  revision : UInt8
  headerType : HeaderType
deriving DecidableEq, Repr

/-- `BusDeviceIterator`. Only `enumerate_bus` and `next` set its cursor, so the function
number stays below `MAX_FUNCTIONS` and the device number at most `MAX_DEVICES`. -/
structure BusDeviceIterator where
  next : DeviceFunction
  function_lt : next.function < MAX_FUNCTIONS
  device_le : next.device ≤ MAX_DEVICES

/-- `enumerate_bus`: the cursor on function 0 of device 0. -/
def PciRoot.enumerateBus (bus : UInt8) : BusDeviceIterator :=
  ⟨⟨bus, 0, 0⟩, (by decide : (0 : UInt8) < MAX_FUNCTIONS), (by decide : (0 : UInt8) ≤ MAX_DEVICES)⟩

/-- A `read_word` made through the iterator's configuration access. -/
structure ConfigRead where
  deviceFunction : DeviceFunction
  registerOffset : UInt8
deriving DecidableEq, Repr

/-- A configuration access that answers from `content` and records each read. -/
def recordRead (content : DeviceFunction → UInt8 → UInt32) (df : DeviceFunction)
    (registerOffset : UInt8) : EStateM Fault (List ConfigRead) UInt32 :=
  fun reads => .ok (content df registerOffset) (reads ++ [⟨df, registerOffset⟩])

/-- The functions whose vendor word was read, in order. -/
def vendorProbes (reads : List ConfigRead) : List DeviceFunction :=
  reads.filterMap fun r => if r.registerOffset = 0 then some r.deviceFunction else none

theorem UInt8.succ_le_of_lt {a b : UInt8} (h : a < b) : a + 1 ≤ b := by
  rw [UInt8.lt_iff_toNat_lt] at h
  rw [UInt8.le_iff_toNat_le, UInt8.toNat_add]
  have h1 : (1 : UInt8).toNat = 1 := rfl
  omega

namespace BusDeviceIterator

/-- The cursor step of `next`: the next function, or function 0 of the next device. -/
def advance (it : BusDeviceIterator) (h : it.next.device < MAX_DEVICES) : BusDeviceIterator :=
  if hf : it.next.function + 1 ≥ MAX_FUNCTIONS then
    ⟨{ it.next with function := 0, device := it.next.device + 1 },
      (by decide : (0 : UInt8) < MAX_FUNCTIONS), UInt8.succ_le_of_lt h⟩
  else
    ⟨{ it.next with function := it.next.function + 1 }, UInt8.not_le.mp hf, it.device_le⟩

/-- The number of functions of the bus before the cursor. -/
def position (it : BusDeviceIterator) : Nat := it.next.device.toNat * 8 + it.next.function.toNat

theorem function_toNat_lt (it : BusDeviceIterator) : it.next.function.toNat < 8 :=
  UInt8.lt_iff_toNat_lt.mp it.function_lt

theorem position_lt {it : BusDeviceIterator} (h : it.next.device < MAX_DEVICES) :
    it.position < 256 := by
  have hd : it.next.device.toNat < 32 := UInt8.lt_iff_toNat_lt.mp h
  have hf := it.function_toNat_lt
  unfold position
  omega

theorem le_position {it : BusDeviceIterator} (h : ¬ it.next.device < MAX_DEVICES) :
    256 ≤ it.position := by
  have hd : 32 ≤ it.next.device.toNat := by
    rw [UInt8.lt_iff_toNat_lt] at h
    exact Nat.le_of_not_lt h
  unfold position
  omega

@[simp] theorem advance_bus (it : BusDeviceIterator) (h : it.next.device < MAX_DEVICES) :
    (it.advance h).next.bus = it.next.bus := by
  unfold advance
  split <;> rfl

/-- The step never wraps: the function number is below 8 and the device number below
32 before it, so the cursor moves exactly one function on. -/
theorem position_advance (it : BusDeviceIterator) (h : it.next.device < MAX_DEVICES) :
    (it.advance h).position = it.position + 1 := by
  have hd : it.next.device.toNat < 32 := UInt8.lt_iff_toNat_lt.mp h
  have hf := it.function_toNat_lt
  have h1 : (1 : UInt8).toNat = 1 := rfl
  unfold advance position
  split
  case isTrue hcarry =>
    have hcarry' : 8 ≤ it.next.function.toNat + 1 := by
      rw [GE.ge, UInt8.le_iff_toNat_le, UInt8.toNat_add, h1] at hcarry
      exact (Nat.mod_eq_of_lt (by omega : it.next.function.toNat + 1 < 2 ^ 8)) ▸ hcarry
    simp only [UInt8.toNat_add, h1, UInt8.toNat_zero]
    rw [Nat.mod_eq_of_lt (by omega)]
    omega
  case isFalse =>
    simp only [UInt8.toNat_add, h1]
    rw [Nat.mod_eq_of_lt (by omega)]
    omega

variable {m : Type → Type} [Monad m]

/-- `Iterator::next`: from the cursor on, read each function's vendor word and move the
cursor past it; return the first function that answers, with its class and header
words decoded, or `none` once the cursor has left the last device. -/
def next? (read : DeviceFunction → UInt8 → m UInt32) (it : BusDeviceIterator) :
    m (Option (DeviceFunction × DeviceFunctionInfo) × BusDeviceIterator) :=
  if h : it.next.device < MAX_DEVICES then do
    let current := it.next
    let deviceVendor ← read current 0
    let it := it.advance h
    if deviceVendor != INVALID_READ then
      let classRevision ← read current 8
      let deviceId := (deviceVendor >>> 16).toUInt16
      let vendorId := deviceVendor.toUInt16
      let «class» := (classRevision >>> 24).toUInt8
      let subclass := (classRevision >>> 16).toUInt8
      let progIf := (classRevision >>> 8).toUInt8
      let revision := classRevision.toUInt8
      let bistTypeLatencyCache ← read current 12
      let headerType := HeaderType.fromU8 ((bistTypeLatencyCache >>> 16).toUInt8 &&& 0x7f)
      pure (some (current, ⟨vendorId, deviceId, «class», subclass, progIf, revision, headerType⟩), it)
    else
      next? read it
  else
    pure (none, it)
termination_by 256 - it.position
decreasing_by
  rw [position_advance]
  have := position_lt h
  omega

/-- `k` calls of `next`, as a loop over the iterator makes them: what each returned. -/
def nextN (read : DeviceFunction → UInt8 → m UInt32) :
    Nat → BusDeviceIterator → m (List (Option (DeviceFunction × DeviceFunctionInfo)) × BusDeviceIterator)
  | 0, it => pure ([], it)
  | k+1, it => do
    let (item, it) ← next? read it
    let (items, it) ← nextN read k it
    pure (item :: items, it)

end BusDeviceIterator

/-! What enumeration should find. -/

/-- The fields of a function's header as the PCI specification lays them out: vendor
and device id are the low and high halves of the word at offset 0; revision,
programming interface, subclass and class the four bytes of the word at offset 8, low
byte first; the header type the low seven bits of the third byte of the word at
offset 12. -/
def DeviceFunctionInfo.ofWords (deviceVendor classRevision bist : UInt32) : DeviceFunctionInfo where
  vendorId := UInt16.ofNat (deviceVendor.toNat % 2 ^ 16)
  deviceId := UInt16.ofNat (deviceVendor.toNat / 2 ^ 16)
  «class» := UInt8.ofNat (classRevision.toNat / 2 ^ 24)
  subclass := UInt8.ofNat (classRevision.toNat / 2 ^ 16 % 2 ^ 8)
  progIf := UInt8.ofNat (classRevision.toNat / 2 ^ 8 % 2 ^ 8)
  revision := UInt8.ofNat (classRevision.toNat % 2 ^ 8)
  headerType := HeaderType.fromU8 (UInt8.ofNat (bist.toNat / 2 ^ 16 % 2 ^ 7))

/-- Function `p % 8` of device `p / 8`. -/
def slot (bus : UInt8) (p : Nat) : DeviceFunction := ⟨bus, UInt8.ofNat (p / 8), UInt8.ofNat (p % 8)⟩

/-- The 256 functions of a bus, in (device, function) order. -/
def slots (bus : UInt8) : List DeviceFunction := (List.range 256).map (slot bus)

/-- The function at `df` with its decoded header, when its vendor word is not all ones. -/
def presentAt (content : DeviceFunction → UInt8 → UInt32) (df : DeviceFunction) :
    Option (DeviceFunction × DeviceFunctionInfo) :=
  if content df 0 = INVALID_READ then none
  else some (df, DeviceFunctionInfo.ofWords (content df 0) (content df 8) (content df 12))

/-- The functions of a bus that answer, in (device, function) order. -/
def present (content : DeviceFunction → UInt8 → UInt32) (bus : UInt8) :
    List (DeviceFunction × DeviceFunctionInfo) :=
  (slots bus).filterMap (presentAt content)

/-- The reads a visit of `df` makes: its vendor word, then, if it answers, its class and
header words. -/
def slotReads (content : DeviceFunction → UInt8 → UInt32) (df : DeviceFunction) : List ConfigRead :=
  if content df 0 = INVALID_READ then [⟨df, 0⟩] else [⟨df, 0⟩, ⟨df, 8⟩, ⟨df, 12⟩]

/-- The slots the cursor has not reached yet. -/
def BusDeviceIterator.remaining (it : BusDeviceIterator) : List DeviceFunction :=
  (slots it.next.bus).drop it.position

@[simp] theorem length_slots (bus : UInt8) : (slots bus).length = 256 := by
  simp [slots]

theorem slot_toNat (df : DeviceFunction) (hf : df.function.toNat < 8) :
    slot df.bus (df.device.toNat * 8 + df.function.toNat) = df := by
  obtain ⟨b, d, f⟩ := df
  dsimp only at hf
  simp only [slot, DeviceFunction.mk.injEq, true_and]
  constructor
  · rw [show (d.toNat * 8 + f.toNat) / 8 = d.toNat by omega, UInt8.ofNat_toNat]
  · rw [show (d.toNat * 8 + f.toNat) % 8 = f.toNat by omega, UInt8.ofNat_toNat]

theorem mem_slots {bus : UInt8} {df : DeviceFunction} :
    df ∈ slots bus ↔ df.bus = bus ∧ df.device < 32 ∧ df.function < 8 := by
  have h32 : (32 : UInt8).toNat = 32 := rfl
  have h8 : (8 : UInt8).toNat = 8 := rfl
  simp only [slots, List.mem_map, List.mem_range, UInt8.lt_iff_toNat_lt, h32, h8]
  constructor
  · rintro ⟨p, hp, rfl⟩
    refine ⟨rfl, ?_, ?_⟩ <;> simp only [slot, UInt8.toNat_ofNat'] <;> omega
  · rintro ⟨rfl, hd, hf⟩
    exact ⟨df.device.toNat * 8 + df.function.toNat, by omega, slot_toNat df hf⟩

theorem slots_pairwise (bus : UInt8) :
    (slots bus).Pairwise fun x y => x.device < y.device ∨ x.device = y.device ∧ x.function < y.function := by
  unfold slots
  rw [List.pairwise_map]
  apply (List.pairwise_lt_range (n := 256)).imp_of_mem
  intro p q hp hq hpq
  simp only [List.mem_range] at hp hq
  simp only [slot, UInt8.lt_iff_toNat_lt, UInt8.toNat_ofNat', ← UInt8.toNat_inj]
  omega

theorem mem_present {content : DeviceFunction → UInt8 → UInt32} {bus : UInt8}
    {df : DeviceFunction} {info : DeviceFunctionInfo} :
    (df, info) ∈ present content bus ↔
      df.bus = bus ∧ df.device < 32 ∧ df.function < 8 ∧ content df 0 ≠ INVALID_READ ∧
        info = DeviceFunctionInfo.ofWords (content df 0) (content df 8) (content df 12) := by
  simp only [present, List.mem_filterMap, presentAt]
  constructor
  · rintro ⟨x, hx, hsome⟩
    split at hsome
    · cases hsome
    · cases hsome
      exact ⟨(mem_slots.mp hx).1, (mem_slots.mp hx).2.1, (mem_slots.mp hx).2.2, ‹_›, rfl⟩
  · rintro ⟨hb, hd, hf, hv, rfl⟩
    exact ⟨df, mem_slots.mpr ⟨hb, hd, hf⟩, by simp [hv]⟩

theorem present_pairwise (content : DeviceFunction → UInt8 → UInt32) (bus : UInt8) :
    (present content bus).Pairwise fun x y =>
      x.1.device < y.1.device ∨ x.1.device = y.1.device ∧ x.1.function < y.1.function := by
  apply (slots_pairwise bus).filterMap
  intro x y hxy a ha b hb
  simp only [presentAt] at ha hb
  split at ha <;> split at hb <;> cases ha <;> cases hb
  exact hxy

namespace BusDeviceIterator

theorem remaining_of_lt {it : BusDeviceIterator} (h : it.next.device < MAX_DEVICES) :
    it.remaining = it.next :: (it.advance h).remaining := by
  have hp := position_lt h
  unfold remaining
  rw [advance_bus, position_advance, List.drop_eq_getElem_cons (by simpa using hp)]
  simp only [slots, List.getElem_map, List.getElem_range, position]
  rw [slot_toNat it.next it.function_toNat_lt]

theorem remaining_of_not_lt {it : BusDeviceIterator} (h : ¬ it.next.device < MAX_DEVICES) :
    it.remaining = [] := by
  unfold remaining
  exact List.drop_of_length_le (by simpa using le_position h)

@[simp] theorem remaining_enumerateBus (bus : UInt8) : (PciRoot.enumerateBus bus).remaining = slots bus :=
  rfl

end BusDeviceIterator

theorem decode_eq_ofWords (deviceVendor classRevision bist : UInt32) :
    (⟨deviceVendor.toUInt16, (deviceVendor >>> 16).toUInt16, (classRevision >>> 24).toUInt8,
      (classRevision >>> 16).toUInt8, (classRevision >>> 8).toUInt8, classRevision.toUInt8,
      HeaderType.fromU8 ((bist >>> 16).toUInt8 &&& 0x7f)⟩ : DeviceFunctionInfo) =
      DeviceFunctionInfo.ofWords deviceVendor classRevision bist := by
  have h7f : (0x7f : UInt8).toNat = 2 ^ 7 - 1 := rfl
  have h8 : (8 : UInt32).toNat % 32 = 8 := rfl
  have h16 : (16 : UInt32).toNat % 32 = 16 := rfl
  have h24 : (24 : UInt32).toNat % 32 = 24 := rfl
  simp only [DeviceFunctionInfo.ofWords, DeviceFunctionInfo.mk.injEq]
  refine ⟨?_, ?_, ?_, ?_, ?_, ?_, congrArg HeaderType.fromU8 ?_⟩
  -- each field is a shift and a truncation, that is a division and a remainder
  all_goals first | apply UInt16.toNat_inj.mp | apply UInt8.toNat_inj.mp
  all_goals simp only [UInt32.toNat_toUInt16, UInt32.toNat_toUInt8, UInt16.toNat_ofNat',
    UInt8.toNat_ofNat', UInt32.toNat_shiftRight, Nat.shiftRight_eq_div_pow, h8, h16, h24,
    UInt8.toNat_and, h7f, Nat.and_two_pow_sub_one_eq_mod]
  all_goals omega

namespace BusDeviceIterator

@[simp] theorem recordRead_apply (content : DeviceFunction → UInt8 → UInt32) (df : DeviceFunction)
    (registerOffset : UInt8) (reads : List ConfigRead) :
    recordRead content df registerOffset reads =
      .ok (content df registerOffset) (reads ++ [⟨df, registerOffset⟩]) := rfl

section Access
variable {σ : Type} (content : DeviceFunction → UInt8 → UInt32) (noted : List ConfigRead → σ)

/-- A configuration access that answers every read from `content` and whose state is
`noted` of the reads made so far: the recorder keeps the reads, `read_word` keeps the
writes it started from. -/
def AnswersFrom (read : DeviceFunction → UInt8 → EStateM Fault σ UInt32) : Prop :=
  ∀ df registerOffset reads, read df registerOffset (noted reads) =
    .ok (content df registerOffset) (noted (reads ++ [⟨df, registerOffset⟩]))

theorem recordRead_answersFrom : AnswersFrom content id (recordRead content) :=
  fun _ _ _ => rfl

variable {content noted} {read : DeviceFunction → UInt8 → EStateM Fault σ UInt32}

theorem next?_of_not_lt {it : BusDeviceIterator} (h : ¬ it.next.device < MAX_DEVICES) (s : σ) :
    (next? read it).run s = .ok (none, it) s := by
  rw [next?, dif_neg h]
  rfl

theorem next?_of_lt (hread : AnswersFrom content noted read) {it : BusDeviceIterator}
    (h : it.next.device < MAX_DEVICES) (reads : List ConfigRead) :
    (next? read it).run (noted reads) =
      match presentAt content it.next with
      | some item => .ok (some item, it.advance h) (noted (reads ++ slotReads content it.next))
      | none => (next? read (it.advance h)).run (noted (reads ++ slotReads content it.next)) := by
  rw [next?, dif_pos h]
  simp only [EStateM.run, EStateM.bind_apply, hread _ _ _, presentAt, slotReads]
  by_cases hv : content it.next 0 = INVALID_READ
  · simp [hv]
  · simp [hv, decode_eq_ofWords, EStateM.bind_apply, EStateM.map_apply, hread _ _ _]

/-- One call of `next` is one call of the lazy `filter_map` of `presentAt` over the slots
ahead of the cursor: it returns what that call returns, leaves the cursor before the
slots that call leaves, and reads each slot it passes. -/
theorem next?_run_of_answersFrom (hread : AnswersFrom content noted read) (it : BusDeviceIterator)
    (reads : List ConfigRead) :
    ∃ it', (next? read it).run (noted reads) =
        .ok ((scan (presentAt content) it.remaining).1, it')
          (noted (reads ++ (passed (presentAt content) it.remaining).flatMap (slotReads content))) ∧
      it'.remaining = (scan (presentAt content) it.remaining).2 := by
  by_cases h : it.next.device < MAX_DEVICES
  case neg =>
    refine ⟨it, ?_, ?_⟩
    · rw [next?_of_not_lt h, remaining_of_not_lt h]
      simp
    · rw [remaining_of_not_lt h]
      rfl
  case pos =>
    rw [next?_of_lt hread h, remaining_of_lt h]
    cases hx : presentAt content it.next with
    | some item =>
      refine ⟨it.advance h, ?_, ?_⟩
      · rw [scan_cons_of_some _ hx, passed_cons_of_some _ hx]
        simp
      · rw [scan_cons_of_some _ hx]
    | none =>
      obtain ⟨it', hrun, hrem⟩ :=
        next?_run_of_answersFrom hread (it.advance h) (reads ++ slotReads content it.next)
      refine ⟨it', ?_, ?_⟩
      · rw [hrun, scan_cons_of_none _ hx, passed_cons_of_none _ hx, List.flatMap_cons,
          List.append_assoc]
      · rw [hrem, scan_cons_of_none _ hx]
termination_by 256 - it.position
decreasing_by
  rw [position_advance]
  have := position_lt h
  omega

theorem vendorProbes_append (reads reads' : List ConfigRead) :
    vendorProbes (reads ++ reads') = vendorProbes reads ++ vendorProbes reads' :=
  List.filterMap_append

variable (content) in
theorem vendorProbes_flatMap_slotReads (dfs : List DeviceFunction) :
    vendorProbes (dfs.flatMap (slotReads content)) = dfs := by
  induction dfs with
  | nil => rfl
  | cons df dfs ih =>
    rw [List.flatMap_cons, vendorProbes_append, ih]
    unfold slotReads
    split <;> simp [vendorProbes]

/-- `k` calls of `next` are `k` calls of the lazy `filter_map` over the slots ahead of the
cursor; the vendor words they read are those of the slots the calls pass, which come
before those still ahead. -/
theorem nextN_run_of_answersFrom (hread : AnswersFrom content noted read) (k : Nat)
    (it : BusDeviceIterator) (reads : List ConfigRead) :
    ∃ it' reads', (nextN read k it).run (noted reads) =
        .ok ((scanN (presentAt content) k it.remaining).1, it') (noted (reads ++ reads')) ∧
      it'.remaining = (scanN (presentAt content) k it.remaining).2 ∧
      vendorProbes reads' ++ it'.remaining = it.remaining := by
  induction k generalizing it reads with
  | zero => exact ⟨it, [], by simp [nextN], rfl, rfl⟩
  | succ k ih =>
    obtain ⟨it₁, hrun₁, hrem₁⟩ := next?_run_of_answersFrom hread it reads
    obtain ⟨it₂, reads₂, hrun₂, hrem₂, hprobes₂⟩ :=
      ih it₁ (reads ++ (passed (presentAt content) it.remaining).flatMap (slotReads content))
    refine ⟨it₂, (passed (presentAt content) it.remaining).flatMap (slotReads content) ++ reads₂,
      ?_, ?_, ?_⟩
    · rw [nextN, EStateM.run_bind_of_ok hrun₁, scanN_succ, ← hrem₁]
      simp only [EStateM.run, EStateM.bind_apply] at hrun₂ ⊢
      rw [hrun₂, List.append_assoc]
      rfl
    · rw [hrem₂, hrem₁, scanN_succ]
    · rw [vendorProbes_append, vendorProbes_flatMap_slotReads, List.append_assoc, hprobes₂, hrem₁,
        passed_append_scan_snd]

end Access

theorem nextN_recordRead_run (content : DeviceFunction → UInt8 → UInt32) (k : Nat)
    (it : BusDeviceIterator) (reads : List ConfigRead) :
    ∃ it' reads', (nextN (recordRead content) k it).run reads =
        .ok ((scanN (presentAt content) k it.remaining).1, it') (reads ++ reads') ∧
      it'.remaining = (scanN (presentAt content) k it.remaining).2 ∧
      vendorProbes reads' ++ it'.remaining = it.remaining :=
  nextN_run_of_answersFrom (recordRead_answersFrom content) k it reads

end BusDeviceIterator

/-- Enumeration against any configuration-space content: call `i` of `next` returns
function `i` of those on the bus that answer, listed once each in (device, function)
order with their headers decoded, and `none` once all are returned; the vendor words
the calls read are those of the first slots, each once, and of all 256 once a call has
returned `none`. -/
theorem PciRoot.enumerateBus_yields_each_function_once (content : DeviceFunction → UInt8 → UInt32)
    (bus : UInt8) (k : Nat) :
    (∀ df info, (df, info) ∈ present content bus ↔
      df.bus = bus ∧ df.device < 32 ∧ df.function < 8 ∧ content df 0 ≠ INVALID_READ ∧
        info = DeviceFunctionInfo.ofWords (content df 0) (content df 8) (content df 12)) ∧
    (present content bus).Pairwise (fun x y =>
      x.1.device < y.1.device ∨ x.1.device = y.1.device ∧ x.1.function < y.1.function) ∧
    ∃ it reads, (BusDeviceIterator.nextN (recordRead content) k (enumerateBus bus)).run [] =
        .ok ((List.range k).map fun i => (present content bus)[i]?, it) reads ∧
      vendorProbes reads <+: slots bus ∧ (vendorProbes reads).length ≤ 256 ∧
      ((present content bus).length < k → vendorProbes reads = slots bus) := by
  refine ⟨fun df info => mem_present, present_pairwise content bus, ?_⟩
  obtain ⟨it, reads, hrun, hrem, hprobes⟩ :=
    BusDeviceIterator.nextN_recordRead_run content k (enumerateBus bus) []
  rw [BusDeviceIterator.remaining_enumerateBus] at hrun hrem hprobes
  have hprefix : vendorProbes reads <+: slots bus := ⟨it.remaining, hprobes⟩
  refine ⟨it, reads, ?_, hprefix, ?_, ?_⟩
  · rw [hrun, scanN_fst, List.nil_append]
    rfl
  · simpa using hprefix.length_le
  · intro hk
    rw [hrem, scanN_snd_of_length_lt _ hk, List.append_nil] at hprobes
    exact hprobes

end VirtioDrivers
