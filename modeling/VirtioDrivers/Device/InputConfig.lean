import VirtioDrivers.Device.Input
import VirtioDrivers.Transport.State
import VirtioDrivers.Lib.LittleEndian

/-! The configuration queries of the input driver (`device/input.rs`). A query writes a
selector and a sub-selector to the config space, reads the size of what the device then
shows, and reads that many bytes of `data` one at a time, each with `?`.
`query_config_select` copies as many as fit the caller's buffer and returns the size;
`query_config_select_alloc` refuses a size past the 128 bytes of `data`. `name`,
`serial_number`, `ids`, `prop_bits`, `ev_bits` and `abs_info` are built on the two. They
touch only the transport, so they are modelled on its calls. On a device whose config
space shows, for the selector and sub-selector last written, a size and the bytes of
`data`, each query reads back exactly what the device shows. -/
namespace VirtioDrivers
open Transport

/-- `InputConfigSelect`, with the `u8` each selector is written as. -/
inductive InputConfigSelect where
  | idName
  | idSerial
  | idDevids
  | propBits
  | evBits
  | absInfo
deriving DecidableEq, Repr

def InputConfigSelect.toU8 : InputConfigSelect → UInt8
  | .idName => 0x01
  | .idSerial => 0x02
  | .idDevids => 0x03
  | .propBits => 0x10
  | .evBits => 0x11
  | .absInfo => 0x12

namespace Input

/-- `offset_of!(Config, ...)` of `select`, `subsel`, `size` and `data`. -/
def SELECT_OFFSET : Nat := 0
def SUBSEL_OFFSET : Nat := 1
def SIZE_OFFSET : Nat := 2
def DATA_OFFSET : Nat := 8

def CONFIG_DATA_MAX_LENGTH : Nat := 128

/-- `size_of::<DevIDs>()` and `size_of::<AbsInfo>()`. -/
def DEV_IDS_SIZE : Nat := 8
def ABS_INFO_SIZE : Nat := 20

end Input
open Input

/-- `DevIDs`: four `u16`s, read from the bytes the query copied. -/
structure DevIDs where
  bustype : UInt16
  vendor : UInt16
  product : UInt16
  version : UInt16
deriving DecidableEq, Repr

/-- `AbsInfo`: five `u32`s. -/
structure AbsInfo where
  min : UInt32
  max : UInt32
  fuzz : UInt32
  flat : UInt32
  res : UInt32
deriving DecidableEq, Repr

/-- The `w` bytes from `offset` on, as the little-endian number a field of them holds. -/
def fieldOf (bytes : List UInt8) (offset w : Nat) : Nat :=
  LittleEndian.decode ((bytes.drop offset).take w)

def DevIDs.ofBytes (bytes : List UInt8) : DevIDs :=
  ⟨.ofNat (fieldOf bytes 0 2), .ofNat (fieldOf bytes 2 2), .ofNat (fieldOf bytes 4 2),
    .ofNat (fieldOf bytes 6 2)⟩

def AbsInfo.ofBytes (bytes : List UInt8) : AbsInfo :=
  ⟨.ofNat (fieldOf bytes 0 4), .ofNat (fieldOf bytes 4 4), .ofNat (fieldOf bytes 8 4),
    .ofNat (fieldOf bytes 12 4), .ofNat (fieldOf bytes 16 4)⟩

namespace VirtIOInput
variable (T : TransportBehaviour)

/-- The loop over `data`: the byte at `offset_of!(Config, data) + i * size_of::<u8>()` for
each `i` in turn. -/
def readData : List Nat → ExceptT Error (EStateM Fault (List TransportCall)) (List UInt8)
  | [] => pure []
  | i :: is => do
    let b ← readConfigSpace T (DATA_OFFSET + i * 1) 1
    let bs ← readData is
    pure (UInt8.ofNat b :: bs)

/-- The first three lines of both queries: the selector and sub-selector written, and the
size the device then reports. -/
def writeSelect (select : InputConfigSelect) (subsel : UInt8) :
    ExceptT Error (EStateM Fault (List TransportCall)) UInt8 := do
  writeConfigSpace T SELECT_OFFSET 1 select.toU8.toNat
  writeConfigSpace T SUBSEL_OFFSET 1 subsel.toNat
  pure (UInt8.ofNat (← readConfigSpace T SIZE_OFFSET 1))

/-- `query_config_select(select, subsel, out)`: the size, and `out` with its first bytes, as
many as the size and `out` allow, read from `data`. -/
def queryConfigSelect (select : InputConfigSelect) (subsel : UInt8) (out : List UInt8) :
    ExceptT Error (EStateM Fault (List TransportCall)) (UInt8 × List UInt8) := do
  let size ← writeSelect T select subsel
  let sizeToCopy := min size.toNat out.length
  let data ← readData T (List.range sizeToCopy)
  pure (size, data ++ out.drop sizeToCopy)

/-- `query_config_select_alloc(select, subsel)`: a buffer of the size, read from `data`. -/
def queryConfigSelectAlloc (select : InputConfigSelect) (subsel : UInt8) :
    ExceptT Error (EStateM Fault (List TransportCall)) (List UInt8) := do
  let size := (← writeSelect T select subsel).toNat
  if size > CONFIG_DATA_MAX_LENGTH then throw .ioError
  readData T (List.range size)

/-- `query_config_string`: bytes that are not UTF-8 are an `IoError`. -/
def queryConfigString (select : InputConfigSelect) (subsel : UInt8) :
    ExceptT Error (EStateM Fault (List TransportCall)) String := do
  let bytes ← queryConfigSelectAlloc T select subsel
  match String.fromUTF8? ⟨bytes.toArray⟩ with
  | some s => pure s
  | none => throw .ioError

def name := queryConfigString T .idName 0
def serialNumber := queryConfigString T .idSerial 0
def propBits := queryConfigSelectAlloc T .propBits 0
def evBits (eventType : UInt8) := queryConfigSelectAlloc T .evBits eventType

/-- `ids`: a size other than that of `DevIDs` is an `IoError`. -/
def ids : ExceptT Error (EStateM Fault (List TransportCall)) DevIDs := do
  let (size, bytes) ← queryConfigSelect T .idDevids 0 (List.replicate DEV_IDS_SIZE 0)
  if size.toNat = DEV_IDS_SIZE then pure (DevIDs.ofBytes bytes) else throw .ioError

/-- `abs_info(axis)`: a size other than that of `AbsInfo` is an `IoError`. -/
def absInfo (axis : UInt8) : ExceptT Error (EStateM Fault (List TransportCall)) AbsInfo := do
  let (size, bytes) ← queryConfigSelect T .absInfo axis (List.replicate ABS_INFO_SIZE 0)
  if size.toNat = ABS_INFO_SIZE then pure (AbsInfo.ofBytes bytes) else throw .ioError

end VirtIOInput

/-! ### A device that shows what the selectors select -/

/-- A virtio-input device's configuration: for each selector and sub-selector, the size it
reports and the bytes of `data`. -/
structure InputConfig where
  size : UInt8 → UInt8 → UInt8
  data : UInt8 → UInt8 → Nat → UInt8

namespace InputConfig
variable (d : InputConfig)

/-- What the device shows at the field of `size` bytes at `offset` of the config space when
the calls have left `s`: the size and the bytes of `data` for the selector and sub-selector
last written, and any other field as written. -/
def shows (s : TransportState) (offset size : Nat) : Nat :=
  let select := UInt8.ofNat (s.config SELECT_OFFSET 1)
  let subsel := UInt8.ofNat (s.config SUBSEL_OFFSET 1)
  if offset = SIZE_OFFSET ∧ size = 1 then (d.size select subsel).toNat
  else if DATA_OFFSET ≤ offset ∧ size = 1 then (d.data select subsel (offset - DATA_OFFSET)).toNat
  else s.config offset size

/-- The transport of kind `k` whose device starts in `s₀` and has this configuration; its
other answers are `T`'s. -/
def behaviour (k : TransportKind) (s₀ : TransportState) (T : TransportBehaviour) :
    TransportBehaviour :=
  { TransportState.behaviour k s₀ T with
    readConfigSpace := fun calls offset size => do
      k.checkField offset size
      pure (d.shows (calls.foldl (TransportState.after k) s₀) offset size) }

theorem checkField_of_le {k : TransportKind} {n offset size : Nat} (hk : k.configSpaceSize = some n)
    (h : offset + size ≤ n) : k.checkField offset size = .ok () := by
  simp [TransportKind.checkField, hk, Nat.not_lt.mpr h]

section Reads
variable {d : InputConfig} {k : TransportKind} {s₀ : TransportState} {T : TransportBehaviour}
  {n : Nat}

theorem readConfigSpace_run (offset size : Nat) (log : List TransportCall) :
    (readConfigSpace (d.behaviour k s₀ T) offset size).run.run log =
      .ok (do k.checkField offset size; pure (d.shows (log.foldl (TransportState.after k) s₀) offset size))
        (log ++ [.readConfigSpace offset size]) := rfl

theorem writeConfigSpace_run (offset size value : Nat) (log : List TransportCall) :
    (writeConfigSpace (d.behaviour k s₀ T) offset size value).run.run log =
      .ok (k.checkField offset size) (log ++ [.writeConfigSpace offset size value]) := rfl

theorem config_foldl_reads (s : TransportState) (reads : List TransportCall)
    (hreads : ∀ c ∈ reads, ∃ offset size, c = .readConfigSpace offset size) :
    (reads.foldl (TransportState.after k) s).config = s.config := by
  induction reads generalizing s with
  | nil => rfl
  | cons c reads ih =>
    obtain ⟨offset, size, rfl⟩ := hreads c List.mem_cons_self
    rw [List.foldl_cons, ih _ fun c hc => hreads c (List.mem_cons_of_mem _ hc)]
    rfl

/-- On a config space that holds `data`, the loop reads, for the selector and sub-selector
the calls before it left, the bytes of `data` at the indices it is given. -/
theorem readData_run (hk : k.configSpaceSize = some n) {sel sub : UInt8} {is : List Nat}
    (hin : ∀ i ∈ is, DATA_OFFSET + i + 1 ≤ n) {log : List TransportCall}
    (hsel : UInt8.ofNat ((log.foldl (TransportState.after k) s₀).config SELECT_OFFSET 1) = sel)
    (hsub : UInt8.ofNat ((log.foldl (TransportState.after k) s₀).config SUBSEL_OFFSET 1) = sub) :
    (VirtIOInput.readData (d.behaviour k s₀ T) is).run.run log =
      .ok (.ok (is.map (d.data sel sub)))
        (log ++ is.map fun i => .readConfigSpace (DATA_OFFSET + i * 1) 1) := by
  induction is generalizing log with
  | nil => simp [VirtIOInput.readData]
  | cons i is ih =>
    have hread : (readConfigSpace (d.behaviour k s₀ T) (DATA_OFFSET + i * 1) 1).run.run log =
        .ok (.ok (d.data sel sub i).toNat) (log ++ [.readConfigSpace (DATA_OFFSET + i * 1) 1]) := by
      rw [readConfigSpace_run, checkField_of_le hk (by simpa using hin i List.mem_cons_self)]
      simp [shows, hsel, hsub, DATA_OFFSET, SIZE_OFFSET, show 8 + i ≠ 2 by omega]
    have hkeep : ((log ++ [TransportCall.readConfigSpace (DATA_OFFSET + i * 1) 1]).foldl
        (TransportState.after k) s₀).config = (log.foldl (TransportState.after k) s₀).config := by
      rw [List.foldl_append]
      exact config_foldl_reads _ _ (by simp)
    rw [VirtIOInput.readData, EStateM.run_exceptT_bind_of_ok hread,
      EStateM.run_exceptT_bind_of_ok (ih (fun i hi => hin i (List.mem_cons_of_mem _ hi))
        (by rw [hkeep]; exact hsel) (by rw [hkeep]; exact hsub))]
    simp

theorem readData_append (T : TransportBehaviour) (xs ys : List Nat) :
    VirtIOInput.readData T (xs ++ ys) =
      (do let a ← VirtIOInput.readData T xs; let b ← VirtIOInput.readData T ys; pure (a ++ b)) := by
  induction xs with
  | nil => simp [VirtIOInput.readData]
  | cons x xs ih => simp [VirtIOInput.readData, ih]

theorem config_after_write {s : TransportState} {offset size value : Nat}
    (h : k.checkField offset size = .ok ()) (offset' size' : Nat) :
    (s.after k (.writeConfigSpace offset size value)).config offset' size' =
      if offset' = offset ∧ size' = size then value else s.config offset' size' := by
  simp [TransportState.after, h]

/-- The selector and sub-selector are written, and the size the device shows for them read;
the config space then holds the two written. -/
theorem writeSelect_run (hk : k.configSpaceSize = some n) (hn : SIZE_OFFSET + 1 ≤ n)
    (select : InputConfigSelect) (subsel : UInt8) (log : List TransportCall) :
    let log' := log ++ [.writeConfigSpace SELECT_OFFSET 1 select.toU8.toNat,
      .writeConfigSpace SUBSEL_OFFSET 1 subsel.toNat, .readConfigSpace SIZE_OFFSET 1]
    (VirtIOInput.writeSelect (d.behaviour k s₀ T) select subsel).run.run log =
        .ok (.ok (d.size select.toU8 subsel)) log' ∧
      UInt8.ofNat ((log'.foldl (TransportState.after k) s₀).config SELECT_OFFSET 1) = select.toU8 ∧
      UInt8.ofNat ((log'.foldl (TransportState.after k) s₀).config SUBSEL_OFFSET 1) = subsel := by
  intro log'
  have h3 : 3 ≤ n := hn
  have hsel : k.checkField SELECT_OFFSET 1 = .ok () := checkField_of_le hk (by unfold SELECT_OFFSET; omega)
  have hsub : k.checkField SUBSEL_OFFSET 1 = .ok () := checkField_of_le hk (by unfold SUBSEL_OFFSET; omega)
  let s₂ := (log ++ [TransportCall.writeConfigSpace SELECT_OFFSET 1 select.toU8.toNat,
    .writeConfigSpace SUBSEL_OFFSET 1 subsel.toNat]).foldl (TransportState.after k) s₀
  have hs₂ : UInt8.ofNat (s₂.config SELECT_OFFSET 1) = select.toU8 ∧
      UInt8.ofNat (s₂.config SUBSEL_OFFSET 1) = subsel := by
    simp only [s₂, List.foldl_append, List.foldl_cons, List.foldl_nil, config_after_write hsel,
      config_after_write hsub]
    simp [SELECT_OFFSET, SUBSEL_OFFSET]
  have hread : (log'.foldl (TransportState.after k) s₀).config = s₂.config := by
    simp only [log', s₂, List.foldl_append, List.foldl_cons, List.foldl_nil]
    rfl
  refine ⟨?_, hread ▸ hs₂⟩
  have h₁ : (writeConfigSpace (d.behaviour k s₀ T) SELECT_OFFSET 1 select.toU8.toNat).run.run log =
      .ok (.ok ()) (log ++ [.writeConfigSpace SELECT_OFFSET 1 select.toU8.toNat]) := by
    rw [writeConfigSpace_run, hsel]
  have h₂ : (writeConfigSpace (d.behaviour k s₀ T) SUBSEL_OFFSET 1 subsel.toNat).run.run
      (log ++ [.writeConfigSpace SELECT_OFFSET 1 select.toU8.toNat]) =
      .ok (.ok ()) (log ++ [.writeConfigSpace SELECT_OFFSET 1 select.toU8.toNat,
        .writeConfigSpace SUBSEL_OFFSET 1 subsel.toNat]) := by
    rw [writeConfigSpace_run, hsub]
    simp
  have h₃ : (readConfigSpace (d.behaviour k s₀ T) SIZE_OFFSET 1).run.run
      (log ++ [.writeConfigSpace SELECT_OFFSET 1 select.toU8.toNat,
        .writeConfigSpace SUBSEL_OFFSET 1 subsel.toNat]) =
      .ok (.ok (d.size select.toU8 subsel).toNat) log' := by
    rw [readConfigSpace_run, checkField_of_le hk hn]
    simp only [log', List.append_assoc, List.cons_append, List.nil_append]
    change EStateM.Result.ok (Except.ok (d.shows s₂ SIZE_OFFSET 1)) _ = _
    simp [shows, hs₂.1, hs₂.2]
  rw [VirtIOInput.writeSelect, EStateM.run_exceptT_bind_of_ok h₁, EStateM.run_exceptT_bind_of_ok h₂,
    EStateM.run_exceptT_bind_of_ok h₃]
  simp

/-- On a config space that holds the bytes of `data`, `query_config_select_alloc` returns
those the device shows for the selector and sub-selector, as many as the size it reports, and
an `IoError` for a size past the 128 bytes of `data`. -/
theorem queryConfigSelectAlloc_reads (hk : k.configSpaceSize = some n)
    (hn : DATA_OFFSET + CONFIG_DATA_MAX_LENGTH ≤ n) (select : InputConfigSelect) (subsel : UInt8)
    (log : List TransportCall) :
    ∃ log', (VirtIOInput.queryConfigSelectAlloc (d.behaviour k s₀ T) select subsel).run.run log =
      .ok (if CONFIG_DATA_MAX_LENGTH < (d.size select.toU8 subsel).toNat then .error .ioError
        else .ok ((List.range (d.size select.toU8 subsel).toNat).map (d.data select.toU8 subsel)))
        log' := by
  have hn' : 136 ≤ n := hn
  obtain ⟨hrun, hsel, hsub⟩ := writeSelect_run (d := d) (T := T) hk (by unfold SIZE_OFFSET; omega)
    select subsel log
  rw [VirtIOInput.queryConfigSelectAlloc, EStateM.run_exceptT_bind_of_ok hrun]
  by_cases hbig : CONFIG_DATA_MAX_LENGTH < (d.size select.toU8 subsel).toNat
  · simp [hbig]
  · simp only [hbig, if_false]
    refine ⟨_, readData_run hk (fun i hi => ?_) hsel hsub⟩
    have hi' := List.mem_range.mp hi
    unfold DATA_OFFSET CONFIG_DATA_MAX_LENGTH at *
    omega

/-- A device named `abcd` on a config space of exactly `Config`: the query of its name reads
the four bytes. -/
theorem queryConfigSelectAlloc_reads_name :
    let d : InputConfig := ⟨fun _ _ => 4, fun _ _ i => UInt8.ofNat (0x61 + i)⟩
    let k : TransportKind := ⟨.enable, id, some 136⟩
    let s₀ : TransportState := ⟨0, 0, fun _ => false, [], false, fun _ _ => 0⟩
    ∃ log', (VirtIOInput.queryConfigSelectAlloc (d.behaviour k s₀ (.plain 16)) .idName 0).run.run [] =
      .ok (.ok [0x61, 0x62, 0x63, 0x64]) log' := by
  intro d k s₀
  obtain ⟨log', h⟩ := @queryConfigSelectAlloc_reads d k s₀ (.plain 16) 136 rfl (by decide) .idName 0 []
  exact ⟨log', h.trans rfl⟩

/-- `query_config_select` into a buffer no longer than `data` returns the size the device
reports, and the buffer with its first bytes, as many as the size and the buffer allow,
replaced by the bytes of `data` the device shows. -/
theorem queryConfigSelect_reads (hk : k.configSpaceSize = some n)
    (hn : DATA_OFFSET + CONFIG_DATA_MAX_LENGTH ≤ n) (select : InputConfigSelect) (subsel : UInt8)
    {out : List UInt8} (hout : out.length ≤ CONFIG_DATA_MAX_LENGTH) (log : List TransportCall) :
    let m := min (d.size select.toU8 subsel).toNat out.length
    ∃ log', (VirtIOInput.queryConfigSelect (d.behaviour k s₀ T) select subsel out).run.run log =
      .ok (.ok (d.size select.toU8 subsel, (List.range m).map (d.data select.toU8 subsel) ++ out.drop m))
        log' := by
  intro m
  have hn' : 136 ≤ n := hn
  obtain ⟨hrun, hsel, hsub⟩ := writeSelect_run (d := d) (T := T) hk (by unfold SIZE_OFFSET; omega)
    select subsel log
  have hdata := readData_run (d := d) (T := T) hk (fun i (hi : i ∈ List.range m) => by
    have hi' := List.mem_range.mp hi
    have hm : m ≤ out.length := Nat.min_le_right _ _
    unfold DATA_OFFSET CONFIG_DATA_MAX_LENGTH at *
    omega) hsel hsub
  rw [VirtIOInput.queryConfigSelect, EStateM.run_exceptT_bind_of_ok hrun,
    EStateM.run_exceptT_bind_of_ok hdata]
  exact ⟨_, rfl⟩

theorem queryConfigSelect_replicate_reads (hk : k.configSpaceSize = some n)
    (hn : DATA_OFFSET + CONFIG_DATA_MAX_LENGTH ≤ n) (select : InputConfigSelect) (subsel : UInt8)
    {size : Nat} (hsize : size ≤ CONFIG_DATA_MAX_LENGTH) (log : List TransportCall) :
    ∃ log' bytes,
      (VirtIOInput.queryConfigSelect (d.behaviour k s₀ T) select subsel (List.replicate size 0)).run.run
        log = .ok (.ok (d.size select.toU8 subsel, bytes)) log' ∧
      ((d.size select.toU8 subsel).toNat = size → bytes = (List.range size).map (d.data select.toU8 subsel)) := by
  obtain ⟨log', h⟩ := queryConfigSelect_reads (d := d) (T := T) hk hn select subsel
    (show (List.replicate size 0).length ≤ CONFIG_DATA_MAX_LENGTH by simpa using hsize) log
  refine ⟨log', _, h, fun hreports => ?_⟩
  simp [hreports]

/-- `abs_info(axis)` returns the `AbsInfo` made of the twenty bytes of `data` the device
shows for `AbsInfo` and the axis when it reports their size, and an `IoError` for any
other size. -/
theorem absInfo_reads (hk : k.configSpaceSize = some n) (hn : DATA_OFFSET + CONFIG_DATA_MAX_LENGTH ≤ n)
    (axis : UInt8) (log : List TransportCall) :
    ∃ log', (VirtIOInput.absInfo (d.behaviour k s₀ T) axis).run.run log =
      .ok (if (d.size 0x12 axis).toNat = ABS_INFO_SIZE
        then .ok (AbsInfo.ofBytes ((List.range ABS_INFO_SIZE).map (d.data 0x12 axis)))
        else .error .ioError) log' := by
  obtain ⟨log', bytes, h, hbytes⟩ := queryConfigSelect_replicate_reads (d := d) (T := T) hk hn
    .absInfo axis (show ABS_INFO_SIZE ≤ CONFIG_DATA_MAX_LENGTH by decide) log
  rw [VirtIOInput.absInfo, EStateM.run_exceptT_bind_of_ok h]
  by_cases hsize : (d.size 0x12 axis).toNat = ABS_INFO_SIZE
  · simp [hsize, hbytes hsize, InputConfigSelect.toU8]
  · simp [hsize, InputConfigSelect.toU8]

/-- The same device reporting twenty bytes for `AbsInfo` of axis 0. -/
theorem absInfo_reads_counting :
    let d : InputConfig := ⟨fun _ _ => 20, fun _ _ i => UInt8.ofNat i⟩
    let k : TransportKind := ⟨.enable, id, some 136⟩
    let s₀ : TransportState := ⟨0, 0, fun _ => false, [], false, fun _ _ => 0⟩
    ∃ log', (VirtIOInput.absInfo (d.behaviour k s₀ (.plain 16)) 0).run.run [] =
      .ok (.ok ⟨0x03020100, 0x07060504, 0x0b0a0908, 0x0f0e0d0c, 0x13121110⟩) log' := by
  intro d k s₀
  obtain ⟨log', h⟩ := @absInfo_reads d k s₀ (.plain 16) 136 rfl (by decide) 0 []
  refine ⟨log', h.trans ?_⟩
  simp [d, AbsInfo.ofBytes, fieldOf, ABS_INFO_SIZE, List.range_succ, LittleEndian.decode]

/-- `query_config_select` bounds its loop by the buffer, not by `data`: into a buffer longer
than `data`, from a device that reports a size past it, it reads past `data`, and on a config
space of exactly `Config` the read of the byte after `data` fails with `ConfigSpaceTooSmall`,
where `query_config_select_alloc` returns an `IoError` before reading. -/
theorem queryConfigSelect_reads_past_data (hk : k.configSpaceSize = some (DATA_OFFSET + CONFIG_DATA_MAX_LENGTH))
    (select : InputConfigSelect) (subsel : UInt8) (hsize : CONFIG_DATA_MAX_LENGTH < (d.size select.toU8 subsel).toNat)
    {out : List UInt8} (hout : CONFIG_DATA_MAX_LENGTH < out.length) (log : List TransportCall) :
    ∃ log', (VirtIOInput.queryConfigSelect (d.behaviour k s₀ T) select subsel out).run.run log =
      .ok (.error .configSpaceTooSmall) log' := by
  obtain ⟨hrun, hsel, hsub⟩ := writeSelect_run (d := d) (T := T) hk (by decide) select subsel log
  obtain ⟨rest, hrange⟩ : ∃ rest, List.range (min (d.size select.toU8 subsel).toNat out.length) =
      List.range CONFIG_DATA_MAX_LENGTH ++ CONFIG_DATA_MAX_LENGTH :: rest := by
    obtain ⟨j, hj⟩ : ∃ j, min (d.size select.toU8 subsel).toNat out.length = CONFIG_DATA_MAX_LENGTH + (j + 1) :=
      ⟨min (d.size select.toU8 subsel).toNat out.length - CONFIG_DATA_MAX_LENGTH - 1, by omega⟩
    refine ⟨(List.range j).map (CONFIG_DATA_MAX_LENGTH + 1 + ·), ?_⟩
    rw [hj, List.range_add, List.range_succ_eq_map]
    simp [Function.comp_def, Nat.add_assoc, Nat.add_comm 1]
  have hdata := readData_run (d := d) (T := T) hk (fun i (hi : i ∈ List.range CONFIG_DATA_MAX_LENGTH) => by
    have hi' := List.mem_range.mp hi
    omega) hsel hsub
  have hpast : (readConfigSpace (d.behaviour k s₀ T) (DATA_OFFSET + CONFIG_DATA_MAX_LENGTH * 1) 1).run.run
      (log ++ [.writeConfigSpace SELECT_OFFSET 1 select.toU8.toNat, .writeConfigSpace SUBSEL_OFFSET 1 subsel.toNat,
        .readConfigSpace SIZE_OFFSET 1] ++
        (List.range CONFIG_DATA_MAX_LENGTH).map fun i => .readConfigSpace (DATA_OFFSET + i * 1) 1) =
      .ok (.error .configSpaceTooSmall) (log ++ [.writeConfigSpace SELECT_OFFSET 1 select.toU8.toNat,
        .writeConfigSpace SUBSEL_OFFSET 1 subsel.toNat, .readConfigSpace SIZE_OFFSET 1] ++
        (List.range CONFIG_DATA_MAX_LENGTH).map (fun i => .readConfigSpace (DATA_OFFSET + i * 1) 1) ++
        [.readConfigSpace (DATA_OFFSET + CONFIG_DATA_MAX_LENGTH * 1) 1]) := by
    rw [readConfigSpace_run]
    simp [TransportKind.checkField, hk, DATA_OFFSET, CONFIG_DATA_MAX_LENGTH]
  rw [VirtIOInput.queryConfigSelect, EStateM.run_exceptT_bind_of_ok hrun]
  simp only [hrange, readData_append, bind_assoc]
  rw [EStateM.run_exceptT_bind_of_ok hdata, VirtIOInput.readData, bind_assoc,
    EStateM.run_exceptT_bind_of_error hpast]
  exact ⟨_, rfl⟩

/-- A device that reports 200 bytes of name, queried into a buffer of 200. -/
theorem queryConfigSelect_reads_past_data_name :
    let d : InputConfig := ⟨fun _ _ => 200, fun _ _ _ => 0⟩
    let k : TransportKind := ⟨.enable, id, some 136⟩
    let s₀ : TransportState := ⟨0, 0, fun _ => false, [], false, fun _ _ => 0⟩
    ∃ log', (VirtIOInput.queryConfigSelect (d.behaviour k s₀ (.plain 16)) .idName 0
      (List.replicate 200 0)).run.run [] = .ok (.error .configSpaceTooSmall) log' := by
  intro d k s₀
  exact @queryConfigSelect_reads_past_data d k s₀ (.plain 16) rfl .idName 0 (by decide) _
    (by rw [List.length_replicate]; decide) []

end Reads

end InputConfig

end VirtioDrivers
