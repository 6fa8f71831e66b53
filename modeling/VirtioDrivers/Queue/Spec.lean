import VirtioDrivers.Queue.Ops
import VirtioDrivers.Lib.Walk

/-! Spec lemmas for the queue methods: when each one returns, and the state it returns
in closed form. The loops of `add_direct` and `recycle_descriptors` walk the free list
and the chain through the `next` fields, so their closed forms are stated over
`LinkWalk.walk`. -/
namespace VirtioDrivers
open LinkWalk
variable {SIZE : Nat}

@[simp] theorem assert_eq_ok {c : Bool} {u : Unit} : assert c = .ok u ↔ c = true := by
  cases c <;> simp [assert]

@[simp] theorem assert_true : assert true = .ok () := rfl

@[simp] theorem getIdx_eq_ok {α : Type} {a : Nat → α} {n i : Nat} {x : α} :
    getIdx a n i = .ok x ↔ i < n ∧ a i = x := by
  unfold getIdx
  split <;> simp [*]

theorem getIdx_of_lt {α : Type} {a : Nat → α} {n i : Nat} (h : i < n) : getIdx a n i = .ok (a i) := by
  simp [getIdx, h]

namespace Descriptor

/-- What `set_buf` writes when it does not panic. -/
def withBuf (H : Hal) (d : Descriptor) (buf : Buf) (direction : BufferDirection)
    (extraFlags : DescFlags) : Descriptor :=
  { d with
    addr := UInt64.ofNat (H.share buf direction)
    len := UInt32.ofNat buf.len
    flags := extraFlags.union (dirFlags direction) }

@[simp] theorem withBuf_next (H : Hal) (d : Descriptor) (buf : Buf) (direction : BufferDirection)
    (extraFlags : DescFlags) : (d.withBuf H buf direction extraFlags).next = d.next := rfl

@[simp] theorem withBuf_flags (H : Hal) (d : Descriptor) (buf : Buf) (direction : BufferDirection)
    (extraFlags : DescFlags) :
    (d.withBuf H buf direction extraFlags).flags = extraFlags.union (dirFlags direction) := rfl

theorem setBuf_of_fits {H : Hal} {d : Descriptor} {buf : Buf} {direction : BufferDirection}
    {extraFlags : DescFlags} (hlen : buf.len < 2^32) (hdir : direction ≠ .both) :
    d.setBuf H buf direction extraFlags = .ok (d.withBuf H buf direction extraFlags) := by
  have h : ¬ 2^32 ≤ buf.len := by omega
  unfold setBuf
  rw [if_neg h]
  cases direction with
  | deviceToDriver => simp [withBuf, dirFlags]
  | driverToDevice => simp [withBuf, dirFlags]
  | both => exact absurd rfl hdir

theorem setBuf_eq_ok {H : Hal} {d : Descriptor} {buf : Buf} {direction : BufferDirection}
    {extraFlags : DescFlags} {d' : Descriptor} (h : d.setBuf H buf direction extraFlags = .ok d') :
    buf.len < 2^32 ∧ direction ≠ .both ∧ d' = d.withBuf H buf direction extraFlags := by
  have hlen : buf.len < 2^32 := by
    by_contra hc
    unfold setBuf at h
    rw [if_pos (by omega : 2^32 ≤ buf.len)] at h
    simp at h
  have hdir : direction ≠ .both := by
    rintro rfl
    unfold setBuf at h
    rw [if_neg (by omega : ¬ 2^32 ≤ buf.len)] at h
    simp at h
  rw [setBuf_of_fits hlen hdir] at h
  exact ⟨hlen, hdir, (Except.ok.inj h).symm⟩

end Descriptor

/-- A buffer a descriptor can hold: `add_direct` asserts it is not empty and `set_buf`
unwraps its length into a `u32`. -/
def Buf.Fits (b : Buf) : Prop := b.len ≠ 0 ∧ b.len < 2^32

theorem dir_ne_both_of_mem {inputs outputs : List Buf} {p : Buf × BufferDirection}
    (h : p ∈ inputOutputIter inputs outputs) : p.2 ≠ .both := by
  simp only [inputOutputIter, List.mem_append, List.mem_map] at h
  rcases h with ⟨b, -, rfl⟩ | ⟨b, -, rfl⟩ <;> simp

theorem fits_of_mem_inputOutputIter {inputs outputs : List Buf}
    (h : ∀ b ∈ inputs ++ outputs, b.Fits) : ∀ p ∈ inputOutputIter inputs outputs, p.1.Fits := by
  intro p hp
  simp only [inputOutputIter, List.mem_append, List.mem_map] at hp
  rcases hp with ⟨b, hb, rfl⟩ | ⟨b, hb, rfl⟩
  · exact h b (List.mem_append_left _ hb)
  · exact h b (List.mem_append_right _ hb)

/-- The descriptors the loop of `add_direct` writes: node `k` of the chain describes
buffer `k`, with `NEXT` set. -/
def fillChain (H : Hal) (ds : Nat → Descriptor) :
    List Nat → List (Buf × BufferDirection) → Nat → Descriptor
  | j :: js, (b, dir) :: bs =>
    fillChain H (Function.update ds j ((ds j).withBuf H b dir DescFlags.NEXT)) js bs
  | _, _ => ds

theorem fillChain_of_not_mem (H : Hal) (ds : Nat → Descriptor) (nodes : List Nat)
    (bufs : List (Buf × BufferDirection)) {j : Nat} (hj : j ∉ nodes) :
    fillChain H ds nodes bufs j = ds j := by
  induction nodes generalizing ds bufs with
  | nil => simp [fillChain]
  | cons i is ih =>
    have hji : j ≠ i := fun h => hj (by simp [h])
    rcases bufs with _ | ⟨⟨b, dir⟩, bs⟩
    · simp [fillChain]
    · rw [fillChain, ih _ _ (fun h => hj (by simp [h])), Function.update_of_ne hji]

theorem fillChain_next (H : Hal) (ds : Nat → Descriptor) (nodes : List Nat)
    (bufs : List (Buf × BufferDirection)) (j : Nat) :
    (fillChain H ds nodes bufs j).next = (ds j).next := by
  induction nodes generalizing ds bufs with
  | nil => simp [fillChain]
  | cons i is ih =>
    rcases bufs with _ | ⟨⟨b, dir⟩, bs⟩
    · simp [fillChain]
    · rw [fillChain, ih]
      by_cases hji : j = i
      · subst hji; simp
      · rw [Function.update_of_ne hji]

theorem fillChain_flags (H : Hal) (ds : Nat → Descriptor) (nodes : List Nat)
    (bufs : List (Buf × BufferDirection)) (hlen : nodes.length ≤ bufs.length) {j : Nat}
    (hj : j ∈ nodes) :
    (fillChain H ds nodes bufs j).flags.next = true ∧
      (fillChain H ds nodes bufs j).flags.indirect = false := by
  induction nodes generalizing ds bufs with
  | nil => simp at hj
  | cons i is ih =>
    rcases bufs with _ | ⟨⟨b, dir⟩, bs⟩
    · simp at hlen
    · rw [fillChain]
      by_cases hjs : j ∈ is
      · exact ih _ bs (by simpa using hlen) hjs
      · have hji : j = i := by simpa [hjs] using hj
        subst hji
        rw [fillChain_of_not_mem H _ is bs hjs]
        cases dir <;> simp [DescFlags.union, DescFlags.NEXT, dirFlags, DescFlags.WRITE,
          DescFlags.empty]

theorem linkedDescriptors_apply (SIZE i : Nat) :
    linkedDescriptors SIZE i =
      if i + 1 < SIZE then { Descriptor.zero with next := i + 1 } else Descriptor.zero := by
  have hfold : ∀ n, (List.range n).foldl
      (fun d i => Function.update d i { d i with next := i + 1 }) (fun _ => Descriptor.zero) =
      fun i => if i < n then { Descriptor.zero with next := i + 1 } else Descriptor.zero := by
    intro n
    induction n with
    | zero => rfl
    | succ n ih =>
      rw [List.range_succ, List.foldl_append, ih]
      funext j
      by_cases hj : j = n
      · subst hj; simp
      · have : j < n + 1 ↔ j < n := by omega
        simp [Function.update_of_ne hj, this]
  rw [linkedDescriptors, hfold]
  have : i < SIZE - 1 ↔ i + 1 < SIZE := by omega
  simp only [this]

/-- The table the device reads after `write_desc` of every node in `nodes`. -/
def syncDesc (desc shadow : Nat → Descriptor) (nodes : List Nat) : Nat → Descriptor :=
  fun j => if j ∈ nodes then shadow j else desc j

@[simp] theorem syncDesc_nil (desc shadow : Nat → Descriptor) : syncDesc desc shadow [] = desc := by
  funext j
  simp [syncDesc]

namespace VirtQueue

/-- The link field of every descriptor. -/
def nextOf (q : VirtQueue SIZE) (i : Nat) : Nat := (q.descShadow i).next

theorem writeDesc_of_lt {q : VirtQueue SIZE} {i : Nat} (h : i < SIZE) :
    q.writeDesc i = .ok { q with desc := Function.update q.desc i (q.descShadow i) } := by
  simp [writeDesc, getIdx_of_lt h]

/-- The queue after the loop of `add_direct` over `bufs`. -/
def afterDirectLoop (H : Hal) (q : VirtQueue SIZE) (bufs : List (Buf × BufferDirection)) :
    VirtQueue SIZE :=
  let nodes := walk q.nextOf q.freeHead bufs.length
  { q with
    descShadow := fillChain H q.descShadow nodes bufs
    desc := syncDesc q.desc (fillChain H q.descShadow nodes bufs) nodes
    freeHead := q.nextOf^[bufs.length] q.freeHead }

section
variable (H : Hal) (q : VirtQueue SIZE) (bufs : List (Buf × BufferDirection))
@[simp] theorem numUsed_afterDirectLoop : (q.afterDirectLoop H bufs).numUsed = q.numUsed := rfl
@[simp] theorem indirect_afterDirectLoop : (q.afterDirectLoop H bufs).indirect = q.indirect := rfl
@[simp] theorem indirectLists_afterDirectLoop :
    (q.afterDirectLoop H bufs).indirectLists = q.indirectLists := rfl
@[simp] theorem freeHead_afterDirectLoop :
    (q.afterDirectLoop H bufs).freeHead = q.nextOf^[bufs.length] q.freeHead := rfl
@[simp] theorem descShadow_afterDirectLoop : (q.afterDirectLoop H bufs).descShadow =
    fillChain H q.descShadow (walk q.nextOf q.freeHead bufs.length) bufs := rfl
end

/-- The loop of `add_direct` fills the first `bufs.length` nodes of the free list and
moves `free_head` past them, as long as it stays in the table. -/
theorem addDirectLoop_eq (H : Hal) (q : VirtQueue SIZE) (last : Nat)
    (bufs : List (Buf × BufferDirection)) (hfit : ∀ p ∈ bufs, p.1.Fits ∧ p.2 ≠ .both)
    (hlt : ∀ j ∈ walk q.nextOf q.freeHead bufs.length, j < SIZE) :
    q.addDirectLoop H last bufs =
      .ok (q.afterDirectLoop H bufs,
        if bufs = [] then last else q.nextOf^[bufs.length - 1] q.freeHead) := by
  induction bufs generalizing q last with
  | nil => simp [addDirectLoop, afterDirectLoop, fillChain]
  | cons p rest ih =>
    obtain ⟨b, dir⟩ := p
    obtain ⟨⟨hb0, hb32⟩, hdir⟩ : b.Fits ∧ dir ≠ .both := hfit (b, dir) (by simp)
    have hh : q.freeHead < SIZE := hlt _ (by simp)
    set q1 : VirtQueue SIZE := { q with
      descShadow := Function.update q.descShadow q.freeHead
        ((q.descShadow q.freeHead).withBuf H b dir DescFlags.NEXT)
      freeHead := (q.descShadow q.freeHead).next } with hq1
    have hnext : q1.nextOf = q.nextOf := by
      funext j
      by_cases hj : j = q.freeHead
      · subst hj; simp [q1, nextOf]
      · simp [q1, nextOf, Function.update_of_ne hj]
    set q2 : VirtQueue SIZE :=
      { q1 with desc := Function.update q1.desc q.freeHead (q1.descShadow q.freeHead) } with hq2
    have hnext2 : q2.nextOf = q.nextOf := hnext
    have hstep : q.addDirectLoop H last ((b, dir) :: rest) = q2.addDirectLoop H q.freeHead rest := by
      have hb : (b.len != 0) = true := by simp [hb0]
      simp [addDirectLoop, hb, getIdx_of_lt hh, Descriptor.setBuf_of_fits hb32 hdir,
        writeDesc_of_lt hh, q2, q1]
    have hwalk : walk q2.nextOf q2.freeHead rest.length =
        walk q.nextOf (q.nextOf q.freeHead) rest.length := by
      rw [hnext2]; rfl
    rw [hstep, ih q2 q.freeHead (fun p hp => hfit p (by simp [hp]))
      (fun j hj => hlt j (by rw [hwalk] at hj; simp [hj]))]
    have hnh : (q.descShadow q.freeHead).next = q.nextOf q.freeHead := rfl
    simp only [afterDirectLoop]
    rw [hnext2]
    simp only [q2, q1, List.length_cons, walk_succ, fillChain, hnh,
      Function.iterate_succ_apply, Except.ok.injEq, Prod.mk.injEq]
    refine ⟨?_, ?_⟩
    · congr 1
      funext j
      by_cases hj : j ∈ walk q.nextOf (q.nextOf q.freeHead) rest.length
      · simp [syncDesc, hj]
      · by_cases hjh : j = q.freeHead
        · subst hjh
          simp [syncDesc, hj, fillChain_of_not_mem _ _ _ _ hj]
        · simp [syncDesc, hj, hjh]
    · cases rest with
      | nil => simp
      | cons _ _ => simp

/-- The queue `add_direct` returns. -/
def afterAddDirect (H : Hal) (q : VirtQueue SIZE) (inputs outputs : List Buf) : VirtQueue SIZE :=
  let bufs := inputOutputIter inputs outputs
  let q1 := q.afterDirectLoop H bufs
  let last := q.nextOf^[bufs.length - 1] q.freeHead
  let d := { q1.descShadow last with flags := (q1.descShadow last).flags.remove DescFlags.NEXT }
  { q1 with
    descShadow := Function.update q1.descShadow last d
    desc := Function.update q1.desc last d
    numUsed := q.numUsed + bufs.length }

theorem nextOf_afterDirectLoop (H : Hal) (q : VirtQueue SIZE) (bufs : List (Buf × BufferDirection)) :
    (q.afterDirectLoop H bufs).nextOf = q.nextOf := by
  funext j
  simp [afterDirectLoop, nextOf, fillChain_next]

theorem nextOf_afterAddDirect (H : Hal) (q : VirtQueue SIZE) (inputs outputs : List Buf) :
    (q.afterAddDirect H inputs outputs).nextOf = q.nextOf := by
  funext j
  simp only [afterAddDirect, nextOf]
  by_cases hj : j = q.nextOf^[(inputOutputIter inputs outputs).length - 1] q.freeHead
  · subst hj
    simp only [Function.update_self]
    exact congrFun (nextOf_afterDirectLoop H q _) _
  · rw [Function.update_of_ne hj]
    exact congrFun (nextOf_afterDirectLoop H q _) j

/-- `add_direct` with at least one buffer, all of which fit, on a free list whose first
nodes lie in the table. -/
theorem addDirect_eq (H : Hal) (q : VirtQueue SIZE) (inputs outputs : List Buf)
    (hne : inputOutputIter inputs outputs ≠ [])
    (hfit : ∀ p ∈ inputOutputIter inputs outputs, p.1.Fits)
    (hlt : ∀ j ∈ walk q.nextOf q.freeHead (inputOutputIter inputs outputs).length, j < SIZE) :
    q.addDirect H inputs outputs = .ok (q.afterAddDirect H inputs outputs, q.freeHead) := by
  have hloop := addDirectLoop_eq H q q.freeHead _
    (fun p hp => ⟨hfit p hp, dir_ne_both_of_mem hp⟩) hlt
  have hpos : 0 < (inputOutputIter inputs outputs).length := List.length_pos_iff.mpr hne
  have hlast : q.nextOf^[(inputOutputIter inputs outputs).length - 1] q.freeHead < SIZE :=
    hlt _ (iterate_mem_walk _ _ (by omega))
  simp only [addDirect, hloop, if_neg hne, Except.ok_bind, getIdx_of_lt hlast]
  rw [writeDesc_of_lt hlast]
  simp only [Except.ok_bind, Except.pure_eq_ok, afterAddDirect, Function.update_self,
    length_inputOutputIter, numUsed_afterDirectLoop]

/-- The queue `add_indirect` returns, given the table it built. -/
def afterAddIndirect (H : Hal) (q : VirtQueue SIZE) (l : List Descriptor) : VirtQueue SIZE :=
  let d := (q.descShadow q.freeHead).withBuf H (indirectTable H q.freeHead l.length) .driverToDevice
    DescFlags.INDIRECT
  { q with
    indirectLists := Function.update q.indirectLists q.freeHead (some l)
    descShadow := Function.update q.descShadow q.freeHead d
    desc := Function.update q.desc q.freeHead d
    freeHead := q.nextOf q.freeHead
    numUsed := q.numUsed + 1 }

theorem nextOf_afterAddIndirect (H : Hal) (q : VirtQueue SIZE) (l : List Descriptor) :
    (q.afterAddIndirect H l).nextOf = q.nextOf := by
  funext j
  by_cases hj : j = q.freeHead
  · subst hj; simp [afterAddIndirect, nextOf]
  · simp [afterAddIndirect, nextOf, Function.update_of_ne hj]

end VirtQueue

theorem fillIndirect_eq (H : Hal) (i : Nat) (bufs : List (Buf × BufferDirection))
    (hfit : ∀ p ∈ bufs, p.1.len < 2^32 ∧ p.2 ≠ .both) :
    ∃ l, fillIndirect H i bufs = .ok l ∧ l.length = bufs.length := by
  induction bufs generalizing i with
  | nil => exact ⟨[], rfl, rfl⟩
  | cons p rest ih =>
    obtain ⟨b, dir⟩ := p
    obtain ⟨hb, hdir⟩ : b.len < 2^32 ∧ dir ≠ .both := hfit (b, dir) (by simp)
    obtain ⟨l, hl, hlen⟩ := ih (i+1) (fun p hp => hfit p (by simp [hp]))
    refine ⟨{ Descriptor.zero.withBuf H b dir DescFlags.NEXT with next := (i+1) % 65536 } :: l,
      ?_, by simp [hlen]⟩
    simp [fillIndirect, Descriptor.setBuf_of_fits hb hdir, hl]

theorem removeNextOfLast_length {l l' : List Descriptor} (h : removeNextOfLast l = .ok l') :
    l'.length = l.length := by
  unfold removeNextOfLast at h
  split at h
  · cases h
  · simp only [Except.pure_eq_ok, Except.ok.injEq] at h
    subst h
    simp

theorem removeNextOfLast_of_ne_nil {l : List Descriptor} (h : l ≠ []) :
    ∃ l', removeNextOfLast l = .ok l' := by
  unfold removeNextOfLast
  split
  · rename_i hl; simp [List.getLast?_eq_none_iff.mp hl] at h
  · exact ⟨_, rfl⟩

namespace VirtQueue

/-- `add_indirect` with at least one buffer, each of a length that fits a `u32`, when the
free head is in the table and owns no indirect table yet. -/
theorem addIndirect_eq (H : Hal) (q : VirtQueue SIZE) (inputs outputs : List Buf)
    (hne : inputOutputIter inputs outputs ≠ [])
    (hfit : ∀ p ∈ inputOutputIter inputs outputs, p.1.len < 2^32)
    (hsmall : 16 * (inputs.length + outputs.length) < 2^32)
    (hh : q.freeHead < SIZE) (hnone : q.indirectLists q.freeHead = none) :
    ∃ l, l.length = inputs.length + outputs.length ∧
      q.addIndirect H inputs outputs = .ok (q.afterAddIndirect H l, q.freeHead) := by
  obtain ⟨l0, hl0, hlen0⟩ := fillIndirect_eq H 0 (inputOutputIter inputs outputs)
    (fun p hp => ⟨hfit p hp, dir_ne_both_of_mem hp⟩)
  have hl0ne : l0 ≠ [] := by
    intro h; subst h; exact hne (List.eq_nil_of_length_eq_zero hlen0.symm)
  obtain ⟨l, hl⟩ := removeNextOfLast_of_ne_nil hl0ne
  have hlen : l.length = inputs.length + outputs.length := by
    rw [removeNextOfLast_length hl, hlen0, length_inputOutputIter]
  refine ⟨l, hlen, ?_⟩
  have htable : (indirectTable H q.freeHead l.length).len < 2^32 := by
    simp only [indirectTable, hlen]; exact hsmall
  simp only [addIndirect, hl0, hl, Except.ok_bind, getIdx_of_lt hh, hnone, Option.isNone_none,
    assert_true, Descriptor.setBuf_of_fits htable (by decide : BufferDirection.driverToDevice ≠ .both)]
  rw [writeDesc_of_lt hh]
  simp [afterAddIndirect, nextOf]

end VirtQueue

theorem fillIndirect_length {H : Hal} {i : Nat} {bufs : List (Buf × BufferDirection)}
    {l : List Descriptor} (h : fillIndirect H i bufs = .ok l) : l.length = bufs.length := by
  induction bufs generalizing i l with
  | nil =>
    simp only [fillIndirect, Except.pure_eq_ok, Except.ok.injEq] at h
    simp [← h]
  | cons p rest ih =>
    obtain ⟨b, dir⟩ := p
    simp only [fillIndirect, Except.bind_eq_ok, Except.pure_eq_ok, Except.ok.injEq] at h
    obtain ⟨d, -, l', hl', rfl⟩ := h
    simp [ih hl']

namespace VirtQueue

theorem addDirectLoop_fits {H : Hal} {q : VirtQueue SIZE} {last : Nat}
    {bufs : List (Buf × BufferDirection)} {r : VirtQueue SIZE × Nat}
    (h : q.addDirectLoop H last bufs = .ok r) : ∀ p ∈ bufs, p.1.Fits ∧ p.2 ≠ .both := by
  induction bufs generalizing q last with
  | nil => simp
  | cons p rest ih =>
    obtain ⟨b, dir⟩ := p
    simp only [addDirectLoop, Except.bind_eq_ok, assert_eq_ok, getIdx_eq_ok] at h
    obtain ⟨_, hb, d, -, d', hset, q', -, hrec⟩ := h
    obtain ⟨hlen, hdir, -⟩ := Descriptor.setBuf_eq_ok hset
    intro p hp
    rcases List.mem_cons.mp hp with rfl | hp
    · exact ⟨⟨by simpa using hb, hlen⟩, hdir⟩
    · exact ih hrec p hp

theorem addDirect_ok {H : Hal} {q : VirtQueue SIZE} {inputs outputs : List Buf}
    {r : VirtQueue SIZE × Nat} (hne : inputOutputIter inputs outputs ≠ [])
    (hlt : ∀ j ∈ walk q.nextOf q.freeHead (inputOutputIter inputs outputs).length, j < SIZE)
    (h : q.addDirect H inputs outputs = .ok r) :
    (∀ p ∈ inputOutputIter inputs outputs, p.1.Fits) ∧
      r = (q.afterAddDirect H inputs outputs, q.freeHead) := by
  have hfit : ∀ p ∈ inputOutputIter inputs outputs, p.1.Fits := by
    simp only [addDirect, Except.bind_eq_ok] at h
    obtain ⟨_, hloop, -⟩ := h
    exact fun p hp => (addDirectLoop_fits hloop p hp).1
  rw [addDirect_eq H q inputs outputs hne hfit hlt] at h
  exact ⟨hfit, (Except.ok.inj h).symm⟩

/-- What a successful `add_indirect` did: it filled the table, cleared `NEXT` on its last
entry, and made the free head point at it. -/
theorem addIndirect_eq_ok {H : Hal} {q : VirtQueue SIZE} {inputs outputs : List Buf}
    {r : VirtQueue SIZE × Nat} (h : q.addIndirect H inputs outputs = .ok r) :
    q.freeHead < SIZE ∧ ∃ l0 l, fillIndirect H 0 (inputOutputIter inputs outputs) = .ok l0 ∧
      removeNextOfLast l0 = .ok l ∧ r = (q.afterAddIndirect H l, q.freeHead) := by
  simp only [addIndirect, Except.bind_eq_ok, getIdx_eq_ok, assert_eq_ok] at h
  obtain ⟨l0, hl0, l, hl, _, ⟨hh, -⟩, _, -, _, ⟨-, rfl⟩, d, hset, q', hw, hr⟩ := h
  obtain ⟨-, -, rfl⟩ := Descriptor.setBuf_eq_ok hset
  rw [writeDesc_of_lt hh, Except.ok.injEq] at hw
  subst hw
  refine ⟨hh, l0, l, hl0, hl, ?_⟩
  simp only [Except.pure_eq_ok, Except.ok.injEq] at hr
  rw [← hr]
  simp [afterAddIndirect, nextOf]

theorem addIndirect_ok {H : Hal} {q : VirtQueue SIZE} {inputs outputs : List Buf}
    {r : VirtQueue SIZE × Nat} (h : q.addIndirect H inputs outputs = .ok r) :
    q.freeHead < SIZE ∧ ∃ l : List Descriptor, l.length = inputs.length + outputs.length ∧
      r = (q.afterAddIndirect H l, q.freeHead) := by
  obtain ⟨hh, l0, l, hl0, hl, rfl⟩ := addIndirect_eq_ok h
  refine ⟨hh, l, ?_, rfl⟩
  rw [removeNextOfLast_length hl, fillIndirect_length hl0, length_inputOutputIter]

/-- The end of `add`: the head goes in the next slot of the available ring, and the new
index is published to the device. -/
def publish (q : VirtQueue SIZE) (head : Nat) : VirtQueue SIZE :=
  let q : VirtQueue SIZE := { q with avail := { q.avail with ring := Function.update q.avail.ring q.availSlot head } }
  let q : VirtQueue SIZE := { q with availIdx := q.availIdx + 1 }
  { q with avail := { q.avail with idx := q.availIdx } }

section
variable (q : VirtQueue SIZE) (head : Nat)
@[simp] theorem descShadow_publish : (q.publish head).descShadow = q.descShadow := rfl
@[simp] theorem numUsed_publish : (q.publish head).numUsed = q.numUsed := rfl
@[simp] theorem freeHead_publish : (q.publish head).freeHead = q.freeHead := rfl
@[simp] theorem indirect_publish : (q.publish head).indirect = q.indirect := rfl
@[simp] theorem indirectLists_publish : (q.publish head).indirectLists = q.indirectLists := rfl
@[simp] theorem desc_publish : (q.publish head).desc = q.desc := rfl
@[simp] theorem nextOf_publish : (q.publish head).nextOf = q.nextOf := rfl
@[simp] theorem availIdx_publish : (q.publish head).availIdx = q.availIdx + 1 := rfl
@[simp] theorem avail_idx_publish : (q.publish head).avail.idx = q.availIdx + 1 := rfl
@[simp] theorem ring_publish : (q.publish head).avail.ring q.availSlot = head := by
  simp [publish]
end

/-- `add` past its checks: the request is not empty and fits, and the head the branch it
takes returns is published. -/
theorem add_eq_ok_branch {H : Hal} {q q' : VirtQueue SIZE} {inputs outputs : List Buf} {t : Nat}
    (h : q.add H inputs outputs = .ok (q', t)) :
    inputOutputIter inputs outputs ≠ [] ∧ q.numUsed + 1 ≤ SIZE ∧
      inputs.length + outputs.length ≤ SIZE ∧
      (q.indirect = false → q.numUsed + (inputs.length + outputs.length) ≤ SIZE) ∧
      ∃ q0, (if q.indirect && decide (inputs.length + outputs.length > 1) then
          q.addIndirect H inputs outputs else q.addDirect H inputs outputs) = .ok (q0, t) ∧
        q' = q0.publish t := by
  unfold add at h
  simp only at h
  split at h
  · simp at h
  rename_i hemp
  split at h
  · simp at h
  rename_i hfull
  have hne : inputOutputIter inputs outputs ≠ [] := by
    simpa [inputOutputIter] using hemp
  simp only [Bool.or_eq_true, decide_eq_true_eq, Bool.and_eq_true, Bool.not_eq_true',
    not_or, not_and, Nat.not_lt] at hfull
  split at h <;> rename_i hind <;> rw [Except.bind_eq_ok] at h <;>
    obtain ⟨⟨q0, head⟩, hbr, hfin⟩ := h <;>
    simp only [Except.pure_eq_ok, Except.ok.injEq, Prod.mk.injEq] at hfin <;>
    obtain ⟨rfl, rfl⟩ := hfin
  · exact ⟨hne, hfull.1.1, hfull.1.2, hfull.2, q0, by rw [if_pos hind]; exact hbr, rfl⟩
  · exact ⟨hne, hfull.1.1, hfull.1.2, hfull.2, q0, by rw [if_neg hind]; exact hbr, rfl⟩

/-- The converse: a request that is not empty and fits goes to the branch `add` takes,
and the head that branch returns is published. -/
theorem add_eq_branch (H : Hal) {q : VirtQueue SIZE} {inputs outputs : List Buf}
    (hne : inputOutputIter inputs outputs ≠ []) (hroom : q.numUsed + 1 ≤ SIZE)
    (hle : inputs.length + outputs.length ≤ SIZE)
    (hdir : q.indirect = false → q.numUsed + (inputs.length + outputs.length) ≤ SIZE) :
    q.add H inputs outputs =
      ((if q.indirect && decide (inputs.length + outputs.length > 1) then
          q.addIndirect H inputs outputs else q.addDirect H inputs outputs) >>=
        fun r => pure (r.1.publish r.2, r.2)) := by
  have hemp : (inputs.isEmpty && outputs.isEmpty) = false := by
    cases inputs <;> cases outputs <;> simp_all [inputOutputIter]
  have hfull : (decide (q.numUsed + 1 > SIZE) || decide (inputs.length + outputs.length > SIZE) ||
      (!q.indirect && decide (q.numUsed + (inputs.length + outputs.length) > SIZE))) = false := by
    cases hi : q.indirect
    · have := hdir hi
      simp only [Bool.not_false, Bool.true_and, Bool.or_eq_false_iff, decide_eq_false_iff_not]
      omega
    · simp only [Bool.not_true, Bool.false_and, Bool.or_false, Bool.or_eq_false_iff,
        decide_eq_false_iff_not]
      omega
  unfold add
  simp only [hemp, hfull, Bool.false_eq_true, if_false]
  -- `simp` pushes the publishing into the branches; each branch is then the same
  cases (q.indirect && decide (inputs.length + outputs.length > 1)) <;> rfl

/-- What a successful `add` did: it took the chain's head from the free list, and built
an indirect chain for more than one buffer when the queue has the feature, or else a
direct chain of buffers that fit, after checking that the free list holds it. -/
theorem add_eq_ok {H : Hal} {q q' : VirtQueue SIZE} {inputs outputs : List Buf} {t : Nat}
    (hfh : q.freeHead < SIZE) (hnext : ∀ i < SIZE, q.nextOf i < SIZE)
    (h : q.add H inputs outputs = .ok (q', t)) :
    t = q.freeHead ∧ inputOutputIter inputs outputs ≠ [] ∧ q.numUsed + 1 ≤ SIZE ∧
      ((q.indirect = true ∧ 1 < inputs.length + outputs.length ∧
          ∃ l : List Descriptor, l.length = inputs.length + outputs.length ∧
            q' = (q.afterAddIndirect H l).publish q.freeHead) ∨
        (¬ (q.indirect = true ∧ 1 < inputs.length + outputs.length) ∧
          q.numUsed + (inputs.length + outputs.length) ≤ SIZE ∧
          (∀ p ∈ inputOutputIter inputs outputs, p.1.Fits) ∧
          q' = (q.afterAddDirect H inputs outputs).publish q.freeHead)) := by
  obtain ⟨hne, hroom1, -, hroom, q0, hbr, rfl⟩ := add_eq_ok_branch h
  split at hbr
  · rename_i hind
    obtain ⟨-, l, hl, hr⟩ := addIndirect_ok hbr
    simp only [Prod.mk.injEq] at hr
    obtain ⟨rfl, rfl⟩ := hr
    simp only [Bool.and_eq_true, decide_eq_true_eq] at hind
    exact ⟨rfl, hne, hroom1, .inl ⟨hind.1, hind.2, l, hl, rfl⟩⟩
  · rename_i hind
    have hlt : ∀ j ∈ walk q.nextOf q.freeHead (inputOutputIter inputs outputs).length, j < SIZE :=
      walk_mem_of_closed (s := {j | j < SIZE}) hfh hnext
    obtain ⟨hfit, hr⟩ := addDirect_ok hne hlt hbr
    simp only [Prod.mk.injEq] at hr
    obtain ⟨rfl, rfl⟩ := hr
    simp only [Bool.and_eq_true, decide_eq_true_eq] at hind
    -- with the feature, a direct chain has one buffer, so the first check was enough
    have hroom' : q.numUsed + (inputs.length + outputs.length) ≤ SIZE := by
      cases hi : q.indirect with
      | false => exact hroom hi
      | true =>
        have : inputs.length + outputs.length ≤ 1 := by simpa [hi] using hind
        omega
    exact ⟨rfl, hne, hroom1, .inr ⟨hind, hroom', hfit, rfl⟩⟩

section
variable (H : Hal) (q : VirtQueue SIZE) (inputs outputs : List Buf) (l : List Descriptor)
@[simp] theorem numUsed_afterAddDirect : (q.afterAddDirect H inputs outputs).numUsed =
    q.numUsed + (inputs.length + outputs.length) := by
  simp [afterAddDirect]
@[simp] theorem freeHead_afterAddDirect : (q.afterAddDirect H inputs outputs).freeHead =
    q.nextOf^[inputs.length + outputs.length] q.freeHead := by
  simp [afterAddDirect]
@[simp] theorem indirect_afterAddDirect : (q.afterAddDirect H inputs outputs).indirect = q.indirect :=
  rfl
@[simp] theorem indirectLists_afterAddDirect :
    (q.afterAddDirect H inputs outputs).indirectLists = q.indirectLists := rfl
@[simp] theorem numUsed_afterAddIndirect : (q.afterAddIndirect H l).numUsed = q.numUsed + 1 := rfl
@[simp] theorem freeHead_afterAddIndirect : (q.afterAddIndirect H l).freeHead = q.nextOf q.freeHead :=
  rfl
@[simp] theorem indirect_afterAddIndirect : (q.afterAddIndirect H l).indirect = q.indirect := rfl
@[simp] theorem indirectLists_afterAddIndirect : (q.afterAddIndirect H l).indirectLists =
    Function.update q.indirectLists q.freeHead (some l) := rfl
end

theorem descShadow_afterAddDirect_of_not_mem (H : Hal) (q : VirtQueue SIZE) (inputs outputs : List Buf)
    (hpos : 0 < inputs.length + outputs.length) {j : Nat}
    (hj : j ∉ walk q.nextOf q.freeHead (inputs.length + outputs.length)) :
    (q.afterAddDirect H inputs outputs).descShadow j = q.descShadow j := by
  have hlast : q.nextOf^[inputs.length + outputs.length - 1] q.freeHead ∈
      walk q.nextOf q.freeHead (inputs.length + outputs.length) := iterate_mem_walk _ _ (by omega)
  have hne : j ≠ q.nextOf^[inputs.length + outputs.length - 1] q.freeHead := by
    rintro rfl; exact hj hlast
  simp [afterAddDirect, Function.update_of_ne hne, fillChain_of_not_mem _ _ _ _ hj]

theorem desc_afterAddDirect_of_not_mem (H : Hal) (q : VirtQueue SIZE) (inputs outputs : List Buf)
    (hpos : 0 < inputs.length + outputs.length) {j : Nat}
    (hj : j ∉ walk q.nextOf q.freeHead (inputs.length + outputs.length)) :
    (q.afterAddDirect H inputs outputs).desc j = q.desc j := by
  have hlast : q.nextOf^[inputs.length + outputs.length - 1] q.freeHead ∈
      walk q.nextOf q.freeHead (inputs.length + outputs.length) := iterate_mem_walk _ _ (by omega)
  have hne : j ≠ q.nextOf^[inputs.length + outputs.length - 1] q.freeHead := by
    rintro rfl; exact hj hlast
  simp [afterAddDirect, afterDirectLoop, Function.update_of_ne hne, syncDesc, hj]

theorem flags_afterAddDirect (H : Hal) (q : VirtQueue SIZE) (inputs outputs : List Buf) {j : Nat}
    (hj : j ∈ walk q.nextOf q.freeHead (inputs.length + outputs.length)) :
    ((q.afterAddDirect H inputs outputs).descShadow j).flags.indirect = false ∧
      ((q.afterAddDirect H inputs outputs).descShadow j).flags.next =
        decide (j ≠ q.nextOf^[inputs.length + outputs.length - 1] q.freeHead) := by
  have hfill := fillChain_flags H q.descShadow (walk q.nextOf q.freeHead (inputs.length + outputs.length))
    (inputOutputIter inputs outputs) (by simp) hj
  by_cases hjl : j = q.nextOf^[inputs.length + outputs.length - 1] q.freeHead
  · subst hjl
    simp [afterAddDirect, hfill]
  · simp [afterAddDirect, hfill, hjl]

theorem descShadow_afterAddIndirect_of_ne (H : Hal) (q : VirtQueue SIZE) (l : List Descriptor) {j : Nat}
    (hj : j ≠ q.freeHead) : (q.afterAddIndirect H l).descShadow j = q.descShadow j := by
  simp [afterAddIndirect, Function.update_of_ne hj]

theorem desc_afterAddIndirect_of_ne (H : Hal) (q : VirtQueue SIZE) (l : List Descriptor) {j : Nat}
    (hj : j ≠ q.freeHead) : (q.afterAddIndirect H l).desc j = q.desc j := by
  simp [afterAddIndirect, Function.update_of_ne hj]

theorem flags_afterAddIndirect (H : Hal) (q : VirtQueue SIZE) (l : List Descriptor) :
    ((q.afterAddIndirect H l).descShadow q.freeHead).flags.indirect = true := by
  simp [afterAddIndirect, DescFlags.union, DescFlags.INDIRECT, dirFlags, DescFlags.empty]

end VirtQueue

end VirtioDrivers
