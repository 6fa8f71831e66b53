import VirtioDrivers.Queue.Spec
import Mathlib.Data.List.GetD

/-! The chain `add` writes, as the device reads it. A descriptor tells the device where a
buffer is shared, how long it is, which way it goes, and whether more follow; a direct
chain is read by following `next` from its head while `NEXT` is set, and an indirect
chain is one descriptor that shares a table of them. This module states what that
reading must give for a list of buffers, and proves that the descriptors `add_direct` and
`add_indirect` write give exactly it. -/
namespace VirtioDrivers
open LinkWalk
variable {SIZE : Nat}

/-- What a descriptor tells the device about its buffer: address, length and flags. -/
def Descriptor.view (d : Descriptor) : UInt64 × UInt32 × DescFlags := (d.addr, d.len, d.flags)

/-- What the descriptor of buffer `p.1`, going `p.2`, tells the device: the address under
which the buffer is shared, its length, `WRITE` when the device writes it, and `NEXT`
when `more` buffers follow. -/
def bufView (H : Hal) (p : Buf × BufferDirection) (more : Bool) : UInt64 × UInt32 × DescFlags :=
  (UInt64.ofNat (H.share p.1 p.2), UInt32.ofNat p.1.len, ⟨more, p.2 == .deviceToDriver, false⟩)

/-- The encoding of a chain of buffers: one descriptor for each, in order, with `NEXT` on
all but the last. -/
def encodeChain (H : Hal) (bufs : List (Buf × BufferDirection)) :
    List (UInt64 × UInt32 × DescFlags) :=
  bufs.mapIdx fun k p => bufView H p (decide (k + 1 < bufs.length))

/-- What the head `head` of an indirect chain of `n` buffers tells the device: the address
under which its table of `n` descriptors is shared, its length, and `INDIRECT` alone. -/
def tableView (H : Hal) (head n : Nat) : UInt64 × UInt32 × DescFlags :=
  (UInt64.ofNat (H.share (indirectTable H head n) .driverToDevice), UInt32.ofNat (16 * n),
    DescFlags.INDIRECT)

/-- The descriptors the device reads for the chain at `head` of the table `desc`: it
follows `next` while `NEXT` is set, and reads at most `fuel` of them. -/
def readChain (desc : Nat → Descriptor) (fuel head : Nat) : List Descriptor :=
  (walkWhile (fun j => (desc j).next) (fun j => (desc j).flags.next) fuel head).map desc

section Views
variable (H : Hal)

@[simp] theorem length_encodeChain (bufs : List (Buf × BufferDirection)) :
    (encodeChain H bufs).length = bufs.length := by
  simp [encodeChain]

theorem map_fst_encodeChain (bufs : List (Buf × BufferDirection)) :
    (encodeChain H bufs).map Prod.fst = bufs.map fun p => UInt64.ofNat (H.share p.1 p.2) := by
  apply List.ext_getElem
  · simp
  · intro k _ _
    simp [encodeChain, bufView]

theorem view_withBuf_NEXT (d : Descriptor) (b : Buf) (dir : BufferDirection) :
    (d.withBuf H b dir DescFlags.NEXT).view = bufView H (b, dir) true := by
  cases dir <;> rfl

theorem view_withBuf_remove_NEXT (d : Descriptor) (b : Buf) (dir : BufferDirection) :
    ({ d.withBuf H b dir DescFlags.NEXT with
      flags := (d.withBuf H b dir DescFlags.NEXT).flags.remove DescFlags.NEXT }).view =
      bufView H (b, dir) false := by
  cases dir <;> rfl

theorem view_withBuf_INDIRECT (d : Descriptor) (head n : Nat) :
    (d.withBuf H (indirectTable H head n) .driverToDevice DescFlags.INDIRECT).view =
      tableView H head n :=
  rfl

end Views

/-! ### Reading a chain -/

theorem readChain_eq {desc : Nat → Descriptor} {next : Nat → Nat} {head n fuel : Nat}
    (hpos : 0 < n) (hn : n ≤ fuel) (hnext : ∀ j ∈ walk next head n, (desc j).next = next j)
    (hmore : ∀ k < n, (desc (next^[k] head)).flags.next = decide (k + 1 < n)) :
    readChain desc fuel head = (walk next head n).map desc := by
  have hit : ∀ k < n, (fun j => (desc j).next)^[k] head = next^[k] head := fun k hk =>
    iterate_congr (fun j hj => hnext j (mem_walk_of_le (Nat.le_of_lt hk) hj))
  unfold readChain
  rw [walkWhile_eq_walk hpos hn (fun k hk => by rw [hit k hk]; exact hmore k hk),
    walk_congr_all hnext]

theorem readChain_of_last {desc : Nat → Descriptor} {head fuel : Nat} (hfuel : 0 < fuel)
    (hlast : (desc head).flags.next = false) : readChain desc fuel head = [desc head] := by
  obtain ⟨fuel, rfl⟩ := Nat.exists_eq_add_of_lt hfuel
  simp [readChain, walkWhile, hlast]

/-! ### What `add_direct` writes -/

theorem fillChain_getElem (H : Hal) (ds : Nat → Descriptor) {nodes : List Nat}
    {bufs : List (Buf × BufferDirection)} (hnd : nodes.Nodup) {k : Nat} (hk : k < nodes.length)
    (hkb : k < bufs.length) :
    fillChain H ds nodes bufs nodes[k] = (ds nodes[k]).withBuf H bufs[k].1 bufs[k].2 DescFlags.NEXT := by
  induction nodes generalizing ds bufs k with
  | nil => simp at hk
  | cons j js ih =>
    obtain ⟨hj, hnd⟩ := List.nodup_cons.mp hnd
    rcases bufs with _ | ⟨⟨b, dir⟩, bs⟩
    · simp at hkb
    rcases k with _ | k
    · -- the first node is written here and never again
      simp only [List.getElem_cons_zero, fillChain]
      rw [fillChain_of_not_mem H _ js bs hj, Function.update_self]
    · have hk' : k < js.length := by simpa using hk
      have hne : js[k] ≠ j := fun h => hj (h ▸ List.getElem_mem _)
      simp only [List.getElem_cons_succ, fillChain]
      rw [ih _ hnd hk' (by simpa using hkb), Function.update_of_ne hne]

namespace VirtQueue
section AddDirect
variable (H : Hal) (q : VirtQueue SIZE) (inputs outputs : List Buf)

/-- `add_direct` writes node `k` of its chain for buffer `k`, with `NEXT` up to the last
node. -/
theorem view_afterAddDirect (hnd : (walk q.nextOf q.freeHead (inputs.length + outputs.length)).Nodup)
    {k : Nat} (hk : k < (inputOutputIter inputs outputs).length) :
    ((q.afterAddDirect H inputs outputs).descShadow (q.nextOf^[k] q.freeHead)).view =
      bufView H (inputOutputIter inputs outputs)[k] (decide (k + 1 < inputs.length + outputs.length)) := by
  have hkn : k < inputs.length + outputs.length := by simpa using hk
  have hfill := fillChain_getElem H q.descShadow hnd (by simpa using hkn) hk
  rw [getElem_walk] at hfill
  simp only [afterAddDirect, descShadow_afterDirectLoop, length_inputOutputIter]
  by_cases hlast : k + 1 < inputs.length + outputs.length
  · -- a node before the last: as the loop wrote it
    have hne : q.nextOf^[k] q.freeHead ≠ q.nextOf^[inputs.length + outputs.length - 1] q.freeHead := by
      rw [Ne, iterate_eq_iff_of_nodup hnd hkn (by omega)]
      omega
    rw [Function.update_of_ne hne, hfill, view_withBuf_NEXT, decide_eq_true hlast]
  · -- the last node, with `NEXT` cleared
    have hk1 : inputs.length + outputs.length - 1 = k := by omega
    rw [hk1, Function.update_self, hfill, view_withBuf_remove_NEXT, decide_eq_false hlast]

theorem map_view_afterAddDirect
    (hnd : (walk q.nextOf q.freeHead (inputs.length + outputs.length)).Nodup) :
    (walk q.nextOf q.freeHead (inputs.length + outputs.length)).map
        (fun j => ((q.afterAddDirect H inputs outputs).descShadow j).view) =
      encodeChain H (inputOutputIter inputs outputs) := by
  apply List.ext_getElem
  · simp
  · intro k _ h2
    have hk : k < (inputOutputIter inputs outputs).length := by simpa using h2
    rw [List.getElem_map, getElem_walk, view_afterAddDirect H q inputs outputs hnd hk]
    simp [encodeChain]

theorem desc_afterAddDirect_of_mem {j : Nat}
    (hj : j ∈ walk q.nextOf q.freeHead (inputs.length + outputs.length)) :
    (q.afterAddDirect H inputs outputs).desc j = (q.afterAddDirect H inputs outputs).descShadow j := by
  simp only [afterAddDirect, afterDirectLoop, length_inputOutputIter]
  by_cases hjl : j = q.nextOf^[inputs.length + outputs.length - 1] q.freeHead
  · rw [hjl, Function.update_self, Function.update_self]
  · rw [Function.update_of_ne hjl, Function.update_of_ne hjl]
    simp [syncDesc, hj]

/-- The device reads the chain `add_direct` builds, from its head, as the encoding of its
buffers, when it may read as many descriptors as there are buffers. -/
theorem readChain_afterAddDirect
    (hnd : (walk q.nextOf q.freeHead (inputs.length + outputs.length)).Nodup)
    (hpos : 0 < inputs.length + outputs.length) {fuel : Nat}
    (hfuel : inputs.length + outputs.length ≤ fuel) :
    (readChain (q.afterAddDirect H inputs outputs).desc fuel q.freeHead).map Descriptor.view =
      encodeChain H (inputOutputIter inputs outputs) := by
  have hdesc : ∀ j ∈ walk q.nextOf q.freeHead (inputs.length + outputs.length),
      (q.afterAddDirect H inputs outputs).desc j = (q.afterAddDirect H inputs outputs).descShadow j :=
    fun j hj => desc_afterAddDirect_of_mem H q inputs outputs hj
  have hnext : ∀ j ∈ walk q.nextOf q.freeHead (inputs.length + outputs.length),
      ((q.afterAddDirect H inputs outputs).desc j).next = q.nextOf j := by
    intro j hj
    rw [hdesc j hj]
    exact congrFun (nextOf_afterAddDirect H q inputs outputs) j
  have hmore : ∀ k < inputs.length + outputs.length,
      ((q.afterAddDirect H inputs outputs).desc (q.nextOf^[k] q.freeHead)).flags.next =
        decide (k + 1 < inputs.length + outputs.length) := by
    intro k hk
    rw [hdesc _ (iterate_mem_walk _ _ hk)]
    exact congrArg (fun v => v.2.2.next) (view_afterAddDirect H q inputs outputs hnd (by simpa using hk))
  rw [readChain_eq hpos hfuel hnext hmore, List.map_map,
    ← map_view_afterAddDirect H q inputs outputs hnd]
  exact List.map_congr_left fun j hj => by simp [hdesc j hj]

end AddDirect
end VirtQueue

/-! ### What `add_indirect` writes -/

/-- The loop of `add_indirect` writes entry `k` for buffer `k`, with `NEXT`, linked to the
entry after it. -/
theorem fillIndirect_eq_ok {H : Hal} {i : Nat} {bufs : List (Buf × BufferDirection)}
    {l : List Descriptor} (h : fillIndirect H i bufs = .ok l) :
    l.map Descriptor.view = bufs.map (bufView H · true) ∧
      l.map Descriptor.next = (List.range' (i + 1) bufs.length).map (· % 65536) := by
  induction bufs generalizing i l with
  | nil =>
    simp only [fillIndirect, Except.pure_eq_ok, Except.ok.injEq] at h
    simp [← h]
  | cons p rest ih =>
    obtain ⟨b, dir⟩ := p
    simp only [fillIndirect, Except.bind_eq_ok, Except.pure_eq_ok, Except.ok.injEq] at h
    obtain ⟨d, hd, l', hl', rfl⟩ := h
    obtain ⟨-, -, rfl⟩ := Descriptor.setBuf_eq_ok hd
    obtain ⟨hv, hn⟩ := ih hl'
    refine ⟨?_, ?_⟩
    · rw [List.map_cons, List.map_cons, hv, ← view_withBuf_NEXT H Descriptor.zero b dir]
      rfl
    · rw [List.map_cons, hn, List.length_cons, List.range'_succ, List.map_cons]

/-- Clearing `NEXT` on the last entry of a table whose entries all have it makes the table
read as the encoding of its buffers, and leaves the links alone. -/
theorem removeNextOfLast_eq_ok {H : Hal} {bufs : List (Buf × BufferDirection)}
    {l l' : List Descriptor} (hv : l.map Descriptor.view = bufs.map (bufView H · true))
    (h : removeNextOfLast l = .ok l') :
    l'.map Descriptor.view = encodeChain H bufs ∧ l'.map Descriptor.next = l.map Descriptor.next := by
  unfold removeNextOfLast at h
  split at h
  · cases h
  rename_i d hd
  simp only [Except.pure_eq_ok, Except.ok.injEq] at h
  subst h
  have hlen : l.length = bufs.length := by simpa using congrArg List.length hv
  have hdk : ∀ k (hk : k < l.length), l.length - 1 = k → d = l[k] := by
    intro k hk hkl
    rw [List.getLast?_eq_getElem?, hkl, List.getElem?_eq_getElem hk] at hd
    exact (Option.some.inj hd).symm
  refine ⟨List.ext_getElem (by simp [hlen]) fun k h1 _ => ?_,
    List.ext_getElem (by simp) fun k _ h2 => ?_⟩
  · have hk : k < l.length := by simpa using h1
    have hkb : k < bufs.length := by omega
    have hvk : l[k].view = bufView H bufs[k] true := by
      have h := List.getElem_of_eq hv (by simpa using hk)
      rwa [List.getElem_map, List.getElem_map] at h
    rw [List.getElem_map, List.getElem_set]
    simp only [encodeChain, List.getElem_mapIdx]
    split_ifs with hkl
    · -- the last entry loses `NEXT`
      rw [hdk k hk hkl, decide_eq_false (by omega)]
      simp only [Descriptor.view, bufView, Prod.mk.injEq] at hvk ⊢
      obtain ⟨ha, hl, hf⟩ := hvk
      simp [ha, hl, hf]
    · rw [decide_eq_true (by omega)]
      exact hvk
  · have hk : k < l.length := by simpa using h2
    rw [List.getElem_map, List.getElem_map, List.getElem_set]
    split_ifs with hkl
    · rw [hdk k hk hkl]
    · rfl

namespace VirtQueue

/-- What `add` of more than one buffer to a queue with the feature leaves: the head of the
free list shares a table that reads as the encoding of the buffers, entry `k` linked to
entry `k + 1`, and is published. -/
theorem add_indirect_eq_ok {H : Hal} {q q' : VirtQueue SIZE} {inputs outputs : List Buf} {t : Nat}
    (hsize : SIZE < 65536) (h : q.add H inputs outputs = .ok (q', t)) (hind : q.indirect = true)
    (hn : 1 < inputs.length + outputs.length) :
    t = q.freeHead ∧ ∃ l, l.map Descriptor.view = encodeChain H (inputOutputIter inputs outputs) ∧
      l.map Descriptor.next = List.range' 1 (inputs.length + outputs.length) ∧
      q' = (q.afterAddIndirect H l).publish q.freeHead := by
  obtain ⟨-, -, hle, -, q0, hbr, rfl⟩ := add_eq_ok_branch h
  rw [if_pos (by simp [hind, hn])] at hbr
  obtain ⟨-, l0, l, hl0, hl, hr⟩ := addIndirect_eq_ok hbr
  obtain ⟨hv0, hn0⟩ := fillIndirect_eq_ok hl0
  obtain ⟨hv, hnext⟩ := removeNextOfLast_eq_ok hv0 hl
  simp only [Prod.mk.injEq] at hr
  obtain ⟨rfl, rfl⟩ := hr
  refine ⟨rfl, l, hv, ?_, rfl⟩
  rw [hnext, hn0, length_inputOutputIter]
  exact List.map_congr_left (fun x hx => Nat.mod_eq_of_lt (by simp at hx; omega)) |>.trans (List.map_id _)

end VirtQueue
end VirtioDrivers
