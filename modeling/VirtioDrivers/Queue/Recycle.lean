import VirtioDrivers.Queue.Spec

/-! Spec lemmas for recycling: the closed forms of both branches of
`recycle_descriptors` on a chain as `add` built it, and what a successful `pop_used`
did. -/
namespace VirtioDrivers
open LinkWalk
variable {SIZE : Nat}

/-- The descriptors the direct branch of `recycle_descriptors` leaves: every node of the
chain is unset, and the last one is linked to the old head of the free list. -/
def releaseChain (ds : Nat → Descriptor) (origFree : Nat) : List Nat → Nat → Descriptor
  | [] => ds
  | j :: js => releaseChain (Function.update ds j
      (if js = [] then { (ds j).unsetBuf with next := origFree } else (ds j).unsetBuf)) origFree js

theorem releaseChain_of_not_mem (ds : Nat → Descriptor) (origFree : Nat) (nodes : List Nat)
    {j : Nat} (hj : j ∉ nodes) : releaseChain ds origFree nodes j = ds j := by
  induction nodes generalizing ds with
  | nil => rfl
  | cons i is ih =>
    have hji : j ≠ i := fun h => hj (by simp [h])
    rw [releaseChain, ih _ (fun h => hj (by simp [h])), Function.update_of_ne hji]

theorem releaseChain_next (ds : Nat → Descriptor) (origFree : Nat) (nodes : List Nat) (j : Nat)
    (hj : nodes.getLast? ≠ some j) : (releaseChain ds origFree nodes j).next = (ds j).next := by
  induction nodes generalizing ds with
  | nil => rfl
  | cons i is ih =>
    rw [releaseChain]
    rcases is with _ | ⟨i', is'⟩
    · have hji : j ≠ i := fun h => hj (by simp [h])
      simp [releaseChain, Function.update_of_ne hji]
    · rw [ih _ (by simpa using hj)]
      by_cases hji : j = i
      · subst hji; simp [Descriptor.unsetBuf]
      · rw [Function.update_of_ne hji]

theorem releaseChain_last (ds : Nat → Descriptor) (origFree : Nat) (nodes : List Nat) {j : Nat}
    (hj : nodes.getLast? = some j) : (releaseChain ds origFree nodes j).next = origFree := by
  induction nodes generalizing ds with
  | nil => simp at hj
  | cons i is ih =>
    rw [releaseChain]
    rcases is with _ | ⟨i', is'⟩
    · have hji : j = i := by simpa using hj.symm
      subst hji
      simp [releaseChain]
    · exact ih _ (by simpa using hj)

/-- The `H::unshare` calls of the direct branch: each buffer at the address its node held. -/
def directUnshares (ds : Nat → Descriptor) (nodes : List Nat) (bufs : List (Buf × BufferDirection)) :
    List Unshare :=
  List.zipWith (fun j p => ⟨(ds j).addr.toNat, p.1, p.2⟩) nodes bufs

theorem directUnshares_congr {ds ds' : Nat → Descriptor} {nodes : List Nat}
    (bufs : List (Buf × BufferDirection)) (h : ∀ j ∈ nodes, ds j = ds' j) :
    directUnshares ds nodes bufs = directUnshares ds' nodes bufs := by
  induction nodes generalizing bufs with
  | nil => rfl
  | cons j js ih =>
    cases bufs with
    | nil => rfl
    | cons p ps =>
      have hrest := ih ps (fun k hk => h k (by simp [hk]))
      simp only [directUnshares, List.zipWith_cons_cons] at hrest ⊢
      rw [h j (by simp), hrest]

namespace Descriptor

@[simp] theorem unsetBuf_flags (d : Descriptor) : d.unsetBuf.flags = d.flags := rfl
@[simp] theorem unsetBuf_next (d : Descriptor) : d.unsetBuf.next = d.next := rfl

theorem nextInChain_eq (d : Descriptor) :
    d.nextInChain = if d.flags.next then some d.next else none := by
  simp [nextInChain]

end Descriptor

namespace VirtQueue

/-- The queue the direct branch of `recycle_descriptors` leaves after freeing the chain of
`n` descriptors at `head`. -/
def afterRecycleDirect (q : VirtQueue SIZE) (head n : Nat) : VirtQueue SIZE :=
  let nodes := walk q.nextOf head n
  let ds := releaseChain q.descShadow q.freeHead nodes
  { q with
    descShadow := ds
    desc := syncDesc q.desc ds nodes
    freeHead := head
    numUsed := q.numUsed - n }

/-- The queue the indirect branch of `recycle_descriptors` leaves. -/
def afterRecycleIndirect (q : VirtQueue SIZE) (head : Nat) : VirtQueue SIZE :=
  { q with
    descShadow := Function.update q.descShadow head
      { (q.descShadow head).unsetBuf with next := q.freeHead }
    freeHead := head
    indirectLists := Function.update q.indirectLists head none
    numUsed := q.numUsed - 1 }

section
variable (q : VirtQueue SIZE) (head n : Nat)
@[simp] theorem numUsed_afterRecycleDirect : (q.afterRecycleDirect head n).numUsed = q.numUsed - n :=
  rfl
@[simp] theorem freeHead_afterRecycleDirect : (q.afterRecycleDirect head n).freeHead = head := rfl
@[simp] theorem indirect_afterRecycleDirect : (q.afterRecycleDirect head n).indirect = q.indirect :=
  rfl
@[simp] theorem indirectLists_afterRecycleDirect :
    (q.afterRecycleDirect head n).indirectLists = q.indirectLists := rfl
@[simp] theorem numUsed_afterRecycleIndirect : (q.afterRecycleIndirect head).numUsed = q.numUsed - 1 :=
  rfl
@[simp] theorem freeHead_afterRecycleIndirect : (q.afterRecycleIndirect head).freeHead = head := rfl
@[simp] theorem indirect_afterRecycleIndirect : (q.afterRecycleIndirect head).indirect = q.indirect :=
  rfl
@[simp] theorem indirectLists_afterRecycleIndirect : (q.afterRecycleIndirect head).indirectLists =
    Function.update q.indirectLists head none := rfl

theorem descShadow_afterRecycleDirect_of_not_mem {j : Nat} (hj : j ∉ walk q.nextOf head n) :
    (q.afterRecycleDirect head n).descShadow j = q.descShadow j :=
  releaseChain_of_not_mem _ _ _ hj

theorem nextOf_afterRecycleDirect (hn : 0 < n) (j : Nat) :
    (q.afterRecycleDirect head n).nextOf j =
      if j = q.nextOf^[n-1] head then q.freeHead else q.nextOf j := by
  obtain ⟨k, rfl⟩ := Nat.exists_eq_add_of_lt hn
  have hlast := getLast?_walk q.nextOf head k
  simp only [Nat.zero_add, Nat.add_sub_cancel] at hlast ⊢
  split
  · rename_i hj
    subst hj
    exact releaseChain_last _ _ _ hlast
  · rename_i hj
    exact releaseChain_next _ _ _ j (by rw [hlast]; simpa [eq_comm] using hj)

theorem desc_afterRecycleDirect_of_not_mem {j : Nat} (hj : j ∉ walk q.nextOf head n) :
    (q.afterRecycleDirect head n).desc j = q.desc j := by
  simp [afterRecycleDirect, syncDesc, hj]

@[simp] theorem desc_afterRecycleIndirect : (q.afterRecycleIndirect head).desc = q.desc := rfl
@[simp] theorem avail_afterRecycleDirect : (q.afterRecycleDirect head n).avail = q.avail := rfl
@[simp] theorem avail_afterRecycleIndirect : (q.afterRecycleIndirect head).avail = q.avail := rfl
@[simp] theorem lastUsedIdx_afterRecycleDirect :
    (q.afterRecycleDirect head n).lastUsedIdx = q.lastUsedIdx := rfl
@[simp] theorem lastUsedIdx_afterRecycleIndirect :
    (q.afterRecycleIndirect head).lastUsedIdx = q.lastUsedIdx := rfl

theorem descShadow_afterRecycleIndirect_of_ne {j : Nat} (hj : j ≠ head) :
    (q.afterRecycleIndirect head).descShadow j = q.descShadow j := by
  simp [afterRecycleIndirect, Function.update_of_ne hj]

theorem nextOf_afterRecycleIndirect (j : Nat) :
    (q.afterRecycleIndirect head).nextOf j = if j = head then q.freeHead else q.nextOf j := by
  by_cases hj : j = head
  · subst hj; simp [afterRecycleIndirect, nextOf]
  · simp [afterRecycleIndirect, nextOf, hj]
end

/-- One round of the loop of `recycle_descriptors` at node `i`: the node is unset, and
linked to the old free head if it ends the chain. -/
def releaseNode (q : VirtQueue SIZE) (origFree i : Nat) : VirtQueue SIZE :=
  let d := (q.descShadow i).unsetBuf
  let d := if d.flags.next then d else { d with next := origFree }
  { q with
    descShadow := Function.update q.descShadow i d
    desc := Function.update q.desc i d
    numUsed := q.numUsed - 1 }

theorem recycleLoop_cons (q : VirtQueue SIZE) (origFree i : Nat) (b : Buf) (dir : BufferDirection)
    (rest : List (Buf × BufferDirection)) (hb : b.len ≠ 0) (hi : i < SIZE) :
    recycleLoop origFree q (some i) ((b, dir) :: rest) = (do
      let r ← recycleLoop origFree (q.releaseNode origFree i) (q.descShadow i).nextInChain rest
      pure (r.1, r.2.1, ⟨(q.descShadow i).addr.toNat, b, dir⟩ :: r.2.2)) := by
  have hb' : (b.len != 0) = true := by simpa using hb
  simp only [recycleLoop, hb', assert_true, Except.ok_bind, Except.pure_eq_ok, getIdx_of_lt hi,
    writeDesc_of_lt hi, releaseNode, Descriptor.nextInChain_eq, Descriptor.unsetBuf_flags]
  by_cases hn : (q.descShadow i).flags.next = true <;> simp [hn]

theorem descShadow_releaseNode_flags (q : VirtQueue SIZE) (origFree i j : Nat) :
    ((q.releaseNode origFree i).descShadow j).flags = (q.descShadow j).flags := by
  by_cases hji : j = i
  · subst hji
    simp only [releaseNode, Function.update_self]
    split <;> rfl
  · simp [releaseNode, Function.update_of_ne hji]

theorem nextOf_releaseNode (q : VirtQueue SIZE) (origFree i : Nat)
    (h : (q.descShadow i).flags.next = true) : (q.releaseNode origFree i).nextOf = q.nextOf := by
  funext j
  by_cases hji : j = i
  · subst hji
    simp [releaseNode, nextOf, h]
  · simp [releaseNode, nextOf, Function.update_of_ne hji]

/-- The loop of the direct branch of `recycle_descriptors` on a chain whose `NEXT` flags
mark exactly its first `n - 1` nodes, for `n` non-empty buffers. -/
theorem recycleLoop_eq (q : VirtQueue SIZE) (origFree head : Nat)
    (bufs : List (Buf × BufferDirection)) (hpos : bufs ≠ [])
    (hne : ∀ p ∈ bufs, p.1.len ≠ 0)
    (hnodup : (walk q.nextOf head bufs.length).Nodup)
    (hlt : ∀ j ∈ walk q.nextOf head bufs.length, j < SIZE)
    (hflags : ∀ k < bufs.length,
      (q.descShadow (q.nextOf^[k] head)).flags.next = decide (k + 1 < bufs.length)) :
    recycleLoop origFree q (some head) bufs =
      .ok ({ q with
          descShadow := releaseChain q.descShadow origFree (walk q.nextOf head bufs.length)
          desc := syncDesc q.desc (releaseChain q.descShadow origFree (walk q.nextOf head bufs.length))
            (walk q.nextOf head bufs.length)
          numUsed := q.numUsed - bufs.length },
        none, directUnshares q.descShadow (walk q.nextOf head bufs.length) bufs) := by
  induction bufs generalizing q head with
  | nil => exact absurd rfl hpos
  | cons p rest ih =>
    obtain ⟨b, dir⟩ := p
    have hh : head < SIZE := hlt head (by simp)
    have hflag0 : (q.descShadow head).flags.next = decide (1 < rest.length + 1) := by
      simpa using hflags 0 (by simp)
    rw [recycleLoop_cons q origFree head b dir rest (hne (b, dir) (by simp)) hh]
    rcases rest with _ | ⟨p', rest'⟩
    · -- the last buffer: `next()` is `None`, so the node is linked to the old free head
      have hf : (q.descShadow head).flags.next = false := by simpa using hflag0
      simp only [Descriptor.nextInChain_eq, hf, recycleLoop]
      simp [releaseNode, releaseChain, directUnshares, hf]
      funext j
      by_cases hj : j = head <;> simp [syncDesc, hj]
    · -- a middle buffer: the node keeps its link, so the rest of the chain is unchanged
      have ht : (q.descShadow head).flags.next = true := by simpa using hflag0
      have hnext : (q.releaseNode origFree head).nextOf = q.nextOf := nextOf_releaseNode q origFree head ht
      have hwalk : walk q.nextOf head (rest'.length + 2) =
          head :: walk q.nextOf (q.nextOf head) (rest'.length + 1) := walk_succ ..
      simp only [List.length_cons, hwalk, List.nodup_cons, List.mem_cons, forall_eq_or_imp] at hnodup hlt
      have hrec := ih (q.releaseNode origFree head) (q.nextOf head) (List.cons_ne_nil _ _)
        (fun p hp => hne p (List.mem_cons_of_mem _ hp)) (by rw [hnext]; exact hnodup.2)
        (by rw [hnext]; exact hlt.2)
        (fun k hk => by
          rw [descShadow_releaseNode_flags, hnext, ← Function.iterate_succ_apply]
          simpa using hflags (k + 1) (by simpa using hk))
      have hds : (q.releaseNode origFree head).descShadow =
          Function.update q.descShadow head (q.descShadow head).unsetBuf := by
        simp [releaseNode, ht]
      set W := walk q.nextOf (q.nextOf head) (rest'.length + 1) with hW
      have hWne : W ≠ [] := by simp [hW]
      have hrel : releaseChain (q.releaseNode origFree head).descShadow origFree W =
          releaseChain q.descShadow origFree (head :: W) := by
        rw [hds, releaseChain, if_neg hWne]
      have hdesc : syncDesc (q.releaseNode origFree head).desc
          (releaseChain q.descShadow origFree (head :: W)) W =
          syncDesc q.desc (releaseChain q.descShadow origFree (head :: W)) (head :: W) := by
        funext j
        by_cases hj : j = head
        · subst hj
          simp [syncDesc, hnodup.1, releaseChain, if_neg hWne, releaseChain_of_not_mem _ _ _ hnodup.1,
            releaseNode, ht]
        · simp [syncDesc, hj, releaseNode]
      have hun : directUnshares (q.releaseNode origFree head).descShadow W (p' :: rest') =
          directUnshares q.descShadow W (p' :: rest') :=
        directUnshares_congr _ (fun j hj => by
          rw [hds, Function.update_of_ne (by rintro rfl; exact hnodup.1 hj)])
      have hnum : q.numUsed - 1 - (rest'.length + 1) = q.numUsed - (rest'.length + 2) := by omega
      have hnx : (q.descShadow head).next = q.nextOf head := rfl
      simp only [Descriptor.nextInChain_eq, ht, if_true, hnx]
      rw [hrec]
      simp only [hnext, List.length_cons, ← hW, hrel, hdesc, hun, Except.ok_bind, Except.pure_eq_ok,
        hwalk]
      simp [releaseNode, hnum, directUnshares]

/-- The direct branch of `recycle_descriptors`, on a chain of one descriptor for each
buffer, linked by `NEXT` up to its last node. -/
theorem recycleDescriptors_direct (H : Hal) (q : VirtQueue SIZE) (head : Nat)
    (inputs outputs : List Buf) (hind : (q.descShadow head).flags.indirect = false)
    (hpos : 0 < inputs.length + outputs.length)
    (hne : ∀ p ∈ inputOutputIter inputs outputs, p.1.len ≠ 0)
    (hnodup : (walk q.nextOf head (inputs.length + outputs.length)).Nodup)
    (hlt : ∀ j ∈ walk q.nextOf head (inputs.length + outputs.length), j < SIZE)
    (hflags : ∀ k < inputs.length + outputs.length,
      (q.descShadow (q.nextOf^[k] head)).flags.next = decide (k + 1 < inputs.length + outputs.length)) :
    q.recycleDescriptors H head inputs outputs =
      .ok (q.afterRecycleDirect head (inputs.length + outputs.length),
        directUnshares q.descShadow (walk q.nextOf head (inputs.length + outputs.length))
          (inputOutputIter inputs outputs)) := by
  have hh : head < SIZE := hlt head (head_mem_walk _ _ hpos)
  have hbufs : inputOutputIter inputs outputs ≠ [] := by
    rw [← List.length_pos_iff, length_inputOutputIter]; exact hpos
  have hn : ({ q with freeHead := head } : VirtQueue SIZE).nextOf = q.nextOf := rfl
  have hloop := recycleLoop_eq { q with freeHead := head } q.freeHead head
    (inputOutputIter inputs outputs) hbufs hne (by rw [hn]; simpa using hnodup)
    (by rw [hn]; simpa using hlt) (by rw [hn]; simpa using hflags)
  rw [hn] at hloop
  simp only [recycleDescriptors, getIdx_of_lt hh, Except.ok_bind, DescFlags.contains_INDIRECT, hind,
    Bool.false_eq_true, if_false, hloop, Option.isSome_none]
  simp [afterRecycleDirect]

theorem indirectUnshares_eq (table : List Descriptor) (i : Nat) (bufs : List (Buf × BufferDirection))
    (hlen : i + bufs.length ≤ table.length) (hne : ∀ p ∈ bufs, p.1.len ≠ 0) :
    indirectUnshares table i bufs =
      .ok (directUnshares (fun j => table.getD j Descriptor.zero) (List.range' i bufs.length) bufs) := by
  induction bufs generalizing i with
  | nil => rfl
  | cons p rest ih =>
    obtain ⟨b, dir⟩ := p
    have hb : (b.len != 0) = true := by simpa using hne (b, dir) (by simp)
    have hi : i < table.length := by simp at hlen; omega
    have hrest := ih (i + 1) (by simp at hlen; omega) (fun p hp => hne p (by simp [hp]))
    simp only [indirectUnshares, hb, assert_true, Except.ok_bind, getIdx_of_lt hi, hrest,
      Except.pure_eq_ok, List.length_cons, List.range'_succ]
    rfl

/-- The unsharing loop returns only for buffers that are not empty: it asserts so before
unsharing each. -/
theorem indirectUnshares_ne {table : List Descriptor} {i : Nat} {bufs : List (Buf × BufferDirection)}
    {us : List Unshare} (h : indirectUnshares table i bufs = .ok us) : ∀ p ∈ bufs, p.1.len ≠ 0 := by
  induction bufs generalizing i us with
  | nil => simp
  | cons p rest ih =>
    obtain ⟨b, dir⟩ := p
    simp only [indirectUnshares, Except.bind_eq_ok, assert_eq_ok] at h
    obtain ⟨_, hb, d, -, us', hrest, -⟩ := h
    intro p hp
    rcases List.mem_cons.mp hp with rfl | hp
    · simpa using hb
    · exact ih hrest p hp

/-- The indirect branch of `recycle_descriptors`, on a head that owns a table of one entry
for each buffer. -/
theorem recycleDescriptors_indirect (H : Hal) (q : VirtQueue SIZE) (head : Nat)
    (inputs outputs : List Buf) (hind : (q.descShadow head).flags.indirect = true)
    (hh : head < SIZE) {l : List Descriptor} (hl : q.indirectLists head = some l)
    (hlen : l.length = inputs.length + outputs.length)
    (hne : ∀ p ∈ inputOutputIter inputs outputs, p.1.len ≠ 0) :
    q.recycleDescriptors H head inputs outputs =
      .ok (q.afterRecycleIndirect head,
        ⟨(q.descShadow head).addr.toNat, indirectTable H head l.length, .driverToDevice⟩ ::
          directUnshares (fun j => l.getD j Descriptor.zero)
            (List.range (inputs.length + outputs.length)) (inputOutputIter inputs outputs)) := by
  have hun := indirectUnshares_eq l 0 (inputOutputIter inputs outputs) (by simp [hlen]) hne
  simp only [recycleDescriptors, getIdx_of_lt hh, Except.ok_bind, DescFlags.contains_INDIRECT, hind,
    if_true, hl, hlen, beq_self_eq_true, assert_true, hun, Except.pure_eq_ok]
  simp [afterRecycleIndirect, List.range_eq_range']

theorem recycleDescriptors_indirect_ne {H : Hal} {q q0 : VirtQueue SIZE} {head : Nat}
    {inputs outputs : List Buf} {us : List Unshare} (hind : (q.descShadow head).flags.indirect = true)
    (h : q.recycleDescriptors H head inputs outputs = .ok (q0, us)) :
    ∀ p ∈ inputOutputIter inputs outputs, p.1.len ≠ 0 := by
  unfold recycleDescriptors at h
  simp only at h
  rw [Except.bind_eq_ok] at h
  obtain ⟨d, hd, h⟩ := h
  obtain ⟨-, rfl⟩ := getIdx_eq_ok.mp hd
  simp only [DescFlags.contains_INDIRECT, hind, if_true, Except.bind_eq_ok] at h
  obtain ⟨ol, -, h⟩ := h
  rcases ol with _ | l
  · simp at h
  simp only [Except.pure_eq_ok, Except.ok_bind, Except.bind_eq_ok, Except.ok.injEq,
    Prod.mk.injEq] at h
  obtain ⟨-, -, us', hun, -⟩ := h
  exact indirectUnshares_ne hun

/-- The end of `pop_used`: the used element is consumed and, with `EVENT_IDX`, the device
is told to notify again at the next one. -/
def consumeUsed (q : VirtQueue SIZE) : VirtQueue SIZE :=
  let q : VirtQueue SIZE := { q with lastUsedIdx := q.lastUsedIdx + 1 }
  if q.eventIdx then { q with avail := { q.avail with usedEvent := q.lastUsedIdx } } else q

section
variable (q : VirtQueue SIZE)
@[simp] theorem descShadow_consumeUsed : q.consumeUsed.descShadow = q.descShadow := by
  by_cases h : q.eventIdx <;> simp [consumeUsed, h]
@[simp] theorem numUsed_consumeUsed : q.consumeUsed.numUsed = q.numUsed := by
  by_cases h : q.eventIdx <;> simp [consumeUsed, h]
@[simp] theorem freeHead_consumeUsed : q.consumeUsed.freeHead = q.freeHead := by
  by_cases h : q.eventIdx <;> simp [consumeUsed, h]
@[simp] theorem indirect_consumeUsed : q.consumeUsed.indirect = q.indirect := by
  by_cases h : q.eventIdx <;> simp [consumeUsed, h]
@[simp] theorem indirectLists_consumeUsed : q.consumeUsed.indirectLists = q.indirectLists := by
  by_cases h : q.eventIdx <;> simp [consumeUsed, h]
@[simp] theorem avail_idx_consumeUsed : q.consumeUsed.avail.idx = q.avail.idx := by
  by_cases h : q.eventIdx <;> simp [consumeUsed, h]
@[simp] theorem availIdx_consumeUsed : q.consumeUsed.availIdx = q.availIdx := by
  by_cases h : q.eventIdx <;> simp [consumeUsed, h]
@[simp] theorem desc_consumeUsed : q.consumeUsed.desc = q.desc := by
  by_cases h : q.eventIdx <;> simp [consumeUsed, h]
@[simp] theorem avail_ring_consumeUsed : q.consumeUsed.avail.ring = q.avail.ring := by
  by_cases h : q.eventIdx <;> simp [consumeUsed, h]
@[simp] theorem lastUsedIdx_consumeUsed : q.consumeUsed.lastUsedIdx = q.lastUsedIdx + 1 := by
  by_cases h : q.eventIdx <;> simp [consumeUsed, h]
end

/-- What a successful `pop_used` did: the next used element named `token`, and the chain
at `token` was recycled. -/
theorem popUsed_eq_ok {H : Hal} {q q' : VirtQueue SIZE} {used : UsedRing} {token : Nat}
    {inputs outputs : List Buf} {len : UInt32} {us : List Unshare}
    (h : q.popUsed H used token inputs outputs = .ok (q', len, us)) :
    q.canPop used = true ∧ (used.ring q.lastUsedSlot).id.toUInt16.toNat = token ∧
      len = (used.ring q.lastUsedSlot).len ∧
      ∃ q0, q.recycleDescriptors H token inputs outputs = .ok (q0, us) ∧ q' = q0.consumeUsed := by
  unfold popUsed at h
  simp only at h
  split at h
  · simp at h
  rename_i hpop
  split at h
  · simp at h
  rename_i htok
  have htok' : (used.ring q.lastUsedSlot).id.toUInt16.toNat = token := by simpa using htok
  rw [Except.bind_eq_ok] at h
  obtain ⟨⟨q0, us0⟩, hrec, hfin⟩ := h
  simp only [Except.pure_eq_ok, Except.ok.injEq, Prod.mk.injEq] at hfin
  obtain ⟨rfl, rfl, rfl⟩ := hfin
  refine ⟨by simpa using hpop, htok', rfl, q0, htok' ▸ hrec, ?_⟩
  by_cases he : q0.eventIdx <;> simp [consumeUsed, he]

theorem popUsed_of_recycleDescriptors {H : Hal} {q q0 : VirtQueue SIZE} {used : UsedRing}
    {token : Nat} {inputs outputs : List Buf} {us : List Unshare} (hpop : q.canPop used = true)
    (htok : (used.ring q.lastUsedSlot).id.toUInt16.toNat = token)
    (hrec : q.recycleDescriptors H token inputs outputs = .ok (q0, us)) :
    q.popUsed H used token inputs outputs = .ok (q0.consumeUsed, (used.ring q.lastUsedSlot).len, us) := by
  unfold popUsed
  simp only [hpop, Bool.not_true, Bool.false_eq_true, if_false, htok, bne_self_eq_false, hrec,
    Except.ok_bind]
  rfl

theorem recycleLoop_frame {orig : Nat} {q q0 : VirtQueue SIZE} {next next' : Option Nat}
    {bufs : List (Buf × BufferDirection)} {us : List Unshare}
    (h : recycleLoop orig q next bufs = .ok (q0, next', us)) :
    ∃ desc descShadow numUsed, q0 = { q with desc := desc, descShadow := descShadow, numUsed := numUsed } := by
  induction bufs generalizing q next next' us with
  | nil =>
    simp only [recycleLoop, Except.pure_eq_ok, Except.ok.injEq, Prod.mk.injEq] at h
    exact ⟨q.desc, q.descShadow, q.numUsed, h.1.symm⟩
  | cons p rest ih =>
    obtain ⟨b, dir⟩ := p
    cases next with
    | none => simp [recycleLoop, Except.bind_eq_ok] at h
    | some i =>
      by_cases hb : b.len = 0
      · simp [recycleLoop, hb, Except.bind_eq_ok] at h
      by_cases hi : i < SIZE
      · rw [recycleLoop_cons q orig i b dir rest hb hi, Except.bind_eq_ok] at h
        obtain ⟨⟨q1, n1, us1⟩, hrec, hfin⟩ := h
        simp only [Except.pure_eq_ok, Except.ok.injEq, Prod.mk.injEq] at hfin
        obtain ⟨rfl, -, -⟩ := hfin
        obtain ⟨desc, descShadow, numUsed, rfl⟩ := ih hrec
        exact ⟨desc, descShadow, numUsed, rfl⟩
      · simp [recycleLoop, hb, getIdx, hi, Except.bind_eq_ok] at h

/-- `recycle_descriptors` writes only the descriptor tables, `num_used` and the indirect
tables, and starts the free list at the recycled head. -/
theorem recycleDescriptors_frame {H : Hal} {q q0 : VirtQueue SIZE} {head : Nat}
    {inputs outputs : List Buf} {us : List Unshare}
    (h : q.recycleDescriptors H head inputs outputs = .ok (q0, us)) :
    ∃ desc descShadow numUsed indirectLists, q0 = { q with
      desc := desc
      descShadow := descShadow
      numUsed := numUsed
      freeHead := head
      indirectLists := indirectLists } := by
  unfold recycleDescriptors at h
  simp only [Except.bind_eq_ok, getIdx_eq_ok] at h
  obtain ⟨d, -, h⟩ := h
  split at h
  · -- the indirect branch rebuilds the queue field by field
    simp only [Except.bind_eq_ok, getIdx_eq_ok] at h
    obtain ⟨l, -, h⟩ := h
    cases l with
    | none => simp at h
    | some l =>
      simp only [Except.pure_eq_ok, Except.ok_bind, Except.bind_eq_ok, Except.ok.injEq,
        Prod.mk.injEq] at h
      obtain ⟨_, -, us', -, rfl, -⟩ := h
      exact ⟨_, _, _, _, rfl⟩
  · simp only [Except.bind_eq_ok] at h
    obtain ⟨⟨q1, next, us1⟩, hloop, hfin⟩ := h
    split at hfin
    · simp at hfin
    · simp only [Except.pure_eq_ok, Except.ok.injEq, Prod.mk.injEq] at hfin
      obtain ⟨rfl, -⟩ := hfin
      obtain ⟨desc, descShadow, numUsed, rfl⟩ := recycleLoop_frame hloop
      exact ⟨desc, descShadow, numUsed, q.indirectLists, rfl⟩

theorem eventIdx_of_recycleDescriptors {H : Hal} {q q0 : VirtQueue SIZE} {head : Nat}
    {inputs outputs : List Buf} {us : List Unshare}
    (h : q.recycleDescriptors H head inputs outputs = .ok (q0, us)) : q0.eventIdx = q.eventIdx := by
  obtain ⟨_, _, _, _, rfl⟩ := recycleDescriptors_frame h
  rfl

theorem freeHead_of_recycleDescriptors {H : Hal} {q q0 : VirtQueue SIZE} {head : Nat}
    {inputs outputs : List Buf} {us : List Unshare}
    (h : q.recycleDescriptors H head inputs outputs = .ok (q0, us)) : q0.freeHead = head := by
  obtain ⟨_, _, _, _, rfl⟩ := recycleDescriptors_frame h
  rfl

end VirtQueue
end VirtioDrivers
