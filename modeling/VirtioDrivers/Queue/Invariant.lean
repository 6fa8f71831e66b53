import VirtioDrivers.Queue.Recycle
import VirtioDrivers.Lib.Partition

/-! The descriptor accounting of a `VirtQueue`. The free list and the chains the driver
has added and not popped yet split the descriptor table between them; each chain has
the shape `add` gave it. The invariant holds of a new queue and is kept by every `add`
and `pop_used` that returns. -/
namespace VirtioDrivers
open LinkWalk Ownership

/-- A chain the driver has added and not popped yet: the token `add` returned and the
buffers it was given, which `pop_used` must be given again. -/
structure Chain where
  token : Nat
  inputs : List Buf
  outputs : List Buf
deriving DecidableEq

namespace Chain

def count (c : Chain) : Nat := c.inputs.length + c.outputs.length

def bufs (c : Chain) : List (Buf × BufferDirection) := inputOutputIter c.inputs c.outputs

end Chain

namespace VirtQueue
variable {SIZE : Nat}

/-- The free list: the `SIZE - num_used` descriptors reached from `free_head`. -/
def freeList (q : VirtQueue SIZE) : List Nat := walk q.nextOf q.freeHead (SIZE - q.numUsed)

/-- `add` builds an indirect chain for more than one buffer when the queue has the
feature, and a direct chain otherwise. -/
def isIndirect (q : VirtQueue SIZE) (c : Chain) : Bool := q.indirect && decide (1 < c.count)

/-- The descriptors a chain holds: its head alone if it is indirect, else one for each
buffer along the `next` links. -/
def footprint (q : VirtQueue SIZE) (c : Chain) : List Nat :=
  if q.isIndirect c then [c.token] else walk q.nextOf c.token c.count

/-- A chain has the shape `add` gave it. -/
structure ChainOk (q : VirtQueue SIZE) (c : Chain) : Prop where
  count_pos : 0 < c.count
  -- `add` refuses more buffers than the queue has descriptors, even for a table
  count_le : c.count ≤ SIZE
  token_lt : c.token < SIZE
  head_indirect : (q.descShadow c.token).flags.indirect = q.isIndirect c
  table : q.isIndirect c = true → ∃ l, q.indirectLists c.token = some l ∧ l.length = c.count
  links : q.isIndirect c = false → ∀ k < c.count,
    (q.descShadow (q.nextOf^[k] c.token)).flags.next = decide (k + 1 < c.count)
  fits : q.isIndirect c = false → ∀ p ∈ c.bufs, p.1.Fits

/-- The accounting invariant of a queue whose outstanding chains are `cs`. -/
structure Inv (q : VirtQueue SIZE) (cs : List Chain) : Prop where
  numUsed_le : q.numUsed ≤ SIZE
  freeHead_lt : q.freeHead < SIZE
  next_lt : ∀ i < SIZE, q.nextOf i < SIZE
  partitions : Partitions q.freeList cs q.footprint
  numUsed_eq : q.numUsed = (cs.flatMap q.footprint).length
  chains : ∀ c ∈ cs, q.ChainOk c
  tables : ∀ i, q.indirectLists i ≠ none → ∃ c ∈ cs, q.isIndirect c = true ∧ c.token = i

theorem token_mem_footprint {q : VirtQueue SIZE} {c : Chain} (hc : 0 < c.count) :
    c.token ∈ q.footprint c := by
  unfold footprint
  split
  · simp
  · exact head_mem_walk _ _ hc

theorem indirect_of_isIndirect {q : VirtQueue SIZE} {c : Chain} (h : q.isIndirect c = true) :
    q.indirect = true := by
  simp only [isIndirect, Bool.and_eq_true] at h
  exact h.1

theorem isIndirect_congr {q q' : VirtQueue SIZE} (hi : q'.indirect = q.indirect) :
    q'.isIndirect = q.isIndirect := by
  funext c
  simp [isIndirect, hi]

theorem footprint_congr {q q' : VirtQueue SIZE} {c : Chain} (hi : q'.indirect = q.indirect)
    (hds : ∀ j ∈ q.footprint c, q'.descShadow j = q.descShadow j) :
    q'.footprint c = q.footprint c := by
  unfold footprint at hds ⊢
  rw [isIndirect_congr hi]
  split
  · rfl
  · rename_i h
    rw [if_neg h] at hds
    exact walk_congr_all (fun j hj => by simp [nextOf, hds j hj])

theorem ChainOk.congr {q q' : VirtQueue SIZE} {c : Chain} (h : q.ChainOk c)
    (hi : q'.indirect = q.indirect) (hds : ∀ j ∈ q.footprint c, q'.descShadow j = q.descShadow j)
    (hl : q'.indirectLists c.token = q.indirectLists c.token) : q'.ChainOk c := by
  have hisi : q'.isIndirect c = q.isIndirect c := by rw [isIndirect_congr hi]
  refine ⟨h.count_pos, h.count_le, h.token_lt, ?_, ?_, ?_, ?_⟩
  · rw [hds _ (token_mem_footprint h.count_pos), hisi]
    exact h.head_indirect
  · rw [hisi, hl]
    exact h.table
  · intro hd k hk
    rw [hisi] at hd
    have hwalk : ∀ j ∈ walk q.nextOf c.token c.count, q'.descShadow j = q.descShadow j := by
      simpa [footprint, hd] using hds
    have hnext : ∀ j ∈ walk q.nextOf c.token k, q'.nextOf j = q.nextOf j := fun j hj => by
      simp [nextOf, hwalk j (mem_walk_of_le (Nat.le_of_lt hk) hj)]
    rw [iterate_congr hnext, hwalk _ (iterate_mem_walk _ _ hk)]
    exact h.links hd k hk
  · rw [hisi]
    exact h.fits

/-- The invariant reads only the driver's bookkeeping: the shadow table, `num_used`,
`free_head`, the feature bit and the indirect tables. -/
theorem Inv.congr {q q' : VirtQueue SIZE} {cs : List Chain} (h : q.Inv cs)
    (hd : q'.descShadow = q.descShadow) (hn : q'.numUsed = q.numUsed)
    (hf : q'.freeHead = q.freeHead) (hi : q'.indirect = q.indirect)
    (hl : q'.indirectLists = q.indirectLists) : q'.Inv cs := by
  have hnext : q'.nextOf = q.nextOf := by
    funext j
    simp [nextOf, hd]
  have hfree : q'.freeList = q.freeList := by simp [freeList, hnext, hf, hn]
  have hfp : q'.footprint = q.footprint := by
    funext c
    exact footprint_congr hi (fun j _ => by rw [hd])
  refine ⟨?_, ?_, ?_, ?_, ?_, ?_, ?_⟩
  · rw [hn]; exact h.numUsed_le
  · rw [hf]; exact h.freeHead_lt
  · rw [hnext]; exact h.next_lt
  · rw [hfree, hfp]; exact h.partitions
  · rw [hn, hfp]; exact h.numUsed_eq
  · exact fun c hc => (h.chains c hc).congr hi (fun j _ => by rw [hd]) (by rw [hl])
  · rw [hl, isIndirect_congr hi]; exact h.tables

theorem init_nextOf (idx : UInt16) (indirect eventIdx : Bool) (i : Nat) :
    (init idx indirect eventIdx : VirtQueue SIZE).nextOf i = if i + 1 < SIZE then i + 1 else 0 := by
  simp only [nextOf, init, linkedDescriptors_apply]
  split <;> rfl

theorem init_freeList (idx : UInt16) (indirect eventIdx : Bool) :
    (init idx indirect eventIdx : VirtQueue SIZE).freeList = List.range' 0 SIZE := by
  have hfree : (init idx indirect eventIdx : VirtQueue SIZE).freeList =
      walk (init idx indirect eventIdx : VirtQueue SIZE).nextOf 0 SIZE := rfl
  rw [hfree]
  apply walk_eq_range'
  intro j _ hj
  rw [init_nextOf, if_pos (by omega)]

theorem Inv.init (hsize : 0 < SIZE) (idx : UInt16) (indirect eventIdx : Bool) :
    (init idx indirect eventIdx : VirtQueue SIZE).Inv [] := by
  refine ⟨by simp [VirtQueue.init], hsize, ?_, ?_, by simp [VirtQueue.init], by simp, ?_⟩
  · intro i _
    rw [init_nextOf]
    split <;> omega
  · simpa [Partitions, init_freeList] using (List.nodup_range' : (List.range' 0 SIZE).Nodup)
  · intro i hi
    simp [VirtQueue.init] at hi

theorem freeList_afterAddDirect (H : Hal) (q : VirtQueue SIZE) (inputs outputs : List Buf)
    (hroom : q.numUsed + (inputs.length + outputs.length) ≤ SIZE) :
    q.freeList = walk q.nextOf q.freeHead (inputs.length + outputs.length) ++
      (q.afterAddDirect H inputs outputs).freeList := by
  have hlen : SIZE - q.numUsed = (inputs.length + outputs.length) +
      (SIZE - (q.afterAddDirect H inputs outputs).numUsed) := by simp; omega
  rw [freeList, hlen, walk_add, freeList, nextOf_afterAddDirect, freeHead_afterAddDirect]

theorem freeHead_of_freeList_eq_range' {q : VirtQueue SIZE} {k n : Nat}
    (hnum : SIZE - q.numUsed = n + 1) (hfree : q.freeList = List.range' k (n + 1)) :
    q.freeHead = k := by
  rw [freeList, hnum, walk_succ, List.range'_succ] at hfree
  exact (List.cons.inj hfree).1

theorem freeList_afterAddDirect_of_range' (H : Hal) {q : VirtQueue SIZE} {inputs outputs : List Buf}
    {k n : Nat} (hone : inputs.length + outputs.length = 1) (hnum : SIZE - q.numUsed = n + 1)
    (hfree : q.freeList = List.range' k (n + 1)) :
    (q.afterAddDirect H inputs outputs).freeList = List.range' (k + 1) n := by
  have hsplit := freeList_afterAddDirect H q inputs outputs (by omega)
  have hw : walk q.nextOf q.freeHead (inputs.length + outputs.length) = [k] := by
    rw [hone, freeHead_of_freeList_eq_range' hnum hfree]
    rfl
  rw [hfree, List.range'_succ, hw] at hsplit
  exact (List.cons.inj hsplit).2.symm

theorem Inv.not_mem_footprint_of_mem_walk {q : VirtQueue SIZE} {cs : List Chain} (h : q.Inv cs)
    {n : Nat} (hroom : q.numUsed + n ≤ SIZE) {j : Nat} (hj : j ∈ walk q.nextOf q.freeHead n)
    {c : Chain} (hc : c ∈ cs) : j ∉ q.footprint c :=
  h.partitions.not_mem_fp_of_mem_free (mem_walk_of_le (by omega) hj) hc

theorem Inv.nodup_walk {q : VirtQueue SIZE} {cs : List Chain} (h : q.Inv cs) {n : Nat}
    (hroom : q.numUsed + n ≤ SIZE) : (walk q.nextOf q.freeHead n).Nodup := by
  have hfree := h.partitions.nodup_free
  rw [freeList, show SIZE - q.numUsed = n + (SIZE - q.numUsed - n) by omega, walk_add] at hfree
  exact (List.nodup_append.mp hfree).1

theorem Inv.addDirect {H : Hal} {q : VirtQueue SIZE} {cs : List Chain} {inputs outputs : List Buf}
    (h : q.Inv cs) (hdirect : q.isIndirect ⟨q.freeHead, inputs, outputs⟩ = false)
    (hpos : 0 < inputs.length + outputs.length)
    (hroom : q.numUsed + (inputs.length + outputs.length) ≤ SIZE)
    (hfit : ∀ p ∈ inputOutputIter inputs outputs, p.1.Fits) :
    (q.afterAddDirect H inputs outputs).Inv (⟨q.freeHead, inputs, outputs⟩ :: cs) := by
  have hnext : (q.afterAddDirect H inputs outputs).nextOf = q.nextOf :=
    nextOf_afterAddDirect H q inputs outputs
  have hisi : (q.afterAddDirect H inputs outputs).isIndirect = q.isIndirect := isIndirect_congr rfl
  have hsplit := freeList_afterAddDirect H q inputs outputs hroom
  have hnodup : (walk q.nextOf q.freeHead (inputs.length + outputs.length)).Nodup :=
    h.nodup_walk hroom
  have hother : ∀ c ∈ cs, ∀ j ∈ q.footprint c,
      (q.afterAddDirect H inputs outputs).descShadow j = q.descShadow j :=
    fun c hc j hj => descShadow_afterAddDirect_of_not_mem H q inputs outputs hpos
      (fun hjn => h.not_mem_footprint_of_mem_walk hroom hjn hc hj)
  have hfp : ∀ c ∈ cs, (q.afterAddDirect H inputs outputs).footprint c = q.footprint c :=
    fun c hc => footprint_congr rfl (hother c hc)
  have hfpc : (q.afterAddDirect H inputs outputs).footprint ⟨q.freeHead, inputs, outputs⟩ =
      walk q.nextOf q.freeHead (inputs.length + outputs.length) := by
    simp [footprint, hisi, hdirect, hnext, Chain.count]
  have hnew : (q.afterAddDirect H inputs outputs).ChainOk ⟨q.freeHead, inputs, outputs⟩ := by
    refine ⟨hpos, Nat.le_trans (Nat.le_add_left _ _) hroom, h.freeHead_lt, ?_,
      fun hd => by simp [hisi, hdirect] at hd, ?_, fun _ => hfit⟩
    · rw [hisi, hdirect]
      exact (flags_afterAddDirect H q inputs outputs (head_mem_walk _ _ hpos)).1
    · intro _ k hk
      have hkn : k < inputs.length + outputs.length := hk
      rw [hnext, (flags_afterAddDirect H q inputs outputs (iterate_mem_walk _ _ hkn)).2]
      have hiff := iterate_eq_iff_of_nodup hnodup hkn (Nat.sub_lt hpos Nat.one_pos)
      have hcount : Chain.count ⟨q.freeHead, inputs, outputs⟩ = inputs.length + outputs.length := rfl
      simp only [hcount, ne_eq, hiff, decide_eq_decide]
      omega
  refine ⟨?_, ?_, ?_, ?_, ?_, ?_, ?_⟩
  · simp; omega
  · rw [freeHead_afterAddDirect]
    exact iterate_mem_of_closed (s := {j | j < SIZE}) h.freeHead_lt h.next_lt _
  · rw [hnext]; exact h.next_lt
  · exact (hsplit ▸ h.partitions).acquire hfp hfpc
  · rw [List.flatMap_cons, hfpc, List.flatMap_congr hfp, List.length_append, ← h.numUsed_eq]
    simp; omega
  · intro c hc
    rcases List.mem_cons.mp hc with rfl | hc
    · exact hnew
    · exact (h.chains c hc).congr rfl (hother c hc) rfl
  · intro i hi
    obtain ⟨c, hc, hind, htok⟩ := h.tables i (by simpa using hi)
    exact ⟨c, List.mem_cons_of_mem _ hc, by rw [hisi]; exact hind, htok⟩

theorem Inv.addIndirect {H : Hal} {q : VirtQueue SIZE} {cs : List Chain} {inputs outputs : List Buf}
    {l : List Descriptor} (h : q.Inv cs) (hind : q.isIndirect ⟨q.freeHead, inputs, outputs⟩ = true)
    (hroom : q.numUsed + 1 ≤ SIZE) (hle : inputs.length + outputs.length ≤ SIZE)
    (hl : l.length = inputs.length + outputs.length) :
    (q.afterAddIndirect H l).Inv (⟨q.freeHead, inputs, outputs⟩ :: cs) := by
  have hnext : (q.afterAddIndirect H l).nextOf = q.nextOf := nextOf_afterAddIndirect H q l
  have hisi : (q.afterAddIndirect H l).isIndirect = q.isIndirect := isIndirect_congr rfl
  have hsplit : q.freeList = [q.freeHead] ++ (q.afterAddIndirect H l).freeList := by
    have hlen : SIZE - q.numUsed = 1 + (SIZE - (q.afterAddIndirect H l).numUsed) := by simp; omega
    rw [freeList, hlen, walk_add, freeList, hnext]
    rfl
  have hfree : ∀ c ∈ cs, q.freeHead ∉ q.footprint c := fun c hc =>
    h.not_mem_footprint_of_mem_walk (n := 1) hroom (by simp) hc
  have hother : ∀ c ∈ cs, ∀ j ∈ q.footprint c,
      (q.afterAddIndirect H l).descShadow j = q.descShadow j := by
    intro c hc j hj
    exact descShadow_afterAddIndirect_of_ne H q l (by rintro rfl; exact hfree c hc hj)
  have htok : ∀ c ∈ cs, c.token ≠ q.freeHead := by
    rintro c hc htok
    exact hfree c hc (htok ▸ token_mem_footprint (h.chains c hc).count_pos)
  have hfp : ∀ c ∈ cs, (q.afterAddIndirect H l).footprint c = q.footprint c :=
    fun c hc => footprint_congr rfl (hother c hc)
  have hfpc : (q.afterAddIndirect H l).footprint ⟨q.freeHead, inputs, outputs⟩ = [q.freeHead] := by
    simp [footprint, hisi, hind]
  have hnew : (q.afterAddIndirect H l).ChainOk ⟨q.freeHead, inputs, outputs⟩ := by
    have hcount : 1 < Chain.count ⟨q.freeHead, inputs, outputs⟩ := by
      simp only [isIndirect, Bool.and_eq_true, decide_eq_true_eq] at hind
      exact hind.2
    refine ⟨by omega, hle, h.freeHead_lt, ?_, fun _ => ⟨l, by simp, hl⟩, ?_, ?_⟩
    · rw [hisi, hind]
      exact flags_afterAddIndirect H q l
    · intro hd; simp [hisi, hind] at hd
    · intro hd; simp [hisi, hind] at hd
  refine ⟨?_, ?_, ?_, ?_, ?_, ?_, ?_⟩
  · simpa using hroom
  · exact h.next_lt _ h.freeHead_lt
  · rw [hnext]; exact h.next_lt
  · exact (hsplit ▸ h.partitions).acquire hfp hfpc
  · rw [List.flatMap_cons, hfpc, List.flatMap_congr hfp, List.length_append, ← h.numUsed_eq]
    simp; omega
  · intro c hc
    rcases List.mem_cons.mp hc with rfl | hc
    · exact hnew
    · exact (h.chains c hc).congr rfl (hother c hc)
        (by simp [Function.update_of_ne (htok c hc)])
  · intro i hi
    by_cases hif : i = q.freeHead
    · exact ⟨_, List.mem_cons_self, by rw [hisi]; exact hind, hif.symm⟩
    · obtain ⟨c, hc, hind', htok'⟩ := h.tables i (by simpa [Function.update_of_ne hif] using hi)
      exact ⟨c, List.mem_cons_of_mem _ hc, by rw [hisi]; exact hind', htok'⟩

theorem footprint_of_direct {q : VirtQueue SIZE} {c : Chain} (hd : q.isIndirect c = false) :
    q.footprint c = walk q.nextOf c.token c.count := by
  simp [footprint, hd]

theorem Inv.lt_of_mem_footprint {q : VirtQueue SIZE} {cs : List Chain} (h : q.Inv cs) {c : Chain}
    (hc : c ∈ cs) : ∀ j ∈ q.footprint c, j < SIZE := by
  unfold footprint
  split
  · simpa using (h.chains c hc).token_lt
  · exact walk_mem_of_closed (s := {j | j < SIZE}) (h.chains c hc).token_lt h.next_lt

theorem Inv.recycleDirect {q : VirtQueue SIZE} {cs : List Chain} {c : Chain} (h : q.Inv cs)
    (hc : c ∈ cs) (hd : q.isIndirect c = false) :
    (q.afterRecycleDirect c.token c.count).Inv (cs.erase c) := by
  have hok := h.chains c hc
  have hfpc := footprint_of_direct hd
  have hnodup : (walk q.nextOf c.token c.count).Nodup := hfpc ▸ h.partitions.nodup_fp hc
  have hlen : (q.footprint c).length + ((cs.erase c).flatMap q.footprint).length = q.numUsed := by
    rw [h.numUsed_eq, length_flatMap_erase hc]
  have hcount : c.count ≤ q.numUsed := by simp [hfpc] at hlen; omega
  have hnext := nextOf_afterRecycleDirect q c.token c.count hok.count_pos
  -- only the last node of the chain is relinked
  have hseg : ∀ j ∈ walk q.nextOf c.token (c.count - 1),
      (q.afterRecycleDirect c.token c.count).nextOf j = q.nextOf j := by
    intro j hj
    rw [hnext, if_neg]
    rintro rfl
    obtain ⟨k, hk, hkj⟩ := List.mem_iff_getElem.mp hj
    rw [getElem_walk] at hkj
    simp only [length_walk] at hk
    have := (iterate_eq_iff_of_nodup hnodup (by omega) (by omega)).mp hkj
    omega
  have hrest : ∀ j ∈ q.freeList, (q.afterRecycleDirect c.token c.count).nextOf j = q.nextOf j := by
    intro j hj
    rw [hnext, if_neg]
    rintro rfl
    exact h.partitions.not_mem_fp_of_mem_free hj hc
      (hfpc ▸ iterate_mem_walk _ _ (Nat.sub_lt hok.count_pos Nat.one_pos))
  have hsplice : (q.afterRecycleDirect c.token c.count).freeList = q.footprint c ++ q.freeList := by
    have hsize : SIZE - (q.numUsed - c.count) = c.count + (SIZE - q.numUsed) := by
      have := h.numUsed_le; omega
    rw [freeList, numUsed_afterRecycleDirect, hsize, freeHead_afterRecycleDirect, hfpc]
    exact walk_splice hok.count_pos hseg (by rw [hnext, if_pos rfl]) hrest
  have hother : ∀ c' ∈ cs.erase c, ∀ j ∈ q.footprint c',
      (q.afterRecycleDirect c.token c.count).descShadow j = q.descShadow j := by
    intro c' hc' j hj
    apply descShadow_afterRecycleDirect_of_not_mem
    intro hjc
    exact h.partitions.not_mem_fp_of_mem_erase hc hc' (hfpc ▸ hjc) hj
  have hfp : ∀ c' ∈ cs.erase c, (q.afterRecycleDirect c.token c.count).footprint c' = q.footprint c' :=
    fun c' hc' => footprint_congr rfl (hother c' hc')
  refine ⟨?_, ?_, ?_, ?_, ?_, ?_, ?_⟩
  · simp; have := h.numUsed_le; omega
  · exact hok.token_lt
  · intro i hi
    rw [hnext]
    split
    · exact h.freeHead_lt
    · exact h.next_lt i hi
  · rw [hsplice]
    exact h.partitions.release hc hfp
  · rw [numUsed_afterRecycleDirect, List.flatMap_congr hfp]
    simp [hfpc] at hlen ⊢; omega
  · intro c' hc'
    exact (h.chains c' (List.mem_of_mem_erase hc')).congr rfl (hother c' hc') rfl
  · intro i hi
    obtain ⟨c', hc', hind, htok⟩ := h.tables i (by simpa using hi)
    have hne : c' ≠ c := by rintro rfl; simp [hd] at hind
    exact ⟨c', (List.mem_erase_of_ne hne).mpr hc', by rw [isIndirect_congr rfl]; exact hind, htok⟩

/-- Recycling an indirect chain pushes its one descriptor on the front of the free list
and drops its table. -/
theorem Inv.recycleIndirect {q : VirtQueue SIZE} {cs : List Chain} {c : Chain} (h : q.Inv cs)
    (hc : c ∈ cs) (hi : q.isIndirect c = true) :
    (q.afterRecycleIndirect c.token).Inv (cs.erase c) := by
  have hok := h.chains c hc
  have hfpc : q.footprint c = [c.token] := by simp [footprint, hi]
  have hlen : 1 + ((cs.erase c).flatMap q.footprint).length = q.numUsed := by
    rw [h.numUsed_eq, length_flatMap_erase hc, hfpc]
    rfl
  have hnext := nextOf_afterRecycleIndirect q c.token
  have hrest : ∀ j ∈ q.freeList, (q.afterRecycleIndirect c.token).nextOf j = q.nextOf j := by
    intro j hj
    rw [hnext, if_neg]
    rintro rfl
    exact h.partitions.not_mem_fp_of_mem_free hj hc (by simp [hfpc])
  have hsplice : (q.afterRecycleIndirect c.token).freeList = q.footprint c ++ q.freeList := by
    have hsize : SIZE - (q.numUsed - 1) = 1 + (SIZE - q.numUsed) := by
      have := h.numUsed_le; omega
    rw [freeList, numUsed_afterRecycleIndirect, hsize, freeHead_afterRecycleIndirect, hfpc]
    exact walk_splice (i := c.token) Nat.one_pos (by simp) (by simp [hnext]) hrest
  have hdisj : ∀ c' ∈ cs.erase c, c.token ∉ q.footprint c' := fun c' hc' =>
    h.partitions.not_mem_fp_of_mem_erase hc hc' (by simp [hfpc])
  have hother : ∀ c' ∈ cs.erase c, ∀ j ∈ q.footprint c',
      (q.afterRecycleIndirect c.token).descShadow j = q.descShadow j := by
    intro c' hc' j hj
    exact descShadow_afterRecycleIndirect_of_ne q c.token (by rintro rfl; exact hdisj c' hc' hj)
  have htok : ∀ c' ∈ cs.erase c, c'.token ≠ c.token := fun c' hc' htok =>
    hdisj c' hc' (htok ▸ token_mem_footprint (h.chains c' (List.mem_of_mem_erase hc')).count_pos)
  have hfp : ∀ c' ∈ cs.erase c, (q.afterRecycleIndirect c.token).footprint c' = q.footprint c' :=
    fun c' hc' => footprint_congr rfl (hother c' hc')
  refine ⟨?_, ?_, ?_, ?_, ?_, ?_, ?_⟩
  · simp; have := h.numUsed_le; omega
  · exact hok.token_lt
  · intro i hi
    rw [hnext]
    split
    · exact h.freeHead_lt
    · exact h.next_lt i hi
  · rw [hsplice]
    exact h.partitions.release hc hfp
  · rw [numUsed_afterRecycleIndirect, List.flatMap_congr hfp]
    omega
  · intro c' hc'
    exact (h.chains c' (List.mem_of_mem_erase hc')).congr rfl (hother c' hc')
      (by simp [Function.update_of_ne (htok c' hc')])
  · intro i hi
    have hic : i ≠ c.token := by rintro rfl; simp at hi
    obtain ⟨c', hc', hind, htok'⟩ := h.tables i (by simpa [Function.update_of_ne hic] using hi)
    have hne : c' ≠ c := by rintro rfl; exact hic htok'.symm
    exact ⟨c', (List.mem_erase_of_ne hne).mpr hc', by rw [isIndirect_congr rfl]; exact hind, htok'⟩

theorem Inv.add {H : Hal} {q q' : VirtQueue SIZE} {cs : List Chain} {inputs outputs : List Buf}
    {t : Nat} (h : q.Inv cs) (hadd : q.add H inputs outputs = .ok (q', t)) :
    q'.Inv (⟨t, inputs, outputs⟩ :: cs) := by
  obtain ⟨rfl, hne, hroom1, hcase⟩ := add_eq_ok h.freeHead_lt h.next_lt hadd
  rcases hcase with ⟨hi, hn, l, hl, rfl⟩ | ⟨hi, hroom, hfit, rfl⟩
  · have hind : q.isIndirect ⟨q.freeHead, inputs, outputs⟩ = true := by
      simp [isIndirect, Chain.count, hi, hn]
    have hle : inputs.length + outputs.length ≤ SIZE := (add_eq_ok_branch hadd).2.2.1
    exact (h.addIndirect hind hroom1 hle hl).congr rfl rfl rfl rfl rfl
  · have hd : q.isIndirect ⟨q.freeHead, inputs, outputs⟩ = false := by
      cases hq : q.indirect with
      | false => simp [isIndirect, hq]
      | true =>
        have hle : inputs.length + outputs.length ≤ 1 := by simp [hq] at hi; omega
        simp only [isIndirect, Chain.count, hq, Bool.true_and]
        exact decide_eq_false (by omega)
    have hpos : 0 < inputs.length + outputs.length := by
      simpa [← length_inputOutputIter, List.length_pos_iff] using hne
    exact (h.addDirect hd hpos hroom hfit).congr rfl rfl rfl rfl rfl

/-- What a `pop_used` of an outstanding chain did, by the kind of the chain: it freed the
chain's descriptors, and unshared each buffer at the address its descriptor holds, after
the table of an indirect chain. -/
theorem Inv.popUsed_cases {H : Hal} {q q' : VirtQueue SIZE} {cs : List Chain} {c : Chain}
    {used : UsedRing} {len : UInt32} {us : List Unshare} (h : q.Inv cs) (hc : c ∈ cs)
    (hpop : q.popUsed H used c.token c.inputs c.outputs = .ok (q', len, us)) :
    (q.isIndirect c = false ∧ q' = (q.afterRecycleDirect c.token c.count).consumeUsed ∧
        us = directUnshares q.descShadow (walk q.nextOf c.token c.count) c.bufs) ∨
      (q.isIndirect c = true ∧ q' = (q.afterRecycleIndirect c.token).consumeUsed ∧
        ∃ l, q.indirectLists c.token = some l ∧
          us = ⟨(q.descShadow c.token).addr.toNat, indirectTable H c.token c.count, .driverToDevice⟩ ::
            directUnshares (fun j => l.getD j Descriptor.zero) (List.range c.count) c.bufs) := by
  obtain ⟨-, -, -, q0, hrec, rfl⟩ := popUsed_eq_ok hpop
  have hok := h.chains c hc
  cases hi : q.isIndirect c with
  | false =>
    have hfpc := footprint_of_direct hi
    have hdirect := recycleDescriptors_direct H q c.token c.inputs c.outputs
      (hok.head_indirect.trans hi) hok.count_pos (fun p hp => (hok.fits hi p hp).1)
      (hfpc ▸ h.partitions.nodup_fp hc) (hfpc ▸ h.lt_of_mem_footprint hc) (hok.links hi)
    rw [hdirect, Except.ok.injEq, Prod.mk.injEq] at hrec
    exact .inl ⟨rfl, by rw [← hrec.1]; rfl, hrec.2.symm⟩
  | true =>
    obtain ⟨l, hl, hlen⟩ := hok.table hi
    have hind := recycleDescriptors_indirect H q c.token c.inputs c.outputs
      (hok.head_indirect.trans hi) hok.token_lt hl hlen
      (recycleDescriptors_indirect_ne (hok.head_indirect.trans hi) hrec)
    rw [hind, Except.ok.injEq, Prod.mk.injEq] at hrec
    exact .inr ⟨rfl, by rw [← hrec.1], l, hl, by rw [← hrec.2, hlen]; rfl⟩

theorem Inv.popUsed {H : Hal} {q q' : VirtQueue SIZE} {cs : List Chain} {c : Chain}
    {used : UsedRing} {len : UInt32} {us : List Unshare} (h : q.Inv cs) (hc : c ∈ cs)
    (hpop : q.popUsed H used c.token c.inputs c.outputs = .ok (q', len, us)) :
    q'.Inv (cs.erase c) := by
  rcases h.popUsed_cases hc hpop with ⟨hi, rfl, -⟩ | ⟨hi, rfl, -⟩
  · exact (h.recycleDirect hc hi).congr (by simp) (by simp) (by simp) (by simp) (by simp)
  · exact (h.recycleIndirect hc hi).congr (by simp) (by simp) (by simp) (by simp) (by simp)

end VirtQueue
end VirtioDrivers
