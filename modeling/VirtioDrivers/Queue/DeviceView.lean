import VirtioDrivers.Queue.RoundTrip
import VirtioDrivers.Queue.Progress

/-! What the device reads of a queue in any state a run reaches. The device reads the
descriptor table that `write_desc` copies the driver's shadow to, and the table at the
address an indirect head holds. For every outstanding chain both still hold what `add`
wrote, however long the chain has been outstanding, and when the HAL shares the tables of
distinct heads at distinct addresses, the address of a head's table finds that table, so
the device reads each chain as the encoding of its buffers. -/
namespace VirtioDrivers
open LinkWalk Ownership

namespace VirtQueue
variable {SIZE : Nat}

/-- A search that only one element of the list answers finds that element's answer. -/
theorem findSome?_eq_of_unique {α β : Type} {f : α → Option β} {l : List α} {x : α} {b : β}
    (hx : x ∈ l) (hfx : f x = some b) (hrest : ∀ y ∈ l, y ≠ x → f y = none) :
    l.findSome? f = some b := by
  induction l with
  | nil => cases hx
  | cons a l ih =>
    rw [List.findSome?_cons]
    by_cases hax : a = x
    · rw [hax, hfx]
    · rw [hrest a List.mem_cons_self hax]
      exact ih ((List.mem_cons.mp hx).resolve_left (Ne.symm hax))
        fun y hy => hrest y (List.mem_cons_of_mem _ hy)

/-- The table the device finds at the address `a`: the tables `add_indirect` leaked are the
memory there, so it is the table of a head below `SIZE` that is shared at `a`. -/
def tableAt (H : Hal) (q : VirtQueue SIZE) (a : UInt64) : Option (List Descriptor) :=
  (List.range SIZE).findSome? fun h => (q.indirectLists h).bind fun l =>
    if (tableView H h l.length).1 = a then some l else none

/-- The buffers of the chain with head `h` as the device reads them: when the head has
`INDIRECT`, the entries of the table at the address it holds, as many as its length holds,
from entry `0`; otherwise through the descriptor table. In both it follows `next` while
`NEXT` is set. -/
def chainAt (H : Hal) (q : VirtQueue SIZE) (h : Nat) : List (UInt64 × UInt32 × DescFlags) :=
  if (q.desc h).flags.indirect then
    match q.tableAt H (q.desc h).addr with
    | some l =>
      (readChain (fun j => l.getD j Descriptor.zero) ((q.desc h).len.toNat / 16) 0).map
        Descriptor.view
    | none => []
  else (readChain q.desc SIZE h).map Descriptor.view

/-- The HAL shares the tables of distinct heads below `SIZE` at distinct addresses, whatever
their sizes. The tables alive at once belong to distinct heads, and the device tells them
apart by their addresses alone. -/
def TablesApart (H : Hal) (SIZE : Nat) : Prop :=
  ∀ h h' n n', h < SIZE → h' < SIZE → (tableView H h n).1 = (tableView H h' n').1 → h = h'

/-- When the tables are apart, the device finds at the address of a head's table that
table. -/
theorem tableAt_of_apart {H : Hal} {q : VirtQueue SIZE} (hapart : TablesApart H SIZE) {i : Nat}
    {l : List Descriptor} (hi : i < SIZE) (hl : q.indirectLists i = some l) :
    q.tableAt H (tableView H i l.length).1 = some l := by
  apply findSome?_eq_of_unique (List.mem_range.mpr hi) (by simp [hl])
  intro j hj hji
  cases hlj : q.indirectLists j with
  | none => simp
  | some l' =>
    have hne : (tableView H j l'.length).1 ≠ (tableView H i l.length).1 :=
      fun heq => hji (hapart j i _ _ (List.mem_range.mp hj) hi heq)
    simp [hne]

/-- The identity HAL puts the table of each head in a page of its own, so it keeps the
tables of a queue of up to `2^40` descriptors apart. -/
theorem tablesApart_identityHal (hsize : SIZE ≤ 2 ^ 40) : TablesApart identityHal SIZE := by
  intro h h' n n' hh hh' heq
  have hnat := congrArg UInt64.toNat heq
  simp only [tableView, indirectTable, identityHal, UInt64.toNat_ofNat'] at hnat
  rw [Nat.mod_eq_of_lt (by omega), Nat.mod_eq_of_lt (by omega)] at hnat
  omega

/-- The device reads what the driver wrote of a chain: the descriptor table agrees with the
driver's shadow on the chain's descriptors, and the table of an indirect chain links each
entry to the next. -/
structure Published (q : VirtQueue SIZE) (c : Chain) : Prop where
  desc : ∀ j ∈ q.footprint c, q.desc j = q.descShadow j
  links : q.isIndirect c = true →
    ∃ l, q.indirectLists c.token = some l ∧ l.map Descriptor.next = List.range' 1 c.count

theorem Published.congr {q q' : VirtQueue SIZE} {c : Chain} (h : q.Published c)
    (hi : q'.indirect = q.indirect) (hds : ∀ j ∈ q.footprint c, q'.descShadow j = q.descShadow j)
    (hd : ∀ j ∈ q.footprint c, q'.desc j = q.desc j)
    (hl : q'.indirectLists c.token = q.indirectLists c.token) : q'.Published c := by
  have hfp : q'.footprint c = q.footprint c := footprint_congr hi hds
  refine ⟨fun j hj => ?_, fun hind => ?_⟩
  · rw [hfp] at hj
    rw [hd j hj, hds j hj, h.desc j hj]
  · rw [hl]
    exact h.links (by rwa [isIndirect_congr hi] at hind)

/-- Descriptors that read as the encoding of some buffers have `NEXT` on all but the last. -/
theorem flags_next_of_map_view {H : Hal} {l : List Descriptor} {bufs : List (Buf × BufferDirection)}
    (hv : l.map Descriptor.view = encodeChain H bufs) (k : Nat) (hk : k < l.length) :
    (l.get ⟨k, hk⟩).flags.next = decide (k + 1 < l.length) := by
  have hlen : l.length = bufs.length := by simpa using congrArg List.length hv
  have hk' : k < (l.map Descriptor.view).length := by simpa using hk
  have hview := List.getElem_of_eq hv hk'
  simp only [List.getElem_map, encodeChain, List.getElem_mapIdx, bufView] at hview
  simp only [List.get_eq_getElem, Descriptor.view] at hview ⊢
  rw [congrArg (fun v => v.2.2.next) hview, hlen]

/-- The entries of a table that link each one to the next, with `NEXT` up to the last,
read from entry `0` as the whole table. -/
theorem readChain_table {l : List Descriptor} (hpos : 0 < l.length)
    (hnext : l.map Descriptor.next = List.range' 1 l.length)
    (hmore : ∀ k (hk : k < l.length), (l.get ⟨k, hk⟩).flags.next = decide (k + 1 < l.length)) :
    readChain (fun j => l.getD j Descriptor.zero) l.length 0 = l := by
  have hit : ∀ k, (fun j : Nat => j + 1)^[k] 0 = k := fun k => by
    induction k with
    | zero => rfl
    | succ k ih => rw [Function.iterate_succ_apply', ih]
  have hwalk : walk (fun j => j + 1) 0 l.length = List.range l.length := by
    rw [walk_eq_range' (fun _ _ _ => rfl), List.range_eq_range']
  have hlinks : ∀ j ∈ walk (fun j => j + 1) 0 l.length,
      (l.getD j Descriptor.zero).next = j + 1 := by
    intro j hj
    rw [hwalk, List.mem_range] at hj
    have hj' : j < (l.map Descriptor.next).length := by simpa using hj
    have := List.getElem_of_eq hnext hj'
    rw [List.getElem_map, List.getElem_range'] at this
    rw [List.getD_eq_getElem _ _ hj, this]
    omega
  have hflags : ∀ k < l.length,
      (l.getD ((fun j => j + 1)^[k] 0) Descriptor.zero).flags.next = decide (k + 1 < l.length) := by
    intro k hk
    rw [hit, List.getD_eq_getElem _ _ hk]
    exact hmore k hk
  rw [readChain_eq hpos (Nat.le_refl _) hlinks hflags, hwalk]
  apply List.ext_getElem
  · simp
  · intro k h1 _
    simp only [List.getElem_map, List.getElem_range]
    exact List.getD_eq_getElem _ _ (by simpa using h1)

/-- The device reads an outstanding direct chain that keeps its encoding and is published
as the encoding of its buffers. -/
theorem Inv.chainAt_eq_of_direct {H : Hal} {q : VirtQueue SIZE} {cs : List Chain} {c : Chain}
    (h : q.Inv cs) (hc : c ∈ cs) (hi : q.isIndirect c = false) (he : q.Encoded H c)
    (hp : q.Published c) : q.chainAt H c.token = encodeChain H c.bufs := by
  have hok := h.chains c hc
  have htok : q.desc c.token = q.descShadow c.token :=
    hp.desc _ (token_mem_footprint hok.count_pos)
  unfold chainAt
  rw [htok, hok.head_indirect, hi, if_neg (by decide)]
  -- the chain's nodes along `next`, linked with `NEXT` up to the last
  have hdesc : ∀ j ∈ walk q.nextOf c.token c.count, q.desc j = q.descShadow j :=
    fun j hj => hp.desc j (by rw [footprint_of_direct hi]; exact hj)
  have hnext : ∀ j ∈ walk q.nextOf c.token c.count, (q.desc j).next = q.nextOf j := by
    intro j hj
    rw [hdesc j hj]
    rfl
  have hmore : ∀ k < c.count,
      (q.desc (q.nextOf^[k] c.token)).flags.next = decide (k + 1 < c.count) := by
    intro k hk
    rw [hdesc _ (iterate_mem_walk _ _ hk)]
    exact hok.links hi k hk
  rw [readChain_eq hok.count_pos hok.count_le hnext hmore, List.map_map, ← he.direct hi]
  exact List.map_congr_left fun j hj => by simp [Function.comp, hdesc j hj]

/-- The device reads an outstanding indirect chain that keeps its encoding and is published
as the encoding of its buffers, when the tables are apart: the head holds the address and
length of the chain's table, and the table's views are the encoding, linked in order. -/
theorem Inv.chainAt_eq_of_indirect {H : Hal} {q : VirtQueue SIZE} {cs : List Chain} {c : Chain}
    (hsize : SIZE < 65536) (hapart : TablesApart H SIZE) (h : q.Inv cs) (hc : c ∈ cs)
    (hi : q.isIndirect c = true) (he : q.Encoded H c) (hp : q.Published c) :
    q.chainAt H c.token = encodeChain H c.bufs := by
  have hok := h.chains c hc
  have htok : q.desc c.token = q.descShadow c.token :=
    hp.desc _ (token_mem_footprint hok.count_pos)
  obtain ⟨l, hl, hv⟩ := he.table hi
  obtain ⟨l', hl', hn⟩ := hp.links hi
  obtain rfl : l = l' := Option.some.inj (hl.symm.trans hl')
  have hlen : l.length = c.count := by
    simpa [Chain.count, Chain.bufs] using congrArg List.length hv
  have haddr : (q.descShadow c.token).addr = (tableView H c.token l.length).1 := by
    rw [hlen]
    exact congrArg Prod.fst (he.head hi)
  -- a table of at most `SIZE` entries has a length that fits the `u32` the head holds
  have hcount : (q.descShadow c.token).len.toNat / 16 = l.length := by
    have hl32 : (q.descShadow c.token).len = UInt32.ofNat (16 * c.count) :=
      congrArg (fun v => v.2.1) (he.head hi)
    have hfit : 16 * c.count < 2 ^ 32 := by have := hok.count_le; omega
    rw [hl32, UInt32.toNat_ofNat', Nat.mod_eq_of_lt hfit, hlen]
    omega
  unfold chainAt
  rw [htok, hok.head_indirect, hi, if_pos rfl, haddr, tableAt_of_apart hapart hok.token_lt hl]
  simp only
  rw [hcount, readChain_table (by rw [hlen]; exact hok.count_pos) (by rw [hn, hlen])
    (flags_next_of_map_view hv)]
  exact hv

/-- The device reads an outstanding chain that keeps its encoding and is published as the
encoding of its buffers, when the tables are apart or the chain has none. -/
theorem Inv.chainAt_eq {H : Hal} {q : VirtQueue SIZE} {cs : List Chain} {c : Chain}
    (hsize : SIZE < 65536) (h : q.Inv cs) (hc : c ∈ cs) (he : q.Encoded H c) (hp : q.Published c)
    (hapart : q.isIndirect c = true → TablesApart H SIZE) :
    q.chainAt H c.token = encodeChain H c.bufs := by
  cases hi : q.isIndirect c with
  | false => exact h.chainAt_eq_of_direct hc hi he hp
  | true => exact h.chainAt_eq_of_indirect hsize (hapart hi) hc hi he hp

section Steps
variable {H : Hal} {q q' : VirtQueue SIZE} {cs : List Chain}

theorem Inv.desc_frame_add {inputs outputs : List Buf} {t : Nat} (h : q.Inv cs)
    (hadd : q.add H inputs outputs = .ok (q', t)) {c : Chain} (hc : c ∈ cs) :
    ∀ j ∈ q.footprint c, q'.desc j = q.desc j := by
  obtain ⟨-, hne, hroom1, hcase⟩ := add_eq_ok h.freeHead_lt h.next_lt hadd
  intro j hj
  rcases hcase with ⟨-, -, l, -, rfl⟩ | ⟨-, hroom, -, rfl⟩
  · have hfree : q.freeHead ∉ q.footprint c :=
      h.not_mem_footprint_of_mem_walk (n := 1) hroom1 (by simp) hc
    rw [desc_publish]
    exact desc_afterAddIndirect_of_ne H q l (by rintro rfl; exact hfree hj)
  · have hpos : 0 < inputs.length + outputs.length := by
      simpa [← length_inputOutputIter, List.length_pos_iff] using hne
    rw [desc_publish]
    exact desc_afterAddDirect_of_not_mem H q inputs outputs hpos
      (fun hjn => h.not_mem_footprint_of_mem_walk hroom hjn hc hj)

theorem Inv.popUsed_avail {c : Chain} {used : UsedRing} {len : UInt32} {us : List Unshare}
    (h : q.Inv cs) (hc : c ∈ cs)
    (hpop : q.popUsed H used c.token c.inputs c.outputs = .ok (q', len, us)) :
    q'.avail.ring = q.avail.ring ∧ q'.avail.idx = q.avail.idx ∧ q'.lastUsedIdx = q.lastUsedIdx + 1 := by
  rcases h.popUsed_cases hc hpop with ⟨-, rfl, -⟩ | ⟨-, rfl, -⟩ <;> simp

theorem Inv.desc_frame_popUsed {c : Chain} {used : UsedRing} {len : UInt32} {us : List Unshare}
    (h : q.Inv cs) (hc : c ∈ cs)
    (hpop : q.popUsed H used c.token c.inputs c.outputs = .ok (q', len, us)) {c' : Chain}
    (hc' : c' ∈ cs.erase c) : ∀ j ∈ q.footprint c', q'.desc j = q.desc j := by
  intro j hj
  have hnot : j ∉ q.footprint c := fun hjc => h.partitions.not_mem_fp_of_mem_erase hc hc' hjc hj
  rcases h.popUsed_cases hc hpop with ⟨hi, rfl, -⟩ | ⟨-, rfl, -⟩
  · rw [desc_consumeUsed]
    exact desc_afterRecycleDirect_of_not_mem q c.token c.count
      (by rw [footprint_of_direct hi] at hnot; exact hnot)
  · simp

/-- The chain `add` builds is published: it copies every node it writes to the device's
table, and links the entries of a table in order. -/
theorem Inv.published_add {inputs outputs : List Buf} {t : Nat} (hsize : SIZE < 65536)
    (h : q.Inv cs) (hadd : q.add H inputs outputs = .ok (q', t)) :
    q'.Published ⟨t, inputs, outputs⟩ := by
  obtain ⟨rfl, -, -, hcase⟩ := add_eq_ok h.freeHead_lt h.next_lt hadd
  rcases hcase with ⟨hind, hn, -⟩ | ⟨hdir, -, -, rfl⟩
  · -- the indirect branch: the head and its table
    obtain ⟨-, l, -, hnext, rfl⟩ := add_indirect_eq_ok hsize hadd hind hn
    have hi := isIndirect_afterAddIndirect (H := H) (l := l) hind hn q.freeHead
    refine ⟨fun j hj => ?_, fun _ => ⟨l, by simp [afterAddIndirect], hnext⟩⟩
    simp only [footprint, hi, if_true, List.mem_singleton] at hj
    subst hj
    simp [afterAddIndirect]
  · -- the direct branch: the nodes taken from the free list
    have hd := isIndirect_afterAddDirect (H := H) hdir q.freeHead
    refine ⟨fun j hj => ?_, fun hi => absurd (hd.symm.trans hi) (by decide)⟩
    rw [footprint_of_direct hd] at hj
    simp only [nextOf_publish, nextOf_afterAddDirect, Chain.count] at hj
    simpa using desc_afterAddDirect_of_mem H q inputs outputs hj

theorem Published.step (hsize : SIZE < 65536) {s s' : VirtQueue SIZE × List Chain}
    (h : s.1.Inv s.2) (hp : ∀ c ∈ s.2, s.1.Published c) (hs : Step H s s') :
    ∀ c ∈ s'.2, s'.1.Published c := by
  cases hs with
  | add hadd =>
    intro c hc
    rcases List.mem_cons.mp hc with rfl | hc
    · exact h.published_add hsize hadd
    · obtain ⟨hi, hds, hl⟩ := h.frame_add hadd hc
      exact (hp c hc).congr hi hds (h.desc_frame_add hadd hc) hl
  | addErr _ => exact hp
  | pop hc hpop =>
    intro c' hc'
    obtain ⟨hi, hds, hl⟩ := h.frame_popUsed hc hpop hc'
    exact (hp c' (List.mem_of_mem_erase hc')).congr hi hds (h.desc_frame_popUsed hc hpop hc') hl
  | popErr _ _ => exact hp

end Steps

section Runs
variable {H : Hal} {idx : UInt16} {indirect eventIdx : Bool}

theorem published_of_reachable (hsize : SizeOk SIZE) {s : VirtQueue SIZE × List Chain}
    (hr : Reachable H idx indirect eventIdx s) : ∀ c ∈ s.2, s.1.Published c := by
  induction hr with
  | refl => simp
  | tail hr' hs ih =>
    exact Published.step (by have := hsize.2; omega) (Inv.reachable hsize.pos hr') ih hs

theorem chainAt_of_reachable (hsize : SizeOk SIZE) {s : VirtQueue SIZE × List Chain}
    (hr : Reachable H idx indirect eventIdx s) :
    ∀ c ∈ s.2, (s.1.isIndirect c = true → TablesApart H SIZE) →
      s.1.chainAt H c.token = encodeChain H c.bufs := fun c hc =>
  (Inv.reachable hsize.pos hr).chainAt_eq (by have := hsize.2; omega) hc
    (encoded_of_reachable hsize hr c hc) (published_of_reachable hsize hr c hc)

/-- A queue reached from `new` whose outstanding chains are `chains`, listed in any order. -/
def ReachableWith (H : Hal) (idx : UInt16) (q : VirtQueue SIZE) (chains : List Chain) : Prop :=
  ∃ indirect eventIdx cs, cs.Perm chains ∧ Reachable H idx indirect eventIdx (q, cs)

section ReachableWith
variable {H : Hal} {idx : UInt16} {q q' : VirtQueue SIZE} {chains chains' : List Chain}

theorem ReachableWith.init (indirect eventIdx : Bool) :
    ReachableWith H idx (init idx indirect eventIdx : VirtQueue SIZE) [] :=
  ⟨indirect, eventIdx, [], .refl _, .refl⟩

theorem ReachableWith.add (h : ReachableWith H idx q chains) {inputs outputs : List Buf} {t : Nat}
    (hadd : q.add H inputs outputs = .ok (q', t)) (hp : (⟨t, inputs, outputs⟩ :: chains).Perm chains') :
    ReachableWith H idx q' chains' := by
  obtain ⟨indirect, eventIdx, cs, hcs, hr⟩ := h
  exact ⟨indirect, eventIdx, _, (hcs.cons _).trans hp, hr.tail (.add hadd)⟩

theorem ReachableWith.popUsed (h : ReachableWith H idx q chains) {c : Chain} (hc : c ∈ chains)
    {used : UsedRing} {len : UInt32} {us : List Unshare}
    (hpop : q.popUsed H used c.token c.inputs c.outputs = .ok (q', len, us))
    (hp : (chains.erase c).Perm chains') : ReachableWith H idx q' chains' := by
  obtain ⟨indirect, eventIdx, cs, hcs, hr⟩ := h
  exact ⟨indirect, eventIdx, _, (hcs.erase c).trans hp, hr.tail (.pop (hcs.mem_iff.mpr hc) hpop)⟩

theorem ReachableWith.chainAt (hsize : SizeOk SIZE) (h : ReachableWith H idx q chains) :
    ∀ c ∈ chains, (q.isIndirect c = true → TablesApart H SIZE) →
      q.chainAt H c.token = encodeChain H c.bufs := by
  obtain ⟨indirect, eventIdx, cs, hcs, hr⟩ := h
  exact fun c hc => chainAt_of_reachable hsize hr c (hcs.mem_iff.mpr hc)

end ReachableWith

end Runs

end VirtQueue
end VirtioDrivers
