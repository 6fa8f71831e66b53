import VirtioDrivers.Queue.Encoding
import VirtioDrivers.Queue.Run
import VirtioDrivers.Lib.IndexRing

/-! The round trip of a chain through the device. As long as a chain is outstanding its
descriptors keep the encoding `add` wrote, whatever the driver adds and pops around it:
`add` takes its descriptors from the free list, and `pop_used` frees only the chain it is
given. So the `H::unshare` calls of the chain's `pop_used` are the `H::share` calls of its
`add`, address for address. -/
namespace VirtioDrivers
open LinkWalk Ownership

/-- The `H::share` calls `add` makes for `bufs`, as the records of the `H::unshare` calls
that undo them: each buffer, its direction, and the address `share` gave it. -/
def sharedAt (H : Hal) (bufs : List (Buf × BufferDirection)) : List Unshare :=
  bufs.map fun p => ⟨H.share p.1 p.2, p.1, p.2⟩

/-- Unsharing a chain whose nodes read as the encoding of its buffers undoes the sharing
of its buffers, when `share` returns addresses that fit the descriptors' 64 bits. -/
theorem directUnshares_eq_sharedAt {H : Hal} {ds : Nat → Descriptor} {nodes : List Nat}
    {bufs : List (Buf × BufferDirection)} (hshare : ∀ b d, H.share b d < 2^64)
    (hview : nodes.map (fun j => (ds j).view) = encodeChain H bufs) :
    directUnshares ds nodes bufs = sharedAt H bufs := by
  have haddr : nodes.map (fun j => (ds j).addr) = bufs.map fun p => UInt64.ofNat (H.share p.1 p.2) := by
    rw [← map_fst_encodeChain, ← hview, List.map_map]
    rfl
  clear hview
  -- the induction runs along the nodes and the buffers together
  induction nodes generalizing bufs with
  | nil =>
    obtain rfl : bufs = [] := List.eq_nil_of_length_eq_zero (by simpa using (congrArg List.length haddr).symm)
    rfl
  | cons j js ih =>
    rcases bufs with _ | ⟨p, ps⟩
    · simp at haddr
    · simp only [List.map_cons, List.cons.injEq] at haddr
      have hrest := ih haddr.2
      simp only [directUnshares, sharedAt, List.zipWith_cons_cons, List.map_cons] at hrest ⊢
      rw [haddr.1, UInt64.toNat_ofNat_of_lt' (hshare p.1 p.2), hrest]

theorem map_range_getD {α β : Type} (l : List α) (d : α) (f : α → β) :
    (List.range l.length).map (fun j => f (l.getD j d)) = l.map f := by
  apply List.ext_getElem
  · simp
  · intro k h1 _
    simp only [List.getElem_map, List.getElem_range]
    rw [List.getD_eq_getElem _ _ (by simpa using h1)]

namespace VirtQueue
variable {SIZE : Nat}

/-- The descriptors of an outstanding chain keep what `add` wrote for its buffers: the
nodes of a direct chain read as the encoding of the buffers, and the head of an indirect
chain shares a table whose entries read so. -/
structure Encoded (H : Hal) (q : VirtQueue SIZE) (c : Chain) : Prop where
  direct : q.isIndirect c = false →
    (walk q.nextOf c.token c.count).map (fun j => (q.descShadow j).view) = encodeChain H c.bufs
  head : q.isIndirect c = true → (q.descShadow c.token).view = tableView H c.token c.count
  table : q.isIndirect c = true →
    ∃ l, q.indirectLists c.token = some l ∧ l.map Descriptor.view = encodeChain H c.bufs

theorem Encoded.congr {H : Hal} {q q' : VirtQueue SIZE} {c : Chain} (h : q.Encoded H c)
    (hi : q'.indirect = q.indirect) (hds : ∀ j ∈ q.footprint c, q'.descShadow j = q.descShadow j)
    (hl : q'.indirectLists c.token = q.indirectLists c.token) : q'.Encoded H c := by
  have hisi : q'.isIndirect c = q.isIndirect c := by rw [isIndirect_congr hi]
  refine ⟨fun hd => ?_, fun hd => ?_, fun hd => ?_⟩
  · rw [hisi] at hd
    have hfp := footprint_congr hi hds
    rw [footprint_of_direct (hisi.trans hd), footprint_of_direct hd] at hfp
    rw [hfp, ← h.direct hd]
    exact List.map_congr_left fun j hj => by
      rw [hds j (by rw [footprint_of_direct hd]; exact hj)]
  · rw [hisi] at hd
    rw [hds c.token (by simp [footprint, hd])]
    exact h.head hd
  · rw [hisi] at hd
    rw [hl]
    exact h.table hd

section Steps
variable {H : Hal} {q q' : VirtQueue SIZE} {cs : List Chain}

/-- `add` leaves alone the descriptors and the table of every chain outstanding before
it: they are off the free list it takes its descriptors from. -/
theorem Inv.frame_add {inputs outputs : List Buf} {t : Nat} (h : q.Inv cs)
    (hadd : q.add H inputs outputs = .ok (q', t)) {c : Chain} (hc : c ∈ cs) :
    q'.indirect = q.indirect ∧ (∀ j ∈ q.footprint c, q'.descShadow j = q.descShadow j) ∧
      q'.indirectLists c.token = q.indirectLists c.token := by
  obtain ⟨-, hne, hroom1, hcase⟩ := add_eq_ok h.freeHead_lt h.next_lt hadd
  rcases hcase with ⟨-, -, l, -, rfl⟩ | ⟨-, hroom, -, rfl⟩
  · have hfree : q.freeHead ∉ q.footprint c :=
      h.not_mem_footprint_of_mem_walk (n := 1) hroom1 (by simp) hc
    have htok : c.token ≠ q.freeHead := fun he =>
      hfree (he ▸ token_mem_footprint (h.chains c hc).count_pos)
    refine ⟨rfl, fun j hj => ?_, by simp [Function.update_of_ne htok]⟩
    exact descShadow_afterAddIndirect_of_ne H q l (by rintro rfl; exact hfree hj)
  · have hpos : 0 < inputs.length + outputs.length := by
      simpa [← length_inputOutputIter, List.length_pos_iff] using hne
    refine ⟨rfl, fun j hj => ?_, rfl⟩
    exact descShadow_afterAddDirect_of_not_mem H q inputs outputs hpos
      (fun hjn => h.not_mem_footprint_of_mem_walk hroom hjn hc hj)

/-- `pop_used` of one chain leaves alone the descriptors and the table of every other
outstanding chain: no two chains share a descriptor. -/
theorem Inv.frame_popUsed {c : Chain} {used : UsedRing} {len : UInt32} {us : List Unshare}
    (h : q.Inv cs) (hc : c ∈ cs)
    (hpop : q.popUsed H used c.token c.inputs c.outputs = .ok (q', len, us)) {c' : Chain}
    (hc' : c' ∈ cs.erase c) :
    q'.indirect = q.indirect ∧ (∀ j ∈ q.footprint c', q'.descShadow j = q.descShadow j) ∧
      q'.indirectLists c'.token = q.indirectLists c'.token := by
  have hdisj : ∀ j ∈ q.footprint c, j ∉ q.footprint c' := fun j hj =>
    h.partitions.not_mem_fp_of_mem_erase hc hc' hj
  rcases h.popUsed_cases hc hpop with ⟨hi, rfl, -⟩ | ⟨hi, rfl, -⟩
  · refine ⟨by simp, fun j hj => ?_, by simp⟩
    rw [descShadow_consumeUsed]
    exact descShadow_afterRecycleDirect_of_not_mem q c.token c.count
      (fun hjc => hdisj j (by rw [footprint_of_direct hi]; exact hjc) hj)
  · have htok : c.token ∈ q.footprint c := by simp [footprint, hi]
    have htok' : c'.token ≠ c.token := fun he =>
      hdisj _ htok (he ▸ token_mem_footprint (h.chains c' (List.mem_of_mem_erase hc')).count_pos)
    refine ⟨by simp, fun j hj => ?_, by simp [Function.update_of_ne htok']⟩
    rw [descShadow_consumeUsed]
    exact descShadow_afterRecycleIndirect_of_ne q c.token (by rintro rfl; exact hdisj _ htok hj)

theorem isIndirect_afterAddIndirect {l : List Descriptor} {inputs outputs : List Buf}
    (hind : q.indirect = true) (hn : 1 < inputs.length + outputs.length) (t : Nat) :
    ((q.afterAddIndirect H l).publish q.freeHead).isIndirect ⟨t, inputs, outputs⟩ = true := by
  simp [isIndirect, Chain.count, hind, hn]

theorem isIndirect_afterAddDirect {inputs outputs : List Buf}
    (hdir : ¬ (q.indirect = true ∧ 1 < inputs.length + outputs.length)) (t : Nat) :
    ((q.afterAddDirect H inputs outputs).publish q.freeHead).isIndirect ⟨t, inputs, outputs⟩ =
      false := by
  rw [Bool.eq_false_iff]
  intro hi
  simp only [isIndirect, indirect_publish, indirect_afterAddDirect, Chain.count,
    Bool.and_eq_true] at hi
  exact hdir ⟨hi.1, of_decide_eq_true hi.2⟩

theorem Inv.encoded_add {inputs outputs : List Buf} {t : Nat} (hsize : SIZE < 65536)
    (h : q.Inv cs) (hadd : q.add H inputs outputs = .ok (q', t)) :
    q'.Encoded H ⟨t, inputs, outputs⟩ := by
  obtain ⟨rfl, hne, -, hcase⟩ := add_eq_ok h.freeHead_lt h.next_lt hadd
  rcases hcase with ⟨hind, hn, -⟩ | ⟨hdir, hroom, -, rfl⟩
  · -- the indirect branch: one descriptor sharing the table
    obtain ⟨-, l, hv, -, rfl⟩ := add_indirect_eq_ok hsize hadd hind hn
    have hi := isIndirect_afterAddIndirect (H := H) (l := l) hind hn q.freeHead
    have hlen : l.length = inputs.length + outputs.length := by simpa using congrArg List.length hv
    refine ⟨fun hd => absurd (hi.symm.trans hd) (by decide), fun _ => ?_, fun _ => ⟨l, by simp [afterAddIndirect], hv⟩⟩
    simp only [descShadow_publish, afterAddIndirect, Function.update_self, view_withBuf_INDIRECT, hlen]
    rfl
  · -- the direct branch: the first nodes of the free list
    have hd := isIndirect_afterAddDirect (H := H) hdir q.freeHead
    refine ⟨fun _ => ?_, fun hi => absurd (hd.symm.trans hi) (by decide),
      fun hi => absurd (hd.symm.trans hi) (by decide)⟩
    simp only [descShadow_publish, nextOf_publish, nextOf_afterAddDirect, Chain.count, Chain.bufs]
    exact map_view_afterAddDirect H q inputs outputs (h.nodup_walk hroom)

theorem Encoded.step (hsize : SIZE < 65536) {s s' : VirtQueue SIZE × List Chain} (h : s.1.Inv s.2)
    (he : ∀ c ∈ s.2, s.1.Encoded H c) (hs : Step H s s') : ∀ c ∈ s'.2, s'.1.Encoded H c := by
  cases hs with
  | add hadd =>
    intro c hc
    rcases List.mem_cons.mp hc with rfl | hc
    · exact h.encoded_add hsize hadd
    · obtain ⟨hi, hds, hl⟩ := h.frame_add hadd hc
      exact (he c hc).congr hi hds hl
  | addErr _ => exact he
  | pop hc hpop =>
    intro c' hc'
    obtain ⟨hi, hds, hl⟩ := h.frame_popUsed hc hpop hc'
    exact (he c' (List.mem_of_mem_erase hc')).congr hi hds hl
  | popErr _ _ => exact he

/-- Every step keeps the feature bit, and keeps the index the device reads equal to the
driver's count of published chains. -/
theorem Step.driverFields {s s' : VirtQueue SIZE × List Chain} (h : s.1.Inv s.2)
    (hs : Step H s s') :
    s'.1.indirect = s.1.indirect ∧ (s.1.avail.idx = s.1.availIdx → s'.1.avail.idx = s'.1.availIdx) := by
  cases hs with
  | add hadd =>
    obtain ⟨-, -, -, hcase⟩ := add_eq_ok h.freeHead_lt h.next_lt hadd
    rcases hcase with ⟨-, -, l, -, rfl⟩ | ⟨-, -, -, rfl⟩
    · exact ⟨rfl, fun _ => rfl⟩
    · exact ⟨rfl, fun _ => rfl⟩
  | addErr _ => exact ⟨rfl, id⟩
  | pop hc hpop =>
    rcases h.popUsed_cases hc hpop with ⟨-, rfl, -⟩ | ⟨-, rfl, -⟩
    · refine ⟨by simp, fun he => ?_⟩
      rw [avail_idx_consumeUsed, availIdx_consumeUsed]
      exact he
    · refine ⟨by simp, fun he => ?_⟩
      rw [avail_idx_consumeUsed, availIdx_consumeUsed]
      exact he
  | popErr _ _ => exact ⟨rfl, id⟩

end Steps

section Runs
variable {H : Hal} {idx : UInt16} {indirect eventIdx : Bool}

theorem encoded_of_reachable (hsize : SizeOk SIZE) {s : VirtQueue SIZE × List Chain}
    (hr : Reachable H idx indirect eventIdx s) : ∀ c ∈ s.2, s.1.Encoded H c := by
  induction hr with
  | refl => simp
  | tail hr' hs ih => exact Encoded.step (by have := hsize.2; omega) (Inv.reachable hsize.pos hr') ih hs

theorem driverFields_of_reachable (hsize : 0 < SIZE) {s : VirtQueue SIZE × List Chain}
    (hr : Reachable H idx indirect eventIdx s) : s.1.indirect = indirect ∧ s.1.avail.idx = s.1.availIdx := by
  induction hr with
  | refl => exact ⟨rfl, rfl⟩
  | tail hr' hs ih =>
    obtain ⟨hi, hidx⟩ := Step.driverFields (Inv.reachable hsize hr') hs
    exact ⟨hi.trans ih.1, hidx ih.2⟩

/-- `add` writes the token into the slot of the available ring at the index the device
reads, and moves that index on by one: it produces one entry of the ring the device
consumes. It leaves the driver's used index alone. -/
theorem add_avail (hsize : SizeOk SIZE) {q q' : VirtQueue SIZE} {cs : List Chain}
    {inputs outputs : List Buf} {t : Nat} (hr : Reachable H idx indirect eventIdx (q, cs))
    (hadd : q.add H inputs outputs = .ok (q', t)) :
    q'.avail.ring = Function.update q.avail.ring (q.avail.idx.toNat % SIZE) t ∧
      q'.avail.idx = q.avail.idx + 1 ∧ q'.lastUsedIdx = q.lastUsedIdx := by
  have hinv : q.Inv cs := Inv.reachable hsize.pos hr
  have hfields := driverFields_of_reachable hsize.pos hr
  have hslot : q.availSlot = q.avail.idx.toNat % SIZE := by
    rw [hfields.2, availSlot, IndexRing.toNat_and_sub_one _ hsize.1 (by have := hsize.2; omega)]
  obtain ⟨rfl, -, -, hcase⟩ := add_eq_ok hinv.freeHead_lt hinv.next_lt hadd
  rcases hcase with ⟨-, -, l, -, rfl⟩ | ⟨-, -, -, rfl⟩
  · exact ⟨by rw [← hslot]; rfl, by rw [avail_idx_publish, hfields.2]; rfl, rfl⟩
  · exact ⟨by rw [← hslot]; rfl, by rw [avail_idx_publish, hfields.2]; rfl, rfl⟩

end Runs

/-- `pop_used` of an outstanding chain that keeps its encoding unshares every buffer at the
address `share` gave it, after the table of an indirect chain, when `share` returns
addresses that fit 64 bits. -/
theorem Inv.popUsed_unshares {H : Hal} {q q' : VirtQueue SIZE} {cs : List Chain} {c : Chain}
    {used : UsedRing} {len : UInt32} {us : List Unshare} (h : q.Inv cs) (hc : c ∈ cs)
    (he : q.Encoded H c) (hshare : ∀ b d, H.share b d < 2^64)
    (hpop : q.popUsed H used c.token c.inputs c.outputs = .ok (q', len, us)) :
    us = (if q.isIndirect c then
        [⟨H.share (indirectTable H c.token c.count) .driverToDevice, indirectTable H c.token c.count,
          .driverToDevice⟩]
      else []) ++ sharedAt H c.bufs := by
  rcases h.popUsed_cases hc hpop with ⟨hi, -, rfl⟩ | ⟨hi, -, l, hl, rfl⟩
  · rw [hi, if_neg (by decide), List.nil_append]
    exact directUnshares_eq_sharedAt hshare (he.direct hi)
  · obtain ⟨l', hl', hv⟩ := he.table hi
    obtain rfl : l = l' := Option.some.inj (hl.symm.trans hl')
    have hlen : l.length = c.count := by
      simpa [Chain.count, Chain.bufs] using congrArg List.length hv
    have haddr : (q.descShadow c.token).addr =
        UInt64.ofNat (H.share (indirectTable H c.token c.count) .driverToDevice) :=
      congrArg Prod.fst (he.head hi)
    rw [hi, if_pos rfl, List.singleton_append, haddr, UInt64.toNat_ofNat_of_lt' (hshare _ _)]
    congr 1
    apply directUnshares_eq_sharedAt hshare
    rw [← hv, ← hlen]
    exact map_range_getD l Descriptor.zero Descriptor.view

/-- The chain `add` publishes says exactly which buffers it holds, and `pop_used` gives
back exactly what `add` shared. From any reachable state, for any buffers `add` accepts: a
direct chain, read by the device from the token along `next` while `NEXT` is set, is the
encoding of the inputs and then the outputs; an indirect chain is one descriptor with
`INDIRECT` alone, sharing a table that reads as that encoding, entry `k` linked to entry
`k + 1`; the token goes in the ring slot of the old index, and the index moves on by one;
and for as long as the chain is outstanding, whatever the driver adds and pops meanwhile,
a `pop_used` of it unshares every buffer at the address and in the direction `share` gave
it, after the table, when `share` returns 64-bit addresses. -/
theorem add_chain_round_trip (hsize : SizeOk SIZE) {H : Hal} {idx : UInt16}
    {indirect eventIdx : Bool} {q q' : VirtQueue SIZE} {cs : List Chain} {inputs outputs : List Buf}
    {t : Nat} (hr : Reachable H idx indirect eventIdx (q, cs))
    (hadd : q.add H inputs outputs = .ok (q', t)) :
    (q.isIndirect ⟨t, inputs, outputs⟩ = false →
        (readChain q'.desc SIZE t).map Descriptor.view =
          encodeChain H (inputOutputIter inputs outputs)) ∧
      (q.isIndirect ⟨t, inputs, outputs⟩ = true →
        (readChain q'.desc SIZE t).map Descriptor.view =
            [tableView H t (inputs.length + outputs.length)] ∧
          ∃ l, q'.indirectLists t = some l ∧
            l.map Descriptor.view = encodeChain H (inputOutputIter inputs outputs) ∧
            l.map Descriptor.next = List.range' 1 (inputs.length + outputs.length)) ∧
      q'.avail.ring (q.avail.idx.toNat % SIZE) = t ∧ q'.avail.idx = q.avail.idx + 1 ∧
      ((∀ b d, H.share b d < 2^64) →
        ∀ s, Relation.ReflTransGen (Step H) (q', ⟨t, inputs, outputs⟩ :: cs) s →
          ⟨t, inputs, outputs⟩ ∈ s.2 → ∀ used q'' len us,
            s.1.popUsed H used t inputs outputs = .ok (q'', len, us) →
            us = (if q.isIndirect ⟨t, inputs, outputs⟩ then
                [⟨H.share (indirectTable H t (inputs.length + outputs.length)) .driverToDevice,
                  indirectTable H t (inputs.length + outputs.length), .driverToDevice⟩]
              else []) ++ sharedAt H (inputOutputIter inputs outputs)) := by
  have hinv : q.Inv cs := Inv.reachable hsize.pos hr
  have hfields : q.indirect = indirect ∧ q.avail.idx = q.availIdx :=
    driverFields_of_reachable hsize.pos hr
  have h16 : SIZE < 65536 := by have := hsize.2; omega
  have hpop : (∀ b d, H.share b d < 2^64) →
      ∀ s, Relation.ReflTransGen (Step H) (q', ⟨t, inputs, outputs⟩ :: cs) s →
        ⟨t, inputs, outputs⟩ ∈ s.2 → ∀ used q'' len us,
          s.1.popUsed H used t inputs outputs = .ok (q'', len, us) →
          us = (if q.isIndirect ⟨t, inputs, outputs⟩ then
              [⟨H.share (indirectTable H t (inputs.length + outputs.length)) .driverToDevice,
                indirectTable H t (inputs.length + outputs.length), .driverToDevice⟩]
            else []) ++ sharedAt H (inputOutputIter inputs outputs) := by
    intro hshare s hs hc used q'' len us hpop
    have hrs : Reachable H idx indirect eventIdx s := (hr.tail (Step.add hadd)).trans hs
    have hus := (Inv.reachable hsize.pos hrs).popUsed_unshares hc
      (encoded_of_reachable hsize hrs _ hc) hshare hpop
    rwa [isIndirect_congr ((driverFields_of_reachable hsize.pos hrs).1.trans hfields.1.symm)] at hus
  obtain ⟨hring, hidx, -⟩ := add_avail hsize hr hadd
  have hslot : q'.avail.ring (q.avail.idx.toNat % SIZE) = t := by
    rw [hring, Function.update_self]
  obtain ⟨rfl, hne, -, hcase⟩ := add_eq_ok hinv.freeHead_lt hinv.next_lt hadd
  rcases hcase with ⟨hind, hn, -⟩ | ⟨hdir, hroom, -, rfl⟩
  · -- the indirect branch
    obtain ⟨-, l, hv, hnext, rfl⟩ := add_indirect_eq_ok h16 hadd hind hn
    have hlen : l.length = inputs.length + outputs.length := by simpa using congrArg List.length hv
    have hhead : ((q.afterAddIndirect H l).publish q.freeHead).desc q.freeHead =
        (q.descShadow q.freeHead).withBuf H (indirectTable H q.freeHead l.length) .driverToDevice
          DescFlags.INDIRECT := by
      simp [afterAddIndirect]
    refine ⟨fun hd => absurd hd (by simp [isIndirect, Chain.count, hind, hn]), fun _ => ⟨?_, l,
      by simp [afterAddIndirect], hv, hnext⟩, hslot, hidx, hpop⟩
    rw [readChain_of_last hsize.pos (by rw [hhead]; rfl), List.map_singleton, hhead,
      view_withBuf_INDIRECT, hlen]
  · -- the direct branch
    have hpos : 0 < inputs.length + outputs.length := by
      simpa [← length_inputOutputIter, List.length_pos_iff] using hne
    refine ⟨fun _ => ?_, fun hi => ?_, hslot, hidx, hpop⟩
    · rw [desc_publish]
      exact readChain_afterAddDirect H q inputs outputs (hinv.nodup_walk hroom) hpos (by omega)
    · simp only [isIndirect, Bool.and_eq_true] at hi
      exact absurd ⟨hi.1, of_decide_eq_true hi.2⟩ hdir

/-- On a new queue of four descriptors with the feature, one input and one output make an
indirect chain: the device reads the token's descriptor alone, and it shares a table of
two entries. -/
theorem add_chain_round_trip_new :
    ∃ q' t, (init 0 true false : VirtQueue 4).add identityHal [⟨0x1000, 8⟩] [⟨0x2000, 16⟩] =
        .ok (q', t) ∧
      (readChain q'.desc 4 t).map Descriptor.view = [tableView identityHal t 2] := by
  have hok : ((init 0 true false : VirtQueue 4).add identityHal [⟨0x1000, 8⟩]
      [⟨0x2000, 16⟩]).toOption.isSome = true := by
    decide +kernel
  cases h : (init 0 true false : VirtQueue 4).add identityHal [⟨0x1000, 8⟩] [⟨0x2000, 16⟩] with
  | error e => simp [h, Except.toOption] at hok
  | ok r =>
    exact ⟨r.1, r.2, rfl, ((add_chain_round_trip (by decide) .refl h).2.1 rfl).1⟩

end VirtQueue
end VirtioDrivers
