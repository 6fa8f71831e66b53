import VirtioDrivers.Queue.Invariant
import Mathlib.Logic.Relation

/-! Runs of a queue: any sequence of `add` and `pop_used` calls from `new`, each
`pop_used` naming an outstanding chain with the buffers it was added with, against a
device that may write anything into the used ring. Every state a run reaches keeps the
accounting of descriptors. -/
namespace VirtioDrivers
open LinkWalk Ownership

namespace VirtQueue
variable {SIZE : Nat}

/-- One call the driver makes on a queue with outstanding chains `cs`. A call that
returns `Err` has changed nothing; one that panics ends the run, so it has no step. -/
inductive Step (H : Hal) : VirtQueue SIZE × List Chain → VirtQueue SIZE × List Chain → Prop
  | add {q q' : VirtQueue SIZE} {cs : List Chain} {inputs outputs : List Buf} {t : Nat} :
      q.add H inputs outputs = .ok (q', t) → Step H (q, cs) (q', ⟨t, inputs, outputs⟩ :: cs)
  | addErr {q : VirtQueue SIZE} {cs : List Chain} {inputs outputs : List Buf} {e : Error} :
      q.add H inputs outputs = .error (.err e) → Step H (q, cs) (q, cs)
  | pop {q q' : VirtQueue SIZE} {cs : List Chain} {c : Chain} {used : UsedRing} {len : UInt32}
      {us : List Unshare} : c ∈ cs →
      q.popUsed H used c.token c.inputs c.outputs = .ok (q', len, us) →
      Step H (q, cs) (q', cs.erase c)
  | popErr {q : VirtQueue SIZE} {cs : List Chain} {c : Chain} {used : UsedRing} {e : Error} :
      c ∈ cs → q.popUsed H used c.token c.inputs c.outputs = .error (.err e) →
      Step H (q, cs) (q, cs)

/-- The states a queue made by `new` reaches, with the chains outstanding in each. -/
def Reachable (H : Hal) (idx : UInt16) (indirect eventIdx : Bool)
    (s : VirtQueue SIZE × List Chain) : Prop :=
  Relation.ReflTransGen (Step H) (init idx indirect eventIdx, []) s

theorem Inv.step {H : Hal} {s s' : VirtQueue SIZE × List Chain} (h : s.1.Inv s.2)
    (hs : Step H s s') : s'.1.Inv s'.2 := by
  cases hs with
  | add hadd => exact h.add hadd
  | addErr _ => exact h
  | pop hc hpop => exact h.popUsed hc hpop
  | popErr _ _ => exact h

theorem Inv.reachable {H : Hal} {idx : UInt16} {indirect eventIdx : Bool}
    {s : VirtQueue SIZE × List Chain} (hsize : 0 < SIZE) (hr : Reachable H idx indirect eventIdx s) :
    s.1.Inv s.2 := by
  induction hr with
  | refl => exact Inv.init hsize idx indirect eventIdx
  | tail _ hs ih => exact ih.step hs

/-- The shape of an outstanding chain: a direct chain of one descriptor for each buffer,
linked by `NEXT` up to its last one, or a single `INDIRECT` descriptor that owns a
table of one entry for each buffer. -/
def ChainShape (q : VirtQueue SIZE) (c : Chain) : Prop :=
  (q.isIndirect c = false ∧ (q.descShadow c.token).flags.indirect = false ∧
      q.footprint c = walk q.nextOf c.token c.count ∧ (q.footprint c).Nodup ∧
      ∀ k < c.count, (q.descShadow (q.nextOf^[k] c.token)).flags.next = decide (k + 1 < c.count)) ∨
    (q.isIndirect c = true ∧ (q.descShadow c.token).flags.indirect = true ∧
      q.footprint c = [c.token] ∧ ∃ l, q.indirectLists c.token = some l ∧ l.length = c.count)

/-- The descriptor accounting of a queue with outstanding chains `cs`: the descriptors in
use are those of the chains, the free list repeats no descriptor and shares none with a
chain, no two chains share a descriptor, and each chain has the shape `add` gave it. -/
structure Accounting (q : VirtQueue SIZE) (cs : List Chain) : Prop where
  numUsed_le : q.numUsed ≤ SIZE
  numUsed_eq : q.numUsed = (cs.flatMap q.footprint).length
  free_nodup : q.freeList.Nodup
  free_disjoint : ∀ j ∈ q.freeList, ∀ c ∈ cs, j ∉ q.footprint c
  chains_disjoint : ∀ c ∈ cs, ∀ c' ∈ cs.erase c, ∀ j ∈ q.footprint c, j ∉ q.footprint c'
  chain_shape : ∀ c ∈ cs, q.ChainShape c

theorem Inv.chainShape {q : VirtQueue SIZE} {cs : List Chain} (h : q.Inv cs) {c : Chain}
    (hc : c ∈ cs) : q.ChainShape c := by
  have hok := h.chains c hc
  cases hi : q.isIndirect c with
  | false =>
    have hfp := footprint_of_direct hi
    exact .inl ⟨hi, hok.head_indirect.trans hi, hfp, h.partitions.nodup_fp hc, hok.links hi⟩
  | true =>
    exact .inr ⟨hi, hok.head_indirect.trans hi, by simp [footprint, hi], hok.table hi⟩

theorem Inv.accounting {q : VirtQueue SIZE} {cs : List Chain} (h : q.Inv cs) : q.Accounting cs where
  numUsed_le := h.numUsed_le
  numUsed_eq := h.numUsed_eq
  free_nodup := h.partitions.nodup_free
  free_disjoint := fun _ hj _ hc => h.partitions.not_mem_fp_of_mem_free hj hc
  chains_disjoint := fun _ hc _ hc' _ hj => h.partitions.not_mem_fp_of_mem_erase hc hc' hj
  chain_shape := fun _ hc => h.chainShape hc

theorem accounting_of_reachable (hsize : 0 < SIZE) (H : Hal) (idx : UInt16) (indirect eventIdx : Bool)
    {s : VirtQueue SIZE × List Chain} (hr : Reachable H idx indirect eventIdx s) :
    s.1.Accounting s.2 :=
  (Inv.reachable hsize hr).accounting

/-- A HAL that shares every buffer at its own address, and puts the table of the chain at
`head` in a page of its own. -/
def identityHal : Hal := ⟨fun n _ => (n, n), fun b _ => b.addr, id, fun head _ => 4096 * (head + 1)⟩

theorem accounting_of_new : (init 0 true false : VirtQueue 4).Accounting [] :=
  accounting_of_reachable (by decide) identityHal 0 true false Relation.ReflTransGen.refl

end VirtQueue
end VirtioDrivers
