import VirtioDrivers.Queue.Capacity
import VirtioDrivers.Queue.Progress

/-! Which token `add` hands out (the token assertions of the drivers). `add` always takes
the head of the free list, whether it builds a direct chain or an indirect one, and
`recycle_descriptors` puts the recycled chain on the front of the free list. So the `add`
right after a `pop_used` returns the token just popped; and a new queue, whose free list
is every descriptor in order, hands out `0, 1, 2, …` to successive one-buffer `add`s. The
drivers assert both facts instead of handling a failure. -/
namespace VirtioDrivers
open LinkWalk

namespace VirtQueue
variable {SIZE : Nat}

theorem token_of_addDirect {H : Hal} {q : VirtQueue SIZE} {inputs outputs : List Buf}
    {r : VirtQueue SIZE × Nat} (h : q.addDirect H inputs outputs = .ok r) : r.2 = q.freeHead := by
  simp only [addDirect, Except.bind_eq_ok] at h
  obtain ⟨⟨q1, last⟩, -, d, -, q2, -, hfin⟩ := h
  simp only [Except.pure_eq_ok, Except.ok.injEq] at hfin
  rw [← hfin]

theorem token_of_add {H : Hal} {q q' : VirtQueue SIZE} {inputs outputs : List Buf} {t : Nat}
    (h : q.add H inputs outputs = .ok (q', t)) : t = q.freeHead := by
  unfold add at h
  simp only at h
  split at h
  · simp at h
  split at h
  · simp at h
  split at h
  · obtain ⟨r, hbr, hfin⟩ := Except.bind_eq_ok.mp h
    simp only [Except.pure_eq_ok, Except.ok.injEq, Prod.mk.injEq] at hfin
    obtain ⟨-, l, -, hr⟩ := addIndirect_ok hbr
    rw [← hfin.2, hr]
  · obtain ⟨r, hbr, hfin⟩ := Except.bind_eq_ok.mp h
    simp only [Except.pure_eq_ok, Except.ok.injEq, Prod.mk.injEq] at hfin
    rw [← hfin.2]
    exact token_of_addDirect hbr

theorem freeHead_of_popUsed {H : Hal} {q q' : VirtQueue SIZE} {used : UsedRing} {token : Nat}
    {inputs outputs : List Buf} {len : UInt32} {us : List Unshare}
    (h : q.popUsed H used token inputs outputs = .ok (q', len, us)) : q'.freeHead = token := by
  obtain ⟨-, -, -, q0, hrec, rfl⟩ := popUsed_eq_ok h
  rw [freeHead_consumeUsed, freeHead_of_recycleDescriptors hrec]

/-- Successive `add`s of the requests `reqs`, as the drivers' fill loops make them; the
tokens in the order they were returned. -/
def addEach (H : Hal) : VirtQueue SIZE → List (List Buf × List Buf) →
    Except Fault (VirtQueue SIZE × List Nat)
  | q, [] => pure (q, [])
  | q, (inputs, outputs) :: rest => do
    let (q, t) ← q.add H inputs outputs
    let (q, ts) ← addEach H q rest
    pure (q, t :: ts)

/-- One successful one-buffer `add` on a queue whose free list is the run of indices from
`k` returns `k` and leaves the run from `k + 1`: with a single buffer `add` takes the direct
path even when the queue has the indirect feature. -/
theorem add_one_of_range' {H : Hal} {q q' : VirtQueue SIZE} {cs : List Chain}
    {inputs outputs : List Buf} {t k n : Nat} (h : q.Inv cs) (hfree : q.freeList = List.range' k n)
    (hnum : q.numUsed = k) (hsum : k + n = SIZE) (hone : inputs.length + outputs.length = 1)
    (hadd : q.add H inputs outputs = .ok (q', t)) :
    t = k ∧ ∃ m, n = m + 1 ∧ q'.freeList = List.range' (k + 1) m ∧ q'.numUsed = k + 1 := by
  obtain ⟨rfl, -, hroom1, hcase⟩ := add_eq_ok h.freeHead_lt h.next_lt hadd
  obtain ⟨m, rfl⟩ : ∃ m, n = m + 1 := ⟨n - 1, by omega⟩
  have hleft : SIZE - q.numUsed = m + 1 := by omega
  rcases hcase with ⟨-, hn, -⟩ | ⟨-, -, -, rfl⟩
  · omega
  · refine ⟨freeHead_of_freeList_eq_range' hleft hfree, m, rfl,
      freeList_afterAddDirect_of_range' H hone hleft hfree, ?_⟩
    simp [hnum, hone]

/-- One-buffer `add`s that return, on a queue whose free list is the run of indices from
`k`, return the next indices in turn. The induction is on the requests, with the invariant
and the shape of the free list carried along. -/
theorem tokens_of_addEach (H : Hal) :
    ∀ (reqs : List (List Buf × List Buf)) (q q' : VirtQueue SIZE) (cs : List Chain) (k n : Nat)
      (ts : List Nat), q.Inv cs → q.freeList = List.range' k n → q.numUsed = k → k + n = SIZE →
      (∀ r ∈ reqs, r.1.length + r.2.length = 1) →
      q.addEach H reqs = .ok (q', ts) → ts = List.range' k reqs.length
  | [], q, q', _, _, _, ts, _, _, _, _, _, hrun => by
    simp only [addEach, Except.pure_eq_ok, Except.ok.injEq, Prod.mk.injEq] at hrun
    simp [← hrun.2]
  | (inputs, outputs) :: rest, q, q', cs, k, n, ts, h, hfree, hnum, hsum, hone, hrun => by
    simp only [addEach, Except.bind_eq_ok] at hrun
    obtain ⟨⟨q1, t⟩, hadd, ⟨q2, ts'⟩, hrest, hfin⟩ := hrun
    simp only [Except.pure_eq_ok, Except.ok.injEq, Prod.mk.injEq] at hfin
    obtain ⟨rfl, m, rfl, hfree1, hnum1⟩ :=
      add_one_of_range' h hfree hnum hsum (hone (inputs, outputs) (by simp)) hadd
    have hts' := tokens_of_addEach H rest q1 q2 _ (t + 1) m ts' (h.add hadd) hfree1 hnum1
      (by omega) (fun r hr => hone r (List.mem_cons_of_mem _ hr)) hrest
    rw [← hfin.2, hts', List.length_cons, List.range'_succ]

theorem addEach_range' (H : Hal) :
    ∀ (reqs : List (List Buf × List Buf)) (q : VirtQueue SIZE) (cs : List Chain) (k n : Nat),
      q.Inv cs → q.freeList = List.range' k n → q.numUsed = k → k + n = SIZE →
      reqs.length ≤ n → (∀ r ∈ reqs, r.1.length + r.2.length = 1) →
      (∀ r ∈ reqs, ∀ b ∈ r.1 ++ r.2, b.Fits) →
      ∃ q', q.addEach H reqs = .ok (q', List.range' k reqs.length)
  | [], q, _, _, _, _, _, _, _, _, _, _ => ⟨q, rfl⟩
  | (inputs, outputs) :: rest, q, cs, k, n, h, hfree, hnum, hsum, hlen, hone, hfit => by
    have hlen1 : inputs.length + outputs.length = 1 := hone (inputs, outputs) (by simp)
    have hne : inputOutputIter inputs outputs ≠ [] := by
      rw [← List.length_pos_iff, length_inputOutputIter]; omega
    have hadd := add_eq_of_direct H hne (by omega) (by simp at hlen; omega)
      (fun p hp => hfit (inputs, outputs) (by simp) p.1 (by
        simp only [inputOutputIter, List.mem_append, List.mem_map] at hp
        rcases hp with ⟨b, hb, rfl⟩ | ⟨b, hb, rfl⟩ <;> simp [hb]))
      (h.walk_free_lt _)
    obtain ⟨hk, m, rfl, hfree1, hnum1⟩ := add_one_of_range' h hfree hnum hsum hlen1 hadd
    obtain ⟨q', hrest⟩ := addEach_range' H rest _ _ (k + 1) m (h.add hadd) hfree1 hnum1
      (by omega) (by simp at hlen; omega) (fun r hr => hone r (List.mem_cons_of_mem _ hr))
      (fun r hr => hfit r (List.mem_cons_of_mem _ hr))
    refine ⟨q', ?_⟩
    simp only [addEach, hadd, Except.ok_bind]
    rw [hrest, hk, List.length_cons, List.range'_succ]
    rfl

/-- Token reuse: the `add` that follows a `pop_used` returns the token just popped, from
any state and for any request, whichever path `add` takes; and on a new queue successive
one-buffer `add`s that return hand out `0, 1, …`, up to as many as it has descriptors,
and they do return when the buffers fit. -/
theorem add_reuses_popped_token (H : Hal) :
    (∀ (q q' q'' : VirtQueue SIZE) (used : UsedRing) (t t' : Nat)
        (inputs outputs inputs' outputs' : List Buf) (len : UInt32) (us : List Unshare),
        q.popUsed H used t inputs outputs = .ok (q', len, us) →
        q'.add H inputs' outputs' = .ok (q'', t') → t' = t) ∧
      (0 < SIZE → ∀ (idx : UInt16) (indirect eventIdx : Bool) (reqs : List (List Buf × List Buf)),
        reqs.length ≤ SIZE → (∀ r ∈ reqs, r.1.length + r.2.length = 1) →
        (∀ q ts, (init idx indirect eventIdx : VirtQueue SIZE).addEach H reqs = .ok (q, ts) →
          ts = List.range reqs.length) ∧
        ((∀ r ∈ reqs, ∀ b ∈ r.1 ++ r.2, b.Fits) →
          ∃ q, (init idx indirect eventIdx : VirtQueue SIZE).addEach H reqs =
            .ok (q, List.range reqs.length))) := by
  refine ⟨fun q q' q'' used t t' inputs outputs inputs' outputs' len us hpop hadd => ?_,
    fun hsize idx indirect eventIdx reqs hlen hone => ⟨fun q ts hrun => ?_, fun hfit => ?_⟩⟩
  · rw [token_of_add hadd, freeHead_of_popUsed hpop]
  · rw [List.range_eq_range']
    exact tokens_of_addEach H reqs _ q [] 0 SIZE ts (Inv.init hsize idx indirect eventIdx)
      (init_freeList idx indirect eventIdx) rfl (by omega) hone hrun
  · rw [List.range_eq_range']
    exact addEach_range' H reqs _ [] 0 SIZE (Inv.init hsize idx indirect eventIdx)
      (init_freeList idx indirect eventIdx) rfl (by omega) hlen hone hfit

end VirtQueue
end VirtioDrivers
