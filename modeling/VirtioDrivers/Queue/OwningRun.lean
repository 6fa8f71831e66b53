import VirtioDrivers.Queue.Owning
import Mathlib.Logic.Relation

/-! Runs of an `OwningQueue` against its device. `new` puts every buffer in the queue
under its own index as token; after it the device finishes with the buffers it holds in
any order, writing some bytes into each, and the driver polls. The queue keeps every
descriptor outstanding, each token a one-descriptor chain over its own buffer, because a
pop leaves the freed descriptor at the head of the free list and the re-add takes it
from there. So no assertion fails and each handler sees the bytes the device wrote. -/
namespace VirtioDrivers
open LinkWalk

namespace OwningQueue
variable {SIZE BUFFER_SIZE : Nat}

theorem toNat_toUInt16_ofNat {t : Nat} (ht : t < 2^16) : (UInt32.ofNat t).toUInt16.toNat = t := by
  simp only [UInt32.toNat_toUInt16, UInt32.toNat_ofNat']
  omega

theorem toNat_ofNat_of_lt {n : Nat} (hn : n < 2^32) : (UInt32.ofNat n).toNat = n := by
  simp only [UInt32.toNat_ofNat']
  omega

@[simp] theorem freeList_publish (q : VirtQueue SIZE) (head : Nat) :
    (q.publish head).freeList = q.freeList := rfl

@[simp] theorem lastUsedIdx_publish (q : VirtQueue SIZE) (head : Nat) :
    (q.publish head).lastUsedIdx = q.lastUsedIdx := rfl

@[simp] theorem lastUsedIdx_afterAddDirect (H : Hal) (q : VirtQueue SIZE) (inputs outputs : List Buf) :
    (q.afterAddDirect H inputs outputs).lastUsedIdx = q.lastUsedIdx := rfl

@[simp] theorem lastUsedIdx_afterRecycleDirect (q : VirtQueue SIZE) (head n : Nat) :
    (q.afterRecycleDirect head n).lastUsedIdx = q.lastUsedIdx := rfl

/-! ### `new` -/

/-- The loop of `new`, from a queue whose free list is the descriptors `k, …, k + n - 1`
in order: each buffer gets the head of the free list, which is its own index. -/
theorem addAll_range' (H : Hal) (hb : BufferFits BUFFER_SIZE) (oq : OwningQueue SIZE BUFFER_SIZE) :
    ∀ (n k : Nat) (q : VirtQueue SIZE) (cs : List Chain), k + n = SIZE → q.Inv cs →
      q.freeList = List.range' k n → q.numUsed = k →
      ∃ q', addAll H BUFFER_SIZE oq.buffers (List.range' k n) q = .ok q' ∧
        q'.Inv (((List.range' k n).map oq.chain).reverse ++ cs) ∧ q'.lastUsedIdx = q.lastUsedIdx ∧
        q'.availIdx = q.availIdx + UInt16.ofNat n := by
  intro n
  induction n with
  | zero =>
    intro k q cs _ h _ _
    exact ⟨q, rfl, by simpa using h, rfl, by simp⟩
  | succ n ih =>
    intro k q cs hsum h hfree hnum
    have hleft : SIZE - q.numUsed = n + 1 := by omega
    have hfh : q.freeHead = k := VirtQueue.freeHead_of_freeList_eq_range' hleft hfree
    have hadd : q.add H [] [oq.buffer k] = .ok ((q.afterAddDirect H [] [oq.buffer k]).publish k, k) :=
      add_chain_eq H hb h hfh (by omega)
    set q1 := (q.afterAddDirect H [] [oq.buffer k]).publish k with hq1
    have h1 : q1.Inv (oq.chain k :: cs) := h.add hadd
    have hfree1 : q1.freeList = List.range' (k + 1) n := by
      rw [hq1, freeList_publish]
      exact VirtQueue.freeList_afterAddDirect_of_range' H (by simp) hleft hfree
    obtain ⟨q', hrun, hinv, hlast, havail⟩ := ih (k + 1) q1 (oq.chain k :: cs) (by omega) h1 hfree1
      (by simp [hq1, hnum])
    refine ⟨q', ?_, ?_, ?_, ?_⟩
    · simp only [List.range'_succ, addAll, buffer] at hadd ⊢
      simp [hadd, hrun]
    · simpa [List.range'_succ] using hinv
    · rw [hlast]; rfl
    · rw [havail, hq1]
      show q.availIdx + 1 + UInt16.ofNat n = q.availIdx + UInt16.ofNat (n + 1)
      rw [UInt16.ofNat_add, UInt16.ofNat_one]
      ac_rfl

theorem new_eq_ok (H : Hal) (hsize : 0 < SIZE) (hb : BufferFits BUFFER_SIZE) (boxes : Nat → Nat)
    (idx : UInt16) (indirect eventIdx : Bool) :
    ∃ q, new H (VirtQueue.init idx indirect eventIdx) boxes = .ok (⟨q, boxes⟩ : OwningQueue SIZE BUFFER_SIZE) ∧
      q.Inv (⟨q, boxes⟩ : OwningQueue SIZE BUFFER_SIZE).chains ∧ q.lastUsedIdx = 0 ∧
      q.availIdx = UInt16.ofNat SIZE := by
  obtain ⟨q, hrun, hinv, hlast, havail⟩ := addAll_range' H hb (⟨VirtQueue.init idx indirect eventIdx, boxes⟩ :
      OwningQueue SIZE BUFFER_SIZE) SIZE 0 _ [] (by omega) (VirtQueue.Inv.init hsize idx indirect eventIdx)
    (VirtQueue.init_freeList idx indirect eventIdx) rfl
  refine ⟨q, ?_, ?_, hlast, by rw [havail]; exact UInt16.zero_add _⟩
  · simp only [new, List.range_eq_range', hrun]
    rfl
  · apply hinv.perm
    simp only [List.append_nil, chains, List.range_eq_range']
    exact List.reverse_perm _

/-- A buffer the queue cannot hold makes the first `add` of `new` panic, before its
assertion is reached. -/
theorem init_add_panic (H : Hal) (hsize : 0 < SIZE) (hb : ¬ BufferFits BUFFER_SIZE) (addr : Nat)
    (idx : UInt16) (indirect eventIdx : Bool) :
    (VirtQueue.init idx indirect eventIdx : VirtQueue SIZE).add H [] [⟨addr, BUFFER_SIZE⟩] =
      .error .panic := by
  have hfull : (decide ((VirtQueue.init idx indirect eventIdx : VirtQueue SIZE).numUsed + 1 > SIZE) ||
      decide (([] : List Buf).length + [(⟨addr, BUFFER_SIZE⟩ : Buf)].length > SIZE) ||
      (!(VirtQueue.init idx indirect eventIdx : VirtQueue SIZE).indirect &&
        decide ((VirtQueue.init idx indirect eventIdx : VirtQueue SIZE).numUsed +
          (([] : List Buf).length + [(⟨addr, BUFFER_SIZE⟩ : Buf)].length) > SIZE))) = false := by
    simp [VirtQueue.init]
    omega
  unfold VirtQueue.add
  simp only [List.isEmpty_nil, List.isEmpty_cons, Bool.and_false, Bool.false_eq_true, if_false,
    hfull]
  unfold BufferFits at hb
  by_cases h0 : BUFFER_SIZE = 0
  · simp [VirtQueue.addDirect, inputOutputIter, VirtQueue.addDirectLoop, h0, assert, VirtQueue.init]
  · have hbig : 2^32 ≤ BUFFER_SIZE := by omega
    have hset : ∀ (d : Descriptor) dir, d.setBuf H ⟨addr, BUFFER_SIZE⟩ dir DescFlags.NEXT = .error .panic := by
      intro d dir
      unfold Descriptor.setBuf
      rw [if_pos hbig]
      rfl
    simp [VirtQueue.addDirect, inputOutputIter, VirtQueue.addDirectLoop, h0, assert, getIdx_of_lt hsize,
      VirtQueue.init, hset]

theorem new_panic (H : Hal) (hsize : 0 < SIZE) (hb : ¬ BufferFits BUFFER_SIZE) (boxes : Nat → Nat)
    (idx : UInt16) (indirect eventIdx : Bool) :
    (new H (VirtQueue.init idx indirect eventIdx) boxes : Except Fault (OwningQueue SIZE BUFFER_SIZE)) =
      .error .panic := by
  obtain ⟨n, hn⟩ : ∃ n, SIZE = n + 1 := ⟨SIZE - 1, by omega⟩
  have hrange : List.range SIZE = 0 :: List.range' 1 n := by
    rw [List.range_eq_range', hn, List.range'_succ]
  simp [new, hrange, addAll, init_add_panic H hsize hb]

/-! ### The device and the runs -/

/-- The allocator gives every buffer bytes of its own. -/
def BoxesDisjoint (SIZE BUFFER_SIZE : Nat) (boxes : Nat → Nat) : Prop :=
  ∀ t < SIZE, ∀ t' < SIZE, t ≠ t' → boxes t + BUFFER_SIZE ≤ boxes t' ∨ boxes t' + BUFFER_SIZE ≤ boxes t

instance (SIZE BUFFER_SIZE : Nat) (boxes : Nat → Nat) : Decidable (BoxesDisjoint SIZE BUFFER_SIZE boxes) :=
  inferInstanceAs (Decidable (∀ t < SIZE, ∀ t' < SIZE, t ≠ t' →
    boxes t + BUFFER_SIZE ≤ boxes t' ∨ boxes t' + BUFFER_SIZE ≤ boxes t))

/-- An owning queue and the device behind it: the transport's calls so far, the device
area, memory, the tokens the device holds, and the chains it has finished with and the
driver has not popped yet, each with the bytes it reported. -/
structure World (SIZE BUFFER_SIZE : Nat) where
  oq : OwningQueue SIZE BUFFER_SIZE
  log : List TransportCall
  used : UsedRing
  mem : Nat → UInt8
  held : List Nat
  done : List (Nat × List UInt8)

namespace World

/-- The world right after `new`: the device holds every token. -/
def start (oq : OwningQueue SIZE BUFFER_SIZE) (log : List TransportCall) (mem : Nat → UInt8) :
    World SIZE BUFFER_SIZE :=
  ⟨oq, log, UsedRing.zero, mem, List.range SIZE, []⟩

/-- The device finishes with token `t`: it writes `data` into the buffer and reports
its first `len` bytes. -/
def complete (w : World SIZE BUFFER_SIZE) (t : Nat) (data : List UInt8) (len : Nat) :
    World SIZE BUFFER_SIZE :=
  { w with
    used := w.used.push SIZE ⟨UInt32.ofNat t, UInt32.ofNat len⟩
    mem := Memory.write w.mem (w.oq.buffers t) data
    held := w.held.erase t
    done := w.done ++ [(t, data.take len)] }

/-- After a poll: a poll that found a finished chain gives its token back to the device. -/
def afterPoll (w : World SIZE BUFFER_SIZE) (s : OwningQueue SIZE BUFFER_SIZE × List TransportCall) :
    World SIZE BUFFER_SIZE :=
  match w.done with
  | [] => { w with oq := s.1, log := s.2 }
  | (t, _) :: rest => { w with oq := s.1, log := s.2, held := w.held ++ [t], done := rest }

/-- The used elements the device has published and the driver has not popped. -/
def pending (w : World SIZE BUFFER_SIZE) : List UsedElem :=
  w.done.map fun p => ⟨UInt32.ofNat p.1, UInt32.ofNat p.2.length⟩

end World

/-- One step of a run: the device finishes with a buffer it holds, writing at most a
buffer's worth of bytes, or the driver polls with any handler. A poll that panics ends
the run. -/
inductive Step (H : Hal) : World SIZE BUFFER_SIZE → World SIZE BUFFER_SIZE → Prop
  | complete {w : World SIZE BUFFER_SIZE} (t : Nat) (data : List UInt8) (len : Nat) :
      t ∈ w.held → len ≤ data.length → data.length ≤ BUFFER_SIZE → Step H w (w.complete t data len)
  | poll {w : World SIZE BUFFER_SIZE} {T : Type} (handler : List UInt8 → Except Error (Option T))
      {r : Option T} {s : OwningQueue SIZE BUFFER_SIZE × List TransportCall} :
      (poll H w.used w.mem handler).run (w.oq, w.log) = .ok r s → Step H w (w.afterPoll s)
  | pollErr {w : World SIZE BUFFER_SIZE} {T : Type} (handler : List UInt8 → Except Error (Option T))
      {e : Error} {s : OwningQueue SIZE BUFFER_SIZE × List TransportCall} :
      (poll H w.used w.mem handler).run (w.oq, w.log) = .error (.err e) s → Step H w (w.afterPoll s)

/-- The worlds a run reaches from `new` on a fresh queue. -/
def Reachable (H : Hal) (boxes : Nat → Nat) (idx : UInt16) (indirect eventIdx : Bool)
    (log : List TransportCall) (mem : Nat → UInt8) (w : World SIZE BUFFER_SIZE) : Prop :=
  ∃ oq, new H (VirtQueue.init idx indirect eventIdx) boxes = .ok oq ∧
    Relation.ReflTransGen (Step H) (World.start oq log mem) w

/-- The invariant of a run, between the driver's calls: every token is outstanding as
the chain of its own buffer, the device holds each token or has finished with it, and
the bytes it reported for each finished chain are in that chain's buffer. -/
structure World.Inv (w : World SIZE BUFFER_SIZE) : Prop where
  size : SizeOk SIZE
  fits : BufferFits BUFFER_SIZE
  disjoint : BoxesDisjoint SIZE BUFFER_SIZE w.oq.buffers
  queue : w.oq.queue.Inv w.oq.chains
  pending : w.oq.queue.UsedPending w.used w.pending
  tokens : (w.held ++ w.done.map Prod.fst).Perm (List.range SIZE)
  written : ∀ p ∈ w.done, Memory.read w.mem (w.oq.buffers p.1) p.2.length = p.2 ∧
    p.2.length ≤ BUFFER_SIZE

namespace World
variable {w : World SIZE BUFFER_SIZE}

theorem afterPoll_self_of_nil (hd : w.done = []) : w.afterPoll (w.oq, w.log) = w := by
  obtain ⟨oq, log, used, mem, held, done⟩ := w
  simp only at hd
  subst hd
  rfl

theorem Inv.lt_of_mem_held (h : w.Inv) {t : Nat} (ht : t ∈ w.held) : t < SIZE :=
  List.mem_range.mp (h.tokens.mem_iff.mp (List.mem_append_left _ ht))

theorem Inv.lt_of_mem_done (h : w.Inv) {p : Nat × List UInt8} (hp : p ∈ w.done) : p.1 < SIZE :=
  List.mem_range.mp (h.tokens.mem_iff.mp (List.mem_append_right _ (List.mem_map_of_mem hp)))

theorem Inv.ne_of_mem_held (h : w.Inv) {t : Nat} (ht : t ∈ w.held) {p : Nat × List UInt8}
    (hp : p ∈ w.done) : p.1 ≠ t := by
  have hnd : (w.held ++ w.done.map Prod.fst).Nodup := h.tokens.nodup_iff.mpr List.nodup_range
  rintro heq
  exact List.disjoint_of_nodup_append hnd ht (heq ▸ List.mem_map_of_mem hp)

theorem Inv.start (hsize : SizeOk SIZE) {H : Hal} {boxes : Nat → Nat}
    (hdisj : BoxesDisjoint SIZE BUFFER_SIZE boxes) {idx : UInt16} {indirect eventIdx : Bool}
    {oq : OwningQueue SIZE BUFFER_SIZE} (hnew : new H (VirtQueue.init idx indirect eventIdx) boxes = .ok oq)
    (log : List TransportCall) (mem : Nat → UInt8) : (World.start oq log mem).Inv := by
  have hb : BufferFits BUFFER_SIZE := by
    by_contra hb
    rw [new_panic H hsize.pos hb] at hnew
    cases hnew
  obtain ⟨q, hq, hinv, hlast, -⟩ := new_eq_ok H hsize.pos hb boxes idx indirect eventIdx
  rw [hq] at hnew
  cases hnew
  refine ⟨hsize, hb, hdisj, hinv, ?_, by simp [World.start], by simp [World.start]⟩
  show IndexRing.Holds SIZE UsedRing.zero.ring 0 q.lastUsedIdx []
  rw [hlast]
  exact IndexRing.holds_nil _ _ 0

theorem Inv.complete (h : w.Inv) {t : Nat} {data : List UInt8} {len : Nat} (ht : t ∈ w.held)
    (hlen : len ≤ data.length) (hdata : data.length ≤ BUFFER_SIZE) : (w.complete t data len).Inv := by
  have htl : t < SIZE := h.lt_of_mem_held ht
  have hroom : w.pending.length < SIZE := by
    have hcount := h.tokens.length_eq
    have hpos : 0 < w.held.length := List.length_pos_of_mem ht
    simp only [List.length_append, List.length_map, List.length_range] at hcount
    simp only [World.pending, List.length_map]
    omega
  have htake : (data.take len).length = len := by simp [hlen]
  refine ⟨h.size, h.fits, h.disjoint, h.queue, ?_, ?_, ?_⟩
  · have hpush := h.pending.push h.size hroom ⟨UInt32.ofNat t, UInt32.ofNat len⟩
    simpa [World.complete, World.pending, htake] using hpush
  · have hperm : (w.held.erase t ++ (w.done.map Prod.fst ++ [t])).Perm (w.held ++ w.done.map Prod.fst) := by
      rw [← List.append_assoc]
      exact (List.perm_append_singleton _ _).trans
        (((List.perm_cons_erase ht).symm).append_right _)
    simpa [World.complete] using hperm.trans h.tokens
  · intro p hp
    rcases List.mem_append.mp hp with hp | hp
    · obtain ⟨hread, hle⟩ := h.written p hp
      have hdis := h.disjoint p.1 (h.lt_of_mem_done hp) t htl (h.ne_of_mem_held ht hp)
      refine ⟨?_, hle⟩
      simp only [World.complete]
      rw [Memory.read_write_of_disjoint _ (by omega)]
      exact hread
    · simp only [List.mem_singleton] at hp
      subst hp
      refine ⟨?_, by simp; omega⟩
      simp only [World.complete]
      rw [Memory.read_write_self _ _ _ (by omega), htake]

theorem Inv.poll_nil (H : Hal) (h : w.Inv) (hd : w.done = []) {T : Type}
    (handler : List UInt8 → Except Error (Option T)) :
    (poll H w.used w.mem handler).run (w.oq, w.log) = .ok none (w.oq, w.log) := by
  have hp : w.oq.queue.UsedPending w.used [] := by simpa [World.pending, hd] using h.pending
  exact poll_of_pop_none handler (pop_of_none H w.used w.mem w.oq w.log (hp.peekUsed_nil h.size))

/-- A poll when the device has finished with token `t` first: the handler gets the
bytes the device reported, the buffer goes back under token `t`, and the invariant holds
with the device holding `t` again. -/
theorem Inv.poll_cons (H : Hal) (h : w.Inv) {t : Nat} {bytes : List UInt8}
    {rest : List (Nat × List UInt8)} (hd : w.done = (t, bytes) :: rest) :
    ∃ s : OwningQueue SIZE BUFFER_SIZE × List TransportCall,
      (∀ {T : Type} (handler : List UInt8 → Except Error (Option T)),
        (poll H w.used w.mem handler).run (w.oq, w.log) = (ofResult (handler bytes)).run s) ∧
      (w.afterPoll s).Inv := by
  have hsize := h.size
  have hmem : (t, bytes) ∈ w.done := by simp [hd]
  have ht : t < SIZE := h.lt_of_mem_done hmem
  have hread : Memory.read w.mem (w.oq.buffers t) bytes.length = bytes := (h.written _ hmem).1
  have hle : bytes.length ≤ BUFFER_SIZE := (h.written _ hmem).2
  have hpend : w.oq.queue.UsedPending w.used
      (⟨UInt32.ofNat t, UInt32.ofNat bytes.length⟩ :: (rest.map fun p =>
        (⟨UInt32.ofNat p.1, UInt32.ofNat p.2.length⟩ : UsedElem))) := by
    simpa [World.pending, hd] using h.pending
  have hslot := hpend.slot_eq hsize
  have ht16 : t < 2^16 := by have := hsize.lt; omega
  have hlen32 : bytes.length < 2^32 := by have := h.fits.2; omega
  have hcan : w.oq.queue.canPop w.used = true := (hpend.canPop_iff hsize).mpr (List.cons_ne_nil _ _)
  have htok : (w.used.ring w.oq.queue.lastUsedSlot).id.toUInt16.toNat = (w.oq.chain t).token := by
    rw [hslot, token_chain, toNat_toUInt16_ofNat ht16]
  obtain ⟨us, hpop⟩ := h.queue.popUsed_eq_of_direct H (mem_chains ht) (isIndirect_chain _ _ _) hcan htok
  set q1 := (w.oq.queue.afterRecycleDirect t 1).consumeUsed with hq1
  have hinv1 : q1.Inv (w.oq.chains.erase (w.oq.chain t)) := h.queue.popUsed (mem_chains ht) hpop
  have hfree1 : q1.freeHead = t := by simp [hq1]
  have hnum1 : q1.numUsed + 1 ≤ SIZE := by
    have := numUsed_eq_size h.queue
    simp [hq1]
    omega
  have hadd : q1.add H [] [w.oq.buffer t] = .ok ((q1.afterAddDirect H [] [w.oq.buffer t]).publish t, t) :=
    add_chain_eq H h.fits hinv1 hfree1 hnum1
  set q2 := (q1.afterAddDirect H [] [w.oq.buffer t]).publish t with hq2
  refine ⟨({ w.oq with queue := q2 }, notifyAfter w.used w.log q2), ?_, ?_⟩
  · intro T handler
    have hpop' : w.oq.queue.popUsed H w.used t [] [w.oq.buffer t] =
        .ok (q1, UInt32.ofNat bytes.length, us) := by
      rw [hslot] at hpop
      exact hpop
    have hpeek : w.oq.queue.peekUsed w.used = some t := by
      rw [hpend.peekUsed_cons hsize]
      exact congrArg some (toNat_toUInt16_ofNat ht16)
    have hpopRun := pop_of_some H w.used w.mem w.oq w.log hpeek ht hpop'
      (by rw [toNat_ofNat_of_lt hlen32]; exact hle)
    rw [toNat_ofNat_of_lt hlen32, hread] at hpopRun
    exact poll_of_pop_some handler hpopRun
      (addBufferToQueue_of_add H w.used { w.oq with queue := q1 } w.log ht hadd)
  · unfold World.afterPoll
    rw [hd]
    refine ⟨hsize, h.fits, h.disjoint, ?_, ?_, ?_, ?_⟩
    · exact (hinv1.add hadd).perm (perm_cons_erase_chains ht)
    · have hp1 : q1.UsedPending w.used (rest.map fun p =>
          (⟨UInt32.ofNat p.1, UInt32.ofNat p.2.length⟩ : UsedElem)) :=
        hpend.consumeUsed hsize (lastUsedIdx_afterRecycleDirect _ _ _)
      exact hp1.congr (by simp [hq2])
    · simpa [hd] using h.tokens
    · exact fun p hp => h.written p (by simp [hd, hp])

theorem Inv.step {H : Hal} {w' : World SIZE BUFFER_SIZE} (h : w.Inv) (hs : Step H w w') : w'.Inv := by
  cases hs with
  | complete t data len ht hlen hdata => exact h.complete ht hlen hdata
  | poll handler hrun =>
    rename_i r s
    cases hd : w.done with
    | nil =>
      rw [h.poll_nil H hd handler] at hrun
      cases hrun
      rw [afterPoll_self_of_nil hd]
      exact h
    | cons p rest =>
      obtain ⟨s', hpoll, hinv⟩ := h.poll_cons H hd
      rw [hpoll handler] at hrun
      cases hb : handler p.2 <;> rw [hb] at hrun <;> simp at hrun
      obtain ⟨-, rfl⟩ := hrun
      exact hinv
  | pollErr handler hrun =>
    rename_i e s
    cases hd : w.done with
    | nil =>
      rw [h.poll_nil H hd handler] at hrun
      cases hrun
    | cons p rest =>
      obtain ⟨s', hpoll, hinv⟩ := h.poll_cons H hd
      rw [hpoll handler] at hrun
      cases hb : handler p.2 <;> rw [hb] at hrun <;> simp at hrun
      obtain ⟨-, rfl⟩ := hrun
      exact hinv

theorem Inv.reachable (hsize : SizeOk SIZE) {H : Hal} {boxes : Nat → Nat}
    (hdisj : BoxesDisjoint SIZE BUFFER_SIZE boxes) {idx : UInt16} {indirect eventIdx : Bool}
    {log : List TransportCall} {mem : Nat → UInt8}
    (hr : Reachable H boxes idx indirect eventIdx log mem w) : w.Inv := by
  obtain ⟨oq, hnew, hrun⟩ := hr
  induction hrun with
  | refl => exact Inv.start hsize hdisj hnew log mem
  | tail _ hs ih => exact ih.step hs

/-- What a world between the driver's calls guarantees: every descriptor is outstanding,
token `t` as the chain of buffer `t` alone; and a poll either finds nothing and changes
nothing, or hands its handler the bytes the device reported for the chain it finished
with first and returns what the handler returns, without panicking. -/
structure Good (H : Hal) (w : World SIZE BUFFER_SIZE) : Prop where
  accounting : w.oq.queue.Accounting w.oq.chains
  numUsed_eq : w.oq.queue.numUsed = SIZE
  poll_idle : w.done = [] → ∀ {T : Type} (handler : List UInt8 → Except Error (Option T)),
    (poll H w.used w.mem handler).run (w.oq, w.log) = .ok none (w.oq, w.log)
  poll_handles : ∀ {t : Nat} {bytes : List UInt8} {rest : List (Nat × List UInt8)},
    w.done = (t, bytes) :: rest → ∃ s, ∀ {T : Type} (handler : List UInt8 → Except Error (Option T)),
      (poll H w.used w.mem handler).run (w.oq, w.log) = (ofResult (handler bytes)).run s

theorem Inv.good (H : Hal) (h : w.Inv) : w.Good H where
  accounting := h.queue.accounting
  numUsed_eq := numUsed_eq_size h.queue
  poll_idle := fun hd _ handler => h.poll_nil H hd handler
  poll_handles := fun hd => by
    obtain ⟨s, hpoll, -⟩ := h.poll_cons H hd
    exact ⟨s, hpoll⟩

end World

end OwningQueue
end VirtioDrivers
