import VirtioDrivers.Queue.Progress
import VirtioDrivers.Queue.Device
import VirtioDrivers.Transport.Basic
import VirtioDrivers.Lib.Memory

/-! `OwningQueue` (`queue/owning.rs`): a queue that owns one buffer for each of its
descriptors and keeps every buffer in the queue, handing each one the device has
filled to a handler and adding it back at once. The buffers the device writes are
read from memory; the device area is passed to the methods that read it. -/
namespace VirtioDrivers
open LinkWalk

/-- `OwningQueue<H, SIZE, BUFFER_SIZE>`: the queue, and where each of its buffers is. -/
structure OwningQueue (SIZE BUFFER_SIZE : Nat) where
  queue : VirtQueue SIZE
  buffers : Nat → Nat

namespace OwningQueue
variable {SIZE BUFFER_SIZE : Nat}

/-- Buffer `i` as the queue sees it. -/
def buffer (oq : OwningQueue SIZE BUFFER_SIZE) (i : Nat) : Buf := ⟨oq.buffers i, BUFFER_SIZE⟩

/-- The loop of `new`: buffer `i` goes in the queue as the only output of a chain, whose
token must be `i`. The allocator puts buffer `i` at `boxes i`. -/
def addAll (H : Hal) (BUFFER_SIZE : Nat) (boxes : Nat → Nat) :
    List Nat → VirtQueue SIZE → Except Fault (VirtQueue SIZE)
  | [], q => pure q
  | i :: rest, q => do
    let (q, token) ← q.add H [] [⟨boxes i, BUFFER_SIZE⟩]
    assert (i == token)
    addAll H BUFFER_SIZE boxes rest q

def new (H : Hal) (queue : VirtQueue SIZE) (boxes : Nat → Nat) :
    Except Fault (OwningQueue SIZE BUFFER_SIZE) := do
  let queue ← addAll H BUFFER_SIZE boxes (List.range SIZE) queue
  pure ⟨queue, boxes⟩

section
variable (H : Hal) (used : UsedRing) (mem : Nat → UInt8)

/-- `pop`: the first `len` bytes of the next buffer the device has used, and its token. -/
def pop : EStateM Fault (OwningQueue SIZE BUFFER_SIZE × List TransportCall)
    (Option (List UInt8 × Nat)) := do
  let (oq, log) ← getThe (OwningQueue SIZE BUFFER_SIZE × List TransportCall)
  let some token := oq.queue.peekUsed used | pure none
  let buffer ← MonadExcept.ofExcept (getIdx oq.buffers SIZE token)
  let (queue, len, _) ← MonadExcept.ofExcept
    (oq.queue.popUsed H used token [] [⟨buffer, BUFFER_SIZE⟩])
  set (({ oq with queue := queue }, log) : OwningQueue SIZE BUFFER_SIZE × List TransportCall)
  -- `&buffer[0..len]`
  MonadExcept.ofExcept (assert (decide (len.toNat ≤ BUFFER_SIZE)))
  pure (some (Memory.read mem buffer len.toNat, token))

/-- `add_buffer_to_queue`: buffer `index` goes back in the queue, under token `index`. -/
def addBufferToQueue (index : Nat) :
    EStateM Fault (OwningQueue SIZE BUFFER_SIZE × List TransportCall) Unit := do
  let (oq, log) ← getThe (OwningQueue SIZE BUFFER_SIZE × List TransportCall)
  let buffer ← if index < SIZE then pure (oq.buffers index) else throw (.err .wrongToken)
  let (queue, newToken) ← MonadExcept.ofExcept (oq.queue.add H [] [⟨buffer, BUFFER_SIZE⟩])
  set (({ oq with queue := queue }, log) : OwningQueue SIZE BUFFER_SIZE × List TransportCall)
  MonadExcept.ofExcept (assert (newToken == index))
  if queue.shouldNotify used then
    EStateM.zoom Prod.snd (fun s log => (s.1, log)) (Transport.notify queue.queueIdx)

/-- `poll`: hands the next buffer the device has used to `handler`, puts it back in the
queue, and returns what the handler returned. -/
def poll {T : Type} (handler : List UInt8 → Except Error (Option T)) :
    EStateM Fault (OwningQueue SIZE BUFFER_SIZE × List TransportCall) (Option T) := do
  let some (buffer, token) ← pop H used mem | pure none
  let result := handler buffer
  addBufferToQueue H used token
  ofResult result

/-- `poll` with a handler that also updates state `ρ` of its caller, the `&mut` borrows
a closure holds: the handler sees the bytes and that state, and returns its result with
the state it leaves. A handler may panic, which ends the program before the buffer goes
back. -/
def pollWith {ρ T : Type} (handler : List UInt8 → ρ → Except Fault (Option T) × ρ) :
    EStateM Fault ((OwningQueue SIZE BUFFER_SIZE × List TransportCall) × ρ) (Option T) := do
  let some (buffer, token) ← EStateM.zoom Prod.fst (fun s q => (q, s.2)) (pop H used mem)
    | pure none
  let (_, r) ← getThe ((OwningQueue SIZE BUFFER_SIZE × List TransportCall) × ρ)
  let (result, r) := handler buffer r
  modifyThe ((OwningQueue SIZE BUFFER_SIZE × List TransportCall) × ρ) fun s => (s.1, r)
  match result with
  | .error (.err e) => do
    EStateM.zoom Prod.fst (fun s q => (q, s.2)) (addBufferToQueue H used token)
    throw (.err e)
  | .error f => throw f
  | .ok v => do
    EStateM.zoom Prod.fst (fun s q => (q, s.2)) (addBufferToQueue H used token)
    pure v

end

section
variable (H : Hal) (used : UsedRing) (mem : Nat → UInt8) (oq : OwningQueue SIZE BUFFER_SIZE)
  (log : List TransportCall)

theorem pop_of_none (h : oq.queue.peekUsed used = none) :
    (pop H used mem).run (oq, log) = .ok none (oq, log) := by
  simp [pop, h, EStateM.run, EStateM.bind_apply]

theorem pop_of_some {t : Nat} {q' : VirtQueue SIZE} {len : UInt32} {us : List Unshare}
    (h : oq.queue.peekUsed used = some t) (ht : t < SIZE)
    (hpop : oq.queue.popUsed H used t [] [oq.buffer t] = .ok (q', len, us))
    (hlen : len.toNat ≤ BUFFER_SIZE) :
    (pop H used mem).run (oq, log) =
      .ok (some (Memory.read mem (oq.buffers t) len.toNat, t)) ({ oq with queue := q' }, log) := by
  simp only [buffer] at hpop
  simp [pop, h, EStateM.run, EStateM.bind_apply, getIdx_of_lt ht, hpop, hlen]

theorem pop_panics_of_size_le {t : Nat} (h : oq.queue.peekUsed used = some t) (ht : SIZE ≤ t) :
    (pop H used mem).run (oq, log) = .error .panic (oq, log) := by
  simp [pop, h, getIdx, Nat.not_lt.mpr ht, EStateM.run, EStateM.bind_apply]

theorem pop_panics_of_len_gt {t : Nat} {q' : VirtQueue SIZE} {len : UInt32} {us : List Unshare}
    (h : oq.queue.peekUsed used = some t) (ht : t < SIZE)
    (hpop : oq.queue.popUsed H used t [] [oq.buffer t] = .ok (q', len, us))
    (hlen : BUFFER_SIZE < len.toNat) :
    (pop H used mem).run (oq, log) = .error .panic ({ oq with queue := q' }, log) := by
  simp only [buffer] at hpop
  simp [pop, h, EStateM.run, EStateM.bind_apply, getIdx_of_lt ht, hpop, Nat.not_le.mpr hlen, assert]

/-- The transport's calls after an `add` that made `q`: a notification if the device
asks for one. -/
def notifyAfter (q : VirtQueue SIZE) : List TransportCall :=
  if q.shouldNotify used then log ++ [.notify q.queueIdx] else log

theorem addBufferToQueue_of_add {t : Nat} {q' : VirtQueue SIZE} (ht : t < SIZE)
    (hadd : oq.queue.add H [] [oq.buffer t] = .ok (q', t)) :
    (addBufferToQueue H used t).run (oq, log) =
      .ok () ({ oq with queue := q' }, notifyAfter used log q') := by
  simp only [buffer] at hadd
  by_cases hn : q'.shouldNotify used <;>
  simp [addBufferToQueue, notifyAfter, hn, ht, hadd, EStateM.run, EStateM.bind_apply, EStateM.zoom,
    Transport.notify, Transport.command]

end

section
variable {H : Hal} {used : UsedRing} {mem : Nat → UInt8}
  {s s₁ s₂ : OwningQueue SIZE BUFFER_SIZE × List TransportCall}

theorem poll_of_pop_none {T : Type} (handler : List UInt8 → Except Error (Option T))
    (hpop : (pop H used mem).run s = .ok none s₁) :
    (poll H used mem handler).run s = .ok none s₁ := by
  simp only [poll, EStateM.run_bind_of_ok hpop]
  rfl

theorem pollWith_of_pop_error {ρ T : Type} (handler : List UInt8 → ρ → Except Fault (Option T) × ρ)
    {f : Fault} {r : ρ} (hpop : (pop H used mem).run s = .error f s₁) :
    (pollWith H used mem handler).run (s, r) = .error f (s₁, r) :=
  EStateM.run_bind_of_error (EStateM.run_zoom_error hpop)

/-- `poll_with` hands the handler the bytes `pop` read, puts the buffer back, and returns
what the handler returned, with the state the handler left. -/
theorem pollWith_of_pop_some {ρ T : Type} {handler : List UInt8 → ρ → Except Fault (Option T) × ρ}
    {bytes : List UInt8} {t : Nat} {r r' : ρ} {v : Option T}
    (hpop : (pop H used mem).run s = .ok (some (bytes, t)) s₁) (hh : handler bytes r = (.ok v, r'))
    (hadd : (addBufferToQueue H used t).run s₁ = .ok () s₂) :
    (pollWith H used mem handler).run (s, r) = .ok v (s₂, r') := by
  have hz : (EStateM.zoom Prod.fst (fun s q => (q, s.2)) (pop H used mem)).run (s, r) =
      .ok (some (bytes, t)) (s₁, r) := EStateM.run_zoom_ok hpop
  have hz' : (EStateM.zoom Prod.fst (fun s q => (q, s.2)) (addBufferToQueue H used t)).run (s₁, r') =
      .ok () (s₂, r') := EStateM.run_zoom_ok hadd
  simp only [EStateM.run] at hz hz'
  simp only [pollWith, EStateM.run, EStateM.bind_apply, hz, EStateM.getThe_apply,
    EStateM.modifyThe_apply, hh, hz', EStateM.pure_apply]

theorem poll_of_pop_some {T : Type} (handler : List UInt8 → Except Error (Option T))
    {bytes : List UInt8} {t : Nat} (hpop : (pop H used mem).run s = .ok (some (bytes, t)) s₁)
    (hadd : (addBufferToQueue H used t).run s₁ = .ok () s₂) :
    (poll H used mem handler).run s = (ofResult (handler bytes)).run s₂ := by
  simp only [poll, EStateM.run_bind_of_ok hpop]
  exact EStateM.run_bind_of_ok hadd

end

/-- The chain of token `t`: buffer `t` alone, written by the device. -/
def chain (oq : OwningQueue SIZE BUFFER_SIZE) (t : Nat) : Chain := ⟨t, [], [oq.buffer t]⟩

/-- Every token's chain, in order. -/
def chains (oq : OwningQueue SIZE BUFFER_SIZE) : List Chain := (List.range SIZE).map oq.chain

/-- A buffer the queue can hold: not empty, and with a length that fits in a `u32`. -/
def BufferFits (BUFFER_SIZE : Nat) : Prop := 0 < BUFFER_SIZE ∧ BUFFER_SIZE < 2^32

theorem buffer_fits {oq : OwningQueue SIZE BUFFER_SIZE} (hb : BufferFits BUFFER_SIZE) (t : Nat) :
    (oq.buffer t).Fits :=
  ⟨Nat.pos_iff_ne_zero.mp hb.1, hb.2⟩

@[simp] theorem count_chain (oq : OwningQueue SIZE BUFFER_SIZE) (t : Nat) : (oq.chain t).count = 1 := rfl

@[simp] theorem token_chain (oq : OwningQueue SIZE BUFFER_SIZE) (t : Nat) : (oq.chain t).token = t := rfl

theorem isIndirect_chain (q : VirtQueue SIZE) (oq : OwningQueue SIZE BUFFER_SIZE) (t : Nat) :
    q.isIndirect (oq.chain t) = false := by
  simp [VirtQueue.isIndirect]

theorem footprint_chain (q : VirtQueue SIZE) (oq : OwningQueue SIZE BUFFER_SIZE) (t : Nat) :
    q.footprint (oq.chain t) = [t] := by
  simp [VirtQueue.footprint, isIndirect_chain, walk_succ]

theorem mem_chains {oq : OwningQueue SIZE BUFFER_SIZE} {t : Nat} (ht : t < SIZE) :
    oq.chain t ∈ oq.chains :=
  List.mem_map.mpr ⟨t, List.mem_range.mpr ht, rfl⟩

theorem perm_cons_erase_chains {oq : OwningQueue SIZE BUFFER_SIZE} {t : Nat} (ht : t < SIZE) :
    (oq.chain t :: oq.chains.erase (oq.chain t)).Perm oq.chains :=
  (List.perm_cons_erase (mem_chains ht)).symm

theorem numUsed_eq_size {q : VirtQueue SIZE} {oq : OwningQueue SIZE BUFFER_SIZE}
    (h : q.Inv oq.chains) : q.numUsed = SIZE := by
  rw [h.numUsed_eq, chains, List.flatMap_map]
  simp [footprint_chain]

theorem add_chain_eq (H : Hal) {q : VirtQueue SIZE} {cs : List Chain} {oq : OwningQueue SIZE BUFFER_SIZE}
    {t : Nat} (hb : BufferFits BUFFER_SIZE) (h : q.Inv cs)
    (hfree : q.freeHead = t) (hnum : q.numUsed + 1 ≤ SIZE) :
    q.add H [] [oq.buffer t] = .ok ((q.afterAddDirect H [] [oq.buffer t]).publish t, t) := by
  rw [← hfree]
  exact VirtQueue.add_eq_of_direct H (by simp [inputOutputIter]) (by simp) (by simpa using hnum)
    (by simp [inputOutputIter, buffer_fits hb]) (h.walk_free_lt _)

end OwningQueue
end VirtioDrivers
