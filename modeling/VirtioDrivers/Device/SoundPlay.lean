import VirtioDrivers.Device.SoundLoop
import VirtioDrivers.Lib.Fair
import VirtioDrivers.Queue.Device

/-! `pcm_xfer` against a device that answers in order. The device reads the chains the driver
publishes in the available ring, from its own count of the ring up to the driver's, and
returns the oldest requests it holds, as many at each of its steps as a schedule says, with
a status written into each. Over the loop's window, the device's side is one more invariant:
the ring holds the tokens published and not yet read, the device holds those read and not
yet returned, the used ring holds those returned and not yet popped, and the device has read
the chain of every chunk published so far. With the status `S_OK`, and a schedule that
returns something infinitely often, `pcm_xfer` returns `Ok` having played every chunk once
and in order; with any other status it returns an error at the first pop, with requests
still in flight. -/
namespace VirtioDrivers
open Transport Sound VirtQueue IndexRing

/-- A transmit device that answers in order: the steps it has taken, its count of the
available ring, the chains it has read with the bytes it read from them, the heads of the
requests it holds, and its used ring. -/
structure FifoTx where
  steps : Nat
  lastAvail : UInt16
  received : List (List (UInt64 × UInt32 × DescFlags) × List (List UInt8))
  waiting : List Nat
  used : UsedRing

namespace FifoTx

/-- What the device takes from a chain: its descriptors, and the bytes of each buffer it
reads (those without `WRITE`), which it finds through `fetch` at the address and length the
descriptor gives. -/
def record (fetch : (Nat → UInt8) → UInt64 → UInt32 → List UInt8) (mem : Nat → UInt8)
    (ch : List (UInt64 × UInt32 × DescFlags)) :
    List (UInt64 × UInt32 × DescFlags) × List (List UInt8) :=
  (ch, ch.filterMap fun v => if v.2.2.write then none else some (fetch mem v.1 v.2.1))

/-- The device reads every chain published since its last step. -/
def take (H : Hal) (fetch : (Nat → UInt8) → UInt64 → UInt32 → List UInt8) (q : VirtQueue QUEUE_SIZE)
    (mem : Nat → UInt8) (d : FifoTx) : FifoTx :=
  let heads := drain QUEUE_SIZE q.avail.ring q.avail.idx d.lastAvail
  { d with
    lastAvail := q.avail.idx
    received := d.received ++ heads.map fun h => record fetch mem (q.chainAt H h)
    waiting := d.waiting ++ heads }

/-- The used element of a finished request: its head, and the eight bytes of the
`VirtIOSndPcmStatus` written. -/
def usedElem (h : Nat) : UsedElem := ⟨UInt32.ofNat h, 8⟩

/-- The device returns the oldest `n` requests it holds, in order. -/
def give (n : Nat) (d : FifoTx) : FifoTx :=
  { d with
    waiting := d.waiting.drop n
    used := ((d.waiting.take n).map usedElem).foldl (UsedRing.push QUEUE_SIZE) d.used }

end FifoTx

/-- The device that answers in order, returning `k n` requests at its `n`-th step, each with
the status `st`. It reads the driver's memory through `fetch`, which is how the platform
shows the device what the driver shares. -/
def fifoTx (H : Hal) (fetch : (Nat → UInt8) → UInt64 → UInt32 → List UInt8) (k : Nat → Nat)
    (st : UInt32) : TxDevice FifoTx where
  step d q mem := { (d.take H fetch q mem).give (k d.steps) with steps := d.steps + 1 }
  used d := d.used
  status _ _ := st

theorem FifoTx.record_encodeChain (H : Hal) (fetch : (Nat → UInt8) → UInt64 → UInt32 → List UInt8)
    (mem : Nat → UInt8) (b₁ b₂ o : Buf) :
    FifoTx.record fetch mem (encodeChain H (inputOutputIter [b₁, b₂] [o])) =
      (encodeChain H (inputOutputIter [b₁, b₂] [o]),
        [fetch mem (UInt64.ofNat (H.share b₁ .driverToDevice)) (UInt32.ofNat b₁.len),
          fetch mem (UInt64.ofNat (H.share b₂ .driverToDevice)) (UInt32.ofNat b₂.len)]) := by
  simp [FifoTx.record, encodeChain, inputOutputIter, bufView]

theorem take_range' (n s m : Nat) : (List.range' s m).take n = List.range' s (min n m) := by
  apply List.ext_getElem (by simp)
  intro i _ _
  simp only [List.getElem_take, List.getElem_range']

theorem drop_range' (n s m : Nat) :
    (List.range' s m).drop n = List.range' (s + min n m) (m - min n m) := by
  rw [List.drop_range']
  rcases Nat.le_total n m with h | h
  · rw [Nat.min_eq_left h, Nat.mul_one]
  · rw [Nat.min_eq_right h, Nat.sub_self, Nat.sub_eq_zero_of_le h, List.range'_zero,
      List.range'_zero]

theorem map_range'_update {f : Nat → Nat} {s n a : Nat} (h : s + n ≤ a) (t : Nat) :
    (List.range' s n).map (Function.update f a t) = (List.range' s n).map f :=
  List.map_congr_left fun i hi => by
    rw [List.mem_range'_1] at hi
    exact Function.update_of_ne (by omega) _ _

theorem range'_append_range' {s m e : Nat} (h1 : s ≤ m) (h2 : m ≤ e) :
    List.range' s (m - s) ++ List.range' m (e - m) = List.range' s (e - s) := by
  have h := List.range'_append_1 (s := s) (m := m - s) (n := e - m)
  rwa [Nat.add_sub_cancel' h1, show m - s + (e - m) = e - s by omega] at h

namespace VirtIOSound
variable (H : Hal) (stack : Nat)

/-- What the device reads for chunk `i` of `cks`: the stream id, the chunk, and the status
of the chunk's slot, as `add` encodes them. -/
def sentChain (cks : List Buf) (i : Nat) : List (UInt64 × UInt32 × DescFlags) :=
  encodeChain H (inputOutputIter [idBuf stack, cks.getD i ⟨0, 0⟩] [statusBuf stack (slot i)])

/-- The loop's window with the device's side, when `a` chunks of `cks` have gone out, the
device has read `τ` of them and returned `c`, and the driver has popped `b`: the available
ring holds the tokens of the chunks not read yet, the device holds those read and not
returned, the used ring holds those returned and not popped, and, when the HAL keeps the
tables of an indirect queue apart, the device has read the chain of each of the first `τ`
chunks, after the chains `R0` it had read before. -/
structure FifoWindow (idx : UInt16) (indirect eventIdx : Bool)
    (fetch : (Nat → UInt8) → UInt64 → UInt32 → List UInt8) (mem : Nat → UInt8)
    (R0 : List (List (UInt64 × UInt32 × DescFlags) × List (List UInt8))) (cks : List Buf) (x : XferLoop)
    (q : VirtQueue QUEUE_SIZE) (d : FifoTx) (a b c τ : Nat) (tok : Nat → Nat) : Prop where
  window : Window H stack idx indirect eventIdx cks x q a b tok
  le_c : b ≤ c
  c_le : c ≤ τ
  le_a : τ ≤ a
  avail : Holds QUEUE_SIZE q.avail.ring q.avail.idx d.lastAvail ((List.range' τ (a - τ)).map tok)
  waiting : d.waiting = (List.range' c (τ - c)).map tok
  pending : q.UsedPending d.used ((List.range' b (c - b)).map fun i => FifoTx.usedElem (tok i))
  received : (indirect = true → TablesApart H QUEUE_SIZE) →
    d.received = R0 ++ (List.range τ).map fun i => FifoTx.record fetch mem (sentChain H stack cks i)

section Device
variable {H stack} {idx : UInt16} {indirect eventIdx : Bool}
  {fetch : (Nat → UInt8) → UInt64 → UInt32 → List UInt8} {mem : Nat → UInt8}
  {R0 : List (List (UInt64 × UInt32 × DescFlags) × List (List UInt8))} {cks : List Buf} {x : XferLoop}
  {q : VirtQueue QUEUE_SIZE} {d : FifoTx} {a b c τ : Nat} {tok : Nat → Nat}

/-- The device catches up with the driver: it reads the chain of every chunk published since
its last step, which is the chunk's chain since the chunk is in flight. -/
theorem FifoWindow.take (hf : FifoWindow H stack idx indirect eventIdx fetch mem R0 cks x q d a b c τ tok) :
    FifoWindow H stack idx indirect eventIdx fetch mem R0 cks x q (d.take H fetch q mem) a b c a tok := by
  have hdrain := hf.avail.drain_eq sizeOk_QUEUE_SIZE.dvd (by decide)
  obtain ⟨cs, hr, hp⟩ := hf.window.reach
  have hind : q.indirect = indirect := (driverFields_of_reachable sizeOk_QUEUE_SIZE.pos hr).1
  have hread : (indirect = true → TablesApart H QUEUE_SIZE) →
      ∀ i ∈ List.range' τ (a - τ), q.chainAt H (tok i) = sentChain H stack cks i := by
    intro hapart i hi
    rw [List.mem_range'_1] at hi
    have hb := hf.le_c.trans hf.c_le
    exact chainAt_of_reachable sizeOk_QUEUE_SIZE hr _
      (hp.mem_iff.mpr (mem_inFlight stack (by omega) (by omega)))
      fun hi => hapart (hind ▸ indirect_of_isIndirect hi)
  have hτ := hf.le_a
  have hc := hf.c_le
  refine ⟨hf.window, hf.le_c, hc.trans hτ, le_rfl, ?_, ?_, hf.pending, ?_⟩
  · simpa [FifoTx.take] using holds_nil QUEUE_SIZE q.avail.ring q.avail.idx
  · rw [FifoTx.take, hdrain, hf.waiting, ← List.map_append, range'_append_range' hc hτ]
  · intro hapart
    have hsent : (List.range' τ (a - τ)).map ((fun h => FifoTx.record fetch mem (q.chainAt H h)) ∘ tok) =
        (List.range' τ (a - τ)).map fun i => FifoTx.record fetch mem (sentChain H stack cks i) :=
      List.map_congr_left fun i hi => congrArg (FifoTx.record fetch mem) (hread hapart i hi)
    have hrange := range'_append_range' (Nat.zero_le τ) hτ
    rw [Nat.sub_zero, Nat.sub_zero] at hrange
    rw [FifoTx.take, hdrain, hf.received hapart, List.append_assoc, List.map_map, hsent,
      ← List.map_append, List.range_eq_range', List.range_eq_range', hrange]

theorem FifoWindow.give (hf : FifoWindow H stack idx indirect eventIdx fetch mem R0 cks x q d a b c a tok)
    (n : Nat) :
    FifoWindow H stack idx indirect eventIdx fetch mem R0 cks x q (d.give n) a b (c + min n (a - c)) a tok := by
  have hbc := hf.le_c
  have hca := hf.c_le
  have hroom : c - b + min n (a - c) ≤ QUEUE_SIZE := by
    obtain ⟨cs, hr, -⟩ := hf.window.reach
    have := hf.window.inFlight_le.trans (Inv.reachable sizeOk_QUEUE_SIZE.pos hr).numUsed_le
    omega
  have hpush := hf.pending.pushAll sizeOk_QUEUE_SIZE
    (((d.waiting.take n).map FifoTx.usedElem)) (by simpa [hf.waiting, take_range'] using hroom)
  refine ⟨hf.window, by omega, by omega, le_rfl, hf.avail, ?_, ?_, hf.received⟩
  · show d.waiting.drop n = _
    rw [hf.waiting, ← List.map_drop, drop_range']
    congr 2
    omega
  · -- the requests returned go to the end of those not popped
    have hrange := range'_append_range' hbc (show c ≤ c + min n (a - c) by omega)
    rw [Nat.add_sub_cancel_left] at hrange
    rw [FifoTx.give]
    convert hpush using 1
    rw [hf.waiting, ← List.map_take, take_range', List.map_map, ← hrange, List.map_append]
    rfl

theorem FifoWindow.step (hf : FifoWindow H stack idx indirect eventIdx fetch mem R0 cks x q d a b c τ tok)
    (k : Nat → Nat) (st : UInt32) :
    FifoWindow H stack idx indirect eventIdx fetch mem R0 cks x q ((fifoTx H fetch k st).step d q mem) a b
      (c + min (k d.steps) (a - c)) a tok :=
  have h := hf.take.give (k d.steps)
  ⟨h.window, h.le_c, h.c_le, h.le_a, h.avail, h.waiting, h.pending, h.received⟩

/-- A first half that does not end the loop keeps the window with the device's side: the
chunk that goes out is published in the ring after those the device has not read. -/
theorem FifoWindow.add_eq_some (hf : FifoWindow H stack idx indirect eventIdx fetch mem R0 cks x q d a b c τ tok)
    {used : UsedRing} {log : List TransportCall} {x₁ : XferLoop}
    {s₁ : VirtQueue QUEUE_SIZE × List TransportCall}
    (h : (xferAdd H stack used x).run (q, log) = .ok (some x₁) s₁) :
    ∃ a₁ tok₁, FifoWindow H stack idx indirect eventIdx fetch mem R0 cks x₁ s₁.1 d a₁ b c τ tok₁ ∧ b < a₁ ∧
      a ≤ a₁ ∧ a₁ ≤ a + 1 ∧ (3 ≤ q.availableDesc → x.remaining ≠ [] → a₁ = a + 1) := by
  rcases xferAdd_eq_ok H stack h with ⟨h3, hx, rfl⟩ | ⟨h3, hr, hx, rfl⟩ |
    ⟨h3, buffer, rest, q', t, hr, hadd, hx, rfl⟩
  · cases hx
    exact ⟨a, tok, hf, hf.window.lt_of_full h3, le_rfl, by omega, fun h => absurd h h3⟩
  · split at hx
    · cases hx
    · cases hx
      exact ⟨a, tok, hf, hf.window.lt_of_head_ne ‹_›, le_rfl, by omega, fun _ h => absurd hr h⟩
  · cases hx
    obtain ⟨cs, hreach, -⟩ := hf.window.reach
    obtain ⟨hring, hidx, hlast⟩ := add_avail sizeOk_QUEUE_SIZE hreach hadd
    have hlt := hf.window.inFlight_lt h3
    have hτ := hf.le_a
    have hbc := hf.le_c
    have hcτ := hf.c_le
    refine ⟨a + 1, Function.update tok a t, ⟨hf.window.push h3 hr hadd, hbc, hcτ, by omega, ?_, ?_,
      ?_, hf.received⟩, by omega, by omega, by omega, fun _ _ => rfl⟩
    · -- the token goes in the ring after those the device has not read
      have hpush := hf.avail.push sizeOk_QUEUE_SIZE.dvd (by simp; omega) t
      show Holds QUEUE_SIZE q'.avail.ring q'.avail.idx d.lastAvail _
      rw [range'_succ_sub_eq_concat hτ, List.map_append, map_range'_update (by omega),
        List.map_singleton, Function.update_self, hring, hidx]
      exact hpush
    · rw [hf.waiting, map_range'_update (by omega)]
    · have heq : (List.range' b (c - b)).map (fun i => FifoTx.usedElem (Function.update tok a t i)) =
          (List.range' b (c - b)).map (fun i => FifoTx.usedElem (tok i)) :=
        List.map_congr_left fun i hi => by
          rw [List.mem_range'_1] at hi
          rw [Function.update_of_ne (by omega)]
      rw [heq]
      exact hf.pending.congr hlast

theorem FifoWindow.xferAdd_send (hf : FifoWindow H stack idx indirect eventIdx fetch mem R0 cks x q d a b c τ tok)
    (hcks : ∀ c ∈ cks, c.Fits) (h3 : 3 ≤ q.availableDesc) (hrem : x.remaining ≠ [])
    (used : UsedRing) (log : List TransportCall) :
    ∃ x₁ s₁ tok₁, (xferAdd H stack used x).run (q, log) = .ok (some x₁) s₁ ∧
      FifoWindow H stack idx indirect eventIdx fetch mem R0 cks x₁ s₁.1 d (a + 1) b c τ tok₁ := by
  obtain ⟨r, s₁, hadd⟩ := hf.window.xferAdd_ok hcks used log
  rcases r with _ | x₁
  · obtain ⟨-, -, hlen, -⟩ := hf.window.add_eq_none hadd
    exact absurd (by rw [hf.window.remaining, hlen, List.drop_length]) hrem
  · obtain ⟨a₁, tok₁, hf₁, -, -, -, hsent⟩ := hf.add_eq_some hadd
    exact ⟨x₁, s₁, tok₁, hadd, hsent h3 hrem ▸ hf₁⟩

/-- With a request returned and not popped, the second half pops the oldest request in
flight, which is the one returned, and then returns or fails by the status the device
wrote. -/
theorem FifoWindow.pop (hf : FifoWindow H stack idx indirect eventIdx fetch mem R0 cks x q d a b c τ tok)
    (hbc : b < c) (hcks : ∀ c ∈ cks, c.Fits) (st : UInt32) (log : List TransportCall) :
    ∃ q', FifoWindow H stack idx indirect eventIdx fetch mem R0 cks { x with tail := XferLoop.advance x.tail }
        q' d a (b + 1) c τ tok ∧
      (xferPop H stack d.used (fun _ => st) x).run (q, log) =
        if st = S_OK then .ok { x with tail := XferLoop.advance x.tail } (q', log)
        else .error (.err .ioError) (q', log) := by
  have hlt : b < a := by
    have := hf.c_le
    have := hf.le_a
    omega
  have hsplit : (List.range' b (c - b)).map (fun i => FifoTx.usedElem (tok i)) =
      FifoTx.usedElem (tok b) :: (List.range' (b + 1) (c - (b + 1))).map fun i => FifoTx.usedElem (tok i) := by
    rw [range'_sub_eq_cons hbc, List.map_cons]
  have hpend := hf.pending
  rw [hsplit] at hpend
  have hpop : q.canPop d.used = true :=
    (hpend.canPop_iff sizeOk_QUEUE_SIZE).mpr (List.cons_ne_nil _ _)
  have htok : (d.used.ring q.lastUsedSlot).id.toUInt16.toNat = tok b := by
    have := hf.window.token_lt le_rfl hlt
    rw [hpend.slot_eq sizeOk_QUEUE_SIZE]
    simp only [QUEUE_SIZE] at this
    simp [FifoTx.usedElem]
    omega
  have hb : x.buffers x.tail = some (cks.getD b ⟨0, 0⟩) := by
    rw [hf.window.tail]
    exact hf.window.buffers b le_rfl hlt
  obtain ⟨q', len, us, hpopUsed⟩ := hf.window.popUsed_ok hlt hcks hpop htok
  obtain ⟨cs, hreach, hp⟩ := hf.window.reach
  have hc : xferChain stack cks tok b ∈ cs := hp.mem_iff.mpr (mem_inFlight stack le_rfl hlt)
  have hpop' := hpopUsed
  rw [hf.window.tail, hf.window.tokens b le_rfl hlt] at hpop'
  obtain ⟨hring, hidx, hlast⟩ :=
    (Inv.reachable sizeOk_QUEUE_SIZE.pos hreach).popUsed_avail (c := xferChain stack cks tok b) hc hpop'
  refine ⟨q', ⟨hf.window.pop hlt hb hpopUsed, by omega, hf.c_le, hf.le_a, ?_, hf.waiting, ?_,
    hf.received⟩, xferPop_pop H stack hpop hb hpopUsed⟩
  · rw [hring, hidx]
    exact hf.avail
  · unfold UsedPending
    rw [hlast]
    exact Holds.pop hpend sizeOk_QUEUE_SIZE.dvd

theorem FifoWindow.pop_idle (hf : FifoWindow H stack idx indirect eventIdx fetch mem R0 cks x q d a b b τ tok)
    (status : Nat → UInt32) (log : List TransportCall) :
    (xferPop H stack d.used status x).run (q, log) = .ok x (q, log) := by
  have hpend := hf.pending
  rw [Nat.sub_self, List.range'_zero, List.map_nil] at hpend
  have hpop : q.canPop d.used = false := by
    simpa using (hpend.canPop_iff sizeOk_QUEUE_SIZE).not.mpr (by simp)
  exact xferPop_idle H stack hpop

/-- Before the first pass nothing is in flight, and the device has read and returned
everything published. -/
theorem FifoWindow.start (hr : Reachable H idx indirect eventIdx (q, []))
    (hlast : d.lastAvail = q.avail.idx) (hwait : d.waiting = []) (hused : q.UsedPending d.used []) :
    FifoWindow H stack idx indirect eventIdx fetch mem d.received cks (XferLoop.start cks) q d 0 0 0 0
      (fun _ => 0) where
  window := Window.start _ hr
  le_c := le_rfl
  c_le := le_rfl
  le_a := le_rfl
  avail := by
    rw [hlast]
    simpa using holds_nil QUEUE_SIZE q.avail.ring q.avail.idx
  waiting := by simp [hwait]
  pending := by simpa using hused
  received := fun _ => by simp

/-- After the device's step, a pass against the device that answers `S_OK` returns: it ends
the loop with every chunk sent and nothing in flight, or keeps the window, popping a request
whenever the device has returned one and sending a chunk whenever nothing is in flight. -/
theorem FifoWindow.pass_ok (hf : FifoWindow H stack idx indirect eventIdx fetch mem R0 cks x q d a b c a tok)
    (hcks : ∀ c ∈ cks, c.Fits) (log : List TransportCall) :
    ∃ r s', (xferPass H stack d.used (fun _ => S_OK) x).run (q, log) = .ok r s' ∧
      (r = none → s' = (q, log) ∧ a = b ∧ a = cks.length ∧
        Reachable H idx indirect eventIdx (q, [])) ∧
      ∀ x', r = some x' → ∃ a' b' tok',
        FifoWindow H stack idx indirect eventIdx fetch mem R0 cks x' s'.1 d a' b' c a tok' ∧
        a ≤ a' ∧ b ≤ b' ∧ (b < c → b' = b + 1) ∧ (a = b → a < a') := by
  obtain ⟨r₁, s₁, hadd⟩ := hf.window.xferAdd_ok hcks d.used log
  rcases r₁ with _ | x₁
  · obtain ⟨rfl, hend⟩ := hf.window.add_eq_none hadd
    exact ⟨none, _, xferPass_of_none H stack hadd, fun _ => ⟨rfl, hend⟩, fun _ h => by cases h⟩
  obtain ⟨a₁, tok₁, hf₁, hlt, hle, -, -⟩ := hf.add_eq_some hadd
  rcases Nat.lt_or_ge b c with hbc | hbc
  · -- the device has returned the oldest request in flight
    obtain ⟨q₂, hf₂, hpop⟩ := hf₁.pop hbc hcks S_OK s₁.2
    rw [if_pos rfl] at hpop
    refine ⟨_, _, xferPass_of_pop H stack hadd hpop, (fun h => by cases h), fun x' hx => ?_⟩
    cases hx
    exact ⟨a₁, b + 1, tok₁, hf₂, hle, by omega, fun _ => rfl, by omega⟩
  · obtain rfl : c = b := Nat.le_antisymm hbc hf.le_c
    refine ⟨_, _, xferPass_of_pop H stack hadd (hf₁.pop_idle _ s₁.2), (fun h => by cases h),
      fun x' hx => ?_⟩
    cases hx
    exact ⟨a₁, c, tok₁, hf₁, hle, le_rfl, fun h => absurd h (Nat.lt_irrefl _), by omega⟩

end Device

/-! ### Playing to the end -/

/-- The loop's states with the device's side, measured by the chunks left to send and the
chunks left to pop. -/
def PlayInv (idx : UInt16) (indirect eventIdx : Bool)
    (fetch : (Nat → UInt8) → UInt64 → UInt32 → List UInt8) (mem : Nat → UInt8)
    (R0 : List (List (UInt64 × UInt32 × DescFlags) × List (List UInt8))) (cks : List Buf)
    (p : XferLoop × (VirtQueue QUEUE_SIZE × List TransportCall) × FifoTx) (μ : Nat) : Prop :=
  ∃ a b c τ tok, FifoWindow H stack idx indirect eventIdx fetch mem R0 cks p.1 p.2.1.1 p.2.2 a b c τ tok ∧
    μ = (cks.length - a) + (cks.length - b)

/-- The next pass ends the loop, the device having read the chain of every chunk, and no
chain is left outstanding. -/
def PlayDone (idx : UInt16) (indirect eventIdx : Bool) (k : Nat → Nat)
    (fetch : (Nat → UInt8) → UInt64 → UInt32 → List UInt8) (mem : Nat → UInt8)
    (R0 : List (List (UInt64 × UInt32 × DescFlags) × List (List UInt8))) (cks : List Buf)
    (p : XferLoop × (VirtQueue QUEUE_SIZE × List TransportCall) × FifoTx) : Prop :=
  ∃ d' s', (xferLoop H stack (fifoTx H fetch k S_OK) mem 1 p.2.2 p.1).run p.2.1 = .ok d' s' ∧
    d'.received = R0 ++ (List.range cks.length).map (fun i =>
      FifoTx.record fetch mem (sentChain H stack cks i)) ∧
    Reachable H idx indirect eventIdx (s'.1, [])

section Play
variable {H stack} {idx : UInt16} {indirect eventIdx : Bool}
  {fetch : (Nat → UInt8) → UInt64 → UInt32 → List UInt8} {mem : Nat → UInt8}
  {R0 : List (List (UInt64 × UInt32 × DescFlags) × List (List UInt8))} {cks : List Buf} {k : Nat → Nat}

/-- Each pass against the device that answers `S_OK` ends the loop, or sends or pops without
ever adding to what is left, and it sends or pops at every step of the device that returns
something. -/
theorem play_progress (hcks : ∀ c ∈ cks, c.Fits)
    (hapart : indirect = true → TablesApart H QUEUE_SIZE) :
    Fair.Progress (XferStep H stack (fifoTx H fetch k S_OK) mem)
      (PlayInv H stack idx indirect eventIdx fetch mem R0 cks)
      (PlayDone H stack idx indirect eventIdx k fetch mem R0 cks) (fun p => p.2.2.steps) k := by
  rintro ⟨x, ⟨q, log⟩, d⟩ μ ⟨a, b, c, τ, tok, hf, rfl⟩
  have hf' := hf.step k S_OK
  obtain ⟨r, s', hpass, hnone, hsome⟩ := hf'.pass_ok hcks log
  rcases r with _ | x'
  · obtain ⟨rfl, -, hlen, hreach⟩ := hnone rfl
    refine .inl ⟨_, _, xferLoop_of_none H stack (fifoTx H fetch k S_OK) mem hpass, ?_, hreach⟩
    rw [hf'.received hapart, ← hlen]
  obtain ⟨a', b', tok', hf'', ha, hb, hpop, hsend⟩ := hsome x' rfl
  have haN := hf''.window.le_length
  have hab := hf''.window.le
  have hc := hf.le_c
  have hc' := hf'.c_le
  refine .inr ⟨(x', s', (fifoTx H fetch k S_OK).step d q mem), _, ⟨rfl, hpass⟩,
    ⟨a', b', _, a, tok', hf'', rfl⟩,
    rfl, by omega, fun hk => ?_⟩
  change 0 < k d.steps at hk
  rcases Nat.lt_or_ge b (c + min (k d.steps) (a - c)) with hbc | hbc
  · have := hpop hbc
    omega
  · have := hsend (by omega)
    omega

theorem xferLoop_plays (hk : Fair.Infinitely k) (hcks : ∀ c ∈ cks, c.Fits)
    (hapart : indirect = true → TablesApart H QUEUE_SIZE) {x : XferLoop}
    {q : VirtQueue QUEUE_SIZE} {d : FifoTx} {a b c τ : Nat} {tok : Nat → Nat}
    (hf : FifoWindow H stack idx indirect eventIdx fetch mem R0 cks x q d a b c τ tok) (log : List TransportCall) :
    ∃ fuel d' s', (xferLoop H stack (fifoTx H fetch k S_OK) mem fuel d x).run (q, log) = .ok d' s' ∧
      d'.received = R0 ++ (List.range cks.length).map (fun i =>
        FifoTx.record fetch mem (sentChain H stack cks i)) ∧
      Reachable H idx indirect eventIdx (s'.1, []) := by
  obtain ⟨p', hrun, d', s', hend, hrec, hreach⟩ :=
    Fair.reaches_done (play_progress hcks hapart) hk _ (x, (q, log), d) ⟨a, b, c, τ, tok, hf, rfl⟩
  obtain ⟨fuel, hfuel⟩ := xferLoop_of_steps (fifoTx H fetch k S_OK) mem hrun hend
  exact ⟨fuel, d', s', hfuel, hrec, hreach⟩

end Play

/-! ### The chunks of the frames -/

theorem length_chunks (frames : Buf) (p : Nat) :
    (chunks frames p).length = (frames.len + p - 1) / p := by
  simp [chunks]

theorem getD_chunks {frames : Buf} {p i : Nat} (hi : i < (frames.len + p - 1) / p) :
    (chunks frames p).getD i ⟨0, 0⟩ = ⟨frames.addr + i * p, min p (frames.len - i * p)⟩ := by
  rw [List.getD_eq_getElem _ _ (by rw [length_chunks]; exact hi)]
  simp [chunks]

theorem mul_lt_of_lt_chunks {len p i : Nat} (hp : 0 < p) (hi : i < (len + p - 1) / p) :
    i * p < len := by
  have h := (Nat.le_div_iff_mul_le hp).mp hi
  rw [Nat.succ_mul] at h
  omega

theorem fits_of_mem_chunks {frames : Buf} {p : Nat} (hp : 0 < p) (hlt : p < 2^32) :
    ∀ c ∈ chunks frames p, c.Fits := by
  intro c hc
  obtain ⟨i, hi, rfl⟩ := List.mem_map.mp hc
  have hi' := mul_lt_of_lt_chunks hp (List.mem_range.mp hi)
  exact ⟨by simp only [ne_eq, Nat.min_eq_zero_iff]; omega, by simp only; omega⟩

theorem add_min_le_of_lt_chunks {len p i : Nat} (hp : 0 < p) (hi : i < (len + p - 1) / p) :
    i * p + min p (len - i * p) ≤ len := by
  have := mul_lt_of_lt_chunks hp hi
  omega

theorem mem_chunks {frames : Buf} {p i : Nat} (hi : i < (frames.len + p - 1) / p) :
    (⟨frames.addr + i * p, min p (frames.len - i * p)⟩ : Buf) ∈ chunks frames p :=
  List.mem_map.mpr ⟨i, List.mem_range.mpr hi, rfl⟩

theorem read_streamIdBytes (mem : Nat → UInt8) (streamId : UInt32) :
    Memory.read (Memory.write mem stack (streamIdBytes streamId)) stack 4 =
      LittleEndian.encode 4 streamId.toNat := by
  rw [Memory.read_write_self _ _ _ (by simp [streamIdBytes])]
  simp [streamIdBytes]

/-- What the device takes from the chain of chunk `i`, when `fetch` shows it each buffer the
call hands over and the frames lie apart from the call's own frame: the chain, the stream
id's four little-endian bytes, and the bytes of the chunk. -/
theorem record_sentChain_chunks {fetch : (Nat → UInt8) → UInt64 → UInt32 → List UInt8}
    {mem : Nat → UInt8} {streamId : UInt32} {frames : Buf} {p i : Nat} (hp : 0 < p)
    (hi : i < (frames.len + p - 1) / p)
    (hfetch : ∀ m, ∀ b ∈ idBuf stack :: chunks frames p,
      fetch m (UInt64.ofNat (H.share b .driverToDevice)) (UInt32.ofNat b.len) = Memory.read m b.addr b.len)
    (hdisj : frames.addr + frames.len ≤ stack ∨ stack + 4 ≤ frames.addr) :
    FifoTx.record fetch (Memory.write mem stack (streamIdBytes streamId))
        (sentChain H stack (chunks frames p) i) =
      (encodeChain H (inputOutputIter [idBuf stack, ⟨frames.addr + i * p, min p (frames.len - i * p)⟩]
          [statusBuf stack (slot i)]),
        [LittleEndian.encode 4 streamId.toNat, Memory.read mem (frames.addr + i * p) (min p (frames.len - i * p))]) := by
  have hend := add_min_le_of_lt_chunks hp hi
  have hchunk : Memory.read (Memory.write mem stack (streamIdBytes streamId)) (frames.addr + i * p)
      (min p (frames.len - i * p)) = Memory.read mem (frames.addr + i * p) (min p (frames.len - i * p)) :=
    Memory.read_write_of_disjoint _ (by simp only [streamIdBytes, LittleEndian.length_encode]; omega)
  rw [sentChain, getD_chunks hi, FifoTx.record_encodeChain, hfetch _ _ List.mem_cons_self,
    hfetch _ _ (List.mem_cons_of_mem _ (mem_chunks hi)), hchunk]
  exact congrArg (fun bs => (_, [bs, _])) (read_streamIdBytes stack mem streamId)

section Playback
variable {H stack} {idx : UInt16} {indirect eventIdx : Bool}

/-- `pcm_xfer` plays exactly the given frames. Take a driver that is set up, a stream whose
parameters are set with a period of `p ≥ 1` bytes, any frames apart from the call's own
frame, a transmit queue reachable with no chain outstanding, with the feature or without it
(with it, a HAL that shares the tables of distinct heads at distinct addresses), and a device that answers in order with `S_OK`, in step with the queue, that returns
something infinitely often, and that finds each buffer the call hands over where the HAL
shares it. Then `pcm_xfer` returns `Ok`. After what it had read before, the device has read,
for each `i` in order, the chain of chunk `i` (the frames from `i * p` to `(i + 1) * p` or
the end) behind the stream id and ahead of the status of slot `i`, and from it the four
little-endian bytes of the stream id and the bytes of the chunk. No chain is left
outstanding. In every state the loop passes through, the chains outstanding are those the
ring records from `tail` on, at most `QUEUE_SIZE` of them, so no slot is taken while its
request is in flight. -/
theorem pcmXfer_plays_frames {k : Nat → Nat} (hk : Fair.Infinitely k)
    {fetch : (Nat → UInt8) → UInt64 → UInt32 → List UInt8} {replies : SetUpReplies}
    {s : VirtIOSound} {mem : Nat → UInt8} {streamId : UInt32} {prm : PcmParameters} {p : Nat}
    {frames : Buf} {d0 : FifoTx} (hset : s.isSetUp = true)
    (hprm : s.pcmParameters[streamId.toNat]? = some prm) (hsetup : prm.setup = true)
    (hp : prm.periodBytes.toNat = p) (hpos : 0 < p)
    (hfetch : ∀ m, ∀ b ∈ idBuf stack :: chunks frames p,
      fetch m (UInt64.ofNat (H.share b .driverToDevice)) (UInt32.ofNat b.len) = Memory.read m b.addr b.len)
    (hdisj : frames.addr + frames.len ≤ stack ∨ stack + 4 ≤ frames.addr)
    (hr : Reachable H idx indirect eventIdx (s.txQueue, []))
    (hapart : indirect = true → TablesApart H QUEUE_SIZE)
    (hlast : d0.lastAvail = s.txQueue.avail.idx) (hwait : d0.waiting = [])
    (hused : s.txQueue.UsedPending d0.used []) :
    ∃ fuel d' s', (pcmXfer H stack replies (fifoTx H fetch k S_OK) fuel d0 mem streamId frames).run s =
        .ok d' s' ∧
      d'.received = d0.received ++ (List.range ((frames.len + p - 1) / p)).map (fun i =>
        (encodeChain H (inputOutputIter [idBuf stack, ⟨frames.addr + i * p, min p (frames.len - i * p)⟩]
            [statusBuf stack (slot i)]),
          [LittleEndian.encode 4 streamId.toNat,
            Memory.read mem (frames.addr + i * p) (min p (frames.len - i * p))])) ∧
      Reachable H idx indirect eventIdx (s'.txQueue, []) ∧
      ∀ p', Relation.ReflTransGen
          (XferStep H stack (fifoTx H fetch k S_OK) (Memory.write mem stack (streamIdBytes streamId)))
          (XferLoop.start (chunks frames p), (s.txQueue, s.transport), d0) p' →
        ∃ n ≤ QUEUE_SIZE, ∃ cs, Reachable H idx indirect eventIdx (p'.2.1.1, cs) ∧
          cs.Perm (ringChains stack p'.1 n) := by
  subst hp
  have hcks : ∀ c ∈ chunks frames prm.periodBytes.toNat, c.Fits :=
    fits_of_mem_chunks hpos (UInt32.toNat_lt _)
  have hf : FifoWindow H stack idx indirect eventIdx fetch (Memory.write mem stack (streamIdBytes streamId))
      d0.received (chunks frames prm.periodBytes.toNat) (XferLoop.start _) s.txQueue d0 0 0 0 0
      (fun _ => 0) := FifoWindow.start hr hlast hwait hused
  obtain ⟨fuel, d', s', hloop, hrec, hreach⟩ := xferLoop_plays hk hcks hapart hf s.transport
  refine ⟨fuel, d', { s with txQueue := s'.1, transport := s'.2 }, ?_, ?_, hreach,
    fun p' hp' => ring_of_reachable _ _ hr hp'⟩
  · rw [pcmXfer_eq_loop hset hprm hsetup (by omega)]
    exact run_onTx_ok hloop
  · rw [hrec, length_chunks]
    exact congrArg (d0.received ++ ·) (List.map_congr_left fun i hi =>
      record_sentChain_chunks H stack hpos (List.mem_range.mp hi) hfetch hdisj)

/-- A driver with two streams, stream `1` set up with a period of four bytes, plays ten
bytes of frames through a new transmit queue with indirect descriptors, against the device that returns one request a
step and reads memory where the identity HAL shares it: the device reads three chunks, each
behind the bytes `1, 0, 0, 0` of the stream id. -/
theorem pcmXfer_plays_ten_bytes :
    ∃ fuel d' s', (pcmXfer identityHal 0x2000
        ⟨⟨UsedRing.zero, [], 0⟩, ⟨UsedRing.zero, [], 0⟩, ⟨UsedRing.zero, [], 0⟩⟩
        (fifoTx identityHal (fun m a l => Memory.read m a.toNat l.toNat) (fun _ => 1) S_OK) fuel
        ⟨0, 0, [], [], UsedRing.zero⟩ (fun a => UInt8.ofNat a) 1 ⟨0x1000, 10⟩).run
        ⟨[], init 0 false false, init 2 true false, 0, 2, 0, [PcmParameters.default, ⟨true, 8, 4⟩],
          0x3000, true⟩ = .ok d' s' ∧
      d'.received.map Prod.snd =
        [[[1, 0, 0, 0], [0, 1, 2, 3]], [[1, 0, 0, 0], [4, 5, 6, 7]], [[1, 0, 0, 0], [8, 9]]] := by
  obtain ⟨fuel, d', s', hrun, hrec, -⟩ := @pcmXfer_plays_frames identityHal 0x2000 2 true false
    (fun _ => 1) (fun n => ⟨n, le_rfl, Nat.one_pos⟩) (fun m a l => Memory.read m a.toNat l.toNat)
    ⟨⟨UsedRing.zero, [], 0⟩, ⟨UsedRing.zero, [], 0⟩, ⟨UsedRing.zero, [], 0⟩⟩
    ⟨[], init 0 false false, init 2 true false, 0, 2, 0, [PcmParameters.default, ⟨true, 8, 4⟩],
      0x3000, true⟩ (fun a => UInt8.ofNat a) 1 ⟨true, 8, 4⟩ 4 ⟨0x1000, 10⟩ ⟨0, 0, [], [], UsedRing.zero⟩
    rfl rfl rfl rfl (by decide)
    (fun m b hb => by
      have hlt : ∀ b ∈ idBuf 0x2000 :: chunks ⟨0x1000, 10⟩ 4, b.addr < 2 ^ 64 ∧ b.len < 2 ^ 32 := by
        decide
      obtain ⟨haddr, hlen⟩ := hlt b hb
      simp only [identityHal, UInt64.toNat_ofNat', UInt32.toNat_ofNat', Nat.mod_eq_of_lt haddr,
        Nat.mod_eq_of_lt hlen])
    (by decide) .refl (fun _ => tablesApart_identityHal (by decide)) rfl rfl (holds_nil _ _ _)
  refine ⟨fuel, d', s', hrun, ?_⟩
  rw [hrec]
  decide

theorem two_le_length_chunks {frames : Buf} {p : Nat} (hpos : 0 < p) (hlen : p < frames.len) :
    2 ≤ (chunks frames p).length := by
  rw [length_chunks]
  apply (Nat.le_div_iff_mul_le hpos).mpr
  omega

/-- A status other than `S_OK` makes `pcm_xfer` return an error with a request of its own
still in flight. Take a driver, stream, queue and device as for playing, but with frames of
more than one period, and a device that answers in order with a status other than `S_OK`
and returns something at its second step. The first pass sends chunk `0`. The device reads
it at its second step and returns it, and the second pass sends chunk `1` and pops chunk
`0`, whose status makes `pcm_xfer` return `IoError`. Chunk `1` is still outstanding, so the
queue does not have the descriptors in use it had on entry, and the device may still read
the chunk and write its status into the stack frame of `pcm_xfer` after it has returned. -/
theorem pcmXfer_error_leaves_request_in_flight {k : Nat → Nat} {st : UInt32} (hst : st ≠ S_OK)
    {fetch : (Nat → UInt8) → UInt64 → UInt32 → List UInt8} {replies : SetUpReplies} {s : VirtIOSound}
    {mem : Nat → UInt8} {streamId : UInt32} {prm : PcmParameters} {p : Nat}
    {frames : Buf} {d0 : FifoTx} {fuel : Nat} (hk : 0 < k (d0.steps + 1)) (hset : s.isSetUp = true)
    (hprm : s.pcmParameters[streamId.toNat]? = some prm) (hsetup : prm.setup = true)
    (hp : prm.periodBytes.toNat = p) (hpos : 0 < p) (hlen : p < frames.len)
    (hr : Reachable H idx indirect eventIdx (s.txQueue, []))
    (hlast : d0.lastAvail = s.txQueue.avail.idx) (hwait : d0.waiting = [])
    (hused : s.txQueue.UsedPending d0.used []) (hfuel : 2 ≤ fuel) :
    ∃ s' cs, (pcmXfer H stack replies (fifoTx H fetch k st) fuel d0 mem streamId frames).run s =
        .error (.err .ioError) s' ∧
      Reachable H idx indirect eventIdx (s'.txQueue, cs) ∧ cs ≠ [] ∧
      s'.txQueue.numUsed ≠ s.txQueue.numUsed := by
  subst hp
  have hcks : ∀ c ∈ chunks frames prm.periodBytes.toNat, c.Fits :=
    fits_of_mem_chunks hpos (UInt32.toNat_lt _)
  have hN : 2 ≤ (chunks frames prm.periodBytes.toNat).length := two_le_length_chunks hpos hlen
  obtain ⟨f, rfl⟩ : ∃ f, fuel = f + 2 := ⟨fuel - 2, by omega⟩
  have hf0 : FifoWindow H stack idx indirect eventIdx fetch (Memory.write mem stack (streamIdBytes streamId))
      d0.received (chunks frames prm.periodBytes.toNat) (XferLoop.start _) s.txQueue d0 0 0 0 0
      (fun _ => 0) := FifoWindow.start hr hlast hwait hused
  -- the first pass: nothing has come back, and chunk `0` goes out
  have hf0' := hf0.step k st
  rw [show 0 + min (k d0.steps) (0 - 0) = 0 by simp] at hf0'
  obtain ⟨x₁, s₁, tok₁, hadd₁, hf₁⟩ := hf0'.xferAdd_send hcks (hf0'.window.availableDesc_of_eq rfl)
    (show chunks frames _ ≠ [] from List.ne_nil_of_length_pos (by omega)) _ s.transport
  have hpass₁ := xferPass_of_pop H stack hadd₁ (hf₁.pop_idle (fun _ => st) s₁.2)
  -- the second pass: the device has returned chunk `0`; chunk `1` goes out, and `0` is popped
  have hf₁' := hf₁.step k st
  have hc₁ : 0 + min (k ((fifoTx H fetch k st).step d0 s.txQueue
      (Memory.write mem stack (streamIdBytes streamId))).steps) (0 + 1 - 0) = 1 := by
    change 0 + min (k (d0.steps + 1)) (0 + 1 - 0) = 1
    omega
  rw [hc₁] at hf₁'
  have hrem : x₁.remaining ≠ [] := by
    rw [hf₁.window.remaining]
    exact List.ne_nil_of_length_pos (by rw [List.length_drop]; omega)
  obtain ⟨x₂, s₂, tok₂, hadd₂, hf₂⟩ := hf₁'.xferAdd_send hcks
    (hf₁'.window.availableDesc_of_le (by omega)) hrem _ s₁.2
  obtain ⟨q₃, hf₃, hpop⟩ := hf₂.pop (by omega) hcks st s₂.2
  rw [if_neg hst] at hpop
  have hpass₂ := xferPass_of_pop_error H stack hadd₂ hpop
  have hloop : (xferLoop H stack (fifoTx H fetch k st) (Memory.write mem stack (streamIdBytes streamId))
      (f + 1 + 1) d0
      (XferLoop.start (chunks frames prm.periodBytes.toNat))).run
      (s.txQueue, s.transport) = .error (.err .ioError) (q₃, s₂.2) := by
    rw [xferLoop_of_some H stack (fifoTx H fetch k st) _ hpass₁,
      xferLoop_of_error H stack (fifoTx H fetch k st) _ hpass₂]
  obtain ⟨cs, hreach, hperm⟩ := hf₃.window.reach
  have hone : cs.length = 1 := by rw [hperm.length_eq, length_inFlight]
  have hzero : s.txQueue.numUsed = 0 := (Inv.reachable sizeOk_QUEUE_SIZE.pos hr).numUsed_nil
  refine ⟨{ s with txQueue := q₃, transport := s₂.2 }, cs, ?_, hreach, ?_, ?_⟩
  · rw [pcmXfer_eq_loop hset hprm hsetup (by omega)]
    exact run_onTx_error hloop
  · rintro rfl
    simp at hone
  · have hle : cs.length ≤ q₃.numUsed := (Inv.reachable sizeOk_QUEUE_SIZE.pos hreach).length_le_numUsed
    show q₃.numUsed ≠ s.txQueue.numUsed
    omega

/-- Ten bytes of frames with a period of four bytes through a new transmit queue, against a
device that answers in order with status `0` and returns one request a step: `pcm_xfer`
returns `IoError` with a chain of its own still outstanding. -/
theorem pcmXfer_error_leaves_request_in_flight_ten_bytes :
    ∃ s' cs, (pcmXfer identityHal 0x2000
        ⟨⟨UsedRing.zero, [], 0⟩, ⟨UsedRing.zero, [], 0⟩, ⟨UsedRing.zero, [], 0⟩⟩
        (fifoTx identityHal (fun m a l => Memory.read m a.toNat l.toNat) (fun _ => 1) 0) 2
        ⟨0, 0, [], [], UsedRing.zero⟩ (fun _ => 0) 0 ⟨0x1000, 10⟩).run
        ⟨[], init 0 false false, init 2 false false, 0, 1, 0, [⟨true, 8, 4⟩], 0x3000, true⟩ =
        .error (.err .ioError) s' ∧
      Reachable identityHal 2 false false (s'.txQueue, cs) ∧ cs ≠ [] ∧ s'.txQueue.numUsed ≠ 0 :=
  pcmXfer_error_leaves_request_in_flight (p := 4) (by decide) Nat.one_pos rfl rfl rfl rfl
    (by decide) (by decide) .refl rfl rfl (holds_nil _ _ _) le_rfl

end Playback

end VirtIOSound
end VirtioDrivers
