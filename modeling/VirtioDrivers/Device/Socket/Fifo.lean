import VirtioDrivers.Device.Socket.RingBuffer
import VirtioDrivers.Lib.CircularBuffer

/-! `RingBuffer` is a bounded first-in first-out queue of bytes. The bytes it holds are
its `used` cells from `start` on, going round; `add` writes with two copies, up to the
end of the buffer and the rest at its front, and `drain` reads with two slices the same
way. A buffer of capacity at least one with `used ≤ c` and `start < c` answers every call
as the queue of capacity `c` holding its bytes does, and leaves such a buffer; so a new
buffer does so over every run of calls, and no slice, copy or `%` on the way panics. -/
namespace VirtioDrivers
open CircularBuffer

namespace RingBuffer

/-- The bytes held, oldest first. -/
def contents (rb : RingBuffer) : List UInt8 := window rb.buffer rb.start rb.used

/-- `drain(out)` with the bytes written into `out`: those up to the end of the buffer into
`out[0..read_before_wraparound]`, the rest into `out[read_before_wraparound..bytes_read]`.
It returns the buffer, `out` and the number of bytes read. -/
def drainInto (rb : RingBuffer) (out : List UInt8) :
    Except Fault (RingBuffer × List UInt8 × Nat) := do
  let bytesRead := min rb.used out.length
  let readBeforeWraparound := min bytesRead (rb.buffer.length - rb.start)
  -- `checked_sub(..).unwrap_or_default()`
  let readAfterWraparound := bytesRead - readBeforeWraparound
  let before ← slice rb.buffer rb.start (rb.start + readBeforeWraparound)
  let out ← copyToSlice out 0 before
  let after ← slice rb.buffer 0 readAfterWraparound
  let out ← copyToSlice out readBeforeWraparound after
  let start ← remUsize (rb.start + bytesRead) rb.buffer.length
  pure ({ rb with used := rb.used - bytesRead, start := start }, out, bytesRead)

/-- A call of the queue's interface on the buffer: `add`, `drain` into `out`, `used` and
`free`. -/
def call (rb : RingBuffer) : Call UInt8 → Except Fault (RingBuffer × Reply UInt8)
  | .add bytes => do
    let (rb, added) ← rb.add bytes
    pure (rb, .added added)
  | .drain out => do
    let (rb, out, bytesRead) ← rb.drainInto out
    pure (rb, .drained bytesRead out)
  | .used => pure (rb, .count rb.used)
  | .free => pure (rb, .count rb.free)

/-- The buffer stands for the queue `q` of capacity `c`: it has `c ≥ 1` cells and holds at
most `c` bytes from a start inside it, and those bytes are `q`. -/
structure Holds (rb : RingBuffer) (c : Nat) (q : List UInt8) : Prop where
  capacity : rb.buffer.length = c
  pos : 0 < c
  used_le : rb.used ≤ c
  start_lt : rb.start < c
  contents : rb.contents = q

section
variable {rb : RingBuffer} {c : Nat} {q : List UInt8}

theorem Holds.new (hc : 0 < c) : (new c).Holds c [] where
  capacity := List.length_replicate ..
  pos := hc
  used_le := Nat.zero_le _
  start_lt := hc
  contents := rfl

theorem Holds.used_eq (h : rb.Holds c q) : rb.used = q.length := by
  rw [← h.contents, RingBuffer.contents, length_window]

theorem Holds.free_eq (h : rb.Holds c q) : rb.free = c - q.length := by
  rw [free, h.capacity, h.used_eq]

theorem Holds.add_of_room (h : rb.Holds c q) {bytes : List UInt8}
    (hroom : q.length + bytes.length ≤ c) :
    rb.add bytes = .ok ({ rb with
      buffer := writeRound rb.buffer ((rb.start + rb.used) % c) bytes
      used := rb.used + bytes.length }, true) := by
  have hused := h.used_eq
  have hcap := h.capacity
  have hfa : (rb.start + rb.used) % c < c := Nat.mod_lt _ h.pos
  unfold add
  rw [if_neg (by rw [h.free_eq]; omega), hcap, remUsize_of_pos h.pos]
  simp only [Except.ok_bind]
  rw [copyToSlice_of_le (by simp only [List.length_take]; omega)]
  simp only [Except.ok_bind]
  rw [if_pos (Nat.min_le_left _ _),
    copyToSlice_of_le (by simp only [List.length_append, List.length_take, List.length_drop]; omega)]
  simp only [Except.ok_bind, Except.pure_eq_ok]
  rw [writeRound_eq_append (by rwa [hcap]) (by omega)]
  simp only [hcap, List.take_zero, List.nil_append, Nat.zero_add, List.length_drop,
    List.length_take, min_eq_left (Nat.min_le_left _ _)]

theorem Holds.add_of_no_room (h : rb.Holds c q) {bytes : List UInt8}
    (hfull : c < q.length + bytes.length) : rb.add bytes = .ok (rb, false) := by
  have hq : q.length ≤ c := h.used_eq ▸ h.used_le
  unfold add
  rw [if_pos (by rw [h.free_eq]; omega)]
  rfl

theorem Holds.take_eq (h : rb.Holds c q) {k : Nat} (hk : k ≤ q.length) :
    q.take k = (rb.buffer.drop rb.start).take (min k (c - rb.start)) ++
      rb.buffer.take (k - min k (c - rb.start)) := by
  have hq : q.length ≤ c := h.used_eq ▸ h.used_le
  rw [← h.contents, RingBuffer.contents, take_window,
    window_eq_append (by rw [h.capacity]; exact h.start_lt) (by rw [h.capacity]; omega),
    h.capacity, h.used_eq, min_eq_left hk]

/-- The same `drain` with the bytes written into `out`: they go to its front, and the rest
of `out` stays as it was. -/
theorem Holds.drainInto_eq (h : rb.Holds c q) (out : List UInt8) :
    rb.drainInto out =
      .ok ({ rb with used := rb.used - min q.length out.length,
                     start := (rb.start + min q.length out.length) % c },
        q.take (min q.length out.length) ++ out.drop (min q.length out.length),
        min q.length out.length) := by
  have hcap := h.capacity
  have hs := h.start_lt
  have hq : q.length ≤ c := h.used_eq ▸ h.used_le
  unfold drainInto
  dsimp only
  rw [h.used_eq, hcap, slice_of_le (by omega) (by omega)]
  simp only [Except.ok_bind]
  rw [copyToSlice_of_le (by simp only [List.length_take, List.length_drop]; omega)]
  simp only [Except.ok_bind]
  rw [slice_of_le (by omega) (by omega)]
  simp only [Except.ok_bind]
  rw [copyToSlice_of_le (by simp only [List.length_append, List.length_take, List.length_drop]; omega),
    remUsize_of_pos h.pos]
  simp only [Except.ok_bind, Except.pure_eq_ok]
  set k := min q.length out.length
  set b := min k (c - rb.start)
  have hlb : ((rb.buffer.drop rb.start).take b).length = b := by
    simp only [List.length_take, List.length_drop]
    omega
  have hla : (rb.buffer.take (k - b)).length = k - b := by
    simp only [List.length_take]
    omega
  simp only [List.take_zero, List.nil_append, Nat.zero_add, Nat.add_sub_cancel_left, Nat.sub_zero,
    List.drop_zero, hlb, hla]
  rw [List.take_left' hlb, ← List.drop_drop, List.drop_left' hlb, List.drop_drop,
    show b + (k - b) = k by omega, h.take_eq (Nat.min_le_left _ _)]

theorem Holds.writeRound (h : rb.Holds c q) {bytes : List UInt8}
    (hroom : q.length + bytes.length ≤ c) :
    ({ rb with
        buffer := CircularBuffer.writeRound rb.buffer ((rb.start + rb.used) % c) bytes
        used := rb.used + bytes.length } : RingBuffer).Holds c (q ++ bytes) where
  capacity := by simp [h.capacity]
  pos := h.pos
  used_le := by
    show rb.used + bytes.length ≤ c
    rw [h.used_eq]
    exact hroom
  start_lt := h.start_lt
  contents := by
    show window _ rb.start (rb.used + bytes.length) = q ++ bytes
    rw [← h.contents, RingBuffer.contents, ← h.capacity,
      window_writeRound (by rw [h.capacity]; exact h.start_lt)
        (by rw [h.capacity, h.used_eq]; exact hroom)]

theorem Holds.drop (h : rb.Holds c q) (k : Nat) :
    ({ rb with used := rb.used - k, start := (rb.start + k) % c } : RingBuffer).Holds c (q.drop k) where
  capacity := h.capacity
  pos := h.pos
  used_le := Nat.le_trans (Nat.sub_le _ _) h.used_le
  start_lt := Nat.mod_lt _ h.pos
  contents := by
    show window rb.buffer ((rb.start + k) % c) (rb.used - k) = q.drop k
    rw [← h.contents, RingBuffer.contents, drop_window, h.capacity]

/-- Every call answers as the queue does, and leaves a buffer that stands for the queue
the call leaves. -/
theorem Holds.call (h : rb.Holds c q) (i : Call UInt8) :
    ∃ rb', rb.call i = .ok (rb', (answer c q i).2) ∧ rb'.Holds c (answer c q i).1 := by
  cases i with
  | add bytes =>
    by_cases hroom : q.length + bytes.length ≤ c
    · refine ⟨_, ?_, by simpa only [answer, if_pos hroom] using h.writeRound hroom⟩
      simp only [RingBuffer.call, h.add_of_room hroom, answer, if_pos hroom, Except.ok_bind,
        Except.pure_eq_ok]
    · have hfull : c < q.length + bytes.length := by omega
      refine ⟨rb, ?_, by simpa only [answer, if_neg hroom] using h⟩
      simp only [RingBuffer.call, h.add_of_no_room hfull, answer, if_neg hroom, Except.ok_bind,
        Except.pure_eq_ok]
  | drain out =>
    refine ⟨_, ?_, h.drop (min q.length out.length)⟩
    simp only [RingBuffer.call, h.drainInto_eq out, answer, Except.ok_bind, Except.pure_eq_ok]
  | used => exact ⟨rb, by simp only [RingBuffer.call, answer, h.used_eq, Except.pure_eq_ok], h⟩
  | free => exact ⟨rb, by simp only [RingBuffer.call, answer, h.free_eq, Except.pure_eq_ok], h⟩

end

/-- A new ring buffer of capacity `c ≥ 1` is the queue of capacity `c`: over every run of
calls it gives the queue's replies, `used` and `free` included, without a panic, and it
ends standing for the queue the run leaves. -/
theorem ringBuffer_refines_queue (c : Nat) (hc : 1 ≤ c) (calls : List (Call UInt8)) :
    ∃ rb : RingBuffer, runCalls RingBuffer.call (RingBuffer.new c) calls =
        .ok (rb, (runSpec (answer c) [] calls).2) ∧
      rb.Holds c (runSpec (answer c) [] calls).1 :=
  runCalls_of_step (fun (rb : RingBuffer) q => rb.Holds c q) (fun _ _ i h => h.call i) calls _ []
    (Holds.new hc)

/-- Four cells, written past the end and read back across it. -/
theorem ringBuffer_refines_queue_four :
    1 ≤ 4 ∧ ∃ rb : RingBuffer, runCalls RingBuffer.call (RingBuffer.new 4)
        [.add [1, 2, 3], .drain [0, 0], .add [4, 5, 6], .used, .drain [0, 0, 0, 0, 0], .free] =
        .ok (rb, (runSpec (answer 4) []
          [.add [1, 2, 3], .drain [0, 0], .add [4, 5, 6], .used, .drain [0, 0, 0, 0, 0], .free]).2) ∧
      rb.Holds 4 (runSpec (answer 4) []
        [.add [1, 2, 3], .drain [0, 0], .add [4, 5, 6], .used, .drain [0, 0, 0, 0, 0], .free]).1 :=
  ⟨by decide, ringBuffer_refines_queue 4 (by decide) _⟩

example : runCalls RingBuffer.call (RingBuffer.new 4)
    [.add [1, 2, 3], .drain [0, 0], .add [4, 5, 6], .used, .drain [0, 0, 0, 0, 0], .free] =
    .ok (⟨[5, 6, 3, 4], 0, 2⟩,
      [.added true, .drained 2 [1, 2], .added true, .count 4, .drained 4 [3, 4, 5, 6, 0], .count 4]) := by
  decide

end RingBuffer
end VirtioDrivers
