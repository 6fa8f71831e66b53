import VirtioDrivers.Queue.Types
import VirtioDrivers.Lib.ExceptBind

/-! The ring buffer a connection keeps its received bytes in
(`device/socket/connectionmanager.rs`). `used` bytes are held from `start` on, going
round past the end of the buffer. Slicing out of range and `%` by zero panic, as in
Rust; a buffer of capacity zero reaches the `%`. -/
namespace VirtioDrivers

/-- `dst[start..start + src.len()].copy_from_slice(src)`: a range past the end panics. -/
def copyToSlice {α : Type} (dst : List α) (start : Nat) (src : List α) : Except Fault (List α) :=
  if start + src.length ≤ dst.length then pure (dst.take start ++ src ++ dst.drop (start + src.length))
  else throw .panic

/-- `src[start..stop]`: a range past the end, or backwards, panics. -/
def slice {α : Type} (src : List α) (start stop : Nat) : Except Fault (List α) :=
  if start ≤ stop ∧ stop ≤ src.length then pure ((src.drop start).take (stop - start))
  else throw .panic

/-- `a % b` on `usize`: a divisor of zero panics. -/
def remUsize (a b : Nat) : Except Fault Nat :=
  if b = 0 then throw .panic else pure (a % b)

theorem copyToSlice_of_le {α : Type} {dst src : List α} {start : Nat}
    (h : start + src.length ≤ dst.length) :
    copyToSlice dst start src = .ok (dst.take start ++ src ++ dst.drop (start + src.length)) := by
  simp [copyToSlice, h]

theorem slice_of_le {α : Type} {src : List α} {start stop : Nat} (h1 : start ≤ stop)
    (h2 : stop ≤ src.length) : slice src start stop = .ok ((src.drop start).take (stop - start)) := by
  simp [slice, h1, h2]

theorem remUsize_of_pos {a b : Nat} (h : 0 < b) : remUsize a b = .ok (a % b) := by
  simp [remUsize, Nat.pos_iff_ne_zero.mp h]

structure RingBuffer where
  buffer : List UInt8
  used : Nat
  start : Nat
deriving DecidableEq, Repr

namespace RingBuffer
variable (rb : RingBuffer)

/-- `RingBuffer::new(capacity)`: zeroed bytes, none in use. -/
def new (capacity : Nat) : RingBuffer := ⟨List.replicate capacity 0, 0, 0⟩

def isEmpty : Bool := rb.used == 0

def free : Nat := rb.buffer.length - rb.used

/-- `add(bytes)`: the bytes go after those held, the part past the end of the buffer at
its front; without room for all of them nothing is added. -/
def add (bytes : List UInt8) : Except Fault (RingBuffer × Bool) := do
  if bytes.length > rb.free then return (rb, false)
  let firstAvailable ← remUsize (rb.start + rb.used) rb.buffer.length
  let copyLengthBeforeWraparound := min bytes.length (rb.buffer.length - firstAvailable)
  let buffer ← copyToSlice rb.buffer firstAvailable (bytes.take copyLengthBeforeWraparound)
  -- `bytes.get(copy_length_before_wraparound..)`
  let buffer ← if copyLengthBeforeWraparound ≤ bytes.length then
      copyToSlice buffer 0 (bytes.drop copyLengthBeforeWraparound)
    else pure buffer
  pure ({ rb with buffer := buffer, used := rb.used + bytes.length }, true)

/-- `drain(out)` into a buffer of `outLen` bytes: returns the bytes read, as many as are
held and fit. -/
def drain (outLen : Nat) : Except Fault (RingBuffer × List UInt8) := do
  let bytesRead := min rb.used outLen
  let readBeforeWraparound := min bytesRead (rb.buffer.length - rb.start)
  -- `checked_sub(..).unwrap_or_default()`
  let readAfterWraparound := bytesRead - readBeforeWraparound
  let before ← slice rb.buffer rb.start (rb.start + readBeforeWraparound)
  let after ← slice rb.buffer 0 readAfterWraparound
  let start ← remUsize (rb.start + bytesRead) rb.buffer.length
  pure ({ rb with used := rb.used - bytesRead, start := start }, before ++ after)

end RingBuffer
end VirtioDrivers
