import Mathlib.Data.List.Basic
import Mathlib.Algebra.Order.Group.Nat

/-! Little-endian byte encoding of numbers: `encode w n` is the `w` low bytes of `n`,
least significant first, and `decode` reads such bytes back. Decoding an encoding gives
the number modulo `256 ^ w`, so a number below that bound round-trips. -/
namespace LittleEndian

/-- The `w` low bytes of `n`, least significant first. -/
def encode : Nat → Nat → List UInt8
  | 0, _ => []
  | w + 1, n => UInt8.ofNat n :: encode w (n / 256)

/-- The number whose little-endian bytes are `bs`. -/
def decode : List UInt8 → Nat
  | [] => 0
  | b :: bs => b.toNat + 256 * decode bs

@[simp] theorem length_encode (w n : Nat) : (encode w n).length = w := by
  induction w generalizing n with
  | zero => rfl
  | succ w ih => simp [encode, ih]

theorem decode_encode (w n : Nat) : decode (encode w n) = n % 256 ^ w := by
  induction w generalizing n with
  | zero => simp [encode, decode, Nat.mod_one]
  | succ w ih =>
    simp only [encode, decode, ih]
    rw [Nat.pow_succ 256 w, Nat.mul_comm (256 ^ w) 256, Nat.mod_mul, UInt8.toNat_ofNat']

theorem decode_encode_of_lt {w n : Nat} (h : n < 256 ^ w) : decode (encode w n) = n := by
  rw [decode_encode, Nat.mod_eq_of_lt h]

theorem decode_append (xs ys : List UInt8) :
    decode (xs ++ ys) = decode xs + 256 ^ xs.length * decode ys := by
  induction xs with
  | nil => simp [decode]
  | cons x xs ih =>
    simp only [List.cons_append, decode, ih, List.length_cons, Nat.pow_succ]
    rw [Nat.mul_add, ← Nat.mul_assoc, Nat.mul_comm 256 (256 ^ xs.length), Nat.add_assoc]

theorem decode_lt (bs : List UInt8) : decode bs < 256 ^ bs.length := by
  induction bs with
  | nil => simp [decode]
  | cons b bs ih =>
    have hb := b.toNat_lt
    simp only [decode, List.length_cons, Nat.pow_succ]
    omega

end LittleEndian
