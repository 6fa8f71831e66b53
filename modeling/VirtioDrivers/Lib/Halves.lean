import Mathlib.Tactic.Ring

/-! A 64-bit word as two 32-bit halves, the way a device with 32-bit registers takes it:
the low half is the word truncated, `x as u32`, and the high half the word shifted down,
`(x >> 32) as u32`. The halves put back with `|||` give the word again. -/
namespace Halves

theorem toNat_or_shiftLeft (l h : UInt32) :
    (l.toUInt64 ||| (h.toUInt64 <<< 32)).toNat = l.toNat + h.toNat * 2 ^ 32 := by
  have hl := l.toNat_lt
  have hh := h.toNat_lt
  have hsh : (h.toUInt64 <<< 32).toNat = h.toNat <<< 32 := by
    rw [UInt64.toNat_shiftLeft, UInt32.toNat_toUInt64, Nat.shiftLeft_eq]
    simp only [UInt64.reduceToNat, Nat.reduceMod, Nat.shiftLeft_eq]
    omega
  -- the high half has no bit in common with the low one, so `|||` adds them
  rw [UInt64.toNat_or, hsh, UInt32.toNat_toUInt64, Nat.or_comm,
    ← Nat.shiftLeft_add_eq_or_of_lt hl, Nat.shiftLeft_eq]
  omega

theorem or_shiftLeft_toUInt32 (x : UInt64) :
    x.toUInt32.toUInt64 ||| ((x >>> 32).toUInt32.toUInt64 <<< 32) = x := by
  apply UInt64.toNat_inj.mp
  have hx := x.toNat_lt
  rw [toNat_or_shiftLeft]
  simp only [UInt64.toNat_toUInt32, UInt64.toNat_shiftRight, Nat.shiftRight_eq_div_pow,
    UInt64.reduceToNat, Nat.reduceMod, Nat.reducePow]
  omega

end Halves
