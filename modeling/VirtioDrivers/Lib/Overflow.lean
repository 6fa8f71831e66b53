import Mathlib.Tactic.Ring

/-! Fixed-width unsigned arithmetic as a Rust build does it: a debug build panics when
`+`, `-` or `*` leaves the range of the type, a release build wraps around. The result
is `none` for a panic. Within range both builds compute the exact value. -/

/-- How a build treats arithmetic overflow. -/
inductive Overflow where
  | panics
  | wraps
deriving DecidableEq, Repr

namespace Overflow

/-- `a + b` on `u32`. -/
def add (o : Overflow) (a b : UInt32) : Option UInt32 :=
  if a.toNat + b.toNat < 2 ^ 32 then some (a + b)
  else match o with
    | .panics => none
    | .wraps => some (a + b)

/-- `a - b` on `u32`. -/
def sub (o : Overflow) (a b : UInt32) : Option UInt32 :=
  if b.toNat ≤ a.toNat then some (a - b)
  else match o with
    | .panics => none
    | .wraps => some (a - b)

/-- `a * b` on `u32`. -/
def mul (o : Overflow) (a b : UInt32) : Option UInt32 :=
  if a.toNat * b.toNat < 2 ^ 32 then some (a * b)
  else match o with
    | .panics => none
    | .wraps => some (a * b)

/-- An operation on `w`-bit unsigned integers whose exact result is `n`. -/
def fit (o : Overflow) (w n : Nat) : Option Nat :=
  if n < 2 ^ w then some n
  else match o with
    | .panics => none
    | .wraps => some (n % 2 ^ w)

/-- `a - b` on `w`-bit unsigned integers, for `a` and `b` in range. -/
def fitSub (o : Overflow) (w a b : Nat) : Option Nat :=
  if b ≤ a then some (a - b)
  else match o with
    | .panics => none
    | .wraps => some (2 ^ w + a - b)

variable (o : Overflow) {a b : UInt32}

theorem fit_of_lt {w n : Nat} (h : n < 2 ^ w) : o.fit w n = some n := by
  unfold fit
  rw [if_pos h]

theorem fit_panics_of_le {w n : Nat} (h : 2 ^ w ≤ n) : panics.fit w n = none := by
  unfold fit
  rw [if_neg (Nat.not_lt.mpr h)]

theorem eq_of_fit_panics {w n m : Nat} (h : panics.fit w n = some m) : m = n := by
  unfold fit at h
  split at h
  · exact (Option.some.inj h).symm
  · cases h

theorem fit_wraps (w n : Nat) : wraps.fit w n = some (n % 2 ^ w) := by
  unfold fit
  split
  · rename_i h
    rw [Nat.mod_eq_of_lt h]
  · rfl

theorem fitSub_of_le {w a b : Nat} (h : b ≤ a) : o.fitSub w a b = some (a - b) := by
  unfold fitSub
  rw [if_pos h]

theorem add_of_lt (h : a.toNat + b.toNat < 2 ^ 32) : o.add a b = some (a + b) := by
  unfold add
  rw [if_pos h]

theorem add_panics_of_le (h : 2 ^ 32 ≤ a.toNat + b.toNat) : panics.add a b = none := by
  unfold add
  rw [if_neg (Nat.not_lt.mpr h)]

theorem toNat_wraps_add_of_le (h : 2 ^ 32 ≤ a.toNat + b.toNat) :
    wraps.add a b = some (a + b) ∧ (a + b).toNat = a.toNat + b.toNat - 2 ^ 32 := by
  refine ⟨by unfold add; rw [if_neg (Nat.not_lt.mpr h)], ?_⟩
  rw [UInt32.toNat_add]
  have ha := a.toNat_lt
  have hb := b.toNat_lt
  omega

theorem sub_of_le (h : b.toNat ≤ a.toNat) : o.sub a b = some (a - b) := by
  unfold sub
  rw [if_pos h]

theorem sub_panics_of_lt (h : a.toNat < b.toNat) : panics.sub a b = none := by
  unfold sub
  rw [if_neg (Nat.not_le.mpr h)]

theorem toNat_wraps_sub_of_lt (h : a.toNat < b.toNat) :
    wraps.sub a b = some (a - b) ∧ (a - b).toNat = 2 ^ 32 + a.toNat - b.toNat := by
  refine ⟨by unfold sub; rw [if_neg (Nat.not_le.mpr h)], ?_⟩
  rw [UInt32.toNat_sub]
  have hb := b.toNat_lt
  omega

theorem mul_of_lt (h : a.toNat * b.toNat < 2 ^ 32) : o.mul a b = some (a * b) := by
  unfold mul
  rw [if_pos h]

theorem mul_panics_of_le (h : 2 ^ 32 ≤ a.toNat * b.toNat) : panics.mul a b = none := by
  unfold mul
  rw [if_neg (Nat.not_lt.mpr h)]

theorem mul_wraps (a b : UInt32) : wraps.mul a b = some (a * b) := by
  unfold mul
  split <;> rfl

end Overflow
