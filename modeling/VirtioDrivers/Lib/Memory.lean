import Mathlib.Data.List.Range

/-! A flat memory of cells addressed by `Nat`: reading `n` cells from an address, and
storing a list of cells from one. A store is seen in full by a read at its address
and not at all by a read of cells it does not cover. -/
namespace Memory
variable {α : Type*}

/-- The `n` cells from `addr` on. -/
def read (mem : Nat → α) (addr n : Nat) : List α := (List.range n).map (fun k => mem (addr + k))

/-- `mem` with `xs` stored from `addr` on. -/
def write (mem : Nat → α) (addr : Nat) (xs : List α) : Nat → α :=
  fun a => if h : addr ≤ a ∧ a - addr < xs.length then xs[a - addr] else mem a

@[simp] theorem length_read (mem : Nat → α) (addr n : Nat) : (read mem addr n).length = n := by
  simp [read]

theorem read_add (mem : Nat → α) (addr m n : Nat) :
    read mem addr (m + n) = read mem addr m ++ read mem (addr + m) n := by
  simp [read, List.range_add, Nat.add_assoc]

theorem read_write_self (mem : Nat → α) (addr : Nat) (xs : List α) {n : Nat}
    (hn : n ≤ xs.length) : read (write mem addr xs) addr n = xs.take n := by
  apply List.ext_getElem (by simp [hn])
  intro k hk _
  have hk' : k < xs.length := by simp at hk; omega
  simp [read, write, hk']

theorem read_write_of_disjoint (mem : Nat → α) {addr addr' n : Nat} {xs : List α}
    (h : addr + n ≤ addr' ∨ addr' + xs.length ≤ addr) :
    read (write mem addr' xs) addr n = read mem addr n := by
  apply List.ext_getElem (by simp)
  intro k hk _
  simp only [length_read] at hk
  have hout : ¬ (addr' ≤ addr + k ∧ addr + k - addr' < xs.length) := by omega
  simp [read, write, hout]

end Memory
