import Mathlib.Data.Nat.ModEq

/-! A ring of `n` slots between a producer and a consumer that each keep a free-running
16-bit count. The producer writes its entry number `i` into slot `i % n` and then
publishes its count; the consumer reads from its own count up to the producer's. When
`n` divides `2^16` and at most `n` entries are outstanding, the slots from the
consumer's count on hold exactly the entries it has not read, in order. -/
namespace IndexRing
variable {α : Type*}

/-- The slots from `last` on hold `pending`, in order, and the producer's count is
`last` plus their number. -/
def Holds (n : Nat) (ring : Nat → α) (idx last : UInt16) (pending : List α) : Prop :=
  idx = last + UInt16.ofNat pending.length ∧ pending.length ≤ n ∧
    ∀ k (hk : k < pending.length), ring ((last.toNat + k) % n) = pending[k]

/-- The producer writes one more entry and publishes it. -/
def push (n : Nat) (ring : Nat → α) (idx : UInt16) (a : α) : (Nat → α) × UInt16 :=
  (Function.update ring (idx.toNat % n) a, idx + 1)

theorem add_mod_mod_of_dvd {n m : Nat} (h : n ∣ m) (a b : Nat) : (a + b % m) % n = (a + b) % n := by
  rw [Nat.add_mod, Nat.mod_mod_of_dvd _ h, ← Nat.add_mod]

theorem mod_add_mod_of_dvd {n m : Nat} (h : n ∣ m) (a b : Nat) : (a % m + b) % n = (a + b) % n := by
  rw [Nat.add_mod, Nat.mod_mod_of_dvd _ h, ← Nat.add_mod]

theorem toNat_lt (x : UInt16) : x.toNat < 2^16 := x.toNat_lt_size

theorem add_ofNat_add (x : UInt16) (a b : Nat) :
    x + UInt16.ofNat (a + b) = x + UInt16.ofNat a + UInt16.ofNat b := by
  apply UInt16.toNat_inj.mp
  simp only [UInt16.toNat_add, UInt16.toNat_ofNat']
  omega

theorem toNat_add_mod_of_dvd {n : Nat} (h : n ∣ 2^16) (x y : UInt16) :
    (x + y).toNat % n = (x.toNat + y.toNat) % n := by
  rw [UInt16.toNat_add]
  exact Nat.mod_mod_of_dvd _ h

theorem toNat_add_ofNat_sub (x : UInt16) {m : Nat} (hm : m < 2^16) :
    (x + UInt16.ofNat m - x).toNat = m := by
  have hx := x.toNat_lt_size
  simp only [UInt16.toNat_sub, UInt16.toNat_add, UInt16.toNat_ofNat', UInt16.size] at *
  omega

theorem mod_add_ne {n a k m : Nat} (hkm : k < m) (hm : m < n) : (a + k) % n ≠ (a + m) % n := by
  intro h
  have hmod : k % n = m % n := Nat.ModEq.add_left_cancel' a h
  rw [Nat.mod_eq_of_lt (by omega), Nat.mod_eq_of_lt hm] at hmod
  omega

theorem toNat_and_sub_one (x : UInt16) {n : Nat} (hn : n.isPowerOfTwo) (hlt : n < 2^16) :
    (x &&& (UInt16.ofNat n - 1)).toNat = x.toNat % n := by
  obtain ⟨k, rfl⟩ := hn
  have hofNat : (UInt16.ofNat (2^k)).toNat = 2^k := by
    rw [UInt16.toNat_ofNat']
    exact Nat.mod_eq_of_lt hlt
  have hpos : 0 < 2^k := Nat.two_pow_pos k
  have hmask : (UInt16.ofNat (2^k) - 1).toNat = 2^k - 1 := by
    rw [UInt16.toNat_sub_of_le _ _ (by rw [UInt16.le_iff_toNat_le, hofNat]; simp; omega), hofNat]
    simp
  rw [UInt16.toNat_and, hmask, Nat.and_two_pow_sub_one_eq_mod]

theorem holds_nil (n : Nat) (ring : Nat → α) (last : UInt16) : Holds n ring last last [] := by
  simp [Holds]

section
variable {n : Nat} {ring : Nat → α} {idx last : UInt16} {pending : List α}

theorem Holds.head {a : α} {rest : List α} (h : Holds n ring idx last (a :: rest)) :
    ring (last.toNat % n) = a := by
  have h0 := h.2.2 0 (by simp)
  rwa [Nat.add_zero, List.getElem_cons_zero] at h0

theorem Holds.idx_ne_iff (h : Holds n ring idx last pending) (hn : n < 65536) :
    idx ≠ last ↔ pending ≠ [] := by
  have hlen : pending.length < 2^16 := by have := h.2.1; omega
  rw [h.1]
  constructor
  · rintro hne rfl
    simp at hne
  · intro hne heq
    have h0 := congrArg UInt16.toNat heq
    simp only [UInt16.toNat_add, UInt16.toNat_ofNat'] at h0
    have hl := toNat_lt last
    have hz : pending.length = 0 := by omega
    exact hne (List.length_eq_zero_iff.mp hz)

theorem Holds.push (h : Holds n ring idx last pending) (hdvd : n ∣ 2^16)
    (hroom : pending.length < n) (a : α) :
    Holds n (IndexRing.push n ring idx a).1 (IndexRing.push n ring idx a).2 last (pending ++ [a]) := by
  have hslot : idx.toNat % n = (last.toNat + pending.length) % n := by
    rw [h.1, toNat_add_mod_of_dvd hdvd, UInt16.toNat_ofNat', add_mod_mod_of_dvd hdvd]
  refine ⟨?_, by simp; omega, ?_⟩
  · rw [IndexRing.push, h.1, List.length_append, List.length_singleton, add_ofNat_add]
    rfl
  · intro k hk
    simp only [IndexRing.push, hslot]
    rcases Nat.lt_or_ge k pending.length with hlt | hge
    · rw [Function.update_of_ne (mod_add_ne hlt hroom), List.getElem_append_left hlt]
      exact h.2.2 k hlt
    · have hk' : k = pending.length := by simp at hk; omega
      subst hk'
      simp

/-- What the consumer reads when it catches up with the producer: the slots from its own
count up to the producer's. -/
def drain (n : Nat) (ring : Nat → α) (idx last : UInt16) : List α :=
  (List.range (idx - last).toNat).map fun j => ring ((last + UInt16.ofNat j).toNat % n)

theorem Holds.drain_eq (h : Holds n ring idx last pending) (hdvd : n ∣ 2^16) (hn : n < 2^16) :
    drain n ring idx last = pending := by
  have hlen : (idx - last).toNat = pending.length := by
    rw [h.1]
    exact toNat_add_ofNat_sub last (by have := h.2.1; omega)
  apply List.ext_getElem (by simp [drain, hlen])
  intro k hk _
  simp only [drain, List.getElem_map, List.getElem_range]
  rw [toNat_add_mod_of_dvd hdvd, UInt16.toNat_ofNat', add_mod_mod_of_dvd hdvd]
  exact h.2.2 k (by simpa [drain, hlen] using hk)

theorem Holds.pop {a : α} {rest : List α} (h : Holds n ring idx last (a :: rest)) (hdvd : n ∣ 2^16) :
    Holds n ring idx (last + 1) rest := by
  refine ⟨?_, by have := h.2.1; simp at this; omega, ?_⟩
  · rw [h.1, List.length_cons, Nat.add_comm, add_ofNat_add]
    apply UInt16.toNat_inj.mp
    simp only [UInt16.toNat_add, UInt16.toNat_ofNat', UInt16.toNat_one]
  · intro k hk
    have hk' := h.2.2 (k + 1) (by simp; omega)
    have hslot : ((last + 1).toNat + k) % n = (last.toNat + (k + 1)) % n := by
      rw [UInt16.toNat_add, mod_add_mod_of_dvd hdvd]
      congr 1
      simp only [UInt16.toNat_one]
      omega
    rw [hslot, hk']
    simp
end

end IndexRing
