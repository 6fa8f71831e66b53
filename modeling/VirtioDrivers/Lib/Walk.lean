import Mathlib.Logic.Function.Iterate
import Mathlib.Data.List.Nodup

/-! Walks along a successor map: the nodes met when following `next` from a start
for a given number of steps. This is the shape of a singly linked list threaded
through an array of nodes, where `next` reads the link field of each node. -/
namespace LinkWalk
variable {ι : Type*}

/-- The first `k` nodes met when following `next` from `i`, starting with `i`. -/
def walk (next : ι → ι) : ι → Nat → List ι
  | _, 0 => []
  | i, k+1 => i :: walk next (next i) k

@[simp] theorem walk_zero (next : ι → ι) (i : ι) : walk next i 0 = [] := rfl

@[simp] theorem walk_succ (next : ι → ι) (i : ι) (k : Nat) :
    walk next i (k+1) = i :: walk next (next i) k := rfl

@[simp] theorem length_walk (next : ι → ι) (i : ι) (k : Nat) : (walk next i k).length = k := by
  induction k generalizing i with
  | zero => rfl
  | succ k ih => simp [ih]

theorem walk_add (next : ι → ι) (i : ι) (a b : Nat) :
    walk next i (a+b) = walk next i a ++ walk next (next^[a] i) b := by
  induction a generalizing i with
  | zero => simp
  | succ a ih =>
    rw [Nat.add_right_comm, walk_succ, ih, walk_succ, Function.iterate_succ_apply]
    rfl

theorem walk_succ_right (next : ι → ι) (i : ι) (k : Nat) :
    walk next i (k+1) = walk next i k ++ [next^[k] i] := by
  rw [walk_add]
  rfl

theorem getElem_walk (next : ι → ι) (i : ι) {k j : Nat} (h : j < (walk next i k).length) :
    (walk next i k)[j] = next^[j] i := by
  induction k generalizing i j with
  | zero => simp at h
  | succ k ih =>
    cases j with
    | zero => simp
    | succ j =>
      simp only [walk_succ, List.getElem_cons_succ, Function.iterate_succ_apply]
      exact ih (next i) (by simpa using h)

theorem head_mem_walk (next : ι → ι) (i : ι) {k : Nat} (h : 0 < k) : i ∈ walk next i k := by
  obtain ⟨k, rfl⟩ := Nat.exists_eq_add_of_lt h
  simp

theorem iterate_mem_walk (next : ι → ι) (i : ι) {j k : Nat} (h : j < k) :
    next^[j] i ∈ walk next i k := by
  rw [← getElem_walk next i (by simpa using h)]
  exact List.getElem_mem _

theorem walk_congr {next next' : ι → ι} {i : ι} {k : Nat}
    (h : ∀ j ∈ walk next i k, next' j = next j) : walk next' i (k+1) = walk next i (k+1) := by
  induction k generalizing i with
  | zero => rfl
  | succ k ih =>
    have hi : next' i = next i := h i (by simp)
    rw [walk_succ, hi, ih (fun j hj => h j (by simp [hj]))]
    rfl

theorem walk_congr_all {next next' : ι → ι} {i : ι} {k : Nat}
    (h : ∀ j ∈ walk next i k, next' j = next j) : walk next' i k = walk next i k := by
  cases k with
  | zero => rfl
  | succ k =>
    apply walk_congr
    intro j hj
    exact h j (by rw [walk_succ_right]; exact List.mem_append_left _ hj)

theorem iterate_congr {next next' : ι → ι} {i : ι} {k : Nat}
    (h : ∀ j ∈ walk next i k, next' j = next j) : next'^[k] i = next^[k] i := by
  induction k generalizing i with
  | zero => rfl
  | succ k ih =>
    have hi : next' i = next i := h i (by simp)
    rw [Function.iterate_succ_apply, Function.iterate_succ_apply, hi]
    exact ih (fun j hj => h j (by simp [hj]))

theorem walk_mem_of_closed {next : ι → ι} {s : Set ι} {i : ι} (hi : i ∈ s)
    (hs : ∀ j ∈ s, next j ∈ s) {k : Nat} : ∀ j ∈ walk next i k, j ∈ s := by
  induction k generalizing i with
  | zero => simp
  | succ k ih =>
    intro j hj
    rcases List.mem_cons.mp hj with rfl | hj
    · exact hi
    · exact ih (hs i hi) j hj

theorem iterate_mem_of_closed {next : ι → ι} {s : Set ι} {i : ι} (hi : i ∈ s)
    (hs : ∀ j ∈ s, next j ∈ s) (k : Nat) : next^[k] i ∈ s := by
  induction k generalizing i with
  | zero => exact hi
  | succ k ih => exact ih (hs i hi)

theorem mem_walk_of_le {next : ι → ι} {i j : ι} {k n : Nat} (hkn : k ≤ n)
    (hj : j ∈ walk next i k) : j ∈ walk next i n := by
  obtain ⟨d, rfl⟩ := Nat.exists_eq_add_of_le hkn
  rw [walk_add]
  exact List.mem_append_left _ hj

theorem iterate_eq_iff_of_nodup {next : ι → ι} {i : ι} {n j k : Nat} (hnd : (walk next i n).Nodup)
    (hj : j < n) (hk : k < n) : next^[j] i = next^[k] i ↔ j = k := by
  rw [← getElem_walk next i (by simpa using hj), ← getElem_walk next i (by simpa using hk)]
  exact hnd.getElem_inj_iff

theorem getLast?_walk (next : ι → ι) (i : ι) (k : Nat) :
    (walk next i (k+1)).getLast? = some (next^[k] i) := by
  rw [walk_succ_right]
  simp

theorem walk_splice {next next' : ι → ι} {i f : ι} {n m : Nat} (hn : 0 < n)
    (hseg : ∀ j ∈ walk next i (n-1), next' j = next j) (hlast : next' (next^[n-1] i) = f)
    (hrest : ∀ j ∈ walk next f m, next' j = next j) :
    walk next' i (n + m) = walk next i n ++ walk next f m := by
  obtain ⟨n, rfl⟩ := Nat.exists_eq_add_of_lt hn
  simp only [Nat.zero_add, Nat.add_sub_cancel] at hseg hlast
  have hit : next'^[n+1] i = f := by
    rw [Function.iterate_succ_apply', iterate_congr hseg, hlast]
  rw [Nat.zero_add, walk_add, walk_congr hseg, hit, walk_congr_all hrest]

theorem walk_eq_range' {next : Nat → Nat} {i k : Nat}
    (h : ∀ j, i ≤ j → j + 1 < i + k → next j = j + 1) : walk next i k = List.range' i k := by
  induction k generalizing i with
  | zero => rfl
  | succ k ih =>
    rcases k with _ | k
    · rfl
    · have hi : next i = i + 1 := h i (Nat.le_refl i) (by omega)
      rw [walk_succ, hi, ih (fun j hj hjk => h j (by omega) (by omega))]
      rfl

/-- The nodes met when following `next` from `i` for as long as `more` holds of the node
just met, meeting at most `fuel` nodes: how a reader of the list finds its end. -/
def walkWhile (next : ι → ι) (more : ι → Bool) : Nat → ι → List ι
  | 0, _ => []
  | fuel + 1, i => i :: if more i then walkWhile next more fuel (next i) else []

/-- A list whose flag is set on its first `n - 1` nodes and not on the `n`-th is read as
its first `n` nodes, given the fuel for them. -/
theorem walkWhile_eq_walk {next : ι → ι} {more : ι → Bool} {i : ι} {n fuel : Nat}
    (hpos : 0 < n) (hn : n ≤ fuel) (hmore : ∀ k < n, more (next^[k] i) = decide (k + 1 < n)) :
    walkWhile next more fuel i = walk next i n := by
  induction n generalizing i fuel with
  | zero => omega
  | succ n ih =>
    obtain ⟨fuel, rfl⟩ : ∃ f, fuel = f + 1 := ⟨fuel - 1, by omega⟩
    have h0 : more i = decide (0 + 1 < n + 1) := hmore 0 (by omega)
    rw [walkWhile, walk_succ]
    rcases n with _ | n
    · -- the first node is the last one
      simp [h0]
    · -- the flag is set on the first node, and the rest is a list of `n + 1` nodes
      have hrest : ∀ k < n + 1, more (next^[k] (next i)) = decide (k + 1 < n + 1) := by
        intro k hk
        rw [← Function.iterate_succ_apply, hmore (k + 1) (by omega)]
        exact decide_eq_decide.mpr (by omega)
      rw [h0, decide_eq_true (by omega), if_pos rfl, ih (by omega) (by omega) hrest]

end LinkWalk
