import Mathlib.Data.List.GetD
import Mathlib.Data.List.Range

/-! A list of `c` cells used as a ring: the cells read from `start` on, going round past
the end, and the cells written from a position on, going round the same way. What such a
buffer is for is a bounded first-in first-out queue, stated here on a plain list, and a
run of calls on an implementation follows that queue when each call does: the rule for
that is the forward simulation of runs at the end. -/
namespace CircularBuffer
variable {α : Type*}

/-! ### Going round -/

theorem mod_eq_ite {x c : Nat} (h : x < 2 * c) : x % c = if x < c then x else x - c := by
  split
  · exact Nat.mod_eq_of_lt ‹_›
  · rw [Nat.mod_eq_sub_mod (by omega), Nat.mod_eq_of_lt (by omega)]

/-- The `n` cells of `buf` from `start` on, going round past the end. -/
def window [Inhabited α] (buf : List α) (start n : Nat) : List α :=
  (List.range n).map fun j => buf.getD ((start + j) % buf.length) default

/-- `xs` written into `buf` from `pos` on, going round past the end: cell `p` takes entry
`(p - pos) mod c` of `xs` when there is one. -/
def writeRound (buf : List α) (pos : Nat) (xs : List α) : List α :=
  buf.mapIdx fun p a => xs.getD ((p + buf.length - pos) % buf.length) a

section Window
variable [Inhabited α] {buf : List α} {start n : Nat}

@[simp] theorem length_window (buf : List α) (start n : Nat) : (window buf start n).length = n := by
  simp [window]

theorem getElem_window {i : Nat} (hi : i < (window buf start n).length) :
    (window buf start n)[i] = buf.getD ((start + i) % buf.length) default := by
  simp [window]

theorem take_window (k : Nat) : (window buf start n).take k = window buf start (min k n) := by
  rw [window, window, ← List.map_take, List.take_range]

theorem drop_window (k : Nat) :
    (window buf start n).drop k = window buf ((start + k) % buf.length) (n - k) := by
  apply List.ext_getElem
  · simp
  · intro i h1 h2
    rw [List.getElem_drop, getElem_window, getElem_window, Nat.mod_add_mod, Nat.add_assoc]

theorem window_eq_append (hstart : start < buf.length) (hn : n ≤ buf.length) :
    window buf start n =
      (buf.drop start).take (min n (buf.length - start)) ++
        buf.take (n - min n (buf.length - start)) := by
  apply List.ext_getElem
  · simp
    omega
  · intro i h1 h2
    simp only [length_window] at h1
    rw [getElem_window, mod_eq_ite (by omega), List.getElem_append]
    split_ifs with hwrap hfirst hfirst
    · simp only [List.getElem_take, List.getElem_drop]
      exact List.getD_eq_getElem _ _ _
    · simp at hfirst
      omega
    · simp at hfirst
      omega
    · simp only [List.length_take, List.length_drop, List.getElem_take]
      rw [List.getD_eq_getElem _ _ (by omega)]
      congr 1
      omega

end Window

section Write
variable {buf xs : List α} {pos : Nat}

@[simp] theorem length_writeRound (buf : List α) (pos : Nat) (xs : List α) :
    (writeRound buf pos xs).length = buf.length := by
  simp [writeRound]

theorem getElem_writeRound {p : Nat} (hp : p < (writeRound buf pos xs).length) :
    (writeRound buf pos xs)[p] =
      xs.getD ((p + buf.length - pos) % buf.length) (buf.get ⟨p, by simpa using hp⟩) := by
  simp [writeRound]

/-- Written with two slices, as far as the end of the buffer and then the rest at its
front, when it holds all of `xs`. -/
theorem writeRound_eq_append (hpos : pos < buf.length) (hxs : xs.length ≤ buf.length) :
    writeRound buf pos xs =
      xs.drop (min xs.length (buf.length - pos)) ++
        (buf.take pos ++ xs.take (min xs.length (buf.length - pos)) ++
          buf.drop (pos + min xs.length (buf.length - pos))).drop
          (xs.length - min xs.length (buf.length - pos)) := by
  apply List.ext_getElem
  · simp
    omega
  · intro p h1 h2
    simp only [length_writeRound] at h1
    rw [getElem_writeRound, List.get_eq_getElem, mod_eq_ite (by omega)]
    simp only [List.getElem_append, List.getElem_drop, List.getElem_take, List.length_append,
      List.length_take, List.length_drop]
    -- the part past the end went to the front; then come the cells before the write, the
    -- part up to the end, and the cells after it
    split_ifs <;> first
      | omega
      | (rw [List.getD_eq_getElem _ _ (by omega)]; congr 1; omega)
      | (rw [List.getD_eq_default _ _ (by omega)]; congr 1; omega)

theorem offset_mod {c s n i : Nat} (hs : s < c) (hn : n ≤ c) (hi : i < c) :
    ((s + i) % c + c - (s + n) % c) % c = (i + c - n) % c := by
  rw [mod_eq_ite (x := s + i) (by omega), mod_eq_ite (x := s + n) (by omega),
    mod_eq_ite (x := i + c - n) (by omega)]
  split_ifs <;> rw [mod_eq_ite (by omega)] <;> split_ifs <;> omega

/-- Writing `xs` right after the `n` cells read from `start` adds `xs` to what is read,
when all of them fit. -/
theorem window_writeRound [Inhabited α] {start n : Nat} (hstart : start < buf.length)
    (hfit : n + xs.length ≤ buf.length) :
    window (writeRound buf ((start + n) % buf.length) xs) start (n + xs.length) =
      window buf start n ++ xs := by
  apply List.ext_getElem
  · simp
  · intro i h1 h2
    simp only [length_window] at h1
    have hp : (start + i) % buf.length < buf.length := Nat.mod_lt _ (by omega)
    rw [getElem_window, length_writeRound, List.getD_eq_getElem _ _ (by simpa using hp),
      getElem_writeRound, List.get_eq_getElem, offset_mod hstart (by omega) (by omega)]
    by_cases hi : i < n
    · -- a cell read before the write: the write did not reach it
      rw [List.getElem_append_left (by simpa using hi), getElem_window,
        List.getD_eq_default _ _ (by rw [Nat.mod_eq_of_lt (by omega)]; omega),
        List.getD_eq_getElem _ _ hp]
    · rw [List.getElem_append_right (by simpa using hi), mod_eq_ite (by omega), if_neg (by omega),
        List.getD_eq_getElem _ _ (by omega)]
      congr 1
      simp only [length_window]
      omega

end Write

/-! ### The bounded queue -/

/-- A call on a bounded queue: add all of `xs` or nothing, move up to `out.length`
entries from its front to the front of `out`, or ask how many entries it holds or has
room for. -/
inductive Call (α : Type*) where
  | add (xs : List α)
  | drain (out : List α)
  | used
  | free

/-- What a call answers. -/
inductive Reply (α : Type*) where
  | added (ok : Bool)
  | drained (count : Nat) (out : List α)
  | count (n : Nat)
deriving DecidableEq

/-- The queue of capacity `c` holding `q`, oldest first, answers a call. -/
def answer (c : Nat) (q : List α) : Call α → List α × Reply α
  | .add xs => if q.length + xs.length ≤ c then (q ++ xs, .added true) else (q, .added false)
  | .drain out =>
    (q.drop (min q.length out.length),
      .drained (min q.length out.length) (q.take (min q.length out.length) ++
        out.drop (min q.length out.length)))
  | .used => (q, .count q.length)
  | .free => (q, .count (c - q.length))

/-! ### Runs of calls -/

section Runs
variable {σ τ ι ο ε : Type*}

/-- The replies of a fallible implementation to a list of calls, and the state it ends
in; the first failure ends the run. -/
def runCalls (step : σ → ι → Except ε (σ × ο)) : σ → List ι → Except ε (σ × List ο)
  | s, [] => pure (s, [])
  | s, i :: is => do
    let (s, o) ← step s i
    let (s, os) ← runCalls step s is
    pure (s, o :: os)

/-- The replies of a specification that always answers. -/
def runSpec (spec : τ → ι → τ × ο) : τ → List ι → τ × List ο
  | t, [] => (t, [])
  | t, i :: is => ((runSpec spec (spec t i).1 is).1, (spec t i).2 :: (runSpec spec (spec t i).1 is).2)

/-- Forward simulation: when every call from related states returns the specification's
reply in related states, so does every run. The induction is on the calls. -/
theorem runCalls_of_step (R : σ → τ → Prop) {step : σ → ι → Except ε (σ × ο)}
    {spec : τ → ι → τ × ο}
    (hstep : ∀ s t i, R s t → ∃ s', step s i = .ok (s', (spec t i).2) ∧ R s' (spec t i).1) :
    ∀ (is : List ι) (s : σ) (t : τ), R s t →
      ∃ s', runCalls step s is = .ok (s', (runSpec spec t is).2) ∧ R s' (runSpec spec t is).1
  | [], s, _, h => ⟨s, rfl, h⟩
  | i :: is, s, t, h => by
    obtain ⟨s₁, h₁, hR₁⟩ := hstep s t i h
    obtain ⟨s₂, h₂, hR₂⟩ := runCalls_of_step R hstep is s₁ (spec t i).1 hR₁
    refine ⟨s₂, ?_, hR₂⟩
    simp only [runCalls, h₁, runSpec, bind, Except.bind, h₂]
    rfl

end Runs

end CircularBuffer
