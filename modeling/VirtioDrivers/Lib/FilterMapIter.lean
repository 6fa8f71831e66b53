import Mathlib.Data.List.Basic

/-! A lazy `filter_map` iterator over a list. Its state is the list of the elements still
to come; a call looks at them in turn and stops at the first one the map sends to a
value, which it returns. Over any number of calls the iterator returns the values of
`xs.filterMap f` in order, then `none` on every call, and looks at each element once. -/
namespace FilterMapIter
variable {α β : Type*} (f : α → Option β)

/-- One call: the first value `f` gives, and the elements after the one that gave it. -/
def scan : List α → Option β × List α
  | [] => (none, [])
  | x :: xs =>
    match f x with
    | some y => (some y, xs)
    | none => scan xs

/-- The elements one call looks at: those before the first that gives a value, and that
one. -/
def passed : List α → List α
  | [] => []
  | x :: xs =>
    match f x with
    | some _ => [x]
    | none => x :: passed xs

/-- `k` calls: what each returned, and the elements still to come. -/
def scanN : Nat → List α → List (Option β) × List α
  | 0, xs => ([], xs)
  | k+1, xs =>
    let (y, rest) := scan f xs
    let (ys, rest) := scanN k rest
    (y :: ys, rest)

@[simp] theorem scan_nil : scan f [] = (none, []) := rfl

@[simp] theorem passed_nil : passed f [] = [] := rfl

theorem scan_cons_of_some {x : α} {y : β} (h : f x = some y) (xs : List α) :
    scan f (x :: xs) = (some y, xs) := by
  simp [scan, h]

theorem scan_cons_of_none {x : α} (h : f x = none) (xs : List α) :
    scan f (x :: xs) = scan f xs := by
  simp [scan, h]

theorem passed_cons_of_some {x : α} {y : β} (h : f x = some y) (xs : List α) :
    passed f (x :: xs) = [x] := by
  simp [passed, h]

theorem passed_cons_of_none {x : α} (h : f x = none) (xs : List α) :
    passed f (x :: xs) = x :: passed f xs := by
  simp [passed, h]

@[simp] theorem scanN_zero (xs : List α) : scanN f 0 xs = ([], xs) := rfl

theorem scanN_succ (k : Nat) (xs : List α) :
    scanN f (k+1) xs = ((scan f xs).1 :: (scanN f k (scan f xs).2).1, (scanN f k (scan f xs).2).2) :=
  rfl

theorem scan_fst (xs : List α) : (scan f xs).1 = (xs.filterMap f).head? := by
  induction xs with
  | nil => rfl
  | cons x xs ih =>
    cases hx : f x with
    | none => rw [scan_cons_of_none f hx, List.filterMap_cons_none hx, ih]
    | some y => rw [scan_cons_of_some f hx, List.filterMap_cons_some hx]; rfl

theorem filterMap_scan_snd (xs : List α) : (scan f xs).2.filterMap f = (xs.filterMap f).tail := by
  induction xs with
  | nil => rfl
  | cons x xs ih =>
    cases hx : f x with
    | none => rw [scan_cons_of_none f hx, List.filterMap_cons_none hx, ih]
    | some y => rw [scan_cons_of_some f hx, List.filterMap_cons_some hx]; rfl

theorem passed_append_scan_snd (xs : List α) : passed f xs ++ (scan f xs).2 = xs := by
  induction xs with
  | nil => rfl
  | cons x xs ih =>
    cases hx : f x with
    | none => rw [scan_cons_of_none f hx, passed_cons_of_none f hx, List.cons_append, ih]
    | some y => rw [scan_cons_of_some f hx, passed_cons_of_some f hx]; rfl

theorem scan_snd_of_filterMap_eq_nil {xs : List α} (h : xs.filterMap f = []) : (scan f xs).2 = [] := by
  induction xs with
  | nil => rfl
  | cons x xs ih =>
    cases hx : f x with
    | none =>
      rw [scan_cons_of_none f hx]
      exact ih (by rwa [List.filterMap_cons_none hx] at h)
    | some y => simp [List.filterMap_cons_some hx] at h

theorem scanN_fst (k : Nat) (xs : List α) :
    (scanN f k xs).1 = (List.range k).map fun i => (xs.filterMap f)[i]? := by
  induction k generalizing xs with
  | zero => rfl
  | succ k ih =>
    rw [scanN_succ, ih, scan_fst, filterMap_scan_snd, List.range_succ_eq_map, List.map_cons,
      List.map_map]
    simp only [List.head?_eq_getElem?, List.getElem?_tail, Function.comp_def]

theorem scanN_snd_of_length_lt {k : Nat} {xs : List α} (h : (xs.filterMap f).length < k) :
    (scanN f k xs).2 = [] := by
  induction k generalizing xs with
  | zero => omega
  | succ k ih =>
    rw [scanN_succ]
    dsimp only
    cases hnil : xs.filterMap f with
    | nil =>
      have hrest := scan_snd_of_filterMap_eq_nil f hnil
      rw [hrest]
      cases k with
      | zero => rfl
      | succ k =>
        apply ih
        simp
    | cons y ys =>
      apply ih
      rw [filterMap_scan_snd, hnil]
      rw [hnil] at h
      simpa using h

end FilterMapIter
