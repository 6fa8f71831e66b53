import Mathlib.Data.List.Nodup
import Mathlib.Data.List.Perm.Basic

/-! A pool of resources split between a free list and the footprints of the owners that
hold them, so that every resource is free or held by exactly one owner. Handing a
prefix of the free list to a new owner, and pushing an owner's footprint back on the
front of the free list, both keep the split. -/
namespace Ownership

variable {α β : Type*}

/-- The free list and the footprints `fp o` of the owners `os` are pairwise disjoint
and repeat nothing. -/
def Partitions (free : List α) (os : List β) (fp : β → List α) : Prop :=
  (free ++ os.flatMap fp).Nodup

section
variable {free : List α} {os : List β} {fp fp' : β → List α}

theorem Partitions.congr (h : Partitions free os fp) (hfp : ∀ o ∈ os, fp' o = fp o) :
    Partitions free os fp' := by
  unfold Partitions at h ⊢
  rwa [List.flatMap_congr hfp]

theorem Partitions.perm {os' : List β} (h : Partitions free os fp) (hp : os.Perm os') :
    Partitions free os' fp :=
  ((hp.flatMap_right fp).append_left free).nodup h

theorem Partitions.nodup_free (h : Partitions free os fp) : free.Nodup :=
  (List.nodup_append.mp h).1

theorem Partitions.nodup_fp (h : Partitions free os fp) {o : β} (ho : o ∈ os) :
    (fp o).Nodup :=
  (List.nodup_flatMap.mp (List.nodup_append.mp h).2.1).1 o ho

theorem Partitions.not_mem_fp_of_mem_free (h : Partitions free os fp) {x : α} (hx : x ∈ free)
    {o : β} (ho : o ∈ os) : x ∉ fp o := fun hxo =>
  (List.nodup_append.mp h).2.2 x hx x (List.mem_flatMap.mpr ⟨o, ho, hxo⟩) rfl

theorem Partitions.acquire {a : List α} {o : β} (h : Partitions (a ++ free) os fp)
    (hfp : ∀ o' ∈ os, fp' o' = fp o') (ho : fp' o = a) : Partitions free (o :: os) fp' := by
  have hperm : List.Perm ((a ++ free) ++ os.flatMap fp) (free ++ (o :: os).flatMap fp') := by
    rw [List.flatMap_cons, ho, List.flatMap_congr hfp, List.append_assoc]
    exact List.perm_append_comm_assoc a free _
  exact hperm.nodup h

section
variable [DecidableEq β]

theorem Partitions.perm_erase {o : β} (ho : o ∈ os) :
    List.Perm (free ++ os.flatMap fp) (fp o ++ free ++ (os.erase o).flatMap fp) := by
  have hcons : List.Perm (os.flatMap fp) (fp o ++ (os.erase o).flatMap fp) := by
    simpa using (List.perm_cons_erase ho).flatMap_right fp
  rw [List.append_assoc]
  exact (hcons.append_left free).trans (List.perm_append_comm_assoc _ _ _)

theorem Partitions.release (h : Partitions free os fp) {o : β} (ho : o ∈ os)
    (hfp : ∀ o' ∈ os.erase o, fp' o' = fp o') : Partitions (fp o ++ free) (os.erase o) fp' := by
  have h' : Partitions (fp o ++ free) (os.erase o) fp := (Partitions.perm_erase ho).nodup h
  exact h'.congr hfp

theorem Partitions.not_mem_fp_of_mem_erase (h : Partitions free os fp) {o o' : β} (ho : o ∈ os)
    (ho' : o' ∈ os.erase o) {x : α} (hx : x ∈ fp o) : x ∉ fp o' := by
  have h' : Partitions (fp o ++ free) (os.erase o) fp := (Partitions.perm_erase ho).nodup h
  exact h'.not_mem_fp_of_mem_free (List.mem_append_left _ hx) ho'

end

theorem Partitions.mem_of_lt {free : List Nat} {os : List β} {fp : β → List Nat} {n : Nat}
    (h : Partitions free os fp) (hlt : ∀ x ∈ free ++ os.flatMap fp, x < n)
    (hlen : n ≤ (free ++ os.flatMap fp).length) {x : Nat} (hx : x < n) :
    x ∈ free ∨ ∃ o ∈ os, x ∈ fp o := by
  have hsub : (free ++ os.flatMap fp).Subperm (List.range n) :=
    List.subperm_of_subset h fun y hy => List.mem_range.mpr (hlt y hy)
  have hperm := hsub.perm_of_length_le (by simpa using hlen)
  have hmem : x ∈ free ++ os.flatMap fp := hperm.mem_iff.mpr (List.mem_range.mpr hx)
  rcases List.mem_append.mp hmem with hf | ho
  · exact .inl hf
  · exact .inr (List.mem_flatMap.mp ho)

section
variable [DecidableEq β]

theorem length_flatMap_erase {o : β} (ho : o ∈ os) :
    (os.flatMap fp).length = (fp o).length + ((os.erase o).flatMap fp).length := by
  rw [((List.perm_cons_erase ho).flatMap_right fp).length_eq]
  simp

end
end

end Ownership
