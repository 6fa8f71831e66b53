import VirtioDrivers.Queue.Run

/-! When `add` refuses a request for want of descriptors (`add`'s capacity checks and
`available_desc`). Past its two checks, nothing in `add` hands an `Error` back: the
branches that build the chain can only panic. So `add` returns `QueueFull` exactly when a
check fails, and for a queue whose `num_used` stays within `SIZE` that is exactly when the
request needs more than `available_desc` descriptors; with indirect descriptors too, where
`available_desc` counts a whole queue for any free descriptor. -/
namespace VirtioDrivers
open Except

/-- A computation whose only failure is a panic: it hands no `Error` back to its caller. -/
def PanicOnly {α : Type} (x : Except Fault α) : Prop := ErrorsSatisfy (· = Fault.panic) x

theorem panicOnly_pure {α : Type} (a : α) : PanicOnly (pure a : Except Fault α) :=
  ErrorsSatisfy.pure a

theorem panicOnly_panic {α : Type} : PanicOnly (throw .panic : Except Fault α) :=
  ErrorsSatisfy.throw rfl

theorem panicOnly_assert (c : Bool) : PanicOnly (assert c) := by
  unfold assert
  exact ErrorsSatisfy.ite (panicOnly_pure ()) panicOnly_panic

theorem panicOnly_getIdx {α : Type} (a : Nat → α) (n i : Nat) : PanicOnly (getIdx a n i) := by
  unfold getIdx
  exact ErrorsSatisfy.ite (panicOnly_pure _) panicOnly_panic

theorem Descriptor.panicOnly_setBuf (H : Hal) (d : Descriptor) (buf : Buf)
    (direction : BufferDirection) (extraFlags : DescFlags) :
    PanicOnly (d.setBuf H buf direction extraFlags) := by
  intro f h
  unfold Descriptor.setBuf at h
  by_cases hlen : 2 ^ 32 ≤ buf.len
  · simp only [hlen, if_true] at h
    cases h
    rfl
  · simp only [hlen, if_false] at h
    -- only `BufferDirection::Both` fails past the length check
    cases direction <;> cases h
    rfl

namespace VirtQueue
variable {SIZE : Nat}

theorem panicOnly_writeDesc (q : VirtQueue SIZE) (index : Nat) : PanicOnly (q.writeDesc index) :=
  ErrorsSatisfy.bind (panicOnly_getIdx _ _ _) fun _ => panicOnly_pure _

theorem panicOnly_addDirectLoop (H : Hal) (q : VirtQueue SIZE) (last : Nat)
    (bufs : List (Buf × BufferDirection)) : PanicOnly (q.addDirectLoop H last bufs) := by
  induction bufs generalizing q last with
  | nil => exact panicOnly_pure _
  | cons p rest ih =>
    obtain ⟨b, dir⟩ := p
    refine ErrorsSatisfy.bind (panicOnly_assert _) fun _ => ?_
    refine ErrorsSatisfy.bind (panicOnly_getIdx _ _ _) fun d => ?_
    refine ErrorsSatisfy.bind (Descriptor.panicOnly_setBuf _ _ _ _ _) fun d' => ?_
    exact ErrorsSatisfy.bind (panicOnly_writeDesc _ _) fun q' => ih q' _

theorem panicOnly_addDirect (H : Hal) (q : VirtQueue SIZE) (inputs outputs : List Buf) :
    PanicOnly (q.addDirect H inputs outputs) := by
  refine ErrorsSatisfy.bind (panicOnly_addDirectLoop _ _ _ _) fun r => ?_
  obtain ⟨q1, last⟩ := r
  refine ErrorsSatisfy.bind (panicOnly_getIdx _ _ _) fun d => ?_
  exact ErrorsSatisfy.bind (panicOnly_writeDesc _ _) fun _ => panicOnly_pure _

end VirtQueue

theorem panicOnly_fillIndirect (H : Hal) (i : Nat) (bufs : List (Buf × BufferDirection)) :
    PanicOnly (fillIndirect H i bufs) := by
  induction bufs generalizing i with
  | nil => exact panicOnly_pure _
  | cons p rest ih =>
    obtain ⟨b, dir⟩ := p
    refine ErrorsSatisfy.bind (Descriptor.panicOnly_setBuf _ _ _ _ _) fun d => ?_
    exact ErrorsSatisfy.bind (ih _) fun _ => panicOnly_pure _

theorem panicOnly_removeNextOfLast (l : List Descriptor) : PanicOnly (removeNextOfLast l) := by
  unfold removeNextOfLast
  split
  · exact panicOnly_panic
  · exact panicOnly_pure _

namespace VirtQueue
variable {SIZE : Nat}

theorem panicOnly_addIndirect (H : Hal) (q : VirtQueue SIZE) (inputs outputs : List Buf) :
    PanicOnly (q.addIndirect H inputs outputs) := by
  refine ErrorsSatisfy.bind (panicOnly_fillIndirect _ _ _) fun l0 => ?_
  refine ErrorsSatisfy.bind (panicOnly_removeNextOfLast _) fun l => ?_
  refine ErrorsSatisfy.bind (panicOnly_getIdx _ _ _) fun old => ?_
  refine ErrorsSatisfy.bind (panicOnly_assert _) fun _ => ?_
  refine ErrorsSatisfy.bind (panicOnly_getIdx _ _ _) fun d => ?_
  refine ErrorsSatisfy.bind (Descriptor.panicOnly_setBuf _ _ _ _ _) fun d' => ?_
  exact ErrorsSatisfy.bind (panicOnly_writeDesc _ _) fun _ => panicOnly_pure _

/-- `add` refuses a non-empty request with `QueueFull` exactly when one of its three
capacity checks fails; everything after the checks can only panic. -/
theorem add_eq_queueFull_iff (H : Hal) (q : VirtQueue SIZE) {inputs outputs : List Buf}
    (hpos : 0 < inputs.length + outputs.length) :
    q.add H inputs outputs = .error (.err .queueFull) ↔
      (SIZE < q.numUsed + 1 ∨ SIZE < inputs.length + outputs.length ∨
        (q.indirect = false ∧ SIZE < q.numUsed + (inputs.length + outputs.length))) := by
  have hemp : (inputs.isEmpty && outputs.isEmpty) = false := by
    cases inputs <;> cases outputs <;> simp_all
  unfold add
  simp only [hemp, Bool.false_eq_true, if_false]
  by_cases hfull : SIZE < q.numUsed + 1 ∨ SIZE < inputs.length + outputs.length ∨
      (q.indirect = false ∧ SIZE < q.numUsed + (inputs.length + outputs.length))
  · have hc : (decide (q.numUsed + 1 > SIZE) || decide (inputs.length + outputs.length > SIZE) ||
        (!q.indirect && decide (q.numUsed + (inputs.length + outputs.length) > SIZE))) = true := by
      simpa [Bool.or_eq_true, Bool.and_eq_true, or_assoc] using hfull
    rw [if_pos hc]
    exact ⟨fun _ => hfull, fun _ => rfl⟩
  · have hc : (decide (q.numUsed + 1 > SIZE) || decide (inputs.length + outputs.length > SIZE) ||
        (!q.indirect && decide (q.numUsed + (inputs.length + outputs.length) > SIZE))) = false := by
      simpa [Bool.or_eq_true, Bool.and_eq_true, and_assoc] using hfull
    simp only [hc, Bool.false_eq_true, if_false]
    refine ⟨fun h => ?_, fun h => absurd h hfull⟩
    split at h
    · cases ErrorsSatisfy.bind (panicOnly_addIndirect H q inputs outputs) (fun _ => panicOnly_pure _) _ h
    · cases ErrorsSatisfy.bind (panicOnly_addDirect H q inputs outputs) (fun _ => panicOnly_pure _) _ h

theorem addWithoutAlloc_eq_queueFull_iff (H : Hal) (q : VirtQueue SIZE) {inputs outputs : List Buf}
    (hpos : 0 < inputs.length + outputs.length) :
    q.addWithoutAlloc H inputs outputs = .error (.err .queueFull) ↔
      SIZE < q.numUsed + (inputs.length + outputs.length) := by
  have hemp : (inputs.isEmpty && outputs.isEmpty) = false := by
    cases inputs <;> cases outputs <;> simp_all
  unfold addWithoutAlloc
  simp only [hemp, Bool.false_eq_true, if_false]
  by_cases hfull : SIZE < q.numUsed + (inputs.length + outputs.length)
  · simp [hfull]
  · simp only [gt_iff_lt, hfull, if_false]
    refine ⟨fun h => ?_, False.elim⟩
    cases ErrorsSatisfy.bind (panicOnly_addDirect H q inputs outputs) (fun _ => panicOnly_pure _) _ h

theorem add_eq_queueFull_iff_availableDesc (H : Hal) {q : VirtQueue SIZE} {inputs outputs : List Buf}
    (hle : q.numUsed ≤ SIZE) (hpos : 0 < inputs.length + outputs.length) :
    q.add H inputs outputs = .error (.err .queueFull) ↔
      q.availableDesc < inputs.length + outputs.length := by
  rw [add_eq_queueFull_iff H q hpos, availableDesc]
  -- with indirect descriptors one free descriptor takes any request of at most `SIZE`
  cases hi : q.indirect with
  | false => simp only [Bool.false_eq_true, if_false, true_and]; omega
  | true =>
    simp only [if_true, Bool.true_eq_false, false_and, or_false]
    split <;> omega

/-- `add` refuses a request with `QueueFull` exactly when it needs more descriptors than
`available_desc` reports, in every state a queue reaches, with indirect descriptors or
without; and so does the `add` of the build without the `alloc` feature, in any state. -/
theorem queueFull_iff_availableDesc_lt (hsize : 0 < SIZE) (H : Hal) (idx : UInt16)
    (indirect eventIdx : Bool) {s : VirtQueue SIZE × List Chain}
    (hr : Reachable H idx indirect eventIdx s) (inputs outputs : List Buf)
    (hpos : 0 < inputs.length + outputs.length) :
    (s.1.add H inputs outputs = .error (.err .queueFull) ↔
        s.1.availableDesc < inputs.length + outputs.length) ∧
      ∀ q : VirtQueue SIZE, (q.addWithoutAlloc H inputs outputs = .error (.err .queueFull) ↔
        q.availableDescWithoutAlloc < inputs.length + outputs.length) := by
  refine ⟨add_eq_queueFull_iff_availableDesc H (Inv.reachable hsize hr).numUsed_le hpos, fun q => ?_⟩
  rw [addWithoutAlloc_eq_queueFull_iff H q hpos, availableDescWithoutAlloc]
  omega

theorem queueFull_iff_availableDesc_lt_new :
    (((init 0 true false : VirtQueue 4).add identityHal [] [⟨0x1000, 16⟩] = .error (.err .queueFull) ↔
        (init 0 true false : VirtQueue 4).availableDesc < ([] : List Buf).length + [(⟨0x1000, 16⟩ : Buf)].length) ∧
      ∀ q : VirtQueue 4, (q.addWithoutAlloc identityHal [] [⟨0x1000, 16⟩] = .error (.err .queueFull) ↔
        q.availableDescWithoutAlloc < ([] : List Buf).length + [(⟨0x1000, 16⟩ : Buf)].length)) :=
  queueFull_iff_availableDesc_lt (by decide) identityHal 0 true false Relation.ReflTransGen.refl [] _
    (by decide)

end VirtQueue
end VirtioDrivers
