import VirtioDrivers.Queue.New
import VirtioDrivers.Queue.Device
import VirtioDrivers.Queue.Progress
import VirtioDrivers.Queue.RoundTrip
import VirtioDrivers.Queue.OwningRun

/-! When `add` and `pop_used` return on a queue that keeps the invariant, and
`add_notify_wait_pop` as its callers see it. Once the chain is in, the call ends where
`pop_used` of its own token ends, so a device that returns another chain first makes it fail
with `WrongToken`, the chain still outstanding. A lone request on a queue with nothing
outstanding comes back, with the length the device wrote, as soon as the device returns
it. -/
namespace VirtioDrivers
open LinkWalk

namespace VirtQueue
variable {SIZE : Nat} (H : Hal)

section Returns
variable {q : VirtQueue SIZE} {cs : List Chain} {inputs outputs : List Buf}

/-- Under the invariant, `add` of buffers that fit returns the head of the free list
whenever it does not refuse the chain, that is whenever `available_desc` covers it. -/
theorem Inv.add_ok (h : q.Inv cs) (hfit : ∀ p ∈ inputOutputIter inputs outputs, p.1.Fits)
    (hpos : 0 < inputs.length + outputs.length)
    (hroom : inputs.length + outputs.length ≤ q.availableDesc)
    (hsmall : 16 * (inputs.length + outputs.length) < 2^32) :
    ∃ q', q.add H inputs outputs = .ok (q', q.freeHead) := by
  have hle := h.numUsed_le
  have hne : inputOutputIter inputs outputs ≠ [] := by
    rw [← List.length_pos_iff, length_inputOutputIter]
    exact hpos
  -- an indirect chain needs one free descriptor, a direct one a descriptor per buffer
  by_cases hind : q.indirect = true ∧ 1 < inputs.length + outputs.length
  · have hfree : q.numUsed ≠ SIZE := by
      intro hfull
      simp only [availableDesc, hind.1, hfull, if_true] at hroom
      omega
    have hsize : inputs.length + outputs.length ≤ SIZE := by
      simpa [availableDesc, hind.1, hfree] using hroom
    obtain ⟨l, -, hadd⟩ := h.add_eq_of_indirect H hind.1 hind.2 (by omega) hsize
      (fun p hp => (hfit p hp).2) hsmall
    exact ⟨_, hadd⟩
  · have hroom' : q.numUsed + (inputs.length + outputs.length) ≤ SIZE := by
      unfold availableDesc at hroom
      split at hroom
      · rename_i hi
        have hone : inputs.length + outputs.length = 1 := by
          by_contra hn
          exact hind ⟨hi, by omega⟩
        split at hroom <;> omega
      · omega
    exact ⟨_, add_eq_of_direct H hne hind hroom' hfit (h.walk_free_lt _)⟩

/-- Under the invariant, `pop_used` of an outstanding chain with no empty buffer returns
the length the device wrote, once the device has returned that chain next. -/
theorem Inv.popUsed_ok (h : q.Inv cs) {c : Chain} (hc : c ∈ cs) (hne : ∀ p ∈ c.bufs, p.1.len ≠ 0)
    {used : UsedRing} (hpop : q.canPop used = true)
    (htok : (used.ring q.lastUsedSlot).id.toUInt16.toNat = c.token) :
    ∃ q' us, q.popUsed H used c.token c.inputs c.outputs =
      .ok (q', (used.ring q.lastUsedSlot).len, us) := by
  cases hi : q.isIndirect c with
  | false =>
    obtain ⟨us, hp⟩ := h.popUsed_eq_of_direct H hc hi hpop htok
    exact ⟨_, us, hp⟩
  | true =>
    obtain ⟨us, hp⟩ := h.popUsed_eq_of_indirect H hc hi hne hpop htok
    exact ⟨_, us, hp⟩

theorem popUsed_of_ne_token {used : UsedRing} {token : Nat} (hpop : q.canPop used = true)
    (hid : (used.ring q.lastUsedSlot).id.toUInt16.toNat ≠ token) :
    q.popUsed H used token inputs outputs = .error (.err .wrongToken) := by
  simp only [popUsed, hpop, Bool.not_true, Bool.false_eq_true, if_false, bne_iff_ne, ne_eq, hid,
    not_false_eq_true, if_true]
  rfl

end Returns

/-! ### `add_notify_wait_pop` -/

/-- The transport after the notification `add_notify_wait_pop` sends when the device
asks for one. -/
def notified (q : VirtQueue SIZE) (used : UsedRing) (log : List TransportCall) :
    List TransportCall :=
  if q.shouldNotify used then log ++ [.notify q.queueIdx] else log

section WaitPop
variable {q q₁ q₂ : VirtQueue SIZE} {inputs outputs : List Buf} {used u : UsedRing}
  {views : List UsedRing} {log : List TransportCall} {t : Nat}

theorem waitUsed_of_canPop (h : q.canPop u = true) : q.waitUsed (u :: views) = .ok u := by
  simp [waitUsed, h]

theorem addNotifyWaitPop_of_add (hadd : q.add H inputs outputs = .ok (q₁, t)) :
    (addNotifyWaitPop H inputs outputs used views).run (q, log) =
      (do
        let u ← MonadExcept.ofExcept (q₁.waitUsed views)
        let (len, _) ← EStateM.onPart Prod.fst (fun s q => (q, s.2))
          (fun q => q.popUsed H u t inputs outputs)
        pure len : EStateM Fault (VirtQueue SIZE × List TransportCall) UInt32).run
        (q₁, notified q₁ used log) := by
  unfold addNotifyWaitPop
  rw [EStateM.run_bind_of_ok (EStateM.run_onPart_ok hadd)]
  simp only [EStateM.run, EStateM.bind_apply, EStateM.getThe_apply]
  -- the device may or may not ask to be notified of the new chain
  by_cases hn : q₁.shouldNotify used = true
  · simp only [hn, if_true, EStateM.bind_apply, EStateM.zoom, Transport.notify, Transport.command,
      notified]
  · simp only [hn, Bool.false_eq_true, if_false, EStateM.pure_apply, notified, EStateM.bind_apply]

theorem addNotifyWaitPop_eq (hadd : q.add H inputs outputs = .ok (q₁, t))
    (hwait : q₁.waitUsed views = .ok u) :
    (addNotifyWaitPop H inputs outputs used views).run (q, log) =
      (do
        let (len, _) ← EStateM.onPart Prod.fst (fun s q => (q, s.2))
          (fun q => q.popUsed H u t inputs outputs)
        pure len : EStateM Fault (VirtQueue SIZE × List TransportCall) UInt32).run
        (q₁, notified q₁ used log) := by
  rw [addNotifyWaitPop_of_add H hadd,
    EStateM.run_bind_of_ok (EStateM.run_ofExcept_eq_ok.mpr ⟨hwait, rfl⟩)]

theorem addNotifyWaitPop_of_popUsed {len : UInt32} {us : List Unshare}
    (hadd : q.add H inputs outputs = .ok (q₁, t)) (hwait : q₁.waitUsed views = .ok u)
    (hpop : q₁.popUsed H u t inputs outputs = .ok (q₂, len, us)) :
    (addNotifyWaitPop H inputs outputs used views).run (q, log) =
      .ok len (q₂, notified q₁ used log) := by
  rw [addNotifyWaitPop_eq H hadd hwait, EStateM.run_bind_of_ok (EStateM.run_onPart_ok hpop)]
  rfl

theorem addNotifyWaitPop_of_popUsed_error {e : Fault}
    (hadd : q.add H inputs outputs = .ok (q₁, t)) (hwait : q₁.waitUsed views = .ok u)
    (hpop : q₁.popUsed H u t inputs outputs = .error e) :
    (addNotifyWaitPop H inputs outputs used views).run (q, log) =
      .error e (q₁, notified q₁ used log) := by
  rw [addNotifyWaitPop_eq H hadd hwait]
  exact EStateM.run_bind_of_error (EStateM.run_onPart_error hpop)

end WaitPop

section Lone
variable {idx : UInt16} {indirect eventIdx : Bool} {q : VirtQueue SIZE} {inputs outputs : List Buf}

/-- A lone request on a queue with nothing outstanding, with buffers that fit and no
more of them than the queue has descriptors, goes in at the head of the free list; what
the device has published is still to be popped. -/
theorem lone_add (hsize : SizeOk SIZE) (hr : Reachable H idx indirect eventIdx (q, []))
    (hfit : ∀ p ∈ inputOutputIter inputs outputs, p.1.Fits)
    (hpos : 0 < inputs.length + outputs.length) (hn : inputs.length + outputs.length ≤ SIZE)
    {u : UsedRing} {es : List UsedElem} (hu : q.UsedPending u es) :
    ∃ q₁, q.add H inputs outputs = .ok (q₁, q.freeHead) ∧
      Reachable H idx indirect eventIdx (q₁, [⟨q.freeHead, inputs, outputs⟩]) ∧
      q₁.UsedPending u es := by
  have hinv : q.Inv [] := Inv.reachable hsize.pos hr
  have hnum : q.numUsed = 0 := hinv.numUsed_nil
  have hroom : inputs.length + outputs.length ≤ q.availableDesc := by
    unfold availableDesc
    split
    · rw [if_neg (by have := hsize.pos; omega)]
      exact hn
    · omega
  have hsmall : 16 * (inputs.length + outputs.length) < 2^32 := by
    have := hsize.lt
    omega
  obtain ⟨q₁, hadd⟩ := hinv.add_ok H hfit hpos hroom hsmall
  exact ⟨q₁, hadd, hr.tail (Step.add hadd), hu.congr (add_avail hsize hr hadd).2.2⟩

/-- A lone request that the device has returned before the first test of the spin:
`add_notify_wait_pop` returns the length the device wrote, and leaves the queue with
nothing outstanding and nothing left to pop. -/
theorem addNotifyWaitPop_lone (hsize : SizeOk SIZE) (hr : Reachable H idx indirect eventIdx (q, []))
    (hfit : ∀ p ∈ inputOutputIter inputs outputs, p.1.Fits)
    (hpos : 0 < inputs.length + outputs.length) (hn : inputs.length + outputs.length ≤ SIZE)
    {u : UsedRing} {len : UInt32} (hu : q.UsedPending u [⟨UInt32.ofNat q.freeHead, len⟩])
    (used : UsedRing) (views : List UsedRing) (log : List TransportCall) :
    ∃ q₂ log', (addNotifyWaitPop H inputs outputs used (u :: views)).run (q, log) =
        .ok len (q₂, log') ∧
      Reachable H idx indirect eventIdx (q₂, []) ∧ q₂.UsedPending u [] := by
  obtain ⟨q₁, hadd, hr₁, hu₁⟩ := lone_add H hsize hr hfit hpos hn hu
  have hcan : q₁.canPop u = true := (hu₁.canPop_iff hsize).mpr (List.cons_ne_nil _ _)
  have htok : (u.ring q₁.lastUsedSlot).id.toUInt16.toNat = q.freeHead := by
    rw [hu₁.slot_eq hsize]
    have hinv : q.Inv [] := Inv.reachable hsize.pos hr
    exact OwningQueue.toNat_toUInt16_ofNat (by have := hinv.freeHead_lt; have := hsize.lt; omega)
  have hne : ∀ p ∈ (⟨q.freeHead, inputs, outputs⟩ : Chain).bufs, p.1.len ≠ 0 :=
    fun p hp => (hfit p hp).1
  obtain ⟨q₂, us, hpop⟩ := (Inv.reachable hsize.pos hr₁).popUsed_ok H List.mem_cons_self hne hcan htok
  rw [hu₁.slot_eq hsize] at hpop
  refine ⟨q₂, _, addNotifyWaitPop_of_popUsed H hadd (waitUsed_of_canPop hcan) hpop, ?_, ?_⟩
  · have h₂ := hr₁.tail (Step.pop List.mem_cons_self hpop)
    rwa [List.erase_cons_head] at h₂
  · obtain ⟨-, -, -, q₀, hrec, rfl⟩ := popUsed_eq_ok hpop
    obtain ⟨_, _, _, _, rfl⟩ := recycleDescriptors_frame hrec
    exact hu₁.consumeUsed hsize rfl

/-- A lone request whose slot the device fills with another id, before the first test of
the spin: `add_notify_wait_pop` fails with `WrongToken`, and the chain stays outstanding. -/
theorem addNotifyWaitPop_lone_of_ne (hsize : SizeOk SIZE) (hr : Reachable H idx indirect eventIdx (q, []))
    (hfit : ∀ p ∈ inputOutputIter inputs outputs, p.1.Fits)
    (hpos : 0 < inputs.length + outputs.length) (hn : inputs.length + outputs.length ≤ SIZE)
    {u : UsedRing} {e : UsedElem} (hu : q.UsedPending u [e]) (hid : e.id.toUInt16.toNat ≠ q.freeHead)
    (used : UsedRing) (views : List UsedRing) (log : List TransportCall) :
    ∃ q₁, (addNotifyWaitPop H inputs outputs used (u :: views)).run (q, log) =
        .error (.err .wrongToken) (q₁, notified q₁ used log) ∧
      Reachable H idx indirect eventIdx (q₁, [⟨q.freeHead, inputs, outputs⟩]) := by
  obtain ⟨q₁, hadd, hr₁, hu₁⟩ := lone_add H hsize hr hfit hpos hn hu
  have hcan : q₁.canPop u = true := (hu₁.canPop_iff hsize).mpr (List.cons_ne_nil _ _)
  have hid₁ : (u.ring q₁.lastUsedSlot).id.toUInt16.toNat ≠ q.freeHead := by
    rw [hu₁.slot_eq hsize]
    exact hid
  exact ⟨q₁, addNotifyWaitPop_of_popUsed_error H hadd (waitUsed_of_canPop hcan)
    (popUsed_of_ne_token H hcan hid₁), hr₁⟩

end Lone

end VirtQueue
end VirtioDrivers
