import VirtioDrivers.Queue.Device

/-! Notification suppression (`should_notify`, `set_dev_notify`, and the `used_event`
write of `pop_used`). With `EVENT_IDX` each side publishes an index and the other side
notifies once its own index moves past it, counting modulo `2 ^ 16`, as the virtio spec's
`vring_need_event` says. `should_notify` compares the available index with the device's
`avail_event` without wrapping; for one `add` between two decisions, and for the fills
that start from zero, it notifies whenever `vring_need_event` asks it to. In the other
direction, `set_dev_notify(false)` writes nothing when `EVENT_IDX` was negotiated, and
every `pop_used` publishes its new `last_used_idx` as `used_event`: the device is asked to
notify for the next used entry whatever the driver said. -/
namespace VirtioDrivers

/-- `vring_need_event(event_idx, new_idx, old)`: the index went from `old` to `new` and
passed `event_idx` on the way, counting modulo `2 ^ 16`. -/
def vringNeedEvent (eventIdx new old : UInt16) : Bool := decide (new - eventIdx - 1 < new - old)

theorem le_of_vringNeedEvent_pred {e new : UInt16} (h : vringNeedEvent e new (new - 1) = true) :
    e + 1 ≤ new := by
  have he := e.toNat_lt
  have hn := new.toNat_lt
  simp only [vringNeedEvent, decide_eq_true_eq, UInt16.lt_iff_toNat_lt, UInt16.toNat_sub,
    UInt16.toNat_one] at h
  rw [UInt16.le_iff_toNat_le, UInt16.toNat_add, UInt16.toNat_one]
  omega

theorem le_of_vringNeedEvent_zero {e new : UInt16} (h : vringNeedEvent e new 0 = true) :
    e + 1 ≤ new := by
  have he := e.toNat_lt
  have hn := new.toNat_lt
  simp only [vringNeedEvent, decide_eq_true_eq, UInt16.lt_iff_toNat_lt, UInt16.toNat_sub,
    UInt16.toNat_one, UInt16.toNat_zero] at h
  rw [UInt16.le_iff_toNat_le, UInt16.toNat_add, UInt16.toNat_one]
  omega

/-- Two steps across the wrap are where the unwrapped comparison and `vring_need_event`
part: the index went from 65534 to 0, past an event index of 65534. -/
example : vringNeedEvent 65534 0 65534 = true ∧ ¬ ((65534 : UInt16) + 1 ≤ 0) := by decide

namespace VirtQueue
variable {SIZE : Nat}

/-- With `EVENT_IDX`, `should_notify` notifies whenever `vring_need_event` asks for it,
when the index moved by one since the last decision or from zero. -/
theorem shouldNotify_of_vringNeedEvent (q : VirtQueue SIZE) (used : UsedRing)
    (he : q.eventIdx = true) :
    (vringNeedEvent used.availEvent q.availIdx (q.availIdx - 1) = true →
        q.shouldNotify used = true) ∧
      (vringNeedEvent used.availEvent q.availIdx 0 = true → q.shouldNotify used = true) := by
  refine ⟨fun h => ?_, fun h => ?_⟩
  · simpa [shouldNotify, he] using le_of_vringNeedEvent_pred h
  · simpa [shouldNotify, he] using le_of_vringNeedEvent_zero h

theorem shouldNotify_of_vringNeedEvent_new :
    (init 0 false true : VirtQueue 2).eventIdx = true ∧
      ((vringNeedEvent UsedRing.zero.availEvent (init 0 false true : VirtQueue 2).availIdx
          ((init 0 false true : VirtQueue 2).availIdx - 1) = true →
          (init 0 false true : VirtQueue 2).shouldNotify UsedRing.zero = true) ∧
        (vringNeedEvent UsedRing.zero.availEvent (init 0 false true : VirtQueue 2).availIdx 0 = true →
          (init 0 false true : VirtQueue 2).shouldNotify UsedRing.zero = true)) :=
  ⟨rfl, shouldNotify_of_vringNeedEvent _ _ rfl⟩

theorem setDevNotify_of_eventIdx {q : VirtQueue SIZE} (he : q.eventIdx = true) (enable : Bool) :
    q.setDevNotify enable = q := by
  simp [setDevNotify, he]

theorem usedEvent_of_popUsed {H : Hal} {q q' : VirtQueue SIZE} {used : UsedRing} {token : Nat}
    {inputs outputs : List Buf} {len : UInt32} {us : List Unshare} (he : q.eventIdx = true)
    (h : q.popUsed H used token inputs outputs = .ok (q', len, us)) :
    q'.avail.usedEvent = q'.lastUsedIdx := by
  obtain ⟨-, -, -, q0, hrec, rfl⟩ := popUsed_eq_ok h
  have he0 : q0.eventIdx = true := (eventIdx_of_recycleDescriptors hrec).trans he
  simp [consumeUsed, he0]

/-- Used-buffer notifications cannot be turned off with `EVENT_IDX`: `set_dev_notify(false)`
leaves the queue as it was, and after a `pop_used` the driver area asks the device to
notify as its used index moves from `last_used_idx` to the next one. -/
theorem popUsed_rearms_used_event {H : Hal} {q q' : VirtQueue SIZE} {used : UsedRing}
    {token : Nat} {inputs outputs : List Buf} {len : UInt32} {us : List Unshare}
    (he : q.eventIdx = true)
    (hpop : (q.setDevNotify false).popUsed H used token inputs outputs = .ok (q', len, us)) :
    q.setDevNotify false = q ∧ q'.avail.usedEvent = q'.lastUsedIdx ∧
      vringNeedEvent q'.avail.usedEvent (q'.lastUsedIdx + 1) q'.lastUsedIdx = true := by
  have hset := setDevNotify_of_eventIdx he false
  rw [hset] at hpop
  have hev := usedEvent_of_popUsed he hpop
  refine ⟨hset, hev, ?_⟩
  have hl := q'.lastUsedIdx.toNat_lt
  rw [hev]
  simp only [vringNeedEvent, decide_eq_true_eq, UInt16.lt_iff_toNat_lt, UInt16.toNat_sub,
    UInt16.toNat_add, UInt16.toNat_one]
  omega

/-- The run: a queue with `EVENT_IDX` gets one buffer, the device uses it, and the driver
turns notifications off and pops it; the device is asked to notify for its next entry. -/
theorem popUsed_rearms_used_event_run :
    ∃ q1 : VirtQueue 2, (init 0 false true : VirtQueue 2).add identityHal [] [⟨0x1000, 16⟩] = .ok (q1, 0) ∧
      ∃ q' len us, (q1.setDevNotify false).popUsed identityHal (UsedRing.zero.push 2 ⟨0, 16⟩) 0 []
          [⟨0x1000, 16⟩] = .ok (q', len, us) ∧
        q1.setDevNotify false = q1 ∧ q'.avail.usedEvent = q'.lastUsedIdx ∧
        vringNeedEvent q'.avail.usedEvent (q'.lastUsedIdx + 1) q'.lastUsedIdx = true := by
  obtain ⟨q1, hadd, he, hok⟩ : ∃ q1 : VirtQueue 2,
      (init 0 false true : VirtQueue 2).add identityHal [] [⟨0x1000, 16⟩] = .ok (q1, 0) ∧
        q1.eventIdx = true ∧ ((q1.setDevNotify false).popUsed identityHal
          (UsedRing.zero.push 2 ⟨0, 16⟩) 0 [] [⟨0x1000, 16⟩]).toOption.isSome :=
    ⟨_, rfl, rfl, by decide +kernel⟩
  cases hpop : (q1.setDevNotify false).popUsed identityHal (UsedRing.zero.push 2 ⟨0, 16⟩) 0 []
      [⟨0x1000, 16⟩] with
  | error e => simp [hpop, Except.toOption] at hok
  | ok r =>
    obtain ⟨q', len, us⟩ := r
    exact ⟨q1, hadd, q', len, us, hpop, popUsed_rearms_used_event he hpop⟩

end VirtQueue
end VirtioDrivers
