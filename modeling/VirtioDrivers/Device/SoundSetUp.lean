import VirtioDrivers.Device.Sound
import VirtioDrivers.Queue.WaitPop

/-! The checks of the sound driver's queries and of the stream ids its public methods
take. The counts `set_up` asks for come from the configuration space and are checked
against nothing but themselves: a device that reports more items than fit in a page after
the header, and answers the query with `S_OK`, makes `set_up` slice past the end of
`queue_buf_recv`, so the first public method panics. A stream id is checked against the
streams by no method that indexes `pcm_parameters` with it: `pcm_xfer` panics on any id
past the streams whatever the device does, and `pcm_set_params` once the device accepts
the request. -/
namespace VirtioDrivers
open Sound VirtQueue

namespace VirtIOSound
variable (H : Hal) (stack : Nat)

theorem run_dropErr_panic {σ : Type} {m : EStateM Fault σ Unit} {s s' : σ}
    (h : m.run s = .error .panic s') : (dropErr m).run s = .error .panic s' := by
  simp only [EStateM.run] at h
  simp only [dropErr, EStateM.run]
  change EStateM.tryCatch m _ s = _
  simp [EStateM.tryCatch, h]
  rfl

theorem run_onControl_ok {α : Type} {m : EStateM Fault (VirtQueue QUEUE_SIZE × List TransportCall) α}
    {s : VirtIOSound} {a : α} {q : VirtQueue QUEUE_SIZE} {log : List TransportCall}
    (h : m.run (s.controlQueue, s.transport) = .ok a (q, log)) :
    (onControl m).run s = .ok a { s with controlQueue := q, transport := log } := by
  simp only [EStateM.run] at h
  simp [onControl, EStateM.zoom, EStateM.run, h]

section Request
variable {idx : UInt16} {indirect eventIdx : Bool} {s : VirtIOSound} {r : Reply}
  {u : UsedRing} {views : List UsedRing} {len : UInt32}

/-- A request the device answers. With nothing outstanding on the control queue and the
request returned before the spin first looks, `request` returns the header the device
wrote; only the control queue and the transport change, and the queue again has nothing
outstanding. -/
theorem request_answered (hr : Reachable H idx indirect eventIdx (s.controlQueue, []))
    (size : Nat) (hsize : 0 < size) (hsz : size < 2^32) (hviews : r.views = u :: views)
    (hu : s.controlQueue.UsedPending u [⟨UInt32.ofNat s.controlQueue.freeHead, len⟩]) :
    ∃ q log, (request H stack size r).run s =
        .ok r.hdr { s with controlQueue := q, transport := log } ∧
      Reachable H idx indirect eventIdx (q, []) := by
  have hfit : ∀ p ∈ inputOutputIter [⟨stack, size⟩] [⟨s.queueBufRecv, PAGE_SIZE⟩], p.1.Fits := by
    simp only [inputOutputIter, List.map_cons, List.map_nil, List.cons_append, List.nil_append,
      List.mem_cons, List.not_mem_nil, or_false]
    rintro p (rfl | rfl)
    · exact ⟨by simp; omega, hsz⟩
    · exact ⟨by simp [PAGE_SIZE], by simp [PAGE_SIZE]⟩
  obtain ⟨q, log, hwait, hq, -⟩ := VirtQueue.addNotifyWaitPop_lone H sizeOk_QUEUE_SIZE hr hfit
    (by simp) (by simp [QUEUE_SIZE]) hu r.used views s.transport
  rw [← hviews] at hwait
  refine ⟨q, log, ?_, hq⟩
  unfold request
  rw [EStateM.run_bind_of_ok (show (get : EStateM Fault VirtIOSound VirtIOSound).run s = .ok s s from rfl),
    EStateM.run_bind_of_ok (run_onControl_ok hwait)]
  rfl

/-- A query of `count` items of `size` bytes out of `total`, answered with `S_OK`, panics
when the items run past the page after the header. -/
theorem queryInfo_panics_past_page (hr : Reachable H idx indirect eventIdx (s.controlQueue, []))
    {total count : UInt32} {size : Nat} (hcount : count ≤ total) (hok : r.hdr = S_OK)
    (hpage : PAGE_SIZE < HDR_SIZE + count.toNat * size) (hviews : r.views = u :: views)
    (hu : s.controlQueue.UsedPending u [⟨UInt32.ofNat s.controlQueue.freeHead, len⟩]) :
    ∃ s', (queryInfo H stack total count size r).run s = .error .panic s' := by
  obtain ⟨q, log, hreq, -⟩ := request_answered H stack hr QUERY_INFO_SIZE (by decide) (by decide)
    hviews hu
  refine ⟨{ s with controlQueue := q, transport := log }, ?_⟩
  have hle : ¬ count > total := Nat.not_lt.mpr (UInt32.le_iff_toNat_le.mp hcount)
  unfold queryInfo
  rw [if_neg (by simpa using hle), EStateM.run_bind_of_ok hreq]
  simp only [hok, bne_self_eq_false, Bool.false_eq_true, if_false, EStateM.run, hpage, if_true,
    EStateM.throw_apply]

theorem jackInfo_panics_past_page (hr : Reachable H idx indirect eventIdx (s.controlQueue, []))
    (hpage : PAGE_SIZE < HDR_SIZE + s.jacks.toNat * JACK_INFO_SIZE) (hok : r.hdr = S_OK)
    (hviews : r.views = u :: views)
    (hu : s.controlQueue.UsedPending u [⟨UInt32.ofNat s.controlQueue.freeHead, len⟩]) :
    ∃ s', (jackInfo H stack s.jacks r).run s = .error .panic s' := by
  obtain ⟨s', h⟩ := queryInfo_panics_past_page H stack hr (UInt32.le_refl _) hok hpage hviews hu
  exact ⟨s', h⟩

/-- `set_up` trusts the number of jacks the configuration space reports. When the control
queue has nothing outstanding, a device that reports more jacks than fit in a page after
the header, and answers the jack query with `S_OK`, makes `set_up` slice the jack items
past the end of `queue_buf_recv`: it panics, and the `if let Ok(..)` around the query does
not catch that. So the first public method a driver calls panics. -/
theorem setUp_panics_past_page {replies : SetUpReplies}
    (hr : Reachable H idx indirect eventIdx (s.controlQueue, []))
    (hpage : PAGE_SIZE < HDR_SIZE + s.jacks.toNat * JACK_INFO_SIZE) (hok : replies.jack.hdr = S_OK)
    (hviews : replies.jack.views = u :: views)
    (hu : s.controlQueue.UsedPending u [⟨UInt32.ofNat s.controlQueue.freeHead, len⟩]) :
    (∃ s', (setUp H stack replies).run s = .error .panic s') ∧
      (s.isSetUp = false → ∃ s', (ensureSetUp H stack replies).run s = .error .panic s') := by
  obtain ⟨s', hjack⟩ := jackInfo_panics_past_page H stack hr hpage hok hviews hu
  have hset : (setUp H stack replies).run s = .error .panic s' := by
    unfold setUp
    rw [EStateM.run_bind_of_ok (show (get : EStateM Fault VirtIOSound VirtIOSound).run s = .ok s s from rfl)]
    exact EStateM.run_bind_of_error (run_dropErr_panic hjack)
  refine ⟨⟨s', hset⟩, fun hnot => ⟨s', ?_⟩⟩
  unfold ensureSetUp
  rw [EStateM.run_bind_of_ok (show (get : EStateM Fault VirtIOSound VirtIOSound).run s = .ok s s from rfl),
    if_pos (by simp [hnot])]
  exact EStateM.run_bind_of_error hset

/-- A device that reports 171 jacks, one more than fit in a page after the header, and
answers the jack query of a driver with a new control queue with `S_OK`. -/
theorem setUp_panics_past_page_171_jacks :
    (∃ s', (setUp identityHal 0x2000
        ⟨⟨UsedRing.zero, [UsedRing.zero.push QUEUE_SIZE ⟨UInt32.ofNat (init 0 false false : VirtQueue QUEUE_SIZE).freeHead, 4⟩], S_OK⟩,
          ⟨UsedRing.zero, [], 0⟩, ⟨UsedRing.zero, [], 0⟩⟩).run
        ⟨[], init 0 false false, init 2 false false, 171, 1, 0, [PcmParameters.default], 0x3000, false⟩ =
        .error .panic s') ∧
      ((false : Bool) = false → ∃ s', (ensureSetUp identityHal 0x2000
        ⟨⟨UsedRing.zero, [UsedRing.zero.push QUEUE_SIZE ⟨UInt32.ofNat (init 0 false false : VirtQueue QUEUE_SIZE).freeHead, 4⟩], S_OK⟩,
          ⟨UsedRing.zero, [], 0⟩, ⟨UsedRing.zero, [], 0⟩⟩).run
        ⟨[], init 0 false false, init 2 false false, 171, 1, 0, [PcmParameters.default], 0x3000, false⟩ =
        .error .panic s') :=
  setUp_panics_past_page identityHal 0x2000 .refl (by decide) rfl rfl
    (UsedPending.push sizeOk_QUEUE_SIZE
      (show (init 0 false false : VirtQueue QUEUE_SIZE).UsedPending UsedRing.zero [] from
        IndexRing.holds_nil _ _ _) (by decide) _)

end Request

section Ids
variable {s : VirtIOSound}

theorem ensureSetUp_of_isSetUp (hset : s.isSetUp = true) (replies : SetUpReplies) :
    (ensureSetUp H stack replies).run s = .ok () s := by
  simp [ensureSetUp, EStateM.run, EStateM.bind_apply, hset]

theorem pcmXfer_panics_of_length_le (hset : s.isSetUp = true) {streamId : UInt32}
    (hid : s.pcmParameters.length ≤ streamId.toNat) (replies : SetUpReplies) {δ : Type}
    (dev : TxDevice δ) (fuel : Nat) (d : δ) (mem : Nat → UInt8) (frames : Buf) :
    (pcmXfer H stack replies dev fuel d mem streamId frames).run s = .error .panic s := by
  unfold pcmXfer
  rw [EStateM.run_bind_of_ok (ensureSetUp_of_isSetUp H stack hset replies),
    EStateM.run_bind_of_ok (show (get : EStateM Fault VirtIOSound VirtIOSound).run s = .ok s s from rfl)]
  simp [EStateM.run, List.getElem?_eq_none hid]

/-- `pcm_set_params` stores the parameters at the stream id once the device has accepted
them: an id past the end of `pcm_parameters` panics there. -/
theorem pcmSetParams_panics_of_length_le (hset : s.isSetUp = true) {streamId : UInt32}
    (hid : s.pcmParameters.length ≤ streamId.toNat) (replies : SetUpReplies)
    {bufferBytes periodBytes : UInt32} (hp : periodBytes ≠ 0) (hle : periodBytes ≤ bufferBytes)
    (hdvd : bufferBytes % periodBytes = 0) {idx : UInt16} {indirect eventIdx : Bool} {r : Reply}
    {u : UsedRing} {views : List UsedRing} {len : UInt32}
    (hr : Reachable H idx indirect eventIdx (s.controlQueue, [])) (hok : r.hdr = S_OK)
    (hviews : r.views = u :: views)
    (hu : s.controlQueue.UsedPending u [⟨UInt32.ofNat s.controlQueue.freeHead, len⟩]) :
    ∃ s', (pcmSetParams H stack replies r streamId bufferBytes periodBytes).run s =
      .error .panic s' := by
  obtain ⟨q, log, hreq, -⟩ := request_answered H stack hr PCM_SET_PARAMS_SIZE (by decide)
    (by decide) hviews hu
  refine ⟨{ s with controlQueue := q, transport := log }, ?_⟩
  have hcheck : (periodBytes == 0 || periodBytes > bufferBytes || bufferBytes % periodBytes != 0) =
      false := by
    simp [hp, hdvd, UInt32.not_lt.mpr hle]
  unfold pcmSetParams
  rw [EStateM.run_bind_of_ok (ensureSetUp_of_isSetUp H stack hset replies), if_neg (by simp [hcheck]),
    EStateM.run_bind_of_ok hreq]
  simp [EStateM.run, EStateM.bind_apply, hok, Nat.not_lt.mpr hid]

/-- Stream ids are trusted by the methods that index `pcm_parameters` with them. Take a
driver that is set up, with one entry of parameters for each stream the device reported,
as `new` makes it, and any id at or past the number of streams. `pcm_xfer` panics, whatever
the device does. `pcm_set_params` with sizes it accepts panics once the device accepts the
request, where an `InvalidParam` was due. -/
theorem stream_id_past_streams_panics (hset : s.isSetUp = true)
    (hlen : s.pcmParameters.length = s.streams.toNat) {streamId : UInt32} (hid : s.streams ≤ streamId)
    (replies : SetUpReplies) {bufferBytes periodBytes : UInt32} (hp : periodBytes ≠ 0)
    (hle : periodBytes ≤ bufferBytes) (hdvd : bufferBytes % periodBytes = 0) {idx : UInt16}
    {indirect eventIdx : Bool} {r : Reply} {u : UsedRing} {views : List UsedRing} {len : UInt32}
    (hr : Reachable H idx indirect eventIdx (s.controlQueue, [])) (hok : r.hdr = S_OK)
    (hviews : r.views = u :: views)
    (hu : s.controlQueue.UsedPending u [⟨UInt32.ofNat s.controlQueue.freeHead, len⟩]) :
    (∀ {δ : Type} (dev : TxDevice δ) (fuel : Nat) (d : δ) (mem : Nat → UInt8) (frames : Buf),
        (pcmXfer H stack replies dev fuel d mem streamId frames).run s = .error .panic s) ∧
      ∃ s', (pcmSetParams H stack replies r streamId bufferBytes periodBytes).run s =
        .error .panic s' := by
  have hpast : s.pcmParameters.length ≤ streamId.toNat := by
    rw [hlen]
    exact UInt32.le_iff_toNat_le.mp hid
  exact ⟨fun dev fuel d mem frames =>
      pcmXfer_panics_of_length_le H stack hset hpast replies dev fuel d mem frames,
    pcmSetParams_panics_of_length_le H stack hset hpast replies hp hle hdvd hr hok hviews hu⟩

/-- A driver with one stream, set up, asked for stream `1`, with a period of four bytes
that the device accepts. -/
theorem stream_id_past_streams_panics_one_stream :
    (∀ {δ : Type} (dev : TxDevice δ) (fuel : Nat) (d : δ) (mem : Nat → UInt8) (frames : Buf),
        (pcmXfer identityHal 0x2000 ⟨⟨UsedRing.zero, [], 0⟩, ⟨UsedRing.zero, [], 0⟩, ⟨UsedRing.zero, [], 0⟩⟩
          dev fuel d mem 1 frames).run
          ⟨[], init 0 false false, init 2 false false, 0, 1, 0, [PcmParameters.default], 0x3000, true⟩ =
          .error .panic
            ⟨[], init 0 false false, init 2 false false, 0, 1, 0, [PcmParameters.default], 0x3000, true⟩) ∧
      ∃ s', (pcmSetParams identityHal 0x2000
          ⟨⟨UsedRing.zero, [], 0⟩, ⟨UsedRing.zero, [], 0⟩, ⟨UsedRing.zero, [], 0⟩⟩
          ⟨UsedRing.zero, [UsedRing.zero.push QUEUE_SIZE
            ⟨UInt32.ofNat (init 0 false false : VirtQueue QUEUE_SIZE).freeHead, 4⟩], S_OK⟩ 1 4 4).run
          ⟨[], init 0 false false, init 2 false false, 0, 1, 0, [PcmParameters.default], 0x3000, true⟩ =
        .error .panic s' :=
  stream_id_past_streams_panics identityHal 0x2000 rfl rfl (by decide) _ (by decide) (by decide)
    (by decide) .refl rfl rfl
    (UsedPending.push sizeOk_QUEUE_SIZE
      (show (init 0 false false : VirtQueue QUEUE_SIZE).UsedPending UsedRing.zero [] from
        IndexRing.holds_nil _ _ _) (by decide) _)

end Ids

end VirtIOSound
end VirtioDrivers
