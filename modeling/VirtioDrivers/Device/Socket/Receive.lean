import VirtioDrivers.Device.Socket.Vsock
import VirtioDrivers.Queue.Device

/-! The receive path of the socket driver. `poll` takes the used element the device
wrote at its word in `OwningQueue::pop`: the id indexes the receive buffers and the
length slices the buffer, and both panic when the device writes past them, before
`read_header_and_body` sees a byte. What does reach `read_header_and_body` is checked:
it hands on a body only when the header and the length the header announces lie inside
the bytes the device wrote. -/
namespace VirtioDrivers
open Vsock

/-- A packet laid out as `as_bytes` lays out its header, followed by a body of the length the
header announces, is read back as that header and that body, whatever follows in the buffer. -/
theorem readHeaderAndBody_asBytes (header : VirtioVsockHdr) {body : List UInt8} (rest : List UInt8)
    (hlen : header.len.toNat = body.length) :
    readHeaderAndBody (header.asBytes ++ body ++ rest) = .ok (header, body) := by
  have hend : VirtioVsockHdr.SIZE + header.len.toNat ≤ (header.asBytes ++ body ++ rest).length := by
    simp [hlen]
  have hbody : ((header.asBytes ++ body ++ rest).drop VirtioVsockHdr.SIZE).take header.len.toNat =
      body := by
    rw [List.append_assoc, List.drop_left' (VirtioVsockHdr.length_asBytes header), hlen,
      List.take_left' rfl]
  unfold readHeaderAndBody
  rw [List.append_assoc, VirtioVsockHdr.readFromPrefix_asBytes, ← List.append_assoc]
  simp only [if_pos hend, hbody]
  rfl

theorem readHeaderAndBody_asBytes_hello :
    readHeaderAndBody ((⟨3, 2, 1234, 4321, 5, 1, 5, 0, 1024, 0⟩ : VirtioVsockHdr).asBytes ++ [104, 101, 108, 108, 111] ++
        [0, 0, 0]) = .ok (⟨3, 2, 1234, 4321, 5, 1, 5, 0, 1024, 0⟩, [104, 101, 108, 108, 111]) :=
  readHeaderAndBody_asBytes _ _ (by decide)

namespace VirtIOSocket
variable {RX_BUFFER_SIZE : Nat} {ρ : Type} (H : Hal) (used : UsedRing) (mem : Nat → UInt8)
  (handler : VsockEvent → List UInt8 → ρ → Except Fault (Option VsockEvent) × ρ)

theorem poll_of_pop_error {s : VirtIOSocket RX_BUFFER_SIZE} {r : ρ} {f : Fault}
    {s₁ : OwningQueue QUEUE_SIZE RX_BUFFER_SIZE × List TransportCall}
    (hpop : (OwningQueue.pop H used mem).run (s.rx, s.transport) = .error f s₁) :
    (poll H used mem handler).run (s, r) =
      .error f ({ s with rx := s₁.1, transport := s₁.2 }, r) := by
  unfold poll
  apply EStateM.run_zoom_error (t := (s₁, r))
  exact OwningQueue.pollWith_of_pop_error _ hpop

/-- The receive path when `pop` returns: the handler sees the event read from the header
and the body `read_header_and_body` cut out, the buffer goes back in the queue, and `poll`
returns what the handler returned. -/
theorem poll_of_pop_some {s : VirtIOSocket RX_BUFFER_SIZE} {r r' : ρ} {bytes : List UInt8}
    {t : Nat} {s₁ s₂ : OwningQueue QUEUE_SIZE RX_BUFFER_SIZE × List TransportCall}
    {header : VirtioVsockHdr} {body : List UInt8} {event : VsockEvent} {v : Option VsockEvent}
    (hpop : (OwningQueue.pop H used mem).run (s.rx, s.transport) = .ok (some (bytes, t)) s₁)
    (hread : readHeaderAndBody bytes = .ok (header, body))
    (hev : VsockEvent.fromHeader header = .ok event) (hh : handler event body r = (.ok v, r'))
    (hadd : (OwningQueue.addBufferToQueue H used t).run s₁ = .ok () s₂) :
    (poll H used mem handler).run (s, r) =
      .ok v ({ s with rx := s₂.1, transport := s₂.2 }, r') := by
  unfold poll
  apply EStateM.run_zoom_ok (t := (s₂, r'))
  exact OwningQueue.pollWith_of_pop_some hpop (by simp [hread, hev, hh]) hadd

/-- The receive path trusts the used element the device wrote. From any state, an id
that is not one of the receive buffers' tokens, or a length past the end of the buffer
`pop_used` returns it for, makes `poll` panic, whatever the buffer holds and whatever
the handler. -/
theorem poll_panics_on_device_used (s : VirtIOSocket RX_BUFFER_SIZE) (r : ρ) {t : Nat}
    (hpeek : s.rx.queue.peekUsed used = some t) :
    (QUEUE_SIZE ≤ t → ((poll H used mem handler).run (s, r)).error? = some .panic) ∧
      (∀ (q' : VirtQueue QUEUE_SIZE) (len : UInt32) (us : List Unshare),
        s.rx.queue.popUsed H used t [] [s.rx.buffer t] = .ok (q', len, us) →
        RX_BUFFER_SIZE < len.toNat → ((poll H used mem handler).run (s, r)).error? = some .panic) := by
  have hid : QUEUE_SIZE ≤ t → ((poll H used mem handler).run (s, r)).error? = some .panic :=
    fun ht => by
      rw [poll_of_pop_error H used mem handler (OwningQueue.pop_panics_of_size_le H used mem _ _ hpeek ht)]
      rfl
  refine ⟨hid, fun q' len us hpop hlen => ?_⟩
  by_cases ht : t < QUEUE_SIZE
  · rw [poll_of_pop_error H used mem handler
      (OwningQueue.pop_panics_of_len_gt H used mem _ _ hpeek ht hpop hlen)]
    rfl
  · exact hid (Nat.not_lt.mp ht)

/-- A new socket whose device returns a used element with id 8, past its eight receive
buffers, or with id 0 and a length of 600, past the 512 bytes of buffer 0: `poll` panics
both times. -/
theorem poll_panics_on_device_used_new :
    ∃ s : VirtIOSocket DEFAULT_RX_BUFFER_SIZE,
      VirtIOSocket.new VirtQueue.identityHal (.plain 8) .idle 1 (fun i => 0x10000 + 512 * i) [] =
        .ok s ∧
      ((poll VirtQueue.identityHal (UsedRing.zero.push QUEUE_SIZE ⟨8, 16⟩) (fun _ => 0)
        (fun event _ r => (.ok (some event), r))).run (s, ())).error? = some .panic ∧
      ((poll VirtQueue.identityHal (UsedRing.zero.push QUEUE_SIZE ⟨0, 600⟩) (fun _ => 0)
        (fun event _ r => (.ok (some event), r))).run (s, ())).error? = some .panic := by
  have hfacts : (VirtIOSocket.new VirtQueue.identityHal (.plain 8) .idle 1
      (fun i => 0x10000 + 512 * i) [] : Except Fault (VirtIOSocket DEFAULT_RX_BUFFER_SIZE)).toOption.map
      (fun s => (s.rx.queue.peekUsed (UsedRing.zero.push QUEUE_SIZE ⟨8, 16⟩),
        s.rx.queue.peekUsed (UsedRing.zero.push QUEUE_SIZE ⟨0, 600⟩),
        (s.rx.queue.popUsed VirtQueue.identityHal (UsedRing.zero.push QUEUE_SIZE ⟨0, 600⟩) 0 []
          [s.rx.buffer 0]).toOption.map (·.2.1))) = some (some 8, some 0, some 600) := by
    decide +kernel
  cases hs : (VirtIOSocket.new VirtQueue.identityHal (.plain 8) .idle 1
      (fun i => 0x10000 + 512 * i) [] : Except Fault (VirtIOSocket DEFAULT_RX_BUFFER_SIZE)) with
  | error e => simp [hs, Except.toOption] at hfacts
  | ok s =>
    simp only [hs, Except.toOption, Option.map_some, Option.some.injEq, Prod.mk.injEq] at hfacts
    obtain ⟨h8, h0, hpop⟩ := hfacts
    cases hp : s.rx.queue.popUsed VirtQueue.identityHal (UsedRing.zero.push QUEUE_SIZE ⟨0, 600⟩) 0 []
        [s.rx.buffer 0] with
    | error e => simp [hp] at hpop
    | ok res =>
      obtain ⟨q', len, us⟩ := res
      have hlen : len = 600 := by simpa [hp, Except.toOption] using hpop
      subst hlen
      exact ⟨s, rfl,
        (poll_panics_on_device_used _ _ _ _ s () h8).1 (by decide),
        (poll_panics_on_device_used _ _ _ _ s () h0).2 q' 600 us hp (by decide)⟩

end VirtIOSocket
end VirtioDrivers
