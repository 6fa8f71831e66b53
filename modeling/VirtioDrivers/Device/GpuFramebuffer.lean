import VirtioDrivers.Device.Gpu
import VirtioDrivers.Queue.WaitPop

/-! The size of the frame buffer. `setup_framebuffer` multiplies the width and height the
device reports, and 4, on `u32`, with nothing checked first. Past `2 ^ 32` a debug build
panics, where an error would be returned for anything else the device gets wrong; a
release build wraps, allocates and attaches the pages for the residue, and returns a
slice of them, while the resource the device created is the full width by the full
height. -/
namespace VirtioDrivers
open Gpu

theorem pages_pos {size : Nat} (h : 0 < size) : 0 < pages size := by
  unfold pages PAGE_SIZE
  omega

namespace VirtIOGpu
variable (H : Hal)

/-- `request` is the control queue's round trip, with the request added to what the
device has been sent. -/
theorem request_run (req : CtrlRequest) (r : GpuReply) (s : VirtIOGpu) :
    (request H req r).run s =
      match (VirtQueue.addNotifyWaitPop H [⟨s.queueBufSend, PAGE_SIZE⟩] [⟨s.queueBufRecv, PAGE_SIZE⟩]
          r.used r.views).run (s.controlQueue, s.transport) with
      | .ok _ (q, log) => .ok r.resp { s with sent := s.sent ++ [req], controlQueue := q, transport := log }
      | .error e (q, log) => .error e { s with sent := s.sent ++ [req], controlQueue := q, transport := log } := by
  simp only [request, onControl, EStateM.run, EStateM.bind_apply, EStateM.zoom,
    EStateM.modify_apply, EStateM.monadState_get_apply]
  cases (VirtQueue.addNotifyWaitPop H [⟨s.queueBufSend, PAGE_SIZE⟩] [⟨s.queueBufRecv, PAGE_SIZE⟩]
      r.used r.views) (s.controlQueue, s.transport) with
  | ok a t => rfl
  | error e t => rfl

theorem ofResult_run_state {σ α : Type} {x : Except Error α} {s s' : σ} {a : α}
    (h : (ofResult x).run s = .ok a s') : s' = s := by
  cases x with
  | ok b => cases h; rfl
  | error e => cases h

section Sent
variable {req : CtrlRequest} {r : GpuReply} {s s' : VirtIOGpu}

theorem request_sent {v : RespDisplayInfo} (h : (request H req r).run s = .ok v s') :
    s'.sent = s.sent ++ [req] := by
  rw [request_run] at h
  split at h
  · cases h
    rfl
  · cases h

theorem nodataRequest_sent (h : (nodataRequest H req r).run s = .ok () s') :
    s'.sent = s.sent ++ [req] := by
  obtain ⟨rsp, s₁, hreq, hcheck⟩ := EStateM.run_bind_eq_ok.mp h
  rw [ofResult_run_state hcheck, request_sent H hreq]

theorem getDisplayInfo_sent {info : RespDisplayInfo} (h : (getDisplayInfo H r).run s = .ok info s') :
    s'.sent = s.sent ++ [.header (CtrlHeader.withType GET_DISPLAY_INFO)] := by
  obtain ⟨rsp, s₁, hreq, hrest⟩ := EStateM.run_bind_eq_ok.mp h
  obtain ⟨u, s₂, hcheck, hpure⟩ := EStateM.run_bind_eq_ok.mp hrest
  have hs₂ : s' = s₂ := by
    cases hpure
    rfl
  rw [hs₂, ofResult_run_state hcheck, request_sent H hreq]

end Sent

theorem Dma.new_pages {pages : Nat} {direction : BufferDirection} {dma : Dma}
    (h : Dma.new H pages direction = .ok dma) : dma.pages = pages := by
  unfold Dma.new at h
  cases halloc : H.dmaAlloc pages direction with
  | mk paddr vaddr =>
    rw [halloc] at h
    by_cases h0 : paddr = 0
    · simp [h0] at h
    · simp only [h0, if_false] at h
      cases h
      rfl

theorem Dma.rawSlice_of_pos {dma : Dma} (h : 0 < dma.pages) :
    dma.rawSlice = .ok ⟨dma.vaddr, dma.pages * PAGE_SIZE⟩ := by
  have hlen : 0 < dma.pages * PAGE_SIZE := Nat.mul_pos h (by decide)
  simp [Dma.rawSlice, Dma.vaddrAt, hlen]

/-- Past `2 ^ 32` the wrapped size of the frame buffer, and the pages that cover it, fall
short of the exact size; a residue that is not zero means the exact size is not `2 ^ 32`
itself. -/
theorem wrapped_size_lt {width height : UInt32}
    (hbig : 2 ^ 32 ≤ width.toNat * height.toNat * 4) (hpos : 0 < (width * height * 4).toNat) :
    (width * height * 4).toNat < width.toNat * height.toNat * 4 ∧
      pages (width * height * 4).toNat * PAGE_SIZE < width.toNat * height.toNat * 4 := by
  have hsize : (width * height * 4).toNat = width.toNat * height.toNat % 2 ^ 32 * 4 % 2 ^ 32 := by
    rw [UInt32.toNat_mul, UInt32.toNat_mul]
    rfl
  rw [hsize] at hpos ⊢
  unfold pages PAGE_SIZE
  omega

section Framebuffer
variable {replies : FramebufferReplies} {s s₁ s₂ s₃ s₄ : VirtIOGpu} {info : RespDisplayInfo}

/-- A debug build: once the device has answered the display query and created the
resource, a size past `2 ^ 32` panics, whichever of the two products leaves `u32`. -/
theorem setupFramebuffer_panics_of_le
    (hinfo : (getDisplayInfo H replies.displayInfo).run s = .ok info s₁)
    (hcreate : (resourceCreate2D H replies.create RESOURCE_ID_FB info.rect.width info.rect.height).run
      { s₁ with rect := some info.rect } = .ok () s₂)
    (hbig : 2 ^ 32 ≤ info.rect.width.toNat * info.rect.height.toNat * 4) :
    (setupFramebuffer H .panics replies).run s = .error .panic s₂ := by
  unfold setupFramebuffer
  rw [EStateM.run_bind_of_ok hinfo, EStateM.run_bind_of_ok (x := modify _) rfl,
    EStateM.run_bind_of_ok hcreate]
  by_cases harea : info.rect.width.toNat * info.rect.height.toNat < 2 ^ 32
  · have hsize : 2 ^ 32 ≤ (info.rect.width * info.rect.height).toNat * (4 : UInt32).toNat := by
      rw [UInt32.toNat_mul, Nat.mod_eq_of_lt harea]
      exact hbig
    simp [Overflow.mul_of_lt _ harea, Overflow.mul_panics_of_le hsize, EStateM.run]
  · simp [Overflow.mul_panics_of_le (Nat.le_of_not_lt harea), EStateM.run]

/-- Once both products are computed, the pages for `size` bytes are allocated, and the
device has answered the attachment and the scanout, the slice of those pages is returned. -/
theorem setupFramebuffer_of_size {o : Overflow} {area size : UInt32} {dma : Dma}
    (hinfo : (getDisplayInfo H replies.displayInfo).run s = .ok info s₁)
    (hcreate : (resourceCreate2D H replies.create RESOURCE_ID_FB info.rect.width info.rect.height).run
      { s₁ with rect := some info.rect } = .ok () s₂)
    (harea : o.mul info.rect.width info.rect.height = some area) (hsize : o.mul area 4 = some size)
    (hdma : Dma.new H (pages size.toNat) .driverToDevice = .ok dma)
    (hattach : (resourceAttachBacking H replies.attach RESOURCE_ID_FB (UInt64.ofNat dma.paddr)
      size).run s₂ = .ok () s₃)
    (hscanout : (setScanout H replies.scanout info.rect SCANOUT_ID RESOURCE_ID_FB).run s₃ = .ok () s₄)
    (hpages : 0 < dma.pages) :
    (setupFramebuffer H o replies).run s =
      .ok ⟨dma.vaddr, dma.pages * PAGE_SIZE⟩ { s₄ with frameBufferDma := some dma } := by
  unfold setupFramebuffer
  rw [EStateM.run_bind_of_ok hinfo, EStateM.run_bind_of_ok (x := modify _) rfl,
    EStateM.run_bind_of_ok hcreate]
  simp only [harea, hsize]
  rw [EStateM.run_bind_of_ok (EStateM.run_ofExcept_eq_ok.mpr ⟨hdma, rfl⟩),
    EStateM.run_bind_of_ok hattach, EStateM.run_bind_of_ok hscanout,
    EStateM.run_bind_of_ok (EStateM.run_ofExcept_eq_ok.mpr ⟨Dma.rawSlice_of_pos hpages, rfl⟩)]
  rfl

/-- A release build: the size wraps, and once the pages for the residue are allocated and
the device has answered the attachment and the scanout, the slice of those pages is
returned. -/
theorem setupFramebuffer_wraps_of_pos {dma : Dma}
    (hinfo : (getDisplayInfo H replies.displayInfo).run s = .ok info s₁)
    (hcreate : (resourceCreate2D H replies.create RESOURCE_ID_FB info.rect.width info.rect.height).run
      { s₁ with rect := some info.rect } = .ok () s₂)
    (hdma : Dma.new H (pages (info.rect.width * info.rect.height * 4).toNat) .driverToDevice = .ok dma)
    (hattach : (resourceAttachBacking H replies.attach RESOURCE_ID_FB (UInt64.ofNat dma.paddr)
      (info.rect.width * info.rect.height * 4)).run s₂ = .ok () s₃)
    (hscanout : (setScanout H replies.scanout info.rect SCANOUT_ID RESOURCE_ID_FB).run s₃ = .ok () s₄)
    (hpos : 0 < (info.rect.width * info.rect.height * 4).toNat) :
    (setupFramebuffer H .wraps replies).run s =
      .ok ⟨dma.vaddr, dma.pages * PAGE_SIZE⟩ { s₄ with frameBufferDma := some dma } := by
  -- a size that is not zero takes at least one page, so the slice does not panic
  have hpages : 0 < dma.pages := by
    rw [Dma.new_pages H hdma]
    exact pages_pos hpos
  exact setupFramebuffer_of_size H hinfo hcreate (Overflow.mul_wraps _ _) (Overflow.mul_wraps _ _)
    hdma hattach hscanout hpages

/-- The size of the frame buffer is computed on `u32` from the rectangle the device
reports, with nothing checked. Past `2 ^ 32`, a debug build panics once the resource is
created, where a request the device gets wrong returns an error; a release build, once
the rest is answered, returns `Ok` with a slice, pages and an attached backing all short
of `width * height * 4` bytes, the resource having been created at the full width and
height. -/
theorem setupFramebuffer_size_overflows
    (hinfo : (getDisplayInfo H replies.displayInfo).run s = .ok info s₁)
    (hcreate : (resourceCreate2D H replies.create RESOURCE_ID_FB info.rect.width info.rect.height).run
      { s₁ with rect := some info.rect } = .ok () s₂)
    (hbig : 2 ^ 32 ≤ info.rect.width.toNat * info.rect.height.toNat * 4) :
    (setupFramebuffer H .panics replies).run s = .error .panic s₂ ∧
    ∀ {dma : Dma} {s₃ s₄ : VirtIOGpu},
      Dma.new H (pages (info.rect.width * info.rect.height * 4).toNat) .driverToDevice = .ok dma →
      (resourceAttachBacking H replies.attach RESOURCE_ID_FB (UInt64.ofNat dma.paddr)
        (info.rect.width * info.rect.height * 4)).run s₂ = .ok () s₃ →
      (setScanout H replies.scanout info.rect SCANOUT_ID RESOURCE_ID_FB).run s₃ = .ok () s₄ →
      0 < (info.rect.width * info.rect.height * 4).toNat →
      (setupFramebuffer H .wraps replies).run s =
          .ok ⟨dma.vaddr, dma.pages * PAGE_SIZE⟩ { s₄ with frameBufferDma := some dma } ∧
        dma.pages * PAGE_SIZE < info.rect.width.toNat * info.rect.height.toNat * 4 ∧
        (info.rect.width * info.rect.height * 4).toNat <
          info.rect.width.toNat * info.rect.height.toNat * 4 ∧
        s₄.sent = s.sent ++ [.header (CtrlHeader.withType GET_DISPLAY_INFO),
          .resourceCreate2D ⟨CtrlHeader.withType RESOURCE_CREATE_2D, RESOURCE_ID_FB, .b8g8r8a8unorm,
            info.rect.width, info.rect.height⟩,
          .resourceAttachBacking ⟨CtrlHeader.withType RESOURCE_ATTACH_BACKING, RESOURCE_ID_FB, 1,
            UInt64.ofNat dma.paddr, info.rect.width * info.rect.height * 4⟩,
          .setScanout ⟨CtrlHeader.withType SET_SCANOUT, info.rect, SCANOUT_ID, RESOURCE_ID_FB⟩] := by
  refine ⟨setupFramebuffer_panics_of_le H hinfo hcreate hbig, ?_⟩
  intro dma s₃ s₄ hdma hattach hscanout hpos
  obtain ⟨hlength, hpages⟩ := wrapped_size_lt hbig hpos
  refine ⟨setupFramebuffer_wraps_of_pos H hinfo hcreate hdma hattach hscanout hpos,
    by rwa [Dma.new_pages H hdma], hlength, ?_⟩
  rw [nodataRequest_sent H hscanout, nodataRequest_sent H hattach, nodataRequest_sent H hcreate,
    getDisplayInfo_sent H hinfo]
  simp

end Framebuffer

end VirtIOGpu

/-- A display of 65537 by 16384 pixels on a fresh driver, whose device answers every
request as soon as it is notified: `width * height * 4` is `2 ^ 32 + 2 ^ 16`, so a debug
build panics and a release build returns 16 pages. -/
theorem setupFramebuffer_size_overflows_65537_by_16384 :
    let gpu : VirtIOGpu := ⟨[], none, none, VirtQueue.init QUEUE_TRANSMIT false false, 0x1000, 0x2000, []⟩
    let nodata : RespDisplayInfo := ⟨CtrlHeader.withType OK_NODATA, ⟨0, 0, 0, 0⟩, 0, 0⟩
    let u₁ := UsedRing.zero.push QUEUE_SIZE ⟨0, 48⟩
    let u₂ := u₁.push QUEUE_SIZE ⟨0, 24⟩
    let u₃ := u₂.push QUEUE_SIZE ⟨0, 24⟩
    let replies : FramebufferReplies :=
      ⟨⟨UsedRing.zero, [u₁], ⟨CtrlHeader.withType OK_DISPLAY_INFO, ⟨0, 0, 65537, 16384⟩, 1, 0⟩⟩,
        ⟨u₁, [u₂], nodata⟩, ⟨u₂, [u₃], nodata⟩, ⟨u₃, [u₃.push QUEUE_SIZE ⟨0, 24⟩], nodata⟩⟩
    (∃ s', (VirtIOGpu.setupFramebuffer VirtQueue.identityHal .panics replies).run gpu = .error .panic s') ∧
      ∃ s', (VirtIOGpu.setupFramebuffer VirtQueue.identityHal .wraps replies).run gpu =
          .ok ⟨16, 16 * PAGE_SIZE⟩ s' ∧ 16 * PAGE_SIZE < 65537 * 16384 * 4 := by
  intro gpu nodata u₁ u₂ u₃ replies
  have hinfo := EStateM.Result.eq_ok_of_value?
    (show ((VirtIOGpu.getDisplayInfo VirtQueue.identityHal replies.displayInfo).run gpu).value? =
      some ⟨CtrlHeader.withType OK_DISPLAY_INFO, ⟨0, 0, 65537, 16384⟩, 1, 0⟩ by
      unfold gpu replies u₁ nodata
      decide +kernel)
  have hcreate := EStateM.Result.eq_ok_of_value?
    (show ((VirtIOGpu.resourceCreate2D VirtQueue.identityHal replies.create RESOURCE_ID_FB 65537 16384).run
      { ((VirtIOGpu.getDisplayInfo VirtQueue.identityHal replies.displayInfo).run gpu).state with
        rect := some ⟨0, 0, 65537, 16384⟩ }).value? = some () by
      unfold gpu replies u₁ u₂ nodata
      decide +kernel)
  obtain ⟨hdebug, hrelease⟩ :=
    VirtIOGpu.setupFramebuffer_size_overflows VirtQueue.identityHal hinfo hcreate (by decide)
  obtain ⟨hrun, hshort, -, -⟩ := @hrelease ⟨16, 16, 16⟩ _ _ rfl
    (EStateM.Result.eq_ok_of_value? (by unfold gpu replies u₁ u₂ u₃ nodata; decide +kernel))
    (EStateM.Result.eq_ok_of_value? (by unfold gpu replies u₁ u₂ u₃ nodata; decide +kernel))
    (by decide)
  exact ⟨⟨_, hdebug⟩, _, hrun, hshort⟩

end VirtioDrivers
