import VirtioDrivers.Device.Blk
import VirtioDrivers.Queue.WaitPop

/-! The non-blocking calls of the block driver. `read_blocks_nb` and `write_blocks_nb` add
their chain at the head of the free list, next to the chains already outstanding. A
caller that completes the token with the same buffers, once the device has returned that
chain next, takes out exactly that chain and gets the status; completing it while the
device has returned another chain fails with `WrongToken` and changes nothing. -/
namespace VirtioDrivers
open Blk Transport

namespace VirtIOBlk
variable (H : Hal)

section Nb
variable {idx : UInt16} {indirect eventIdx : Bool} {s : VirtIOBlk} {cs : List Chain}
  {req : BlkReq} {buf : Buf} {inputs outputs : List Buf} {used : UsedRing}

theorem blocksNb_run {q' : VirtQueue QUEUE_SIZE} {t : Nat} (hbuf : buf.len ≠ 0)
    (hsector : buf.len % SECTOR_SIZE = 0) (hadd : s.queue.add H inputs outputs = .ok (q', t)) :
    (blocksNb H req buf inputs outputs used).run s =
      .ok t { s with sent := s.sent ++ [req], queue := q',
                     transport := if q'.shouldNotify used then s.transport ++ [.notify QUEUE]
                       else s.transport } := by
  by_cases hn : q'.shouldNotify used = true
  · simp [blocksNb, assert, hbuf, hsector, hn, hadd, EStateM.run, EStateM.bind_apply, onQueue,
      EStateM.zoom, EStateM.onPart, notify, command]
  · simp [blocksNb, assert, hbuf, hsector, hn, hadd, EStateM.run, EStateM.bind_apply, onQueue,
      EStateM.zoom, EStateM.onPart]

/-- On a reachable queue with room for the chain, the call adds it at the head of the free
list, next to the chains outstanding. -/
theorem blocksNb_reachable (hr : VirtQueue.Reachable H idx indirect eventIdx (s.queue, cs))
    (hbuf : buf.len ≠ 0) (hsector : buf.len % SECTOR_SIZE = 0)
    (hfit : ∀ p ∈ inputOutputIter inputs outputs, p.1.Fits)
    (hpos : 0 < inputs.length + outputs.length)
    (hroom : inputs.length + outputs.length ≤ s.queue.availableDesc)
    (hsmall : 16 * (inputs.length + outputs.length) < 2 ^ 32) :
    ∃ s', (blocksNb H req buf inputs outputs used).run s = .ok s.queue.freeHead s' ∧
      s'.sent = s.sent ++ [req] ∧
      VirtQueue.Reachable H idx indirect eventIdx (s'.queue, ⟨s.queue.freeHead, inputs, outputs⟩ :: cs) := by
  obtain ⟨q', hadd⟩ :=
    (VirtQueue.Inv.reachable sizeOk_QUEUE_SIZE.pos hr).add_ok H hfit hpos hroom hsmall
  exact ⟨_, blocksNb_run H hbuf hsector hadd, rfl, hr.tail (VirtQueue.Step.add hadd)⟩

theorem completeBlocks_run {token : Nat} {status : RespStatus} {q' : VirtQueue QUEUE_SIZE}
    {len : UInt32} {us : List Unshare}
    (hpop : s.queue.popUsed H used token inputs outputs = .ok (q', len, us)) :
    (completeBlocks H token inputs outputs used status).run s =
      (ofResult status.toResult).run { s with queue := q' } := by
  simp [completeBlocks, onQueue, EStateM.run, EStateM.bind_apply, EStateM.zoom, EStateM.onPart, hpop]

theorem completeBlocks_of_error {token : Nat} {status : RespStatus} {e : Fault}
    (hpop : s.queue.popUsed H used token inputs outputs = .error e) :
    (completeBlocks H token inputs outputs used status).run s = .error e s := by
  simp [completeBlocks, onQueue, EStateM.run, EStateM.bind_apply, EStateM.zoom, EStateM.onPart, hpop]

theorem completeBlocks_of_returned (hr : VirtQueue.Reachable H idx indirect eventIdx (s.queue, cs))
    {c : Chain} (hc : c ∈ cs) (hne : ∀ p ∈ c.bufs, p.1.len ≠ 0) (hcan : s.queue.canPop used = true)
    (htok : (used.ring s.queue.lastUsedSlot).id.toUInt16.toNat = c.token) (status : RespStatus) :
    ∃ q', (completeBlocks H c.token c.inputs c.outputs used status).run s =
        (ofResult status.toResult).run { s with queue := q' } ∧
      VirtQueue.Reachable H idx indirect eventIdx (q', cs.erase c) := by
  obtain ⟨q', us, hpop⟩ :=
    (VirtQueue.Inv.reachable sizeOk_QUEUE_SIZE.pos hr).popUsed_ok H hc hne hcan htok
  exact ⟨q', completeBlocks_run H hpop, hr.tail (VirtQueue.Step.pop hc hpop)⟩

theorem completeBlocks_of_ne_token {token : Nat} (hcan : s.queue.canPop used = true)
    (hid : (used.ring s.queue.lastUsedSlot).id.toUInt16.toNat ≠ token) (status : RespStatus) :
    (completeBlocks H token inputs outputs used status).run s = .error (.err .wrongToken) s :=
  completeBlocks_of_error H (VirtQueue.popUsed_of_ne_token H hcan hid)

/-- A non-blocking call and the completion of its token with the same buffers: the chain
goes in next to those outstanding; once the device has returned it next, the completion
takes it out again and returns the status, and while the device has returned another
chain the completion fails with `WrongToken` and changes nothing. -/
theorem blocksNb_round_trip (hr : VirtQueue.Reachable H idx indirect eventIdx (s.queue, cs))
    (hbuf : buf.len ≠ 0) (hsector : buf.len % SECTOR_SIZE = 0)
    (hfit : ∀ p ∈ inputOutputIter inputs outputs, p.1.Fits)
    (hpos : 0 < inputs.length + outputs.length)
    (hroom : inputs.length + outputs.length ≤ s.queue.availableDesc)
    (hsmall : 16 * (inputs.length + outputs.length) < 2 ^ 32) :
    ∃ s₁, (blocksNb H req buf inputs outputs used).run s = .ok s.queue.freeHead s₁ ∧
      s₁.sent = s.sent ++ [req] ∧
      ∀ (u : UsedRing) (status : RespStatus), s₁.queue.canPop u = true →
        ((u.ring s₁.queue.lastUsedSlot).id.toUInt16.toNat = s.queue.freeHead →
          ∃ q₂, (completeBlocks H s.queue.freeHead inputs outputs u status).run s₁ =
              (ofResult status.toResult).run { s₁ with queue := q₂ } ∧
            VirtQueue.Reachable H idx indirect eventIdx (q₂, cs)) ∧
        ((u.ring s₁.queue.lastUsedSlot).id.toUInt16.toNat ≠ s.queue.freeHead →
          (completeBlocks H s.queue.freeHead inputs outputs u status).run s₁ =
            .error (.err .wrongToken) s₁) := by
  obtain ⟨s₁, hrun, hsent, hr₁⟩ := blocksNb_reachable H hr hbuf hsector hfit hpos hroom hsmall
  refine ⟨s₁, hrun, hsent, fun u status hcan => ⟨fun htok => ?_, fun hid =>
    completeBlocks_of_ne_token H hcan hid status⟩⟩
  obtain ⟨q₂, hrun₂, hr₂⟩ := completeBlocks_of_returned H hr₁ List.mem_cons_self
    (fun p hp => (hfit p hp).1) hcan htok status
  rw [List.erase_cons_head] at hr₂
  exact ⟨q₂, hrun₂, hr₂⟩

end Nb

theorem nbBufs_fit {req resp : Nat} {buf : Buf} (hbuf : buf.len ≠ 0) (hlen : buf.len < 2 ^ 32) :
    ∀ b ∈ [⟨req, BlkReq.SIZE⟩, buf, ⟨resp, 1⟩], Buf.Fits b := by
  simp only [List.mem_cons, List.not_mem_nil, or_false]
  rintro b (rfl | rfl | rfl)
  · exact ⟨by simp [BlkReq.SIZE], by simp [BlkReq.SIZE]⟩
  · exact ⟨hbuf, hlen⟩
  · exact ⟨by simp, by simp⟩

/-- A `read_blocks_nb` on a queue the driver's calls reached, with room for its three
descriptors, returns the head of the free list as its token and records the request. Once the
device has returned that chain next, `complete_read_blocks` with the same buffers takes out
exactly it, leaving a queue reached with the other chains, and returns the status; while the
device has returned another chain, it fails with `WrongToken` and changes nothing. -/
theorem readBlocksNb_round_trip {idx : UInt16} {indirect eventIdx : Bool} {s : VirtIOBlk}
    {cs : List Chain} {blockId req resp : Nat} {buf : Buf}
    (hr : VirtQueue.Reachable H idx indirect eventIdx (s.queue, cs))
    (hbuf : buf.len ≠ 0) (hsector : buf.len % SECTOR_SIZE = 0) (hlen : buf.len < 2 ^ 32)
    (hroom : 3 ≤ s.queue.availableDesc) (used : UsedRing) :
    ∃ s₁, (readBlocksNb H blockId req buf resp used).run s = .ok s.queue.freeHead s₁ ∧
      s₁.sent = s.sent ++ [⟨.«in», 0, UInt64.ofNat blockId⟩] ∧
      ∀ (u : UsedRing) (status : RespStatus), s₁.queue.canPop u = true →
        ((u.ring s₁.queue.lastUsedSlot).id.toUInt16.toNat = s.queue.freeHead →
          ∃ q₂, (completeReadBlocks H s.queue.freeHead req buf resp u status).run s₁ =
              (ofResult status.toResult).run { s₁ with queue := q₂ } ∧
            VirtQueue.Reachable H idx indirect eventIdx (q₂, cs)) ∧
        ((u.ring s₁.queue.lastUsedSlot).id.toUInt16.toNat ≠ s.queue.freeHead →
          (completeReadBlocks H s.queue.freeHead req buf resp u status).run s₁ =
            .error (.err .wrongToken) s₁) := by
  exact blocksNb_round_trip H hr hbuf hsector
    (fits_of_mem_inputOutputIter (nbBufs_fit hbuf hlen)) (by simp) (by simpa using hroom) (by simp)

theorem readBlocksNb_round_trip_first :
    ∃ s₁, (readBlocksNb VirtQueue.identityHal 7 0x4000 ⟨0x5000, 512⟩ 0x6000 UsedRing.zero).run
        ⟨[], VirtQueue.init 0 false false, 16, 0, []⟩ = .ok 0 s₁ ∧
      s₁.sent = [⟨.«in», 0, 7⟩] := by
  have hbuf : (⟨0x5000, 512⟩ : Buf).len ≠ 0 := by decide
  obtain ⟨s₁, hrun, hsent, -⟩ := readBlocksNb_round_trip VirtQueue.identityHal
    (s := ⟨[], VirtQueue.init 0 false false, 16, 0, []⟩) .refl hbuf (by decide) (by decide)
    (by decide) UsedRing.zero
  exact ⟨s₁, hrun, hsent⟩

end VirtIOBlk
end VirtioDrivers
