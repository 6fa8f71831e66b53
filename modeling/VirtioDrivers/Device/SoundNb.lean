import VirtioDrivers.Device.SoundSetUp
import VirtioDrivers.Device.SoundLoop
import VirtioDrivers.Lib.StepRun

/-! The non-blocking transfers of the sound driver (`pcm_xfer_nb`, `pcm_xfer_ok` in
`device/sound.rs`). `pcm_xfer_nb` sends one period of frames behind the stream id, in a new
buffer, ahead of a new status, and keeps the two by the token `add` returns, in `token_buf`
and `token_rsp`. `pcm_xfer_ok` asserts that both maps hold the token, pops the chain with the
buffers they hold and forgets the token. Over any sequence of the two calls, each returning
`Ok` or `Err`, the maps hold exactly the requests in flight on the transmit queue, each with
the buffers it went out with: completing a token not in flight panics, and completing one the
device has returned next succeeds. -/
namespace VirtioDrivers
open Sound VirtQueue Transport

namespace Sound

/-- `size_of::<u32>()` and `size_of::<VirtIOSndPcmStatus>()`. -/
def U32_SIZE : Nat := 4
def PCM_STATUS_SIZE : Nat := 8

end Sound

/-- `token_buf` and `token_rsp`: the `BTreeMap`s from a token to the buffer of stream id and
frames its request went out with, and to the status the device writes back. -/
structure TokenMaps where
  tokenBuf : Nat → Option Buf
  tokenRsp : Nat → Option Buf

namespace TokenMaps

/-- The maps `VirtIOSound::new` starts with. -/
def empty : TokenMaps := ⟨fun _ => none, fun _ => none⟩

/-- The chain the maps hold under a token: its buffer as the one input and its status as the
one output, when both maps hold the token. -/
def chainOf (m : TokenMaps) (t : Nat) : Option Chain :=
  (m.tokenBuf t).bind fun buf => (m.tokenRsp t).map fun rsp => ⟨t, [buf], [rsp]⟩

/-- The maps hold exactly the chains `cs`, each under its token with its buffers, and no other
token; no buffer of a chain is empty. -/
structure Tracks (m : TokenMaps) (cs : List Chain) : Prop where
  chainOf_eq : ∀ c ∈ cs, m.chainOf c.token = some c
  held : ∀ t, m.tokenBuf t ≠ none ∨ m.tokenRsp t ≠ none → ∃ c ∈ cs, c.token = t
  bufs_ne : ∀ c ∈ cs, ∀ p ∈ c.bufs, p.1.len ≠ 0

variable {m : TokenMaps} {cs : List Chain}

theorem tracks_empty : empty.Tracks [] :=
  ⟨by simp, by simp [empty], by simp⟩

theorem chainOf_update_of_ne {t t' : Nat} (h : t' ≠ t) (b r : Option Buf) :
    chainOf ⟨Function.update m.tokenBuf t b, Function.update m.tokenRsp t r⟩ t' = m.chainOf t' := by
  simp [chainOf, Function.update_of_ne h]

theorem Tracks.lookup (h : m.Tracks cs) {c : Chain} (hc : c ∈ cs) :
    ∃ buf rsp, m.tokenBuf c.token = some buf ∧ m.tokenRsp c.token = some rsp ∧
      c = ⟨c.token, [buf], [rsp]⟩ := by
  have hchain := h.chainOf_eq c hc
  simp only [chainOf, Option.bind_eq_some_iff, Option.map_eq_some_iff] at hchain
  obtain ⟨buf, hbuf, rsp, hrsp, hc'⟩ := hchain
  exact ⟨buf, rsp, hbuf, hrsp, hc'.symm⟩

theorem Tracks.mem (h : m.Tracks cs) {t : Nat} {buf rsp : Buf} (hbuf : m.tokenBuf t = some buf)
    (hrsp : m.tokenRsp t = some rsp) : (⟨t, [buf], [rsp]⟩ : Chain) ∈ cs := by
  obtain ⟨c, hc, rfl⟩ := h.held t (.inl (by simp [hbuf]))
  obtain ⟨buf', rsp', hbuf', hrsp', hceq⟩ := h.lookup hc
  rw [hbuf] at hbuf'
  rw [hrsp] at hrsp'
  cases hbuf'
  cases hrsp'
  rwa [← hceq]

theorem Tracks.insert (h : m.Tracks cs) {t : Nat} {buf rsp : Buf} (hfresh : ∀ c ∈ cs, c.token ≠ t)
    (hbuf : buf.len ≠ 0) (hrsp : rsp.len ≠ 0) :
    Tracks ⟨Function.update m.tokenBuf t (some buf), Function.update m.tokenRsp t (some rsp)⟩
      (⟨t, [buf], [rsp]⟩ :: cs) where
  chainOf_eq c hc := by
    rcases List.mem_cons.mp hc with rfl | hc
    · simp [chainOf]
    · rw [chainOf_update_of_ne (hfresh c hc)]
      exact h.chainOf_eq c hc
  held t' ht' := by
    by_cases heq : t' = t
    · exact ⟨_, List.mem_cons_self, heq.symm⟩
    · simp only [Function.update_of_ne heq] at ht'
      obtain ⟨c, hc, hct⟩ := h.held t' ht'
      exact ⟨c, List.mem_cons_of_mem _ hc, hct⟩
  bufs_ne c hc := by
    rcases List.mem_cons.mp hc with rfl | hc
    · simp [Chain.bufs, inputOutputIter, hbuf, hrsp]
    · exact h.bufs_ne c hc

theorem Tracks.remove (h : m.Tracks cs) {c : Chain} (hc : c ∈ cs)
    (hdistinct : ∀ c' ∈ cs.erase c, c'.token ≠ c.token) :
    Tracks ⟨Function.update m.tokenBuf c.token none, Function.update m.tokenRsp c.token none⟩
      (cs.erase c) where
  chainOf_eq c' hc' := by
    rw [chainOf_update_of_ne (hdistinct c' hc')]
    exact h.chainOf_eq c' (List.mem_of_mem_erase hc')
  held t ht := by
    have hne : t ≠ c.token := by
      rintro rfl
      simp at ht
    simp only [Function.update_of_ne hne] at ht
    obtain ⟨c', hc', rfl⟩ := h.held t ht
    have hcc : c' ≠ c := by
      rintro rfl
      exact hne rfl
    exact ⟨c', List.mem_erase_of_ne hcc |>.mpr hc', rfl⟩
  bufs_ne c' hc' := h.bufs_ne c' (List.mem_of_mem_erase hc')

end TokenMaps

namespace VirtQueue

theorem Inv.token_ne_of_mem_erase {SIZE : Nat} {q : VirtQueue SIZE} {cs : List Chain} (h : q.Inv cs)
    {c c' : Chain} (hc : c ∈ cs) (hc' : c' ∈ cs.erase c) : c'.token ≠ c.token := fun htok =>
  h.partitions.not_mem_fp_of_mem_erase hc hc' (token_mem_footprint (h.chains c hc).count_pos)
    (htok ▸ token_mem_footprint (h.chains c' (List.mem_of_mem_erase hc')).count_pos)

end VirtQueue

namespace VirtIOSound
variable (H : Hal) (stack : Nat)

/-- Runs a method of the rest of the driver beside the maps. -/
def onDriver {α : Type} (m : EStateM Fault VirtIOSound α) : EStateM Fault (VirtIOSound × TokenMaps) α :=
  EStateM.zoom Prod.fst (fun p s => (s, p.2)) m

/-- The request of `pcm_xfer_nb` on the transmit queue: the chain goes in, and the device is
notified if it asks to be. -/
def sendNb (used : UsedRing) (buf rsp : Buf) :
    EStateM Fault (VirtQueue QUEUE_SIZE × List TransportCall) Nat := do
  let token ← EStateM.onPart Prod.fst (fun s q => (q, s.2)) (fun q => q.add H [buf] [rsp])
  let (q, _) ← get
  if q.shouldNotify used then
    EStateM.zoom Prod.snd (fun s log => (s.1, log)) (notify TX_QUEUE_IDX)
  pure token

/-- `pcm_xfer_nb(stream_id, frames)`. The new `Vec` of stream id and frames is at `bufAddr`
and the new `Box` of the status at `rspAddr`, wherever the allocator put them. -/
def pcmXferNb (replies : SetUpReplies) (used : UsedRing) (bufAddr rspAddr : Nat) (streamId : UInt32)
    (frames : Buf) : EStateM Fault (VirtIOSound × TokenMaps) Nat := do
  onDriver (ensureSetUp H stack replies)
  let (s, _) ← get
  -- `self.pcm_parameters[stream_id as usize]` panics past the end
  let some params := s.pcmParameters[streamId.toNat]? | throw .panic
  if !params.setup then throw (.err .ioError)
  let periodSize := params.periodBytes.toNat
  -- `assert_eq!(period_size, frames.len())`
  if periodSize != frames.len then throw .panic
  let buf : Buf := ⟨bufAddr, U32_SIZE + periodSize⟩
  let rsp : Buf := ⟨rspAddr, PCM_STATUS_SIZE⟩
  let token ← onDriver (onTx (sendNb H used buf rsp))
  modify fun p => (p.1, { p.2 with tokenBuf := Function.update p.2.tokenBuf token (some buf) })
  modify fun p => (p.1, { p.2 with tokenRsp := Function.update p.2.tokenRsp token (some rsp) })
  pure token

def pcmXferOk (used : UsedRing) (token : Nat) : EStateM Fault (VirtIOSound × TokenMaps) Unit := do
  let (_, m) ← get
  -- the two `assert!`s that the maps contain the token, and the lookups after them
  let some buf := m.tokenBuf token | throw .panic
  let some rsp := m.tokenRsp token | throw .panic
  let _ ← onDriver (onTx (EStateM.onPart Prod.fst (fun s q => (q, s.2))
    (fun q => q.popUsed H used token [buf] [rsp])))
  modify fun p => (p.1, { p.2 with tokenBuf := Function.update p.2.tokenBuf token none })
  modify fun p => (p.1, { p.2 with tokenRsp := Function.update p.2.tokenRsp token none })

/-- A call of the non-blocking pair, with the device area it sees. -/
inductive XferNbCall where
  | nb (replies : SetUpReplies) (used : UsedRing) (bufAddr rspAddr : Nat) (streamId : UInt32) (frames : Buf)
  | ok (used : UsedRing) (token : Nat)

/-- One call by a caller that goes on after an `Err`; a panic ends the run. -/
def xferNbStep : XferNbCall → EStateM Fault (VirtIOSound × TokenMaps) Unit
  | .nb replies used bufAddr rspAddr streamId frames =>
    dropErr (do let _ ← pcmXferNb H stack replies used bufAddr rspAddr streamId frames)
  | .ok used token => dropErr (pcmXferOk H used token)

/-! ### What each call does -/

theorem run_dropErr_eq_ok {σ : Type} {x : EStateM Fault σ Unit} {s s' : σ}
    (h : (dropErr x).run s = .ok () s') : x.run s = .ok () s' ∨ ∃ e, x.run s = .error (.err e) s' := by
  simp only [dropErr, EStateM.run] at h ⊢
  change EStateM.tryCatch x _ s = _ at h
  cases hx : x s with
  | ok a s₁ =>
    simp only [EStateM.tryCatch, hx] at h
    exact .inl h
  | error f s₁ =>
    cases f with
    | err e =>
      simp only [EStateM.tryCatch, hx] at h
      exact .inr ⟨e, by cases h; rfl⟩
    | panic => simp [EStateM.tryCatch, hx] at h
    | stuck => simp [EStateM.tryCatch, hx] at h

theorem run_dropErr_of_error {σ : Type} {x : EStateM Fault σ Unit} {s s₁ s' : σ} {f : Fault}
    (hx : x.run s = .error f s₁) (h : (dropErr x).run s = .ok () s') : s' = s₁ := by
  rcases run_dropErr_eq_ok h with hx' | ⟨e, hx'⟩ <;> rw [hx] at hx'
  · cases hx'
  · cases hx'
    rfl

theorem run_dropErr_of_ok {σ : Type} {x : EStateM Fault σ Unit} {s s₁ s' : σ}
    (hx : x.run s = .ok () s₁) (h : (dropErr x).run s = .ok () s') : s' = s₁ := by
  rcases run_dropErr_eq_ok h with hx' | ⟨e, hx'⟩ <;> rw [hx] at hx'
  · cases hx'
    rfl
  · cases hx'

section Calls
variable (used : UsedRing) {s : VirtIOSound} {m : TokenMaps}

theorem run_onDriver_ok {α : Type} {x : EStateM Fault VirtIOSound α} {a : α} {s' : VirtIOSound}
    (h : x.run s = .ok a s') : (onDriver x).run (s, m) = .ok a (s', m) :=
  EStateM.run_zoom_ok h

theorem run_onDriver_error {α : Type} {x : EStateM Fault VirtIOSound α} {e : Fault} {s' : VirtIOSound}
    (h : x.run s = .error e s') : (onDriver x).run (s, m) = .error e (s', m) :=
  EStateM.run_zoom_error h

theorem sendNb_run {buf rsp : Buf} {q q' : VirtQueue QUEUE_SIZE} {t : Nat} (log : List TransportCall)
    (hadd : q.add H [buf] [rsp] = .ok (q', t)) :
    ∃ log', (sendNb H used buf rsp).run (q, log) = .ok t (q', log') := by
  cases hn : q'.shouldNotify used
  · exact ⟨log, by simp [sendNb, EStateM.run, EStateM.bind_apply, EStateM.onPart, hadd, hn]⟩
  · exact ⟨log ++ [.notify TX_QUEUE_IDX], by
      simp [sendNb, EStateM.run, EStateM.bind_apply, EStateM.onPart, hadd, hn, EStateM.zoom, notify, command]⟩

theorem sendNb_error {buf rsp : Buf} {q : VirtQueue QUEUE_SIZE} {e : Fault} (log : List TransportCall)
    (hadd : q.add H [buf] [rsp] = .error e) :
    (sendNb H used buf rsp).run (q, log) = .error e (q, log) := by
  simp [sendNb, EStateM.run, EStateM.bind_apply, EStateM.onPart, hadd]

/-- Everything `pcm_xfer_nb` can do on a driver that is set up: panic or refuse the stream
and change nothing, or make its two buffers, neither empty, and either fail to add them,
changing nothing, or add them and keep them under the token `add` returned. -/
theorem pcmXferNb_cases (hset : s.isSetUp = true) (replies : SetUpReplies) (bufAddr rspAddr : Nat)
    (streamId : UInt32) (frames : Buf) :
    let r := (pcmXferNb H stack replies used bufAddr rspAddr streamId frames).run (s, m)
    r = .error .panic (s, m) ∨ r = .error (.err .ioError) (s, m) ∨
      ∃ buf rsp : Buf, buf.len ≠ 0 ∧ rsp.len ≠ 0 ∧
        ((∃ e, s.txQueue.add H [buf] [rsp] = .error e ∧ r = .error e (s, m)) ∨
          ∃ q' t log', s.txQueue.add H [buf] [rsp] = .ok (q', t) ∧
            r = .ok t ({ s with txQueue := q', transport := log' },
              ⟨Function.update m.tokenBuf t (some buf), Function.update m.tokenRsp t (some rsp)⟩)) := by
  intro r
  have hens : (onDriver (ensureSetUp H stack replies)).run (s, m) = .ok () (s, m) :=
    run_onDriver_ok (ensureSetUp_of_isSetUp H stack hset replies)
  have hget : (get : EStateM Fault (VirtIOSound × TokenMaps) _).run (s, m) = .ok (s, m) (s, m) := rfl
  simp only [r, pcmXferNb]
  rw [EStateM.run_bind_of_ok hens, EStateM.run_bind_of_ok hget]
  cases hp : s.pcmParameters[streamId.toNat]? with
  | none => exact .inl rfl
  | some params =>
    cases hsetup : params.setup with
    | false => exact .inr (.inl (by simp only [hsetup]; rfl))
    | true =>
      by_cases hlen : params.periodBytes.toNat = frames.len
      swap
      · have hne : (params.periodBytes.toNat != frames.len) = true := by simpa using hlen
        exact .inl (by simp only [hsetup, hne]; rfl)
      refine .inr (.inr ⟨⟨bufAddr, U32_SIZE + params.periodBytes.toNat⟩, ⟨rspAddr, PCM_STATUS_SIZE⟩,
        by simp [U32_SIZE], by simp [PCM_STATUS_SIZE], ?_⟩)
      have hne : (params.periodBytes.toNat != frames.len) = false := by simpa using hlen
      simp only [hsetup, hne, Bool.not_true, Bool.false_eq_true, if_false]
      cases hadd : s.txQueue.add H [⟨bufAddr, U32_SIZE + params.periodBytes.toNat⟩] [⟨rspAddr, PCM_STATUS_SIZE⟩] with
      | error e =>
        refine .inl ⟨e, rfl, ?_⟩
        have hsend : (onDriver (onTx (sendNb H used ⟨bufAddr, U32_SIZE + params.periodBytes.toNat⟩
            ⟨rspAddr, PCM_STATUS_SIZE⟩))).run (s, m) = .error e (s, m) :=
          run_onDriver_error (run_onTx_error (sendNb_error H used s.transport hadd))
        rw [EStateM.run_bind_of_error hsend]
      | ok r =>
        obtain ⟨q', t⟩ := r
        obtain ⟨log', hsend⟩ := sendNb_run H used s.transport hadd
        refine .inr ⟨q', t, log', rfl, ?_⟩
        rw [EStateM.run_bind_of_ok (run_onDriver_ok (run_onTx_ok hsend))]
        rfl

theorem pcmXferOk_run {token : Nat} {buf rsp : Buf} (hbuf : m.tokenBuf token = some buf)
    (hrsp : m.tokenRsp token = some rsp) :
    (pcmXferOk H used token).run (s, m) =
      match s.txQueue.popUsed H used token [buf] [rsp] with
      | .ok (q', _) => .ok () ({ s with txQueue := q' },
          ⟨Function.update m.tokenBuf token none, Function.update m.tokenRsp token none⟩)
      | .error e => .error e (s, m) := by
  cases hpop : s.txQueue.popUsed H used token [buf] [rsp] with
  | ok r => simp [pcmXferOk, EStateM.run, EStateM.bind_apply, hbuf, hrsp, onDriver, onTx, EStateM.zoom,
      EStateM.onPart, hpop]
  | error e => simp [pcmXferOk, EStateM.run, EStateM.bind_apply, hbuf, hrsp, onDriver, onTx, EStateM.zoom,
      EStateM.onPart, hpop]

/-- What a call of `pcm_xfer_nb` that the caller goes on from leaves: the driver as it was,
or the new chain on the transmit queue and its buffers in the maps under its token. -/
theorem xferNbStep_nb (hset : s.isSetUp = true) {replies : SetUpReplies} {bufAddr rspAddr : Nat}
    {streamId : UInt32} {frames : Buf} {p' : VirtIOSound × TokenMaps}
    (h : (xferNbStep H stack (.nb replies used bufAddr rspAddr streamId frames)).run (s, m) = .ok () p') :
    p' = (s, m) ∨ ∃ buf rsp : Buf, buf.len ≠ 0 ∧ rsp.len ≠ 0 ∧ ∃ q' t log',
      s.txQueue.add H [buf] [rsp] = .ok (q', t) ∧
      p' = ({ s with txQueue := q', transport := log' },
        ⟨Function.update m.tokenBuf t (some buf), Function.update m.tokenRsp t (some rsp)⟩) := by
  rcases pcmXferNb_cases H stack used hset replies bufAddr rspAddr streamId frames with
    hr | hr | ⟨buf, rsp, hb, hr', ⟨e, -, hr⟩ | ⟨q', t, log', hadd, hr⟩⟩
  · exact .inl (run_dropErr_of_error (EStateM.run_bind_of_error hr) h)
  · exact .inl (run_dropErr_of_error (EStateM.run_bind_of_error hr) h)
  · exact .inl (run_dropErr_of_error (EStateM.run_bind_of_error hr) h)
  · exact .inr ⟨buf, rsp, hb, hr', q', t, log', hadd,
      run_dropErr_of_ok (by exact (EStateM.run_bind_of_ok hr).trans rfl) h⟩

theorem pcmXferOk_panics {token : Nat} (h : m.tokenBuf token = none ∨ m.tokenRsp token = none) :
    (pcmXferOk H used token).run (s, m) = .error .panic (s, m) := by
  rcases h with h | h
  · simp [pcmXferOk, EStateM.run, EStateM.bind_apply, h]
  · cases hbuf : m.tokenBuf token <;> simp [pcmXferOk, EStateM.run, EStateM.bind_apply, hbuf, h]

/-- What a call of `pcm_xfer_ok` that the caller goes on from leaves: the driver as it was,
or the chain the maps hold under the token popped and the token forgotten. -/
theorem xferNbStep_ok {token : Nat} {p' : VirtIOSound × TokenMaps}
    (h : (xferNbStep H stack (.ok used token)).run (s, m) = .ok () p') :
    p' = (s, m) ∨ ∃ buf rsp q' len us, m.tokenBuf token = some buf ∧ m.tokenRsp token = some rsp ∧
      s.txQueue.popUsed H used token [buf] [rsp] = .ok (q', len, us) ∧
      p' = ({ s with txQueue := q' },
        ⟨Function.update m.tokenBuf token none, Function.update m.tokenRsp token none⟩) := by
  cases hbuf : m.tokenBuf token with
  | none => exact .inl (run_dropErr_of_error (pcmXferOk_panics H used (.inl hbuf)) h)
  | some buf =>
  cases hrsp : m.tokenRsp token with
  | none => exact .inl (run_dropErr_of_error (pcmXferOk_panics H used (.inr hrsp)) h)
  | some rsp =>
  have hrun := pcmXferOk_run H used (s := s) hbuf hrsp
  cases hpop : s.txQueue.popUsed H used token [buf] [rsp] with
  | ok r =>
    obtain ⟨q', len, us⟩ := r
    rw [hpop] at hrun
    exact .inr ⟨buf, rsp, q', len, us, rfl, rfl, hpop, run_dropErr_of_ok hrun h⟩
  | error e =>
    rw [hpop] at hrun
    exact .inl (run_dropErr_of_error hrun h)

end Calls

/-! ### Over any sequence of calls -/

/-- A driver that is set up, whose maps hold exactly the chains in flight on its transmit queue,
a queue `new` made and the calls since have kept. -/
def NbInv (H : Hal) (idx : UInt16) (indirect eventIdx : Bool) (p : VirtIOSound × TokenMaps) : Prop :=
  p.1.isSetUp = true ∧ ∃ cs, Reachable H idx indirect eventIdx (p.1.txQueue, cs) ∧ p.2.Tracks cs

variable {idx : UInt16} {indirect eventIdx : Bool}

/-- Each call that returns keeps the maps tracking the transmit queue: a new chain goes in
under a token no chain in flight has, and a popped chain's token is no other's. -/
theorem NbInv.step {p p' : VirtIOSound × TokenMaps} (hinv : NbInv H idx indirect eventIdx p)
    {call : XferNbCall} (h : (xferNbStep H stack call).run p = .ok () p') :
    NbInv H idx indirect eventIdx p' := by
  obtain ⟨s, m⟩ := p
  obtain ⟨hset, cs, hr, ht⟩ := hinv
  cases call with
  | nb replies used bufAddr rspAddr streamId frames =>
    rcases xferNbStep_nb H stack used hset h with rfl | ⟨buf, rsp, hbuf, hrsp, q', t, log', hadd, rfl⟩
    · exact ⟨hset, cs, hr, ht⟩
    · have hr₁ := hr.tail (Step.add hadd)
      have hinv₁ := Inv.reachable sizeOk_QUEUE_SIZE.pos hr₁
      refine ⟨hset, _, hr₁, ht.insert (fun c hc => ?_) hbuf hrsp⟩
      exact hinv₁.token_ne_of_mem_erase List.mem_cons_self (by rwa [List.erase_cons_head])
  | ok used token =>
    rcases xferNbStep_ok H stack used h with rfl | ⟨buf, rsp, q', len, us, hbuf, hrsp, hpop, rfl⟩
    · exact ⟨hset, cs, hr, ht⟩
    · have hc := ht.mem hbuf hrsp
      have hinv₀ := Inv.reachable sizeOk_QUEUE_SIZE.pos hr
      exact ⟨hset, _, hr.tail (Step.pop hc hpop),
        ht.remove hc fun c' hc' => hinv₀.token_ne_of_mem_erase hc hc'⟩

/-- Over any sequence of `pcm_xfer_nb` and `pcm_xfer_ok` calls, each returning `Ok` or `Err`,
from a driver that is set up with nothing in flight on its transmit queue and empty maps,
the maps hold exactly the requests in flight on the queue, each under its token with the
buffers it went out with. So completing a token not in flight panics on its assert, and
completing one the device has returned next succeeds, pops exactly that chain and forgets it. -/
theorem tokenMaps_track_transmit_queue {s₀ : VirtIOSound} (hset : s₀.isSetUp = true)
    (hr₀ : Reachable H idx indirect eventIdx (s₀.txQueue, [])) {calls : List XferNbCall}
    {p : VirtIOSound × TokenMaps} (hrun : EStateM.Runs (xferNbStep H stack) (s₀, .empty) calls p) :
    ∃ cs, Reachable H idx indirect eventIdx (p.1.txQueue, cs) ∧ p.2.Tracks cs ∧
      (∀ used token, (∀ c ∈ cs, c.token ≠ token) → (pcmXferOk H used token).run p = .error .panic p) ∧
      ∀ used, ∀ c ∈ cs, p.1.txQueue.canPop used = true →
        (used.ring p.1.txQueue.lastUsedSlot).id.toUInt16.toNat = c.token →
        ∃ q', (pcmXferOk H used c.token).run p = .ok () ({ p.1 with txQueue := q' },
            ⟨Function.update p.2.tokenBuf c.token none, Function.update p.2.tokenRsp c.token none⟩) ∧
          Reachable H idx indirect eventIdx (q', cs.erase c) := by
  obtain ⟨-, cs, hr, ht⟩ : NbInv H idx indirect eventIdx p :=
    hrun.preserves (fun hinv h => hinv.step H stack h) ⟨hset, [], hr₀, TokenMaps.tracks_empty⟩
  obtain ⟨s, m⟩ := p
  refine ⟨cs, hr, ht, fun used token hnot => ?_, fun used c hc hcan htok => ?_⟩
  · -- a token no chain in flight has is in neither map
    have hnone : m.tokenBuf token = none := by
      by_contra hsome
      obtain ⟨c, hc, rfl⟩ := ht.held token (.inl hsome)
      exact hnot c hc rfl
    exact pcmXferOk_panics H used (.inl hnone)
  · obtain ⟨buf, rsp, hbuf, hrsp, hceq⟩ := ht.lookup hc
    obtain ⟨q', us, hpop⟩ :=
      (Inv.reachable sizeOk_QUEUE_SIZE.pos hr).popUsed_ok H hc (ht.bufs_ne c hc) hcan htok
    refine ⟨q', ?_, hr.tail (Step.pop hc hpop)⟩
    have hpop' : s.txQueue.popUsed H used c.token [buf] [rsp] =
        .ok (q', (used.ring s.txQueue.lastUsedSlot).len, us) := by
      rw [hceq] at hpop
      exact hpop
    rw [pcmXferOk_run H used hbuf hrsp, hpop']


/-- A driver set up with one stream of four-byte periods sends one period without blocking;
the maps then track the transmit queue. -/
theorem tokenMaps_track_transmit_queue_one_period :
    ∃ p, EStateM.Runs (xferNbStep identityHal 0x2000)
        (⟨[], init 0 false false, init 2 false false, 0, 1, 0, [⟨true, 16, 4⟩], 0x3000, true⟩, .empty)
        ([] ++ [.nb ⟨⟨UsedRing.zero, [], 0⟩, ⟨UsedRing.zero, [], 0⟩, ⟨UsedRing.zero, [], 0⟩⟩ UsedRing.zero
          0x5000 0x6000 0 ⟨0x7000, 4⟩]) p ∧
      ∃ cs, Reachable identityHal 2 false false (p.1.txQueue, cs) ∧ p.2.Tracks cs := by
  obtain ⟨p, h⟩ : ∃ p, (xferNbStep identityHal 0x2000
      (.nb ⟨⟨UsedRing.zero, [], 0⟩, ⟨UsedRing.zero, [], 0⟩, ⟨UsedRing.zero, [], 0⟩⟩ UsedRing.zero
        0x5000 0x6000 0 ⟨0x7000, 4⟩)).run
      (⟨[], init 0 false false, init 2 false false, 0, 1, 0, [⟨true, 16, 4⟩], 0x3000, true⟩, .empty) =
      .ok () p := ⟨_, rfl⟩
  have hrun := EStateM.Runs.snoc .nil h
  obtain ⟨cs, hr, ht, -, -⟩ := tokenMaps_track_transmit_queue identityHal 0x2000 rfl (by exact .refl) hrun
  exact ⟨p, hrun, cs, hr, ht⟩

end VirtIOSound
end VirtioDrivers
