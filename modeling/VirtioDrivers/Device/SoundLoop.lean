import VirtioDrivers.Device.Sound
import VirtioDrivers.Queue.Progress
import VirtioDrivers.Queue.WaitPop
import Mathlib.Algebra.Order.BigOperators.Group.List
import Mathlib.Algebra.Order.Group.Nat

/-! The loop of `pcm_xfer`, against any device. One lemma per half of a pass says what it
does; over them, the ring of slots is an invariant of the loop: the chains the transmit
queue holds outstanding are exactly the requests recorded in the slots from `tail` on, at
most `QUEUE_SIZE` of them, so no slot is taken while its request is in flight. The loop
leaves the `break` only with nothing in flight, so a loop that returns `Ok` leaves no
chain of its own in the queue. -/
namespace VirtioDrivers
open Transport Sound VirtQueue

namespace VirtIOSound
variable (H : Hal) (stack : Nat)

/-- The transport log after the notification `should_notify` asks for. -/
def notifyIf (b : Bool) (log : List TransportCall) : List TransportCall :=
  if b then log ++ [.notify TX_QUEUE_IDX] else log

section Pass
variable {used : UsedRing} {status : Nat → UInt32} {x : XferLoop} {q : VirtQueue QUEUE_SIZE}
  {log : List TransportCall}

/-! ### One pass -/

theorem xferAdd_skip (h : ¬ 3 ≤ q.availableDesc) :
    (xferAdd H stack used x).run (q, log) = .ok (some x) (q, log) := by
  simp [xferAdd, EStateM.run, EStateM.bind_apply, h]

theorem xferAdd_end (h : 3 ≤ q.availableDesc) (hr : x.remaining = []) :
    (xferAdd H stack used x).run (q, log) =
      .ok (if x.head = x.tail then none else some x) (q, log) := by
  simp [xferAdd, EStateM.run, EStateM.bind_apply, h, hr]

theorem xferAdd_push {buffer : Buf} {rest : List Buf} {q' : VirtQueue QUEUE_SIZE} {t : Nat}
    (h : 3 ≤ q.availableDesc) (hr : x.remaining = buffer :: rest)
    (hadd : q.add H [idBuf stack, buffer] [statusBuf stack x.head] = .ok (q', t)) :
    (xferAdd H stack used x).run (q, log) =
      .ok (some (x.push buffer rest t)) (q', notifyIf (q'.shouldNotify used) log) := by
  simp [xferAdd, EStateM.run, EStateM.bind_apply, h,
    hr, EStateM.onPart, hadd]
  cases hn : q'.shouldNotify used
  · simp [notifyIf]
  · simp [notifyIf, EStateM.zoom, notify, command]

theorem xferAdd_error {buffer : Buf} {rest : List Buf} {e : Fault} (h : 3 ≤ q.availableDesc)
    (hr : x.remaining = buffer :: rest)
    (hadd : q.add H [idBuf stack, buffer] [statusBuf stack x.head] = .error e) :
    (xferAdd H stack used x).run (q, log) = .error e (q, log) := by
  simp [xferAdd, EStateM.run, EStateM.bind_apply, h,
    hr, EStateM.onPart, hadd]

theorem xferAdd_eq_ok {r : Option XferLoop} {s' : VirtQueue QUEUE_SIZE × List TransportCall}
    (h : (xferAdd H stack used x).run (q, log) = .ok r s') :
    (¬ 3 ≤ q.availableDesc ∧ r = some x ∧ s' = (q, log)) ∨
      (3 ≤ q.availableDesc ∧ x.remaining = [] ∧ r = (if x.head = x.tail then none else some x) ∧
        s' = (q, log)) ∨
      (3 ≤ q.availableDesc ∧ ∃ buffer rest q' t, x.remaining = buffer :: rest ∧
        q.add H [idBuf stack, buffer] [statusBuf stack x.head] = .ok (q', t) ∧
        r = some (x.push buffer rest t) ∧ s' = (q', notifyIf (q'.shouldNotify used) log)) := by
  by_cases h3 : 3 ≤ q.availableDesc
  · cases hr : x.remaining with
    | nil =>
      rw [xferAdd_end H stack h3 hr] at h
      cases h
      exact .inr (.inl ⟨h3, rfl, rfl, rfl⟩)
    | cons buffer rest =>
      cases hadd : q.add H [idBuf stack, buffer] [statusBuf stack x.head] with
      | error e => rw [xferAdd_error H stack h3 hr hadd] at h; cases h
      | ok r' =>
        rw [xferAdd_push H stack h3 hr hadd] at h
        cases h
        exact .inr (.inr ⟨h3, buffer, rest, r'.1, r'.2, rfl, hadd, rfl, rfl⟩)
  · rw [xferAdd_skip H stack h3] at h
    cases h
    exact .inl ⟨h3, rfl, rfl⟩

theorem xferPop_idle (h : q.canPop used = false) :
    (xferPop H stack used status x).run (q, log) = .ok x (q, log) := by
  simp [xferPop, EStateM.run, EStateM.bind_apply, h]

theorem xferPop_pop {buffer : Buf} {q' : VirtQueue QUEUE_SIZE} {len : UInt32} {us : List Unshare}
    (h : q.canPop used = true) (hb : x.buffers x.tail = some buffer)
    (hpop : q.popUsed H used (x.tokens x.tail) [idBuf stack, buffer] [statusBuf stack x.tail] =
      .ok (q', len, us)) :
    (xferPop H stack used status x).run (q, log) =
      if status (x.tokens x.tail) = S_OK then .ok { x with tail := XferLoop.advance x.tail } (q', log)
      else .error (.err .ioError) (q', log) := by
  simp only [xferPop, EStateM.run, EStateM.bind_apply, EStateM.monadState_get_apply, h,
    if_true, hb, EStateM.onPart, hpop, bne_iff_ne, ne_eq]
  split <;> simp_all

theorem xferPop_eq_ok {x' : XferLoop} {s' : VirtQueue QUEUE_SIZE × List TransportCall}
    (h : (xferPop H stack used status x).run (q, log) = .ok x' s') :
    (q.canPop used = false ∧ x' = x ∧ s' = (q, log)) ∨
      (q.canPop used = true ∧ ∃ buffer q' len us, x.buffers x.tail = some buffer ∧
        q.popUsed H used (x.tokens x.tail) [idBuf stack, buffer] [statusBuf stack x.tail] =
          .ok (q', len, us) ∧
        status (x.tokens x.tail) = S_OK ∧ x' = { x with tail := XferLoop.advance x.tail } ∧
        s' = (q', log)) := by
  cases hc : q.canPop used with
  | false =>
    rw [xferPop_idle H stack hc] at h
    cases h
    exact .inl ⟨rfl, rfl, rfl⟩
  | true =>
    cases hb : x.buffers x.tail with
    | none =>
      simp [xferPop, EStateM.run, EStateM.bind_apply, hc, hb] at h
    | some buffer =>
      cases hpop : q.popUsed H used (x.tokens x.tail) [idBuf stack, buffer] [statusBuf stack x.tail] with
      | error e =>
        simp [xferPop, EStateM.run, EStateM.bind_apply, hc, hb, EStateM.onPart, hpop] at h
      | ok r =>
        rw [xferPop_pop H stack hc hb hpop] at h
        split at h
        · cases h
          exact .inr ⟨rfl, buffer, r.1, r.2.1, r.2.2, rfl, hpop, ‹_›, rfl, rfl⟩
        · cases h

/-- What a pass that returns did: it ended the loop in its first half, or went through both
halves. -/
theorem xferPass_eq_ok {r : Option XferLoop} {s' : VirtQueue QUEUE_SIZE × List TransportCall}
    (h : (xferPass H stack used status x).run (q, log) = .ok r s') :
    ((xferAdd H stack used x).run (q, log) = .ok none s' ∧ r = none) ∨
      ∃ x₁ s₁ x₂, (xferAdd H stack used x).run (q, log) = .ok (some x₁) s₁ ∧
        (xferPop H stack used status x₁).run s₁ = .ok x₂ s' ∧ r = some x₂ := by
  simp only [xferPass, EStateM.run, EStateM.bind_apply] at h ⊢
  split at h
  · rename_i r₁ s₁ hadd
    rcases r₁ with _ | x₁
    · cases h
      exact .inl ⟨hadd, rfl⟩
    · simp only [EStateM.map_apply] at h
      split at h
      · rename_i x₂ s₂ hpop
        cases h
        exact .inr ⟨x₁, s₁, x₂, hadd, hpop, rfl⟩
      · cases h
  · cases h

theorem xferPass_of_none {s' : VirtQueue QUEUE_SIZE × List TransportCall}
    (h : (xferAdd H stack used x).run (q, log) = .ok none s') :
    (xferPass H stack used status x).run (q, log) = .ok none s' := by
  simp only [EStateM.run] at h
  simp [xferPass, EStateM.run, EStateM.bind_apply, h]

theorem xferPass_of_pop {x₁ x₂ : XferLoop} {s₁ s₂ : VirtQueue QUEUE_SIZE × List TransportCall}
    (h : (xferAdd H stack used x).run (q, log) = .ok (some x₁) s₁)
    (hpop : (xferPop H stack used status x₁).run s₁ = .ok x₂ s₂) :
    (xferPass H stack used status x).run (q, log) = .ok (some x₂) s₂ := by
  simp only [EStateM.run] at h hpop
  simp [xferPass, EStateM.run, EStateM.bind_apply, h, hpop]

theorem xferPass_of_pop_error {x₁ : XferLoop} {s₁ s₂ : VirtQueue QUEUE_SIZE × List TransportCall}
    {e : Fault} (h : (xferAdd H stack used x).run (q, log) = .ok (some x₁) s₁)
    (hpop : (xferPop H stack used status x₁).run s₁ = .error e s₂) :
    (xferPass H stack used status x).run (q, log) = .error e s₂ := by
  simp only [EStateM.run] at h hpop
  simp [xferPass, EStateM.run, EStateM.bind_apply, h, hpop]

end Pass

/-! ### The loop -/

section Loop
variable {δ : Type} (dev : TxDevice δ) (mem : Nat → UInt8) {d : δ} {x : XferLoop}
  {q : VirtQueue QUEUE_SIZE} {log : List TransportCall}

theorem xferLoop_of_none {fuel : Nat} {s' : VirtQueue QUEUE_SIZE × List TransportCall}
    (h : (xferPass H stack (dev.used (dev.step d q mem)) (dev.status (dev.step d q mem)) x).run (q, log) =
      .ok none s') :
    (xferLoop H stack dev mem (fuel + 1) d x).run (q, log) = .ok (dev.step d q mem) s' := by
  simp only [EStateM.run] at h
  simp [xferLoop, EStateM.run, EStateM.bind_apply, h]

theorem xferLoop_of_some {fuel : Nat} {x' : XferLoop} {s' : VirtQueue QUEUE_SIZE × List TransportCall}
    (h : (xferPass H stack (dev.used (dev.step d q mem)) (dev.status (dev.step d q mem)) x).run (q, log) =
      .ok (some x') s') :
    (xferLoop H stack dev mem (fuel + 1) d x).run (q, log) =
      (xferLoop H stack dev mem fuel (dev.step d q mem) x').run s' := by
  simp only [EStateM.run] at h
  simp [xferLoop, EStateM.run, EStateM.bind_apply, h]

theorem xferLoop_of_error {fuel : Nat} {e : Fault} {s' : VirtQueue QUEUE_SIZE × List TransportCall}
    (h : (xferPass H stack (dev.used (dev.step d q mem)) (dev.status (dev.step d q mem)) x).run (q, log) =
      .error e s') :
    (xferLoop H stack dev mem (fuel + 1) d x).run (q, log) = .error e s' := by
  simp only [EStateM.run] at h
  simp [xferLoop, EStateM.run, EStateM.bind_apply, h]

end Loop

/-! ### The ring of slots -/

/-- The slot chunk `i` goes out in: `head` starts at `0` and moves on one slot a chunk. -/
def slot (i : Nat) : Fin QUEUE_SIZE := ⟨i % QUEUE_SIZE, Nat.mod_lt _ (by decide)⟩

theorem advance_slot (i : Nat) : XferLoop.advance (slot i) = slot (i + 1) := by
  have hq : QUEUE_SIZE = 32 := rfl
  unfold XferLoop.advance
  split
  · rename_i h
    apply Fin.ext
    simp only [slot, Fin.val_mk, hq] at h ⊢
    omega
  · rename_i h
    apply Fin.ext
    simp only [slot, Fin.val_mk, hq] at h ⊢
    omega

theorem slot_ne {i j : Nat} (hij : i < j) (hj : j - i < QUEUE_SIZE) : slot i ≠ slot j := by
  intro h
  have := congrArg Fin.val h
  simp only [slot, QUEUE_SIZE] at this hj
  omega

theorem range'_sub_eq_cons {a b : Nat} (h : b < a) :
    List.range' b (a - b) = b :: List.range' (b + 1) (a - (b + 1)) := by
  obtain ⟨n, hn⟩ : ∃ n, a - b = n + 1 := ⟨a - b - 1, by omega⟩
  rw [hn, List.range'_succ, show a - (b + 1) = n by omega]

theorem range'_succ_sub_eq_concat {a b : Nat} (h : b ≤ a) :
    List.range' b (a + 1 - b) = List.range' b (a - b) ++ [a] := by
  rw [show a + 1 - b = a - b + 1 by omega, List.range'_concat, Nat.one_mul, Nat.add_sub_cancel' h]

/-- The chain chunk `i` of `cks` goes out as, with token `tok i`: behind the stream id, and
ahead of the status of its slot. -/
def xferChain (cks : List Buf) (tok : Nat → Nat) (i : Nat) : Chain :=
  ⟨tok i, [idBuf stack, cks.getD i ⟨0, 0⟩], [statusBuf stack (slot i)]⟩

/-- The requests in flight when `a` chunks have gone out and `b` have come back, oldest
first. -/
def inFlight (cks : List Buf) (tok : Nat → Nat) (a b : Nat) : List Chain :=
  (List.range' b (a - b)).map (xferChain stack cks tok)

theorem mem_inFlight {cks : List Buf} {tok : Nat → Nat} {a b i : Nat} (hb : b ≤ i) (ha : i < a) :
    xferChain stack cks tok i ∈ inFlight stack cks tok a b :=
  List.mem_map.mpr ⟨i, List.mem_range'_1.mpr ⟨hb, by omega⟩, rfl⟩

theorem length_inFlight (cks : List Buf) (tok : Nat → Nat) (a b : Nat) :
    (inFlight stack cks tok a b).length = a - b := by
  simp [inFlight]

/-- The chain the locals record in slot `i`: the slot's token, the stream id and the slot's
buffer, and the slot's status. -/
def slotChain (x : XferLoop) (i : Fin QUEUE_SIZE) : Chain :=
  ⟨x.tokens i, [idBuf stack, (x.buffers i).getD ⟨0, 0⟩], [statusBuf stack i]⟩

/-- The chains the locals record in the `n` slots from `tail` on. -/
def ringChains (x : XferLoop) (n : Nat) : List Chain :=
  (List.range n).map fun j => slotChain stack x (slot (x.tail.val + j))

/-- The loop's locals and the transmit queue when `a` chunks of `cks` have gone out, with
tokens `tok`, and `b` have come back: the chunks left are those after the first `a`, the
indices are at the slots of `a` and `b`, each request in flight is recorded in its slot,
and the chains outstanding in the queue are the requests in flight. -/
structure Window (idx : UInt16) (indirect eventIdx : Bool) (cks : List Buf) (x : XferLoop)
    (q : VirtQueue QUEUE_SIZE) (a b : Nat) (tok : Nat → Nat) : Prop where
  le : b ≤ a
  le_length : a ≤ cks.length
  remaining : x.remaining = cks.drop a
  head : x.head = slot a
  tail : x.tail = slot b
  tokens : ∀ i, b ≤ i → i < a → x.tokens (slot i) = tok i
  buffers : ∀ i, b ≤ i → i < a → x.buffers (slot i) = some (cks.getD i ⟨0, 0⟩)
  reach : ∃ cs, Reachable H idx indirect eventIdx (q, cs) ∧ cs.Perm (inFlight stack cks tok a b)

section Window
variable {H stack} {idx : UInt16} {indirect eventIdx : Bool} {cks : List Buf} {x : XferLoop}
  {q : VirtQueue QUEUE_SIZE} {a b : Nat} {tok : Nat → Nat}

theorem Window.start (tok : Nat → Nat) (hr : Reachable H idx indirect eventIdx (q, [])) :
    Window H stack idx indirect eventIdx cks (XferLoop.start cks) q 0 0 tok where
  le := le_refl 0
  le_length := Nat.zero_le _
  remaining := rfl
  head := rfl
  tail := rfl
  tokens := fun _ _ h => absurd h (Nat.not_lt_zero _)
  buffers := fun _ _ h => absurd h (Nat.not_lt_zero _)
  reach := ⟨[], hr, by simp [inFlight]⟩

theorem Window.inFlight_le (hw : Window H stack idx indirect eventIdx cks x q a b tok) :
    a - b ≤ q.numUsed := by
  obtain ⟨cs, hr, hp⟩ := hw.reach
  rw [← length_inFlight stack cks tok a b, ← hp.length_eq]
  exact (Inv.reachable sizeOk_QUEUE_SIZE.pos hr).length_le_numUsed

theorem Window.token_lt (hw : Window H stack idx indirect eventIdx cks x q a b tok) {i : Nat}
    (hb : b ≤ i) (ha : i < a) : tok i < QUEUE_SIZE := by
  obtain ⟨cs, hr, hp⟩ := hw.reach
  exact ((Inv.reachable sizeOk_QUEUE_SIZE.pos hr).chains _
    (hp.mem_iff.mpr (mem_inFlight stack hb ha))).token_lt

theorem Window.numUsed_le (hw : Window H stack idx indirect eventIdx cks x q a b tok) :
    q.numUsed ≤ 3 * (a - b) := by
  obtain ⟨cs, hr, hp⟩ := hw.reach
  have hthree : ∀ n ∈ cs.map fun c => (q.footprint c).length, n ≤ 3 := by
    simp only [List.mem_map]
    rintro n ⟨c, hc, rfl⟩
    obtain ⟨i, -, rfl⟩ := List.mem_map.mp (hp.mem_iff.mp hc)
    exact length_footprint_le q (by simp [xferChain, Chain.count])
  rw [(Inv.reachable sizeOk_QUEUE_SIZE.pos hr).numUsed_eq, List.length_flatMap,
    ← length_inFlight stack cks tok a b, ← hp.length_eq]
  simpa [Nat.mul_comm] using List.sum_le_card_nsmul _ 3 hthree

theorem Window.availableDesc_of_le (hw : Window H stack idx indirect eventIdx cks x q a b tok)
    (h : a - b ≤ 9) : 3 ≤ q.availableDesc := by
  have hle := hw.numUsed_le
  unfold availableDesc
  split
  · rw [if_neg (by simp only [QUEUE_SIZE]; omega)]
    decide
  · simp only [QUEUE_SIZE]
    omega

theorem Window.inFlight_lt (hw : Window H stack idx indirect eventIdx cks x q a b tok)
    (h3 : 3 ≤ q.availableDesc) : a - b < QUEUE_SIZE := by
  obtain ⟨cs, hr, -⟩ := hw.reach
  have hlt := numUsed_lt_of_availableDesc h3 (Inv.reachable sizeOk_QUEUE_SIZE.pos hr).numUsed_le
  have := hw.inFlight_le
  omega

/-- A chunk goes out in slot `head`, which no request in flight holds: the chain `add`
builds is the next request in flight. -/
theorem Window.push (hw : Window H stack idx indirect eventIdx cks x q a b tok)
    (h3 : 3 ≤ q.availableDesc) {buffer : Buf} {rest : List Buf} (hr : x.remaining = buffer :: rest)
    {q' : VirtQueue QUEUE_SIZE} {t : Nat}
    (hadd : q.add H [idBuf stack, buffer] [statusBuf stack x.head] = .ok (q', t)) :
    Window H stack idx indirect eventIdx cks (x.push buffer rest t) q' (a + 1) b
      (Function.update tok a t) := by
  have hlt := hw.inFlight_lt h3
  have hdrop : cks.drop a = buffer :: rest := hw.remaining ▸ hr
  have ha : a < cks.length := by
    by_contra hge
    rw [List.drop_eq_nil_iff.mpr (by omega)] at hdrop
    cases hdrop
  have hbuf : cks.getD a ⟨0, 0⟩ = buffer := by
    rw [List.getD_eq_getElem?_getD, ← List.head?_drop, hdrop]
    rfl
  have hslot : ∀ i, b ≤ i → i < a → slot i ≠ x.head := fun i hbi hia => by
    rw [hw.head]
    exact slot_ne hia (by omega)
  have hchain : xferChain stack cks (Function.update tok a t) a =
      ⟨t, [idBuf stack, buffer], [statusBuf stack x.head]⟩ := by
    simp only [xferChain, hbuf, hw.head, Function.update_self]
  have hprev : inFlight stack cks (Function.update tok a t) a b = inFlight stack cks tok a b :=
    List.map_congr_left fun i hi => by
      simp only [List.mem_range'_1] at hi
      simp [xferChain, Function.update_of_ne (show i ≠ a by omega)]
  refine ⟨Nat.le_succ_of_le hw.le, ha, ?_, ?_, hw.tail, fun i hbi hia => ?_, fun i hbi hia => ?_, ?_⟩
  · rw [XferLoop.push, List.drop_add_one_eq_tail_drop, hdrop]
    rfl
  · rw [XferLoop.push, hw.head, advance_slot]
  · rcases Nat.lt_succ_iff_lt_or_eq.mp hia with hia | rfl
    · simp [XferLoop.push, Function.update_of_ne (hslot i hbi hia), hw.tokens i hbi hia,
        Function.update_of_ne (show i ≠ a by omega)]
    · simp [XferLoop.push, hw.head]
  · rcases Nat.lt_succ_iff_lt_or_eq.mp hia with hia | rfl
    · simp [XferLoop.push, Function.update_of_ne (hslot i hbi hia), hw.buffers i hbi hia]
    · simp only [XferLoop.push, hw.head, hbuf, Function.update_self]
  · obtain ⟨cs, hreach, hp⟩ := hw.reach
    refine ⟨_, hreach.tail (Step.add hadd), ?_⟩
    have hsplit : inFlight stack cks (Function.update tok a t) (a + 1) b =
        inFlight stack cks (Function.update tok a t) a b ++
          [xferChain stack cks (Function.update tok a t) a] := by
      simp only [inFlight, range'_succ_sub_eq_concat hw.le, List.map_append, List.map_singleton]
    rw [hsplit, hprev, hchain]
    exact ((hp.cons _).trans (List.perm_append_singleton _ _).symm)

/-- The oldest request in flight comes back: its slot is `tail`, and the chain the pop names
with the slot's token and buffers is that request's chain. -/
theorem Window.pop (hw : Window H stack idx indirect eventIdx cks x q a b tok) (hlt : b < a)
    {used : UsedRing} {buffer : Buf} (hb : x.buffers x.tail = some buffer)
    {q' : VirtQueue QUEUE_SIZE} {len : UInt32} {us : List Unshare}
    (hpop : q.popUsed H used (x.tokens x.tail) [idBuf stack, buffer] [statusBuf stack x.tail] =
      .ok (q', len, us)) :
    Window H stack idx indirect eventIdx cks { x with tail := XferLoop.advance x.tail } q' a (b + 1)
      tok := by
  have htok : x.tokens x.tail = tok b := by rw [hw.tail]; exact hw.tokens b le_rfl hlt
  have hbuf : buffer = cks.getD b ⟨0, 0⟩ := by
    have := hw.buffers b le_rfl hlt
    rw [← hw.tail, hb] at this
    exact Option.some.inj this
  have hsplit : inFlight stack cks tok a b = xferChain stack cks tok b :: inFlight stack cks tok a (b + 1) := by
    simp only [inFlight, range'_sub_eq_cons hlt, List.map_cons]
  refine ⟨hlt, hw.le_length, hw.remaining, hw.head, ?_, fun i hbi hia => hw.tokens i (by omega) hia,
    fun i hbi hia => hw.buffers i (by omega) hia, ?_⟩
  · rw [hw.tail, advance_slot]
  · obtain ⟨cs, hreach, hp⟩ := hw.reach
    have hc : xferChain stack cks tok b ∈ cs := hp.mem_iff.mpr (by rw [hsplit]; exact List.mem_cons_self)
    have hpop' : q.popUsed H used (xferChain stack cks tok b).token (xferChain stack cks tok b).inputs
        (xferChain stack cks tok b).outputs = .ok (q', len, us) := by
      rw [htok, hw.tail, hbuf] at hpop
      exact hpop
    refine ⟨_, hreach.tail (Step.pop hc hpop'), ?_⟩
    have := hp.erase (xferChain stack cks tok b)
    rwa [hsplit, List.erase_cons_head] at this

theorem Window.reachable_of_eq (hw : Window H stack idx indirect eventIdx cks x q a b tok)
    (hab : a = b) : Reachable H idx indirect eventIdx (q, []) := by
  obtain ⟨cs, hreach, hp⟩ := hw.reach
  have hempty : inFlight stack cks tok a b = [] := by simp [inFlight, hab]
  rw [hempty] at hp
  exact hp.eq_nil ▸ hreach

/-- The loop ends with every chunk sent and nothing in flight: `head == tail` with three
descriptors free means no request is in flight, and so no chain is outstanding. -/
theorem Window.done (hw : Window H stack idx indirect eventIdx cks x q a b tok)
    (h3 : 3 ≤ q.availableDesc) (hr : x.remaining = []) (hht : x.head = x.tail) :
    a = b ∧ a = cks.length ∧ Reachable H idx indirect eventIdx (q, []) := by
  have hlt := hw.inFlight_lt h3
  have hab : a = b := by
    rw [hw.head, hw.tail] at hht
    have := congrArg Fin.val hht
    simp only [slot, show QUEUE_SIZE = 32 from rfl] at this hlt
    have := hw.le
    omega
  have hlen : a = cks.length := by
    have := hw.le_length
    have hnil : cks.drop a = [] := hw.remaining ▸ hr
    rw [List.drop_eq_nil_iff] at hnil
    omega
  exact ⟨hab, hlen, hw.reachable_of_eq hab⟩

theorem Window.availableDesc_of_eq (hw : Window H stack idx indirect eventIdx cks x q a b tok)
    (hab : a = b) : 3 ≤ q.availableDesc := by
  have hzero : q.numUsed = 0 :=
    (Inv.reachable sizeOk_QUEUE_SIZE.pos (hw.reachable_of_eq hab)).numUsed_nil
  simp [availableDesc, hzero, QUEUE_SIZE]

theorem Window.lt_of_full (hw : Window H stack idx indirect eventIdx cks x q a b tok)
    (h3 : ¬ 3 ≤ q.availableDesc) : b < a := by
  by_contra hge
  exact h3 (hw.availableDesc_of_eq (by have := hw.le; omega))

theorem Window.lt_of_head_ne (hw : Window H stack idx indirect eventIdx cks x q a b tok)
    (hne : x.head ≠ x.tail) : b < a := by
  by_contra hge
  exact hne (by rw [hw.head, hw.tail, show a = b by have := hw.le; omega])

theorem Window.add_eq_some (hw : Window H stack idx indirect eventIdx cks x q a b tok)
    {used : UsedRing} {log : List TransportCall} {x' : XferLoop}
    {s' : VirtQueue QUEUE_SIZE × List TransportCall}
    (h : (xferAdd H stack used x).run (q, log) = .ok (some x') s') :
    ∃ a' tok', Window H stack idx indirect eventIdx cks x' s'.1 a' b tok' ∧ b < a' ∧ a ≤ a' ∧
      ∀ i < a, tok' i = tok i := by
  rcases xferAdd_eq_ok H stack h with ⟨h3, hx, rfl⟩ | ⟨h3, hr, hx, rfl⟩ | ⟨h3, buffer, rest, q', t, hr, hadd, hx, rfl⟩
  · cases hx
    exact ⟨a, tok, hw, hw.lt_of_full h3, le_rfl, fun _ _ => rfl⟩
  · -- no chunk left and `head != tail`
    split at hx
    · cases hx
    · cases hx
      exact ⟨a, tok, hw, hw.lt_of_head_ne ‹_›, le_rfl, fun _ _ => rfl⟩
  · cases hx
    exact ⟨a + 1, _, hw.push h3 hr hadd, by have := hw.le; omega, by omega,
      fun i hi => Function.update_of_ne (by omega) _ _⟩

theorem Window.add_eq_none (hw : Window H stack idx indirect eventIdx cks x q a b tok)
    {used : UsedRing} {log : List TransportCall} {s' : VirtQueue QUEUE_SIZE × List TransportCall}
    (h : (xferAdd H stack used x).run (q, log) = .ok none s') :
    s' = (q, log) ∧ a = b ∧ a = cks.length ∧ Reachable H idx indirect eventIdx (q, []) := by
  rcases xferAdd_eq_ok H stack h with ⟨-, hx, -⟩ | ⟨h3, hr, hx, rfl⟩ | ⟨_, _, _, _, _, _, _, hx, _⟩
  · cases hx
  · split at hx
    · exact ⟨rfl, hw.done h3 hr ‹_›⟩
    · cases hx
  · cases hx

theorem Window.pop_eq_ok (hw : Window H stack idx indirect eventIdx cks x q a b tok) (hlt : b < a)
    {used : UsedRing} {status : Nat → UInt32} {log : List TransportCall} {x' : XferLoop}
    {s' : VirtQueue QUEUE_SIZE × List TransportCall}
    (h : (xferPop H stack used status x).run (q, log) = .ok x' s') :
    ∃ b', Window H stack idx indirect eventIdx cks x' s'.1 a b' tok := by
  rcases xferPop_eq_ok H stack h with ⟨-, rfl, rfl⟩ | ⟨-, buffer, q', len, us, hb, hpop, -, rfl, rfl⟩
  · exact ⟨b, hw⟩
  · exact ⟨b + 1, hw.pop hlt hb hpop⟩

theorem Window.pass (hw : Window H stack idx indirect eventIdx cks x q a b tok)
    {used : UsedRing} {status : Nat → UInt32} {log : List TransportCall} {x' : XferLoop}
    {s' : VirtQueue QUEUE_SIZE × List TransportCall}
    (h : (xferPass H stack used status x).run (q, log) = .ok (some x') s') :
    ∃ a' b' tok', Window H stack idx indirect eventIdx cks x' s'.1 a' b' tok' := by
  rcases xferPass_eq_ok H stack h with ⟨-, hx⟩ | ⟨x₁, s₁, x₂, hadd, hpop, hx⟩
  · cases hx
  · cases hx
    obtain ⟨a', tok', hw₁, hlt, -, -⟩ := hw.add_eq_some hadd
    obtain ⟨b', hw₂⟩ := hw₁.pop_eq_ok hlt hpop
    exact ⟨a', b', tok', hw₂⟩

/-- With three descriptors free, a chunk that fits goes out: `add` of the stream id, the
chunk and a slot's status does not fail, with the feature or without it. -/
theorem Window.add_ok (hw : Window H stack idx indirect eventIdx cks x q a b tok)
    (h3 : 3 ≤ q.availableDesc) {buffer : Buf} (hfit : buffer.Fits) (i : Fin QUEUE_SIZE) :
    ∃ q' t, q.add H [idBuf stack, buffer] [statusBuf stack i] = .ok (q', t) := by
  obtain ⟨cs, hr, -⟩ := hw.reach
  have hinv := Inv.reachable sizeOk_QUEUE_SIZE.pos hr
  have hfits : ∀ p ∈ inputOutputIter [idBuf stack, buffer] [statusBuf stack i], p.1.Fits := by
    simp only [inputOutputIter, List.map_cons, List.map_nil, List.cons_append, List.nil_append,
      List.mem_cons, List.not_mem_nil, or_false]
    rintro p (rfl | rfl | rfl)
    · exact ⟨by simp [idBuf], by simp [idBuf]⟩
    · exact hfit
    · exact ⟨by simp [statusBuf], by simp [statusBuf]⟩
  -- the request takes three descriptors, or one when it goes indirect
  obtain ⟨q', hadd⟩ := hinv.add_ok H hfits (by simp) (by simpa using h3) (by simp)
  exact ⟨q', _, hadd⟩

theorem Window.xferAdd_ok (hw : Window H stack idx indirect eventIdx cks x q a b tok)
    (hcks : ∀ c ∈ cks, c.Fits) (used : UsedRing) (log : List TransportCall) :
    ∃ r s₁, (xferAdd H stack used x).run (q, log) = .ok r s₁ := by
  by_cases h3 : 3 ≤ q.availableDesc
  · cases hr : x.remaining with
    | nil => exact ⟨_, _, xferAdd_end H stack h3 hr⟩
    | cons buffer rest =>
      have hmem : buffer ∈ cks.drop a := by
        rw [← hw.remaining, hr]
        exact List.mem_cons_self
      obtain ⟨q', t, hadd⟩ := hw.add_ok h3 (hcks buffer (List.mem_of_mem_drop hmem)) x.head
      exact ⟨_, _, xferAdd_push H stack h3 hr hadd⟩
  · exact ⟨_, _, xferAdd_skip H stack h3⟩

/-- When the device has returned the oldest request in flight first, popping slot `tail`
with the slot's token and buffers does not fail, when the chunks are not empty. -/
theorem Window.popUsed_ok (hw : Window H stack idx indirect eventIdx cks x q a b tok) (hlt : b < a)
    (hcks : ∀ c ∈ cks, c.Fits) {used : UsedRing} (hpop : q.canPop used = true)
    (htok : (used.ring q.lastUsedSlot).id.toUInt16.toNat = tok b) :
    ∃ q' len us, q.popUsed H used (x.tokens x.tail) [idBuf stack, cks.getD b ⟨0, 0⟩]
      [statusBuf stack x.tail] = .ok (q', len, us) := by
  obtain ⟨cs, hr, hp⟩ := hw.reach
  have hinv := Inv.reachable sizeOk_QUEUE_SIZE.pos hr
  have hc : xferChain stack cks tok b ∈ cs := hp.mem_iff.mpr (mem_inFlight stack le_rfl hlt)
  have hchunk : (cks.getD b ⟨0, 0⟩).Fits := by
    rw [List.getD_eq_getElem _ _ (by have := hw.le_length; omega)]
    exact hcks _ (List.getElem_mem _)
  rw [hw.tail, hw.tokens b le_rfl hlt]
  have hne : ∀ p ∈ (xferChain stack cks tok b).bufs, p.1.len ≠ 0 := by
    simp only [xferChain, Chain.bufs, inputOutputIter, List.map_cons, List.map_nil,
      List.cons_append, List.nil_append, List.mem_cons, List.not_mem_nil, or_false]
    rintro p (rfl | rfl | rfl)
    · simp [idBuf]
    · exact hchunk.1
    · simp [statusBuf]
  obtain ⟨q', us, h⟩ := hinv.popUsed_ok H hc hne hpop htok
  exact ⟨q', _, us, h⟩

theorem Window.ringChains_eq (hw : Window H stack idx indirect eventIdx cks x q a b tok) :
    ringChains stack x (a - b) = inFlight stack cks tok a b := by
  rw [ringChains, inFlight, List.range'_eq_map_range, List.map_map]
  refine List.map_congr_left fun j hj => ?_
  have hj' : j < a - b := List.mem_range.mp hj
  have hslot : slot (x.tail.val + j) = slot (b + j) := by
    apply Fin.ext
    simp only [hw.tail, slot, Fin.val_mk, Nat.mod_add_mod]
  simp only [Function.comp, slotChain, xferChain, hslot, hw.tokens (b + j) (by omega) (by omega),
    hw.buffers (b + j) (by omega) (by omega), Option.getD_some]

end Window

/-- One pass of the loop against the device that does not end it: the device takes its step
from what the driver has written, and the pass runs on what the device then shows. -/
def XferStep {δ : Type} (dev : TxDevice δ) (mem : Nat → UInt8)
    (p p' : XferLoop × (VirtQueue QUEUE_SIZE × List TransportCall) × δ) : Prop :=
  p'.2.2 = dev.step p.2.2 p.2.1.1 mem ∧
    (xferPass H stack (dev.used p'.2.2) (dev.status p'.2.2) p.1).run p.2.1 = .ok (some p'.1) p'.2.1

/-! ### Runs of the loop -/

section Runs
variable {H stack} {idx : UInt16} {indirect eventIdx : Bool} {cks : List Buf} {δ : Type}
  (dev : TxDevice δ) (mem : Nat → UInt8)

/-- Passes that do not end the loop, followed by a run of the loop, are a run of the loop
with one more unit of fuel for each pass. -/
theorem xferLoop_of_steps {p p' : XferLoop × (VirtQueue QUEUE_SIZE × List TransportCall) × δ}
    (hs : Relation.ReflTransGen (XferStep H stack dev mem) p p') {fuel : Nat}
    {r : EStateM.Result Fault (VirtQueue QUEUE_SIZE × List TransportCall) δ}
    (hend : (xferLoop H stack dev mem fuel p'.2.2 p'.1).run p'.2.1 = r) :
    ∃ fuel', (xferLoop H stack dev mem fuel' p.2.2 p.1).run p.2.1 = r := by
  induction hs using Relation.ReflTransGen.head_induction_on with
  | refl => exact ⟨fuel, hend⟩
  | head hstep _ ih =>
    obtain ⟨fuel', h⟩ := ih
    obtain ⟨hd, hpass⟩ := hstep
    refine ⟨fuel' + 1, ?_⟩
    rw [xferLoop_of_some H stack dev mem (hd ▸ hpass), ← hd]
    exact h

theorem window_of_reachable {q : VirtQueue QUEUE_SIZE} {log : List TransportCall} {d : δ}
    (hr : Reachable H idx indirect eventIdx (q, []))
    {p : XferLoop × (VirtQueue QUEUE_SIZE × List TransportCall) × δ}
    (hp : Relation.ReflTransGen (XferStep H stack dev mem) (XferLoop.start cks, (q, log), d) p) :
    ∃ a b tok, Window H stack idx indirect eventIdx cks p.1 p.2.1.1 a b tok := by
  induction hp with
  | refl => exact ⟨0, 0, fun _ => 0, Window.start _ hr⟩
  | tail _ hstep ih =>
    obtain ⟨a, b, tok, hw⟩ := ih
    exact hw.pass hstep.2

/-- Whatever the device does, in every state the loop reaches from a queue with no chain
outstanding, the queue's outstanding chains are the chains the ring records in its slots
from `tail` on, at most `QUEUE_SIZE` of them: no slot is taken again while its request is in
flight. -/
theorem ring_of_reachable {q : VirtQueue QUEUE_SIZE} {log : List TransportCall} {d : δ}
    (hr : Reachable H idx indirect eventIdx (q, []))
    {p : XferLoop × (VirtQueue QUEUE_SIZE × List TransportCall) × δ}
    (hp : Relation.ReflTransGen (XferStep H stack dev mem) (XferLoop.start cks, (q, log), d) p) :
    ∃ n ≤ QUEUE_SIZE, ∃ cs, Reachable H idx indirect eventIdx (p.2.1.1, cs) ∧
      cs.Perm (ringChains stack p.1 n) := by
  obtain ⟨a, b, tok, hw⟩ := window_of_reachable dev mem hr hp
  obtain ⟨cs, hreach, hperm⟩ := hw.reach
  have hle : a - b ≤ QUEUE_SIZE :=
    hw.inFlight_le.trans (Inv.reachable sizeOk_QUEUE_SIZE.pos hreach).numUsed_le
  exact ⟨a - b, hle, cs, hreach, hw.ringChains_eq ▸ hperm⟩

end Runs

/-! ### `pcm_xfer` -/

section PcmXfer
variable {H stack} {δ : Type} {replies : SetUpReplies} {dev : TxDevice δ} {fuel : Nat} {d : δ}
  {mem : Nat → UInt8} {streamId : UInt32} {frames : Buf} {s : VirtIOSound} {prm : PcmParameters}

theorem run_onTx_ok {α : Type} {m : EStateM Fault (VirtQueue QUEUE_SIZE × List TransportCall) α}
    {a : α} {q : VirtQueue QUEUE_SIZE} {log : List TransportCall}
    (h : m.run (s.txQueue, s.transport) = .ok a (q, log)) :
    (onTx m).run s = .ok a { s with txQueue := q, transport := log } := by
  simp only [EStateM.run] at h
  simp [onTx, EStateM.zoom, EStateM.run, h]

theorem run_onTx_error {α : Type} {m : EStateM Fault (VirtQueue QUEUE_SIZE × List TransportCall) α}
    {e : Fault} {q : VirtQueue QUEUE_SIZE} {log : List TransportCall}
    (h : m.run (s.txQueue, s.transport) = .error e (q, log)) :
    (onTx m).run s = .error e { s with txQueue := q, transport := log } := by
  simp only [EStateM.run] at h
  simp [onTx, EStateM.zoom, EStateM.run, h]

theorem pcmXfer_eq_loop (hset : s.isSetUp = true)
    (hprm : s.pcmParameters[streamId.toNat]? = some prm) (hsetup : prm.setup = true)
    (hp : prm.periodBytes.toNat ≠ 0) :
    (pcmXfer H stack replies dev fuel d mem streamId frames).run s =
      (onTx (xferLoop H stack dev (Memory.write mem stack (streamIdBytes streamId)) fuel d
        (XferLoop.start (chunks frames prm.periodBytes.toNat)))).run s := by
  simp [pcmXfer, ensureSetUp, EStateM.run, EStateM.bind_apply, hset, hprm, hsetup, hp]

end PcmXfer

end VirtIOSound
end VirtioDrivers
