import Mathlib.Data.List.GetD
import UhfReader.Ethernet
import UhfReader.Lib.Simulation

/-!
# Frames that are sent

The Ethernet interface has two descriptors for frames to be sent.  `low_level_output` copies a frame
into the buffer of the next one before it finds out whether that descriptor is still the DMA's, and
tells its caller in any case that the frame is sent.

The DMA operates on the second frame (`ETH_SecondFrameOperate_Enable`): it reads a frame before the
one before it has been sent.

A `Transmitter` is what this comes to: at most two frames wait or are being sent, and a frame that
comes while two are there is refused.  Its bytes have been written over those of the first one by
then, if the DMA has not read that one yet.
-/

open Memory

namespace UhfReader

/-! ### The descriptors -/

/-- `ETH_TXBUFNB` -/
def ethTxBufNb : ℕ := 2

/-- `ETH_DMATxDesc_OWN` -/
def ethDmaTxDescOwn : UInt32 := 0x80000000

/-- `ETH_DMATxDesc_LS` -/
def ethDmaTxDescLS : UInt32 := 0x20000000

/-- `ETH_DMATxDesc_FS` -/
def ethDmaTxDescFS : UInt32 := 0x10000000

/-- `ETH_DMATxDesc_TCH` -/
def ethDmaTxDescTCH : UInt32 := 0x00100000

/-- `ETH_DMATxDesc_ChecksumTCPUDPICMPFull` -/
def ethDmaTxDescChecksumFull : UInt32 := 0x00C00000

/-- `ETH_DMATxDesc_TBS1` -/
def ethDmaTxDescTBS1 : UInt32 := 0x1FFF

/-- A descriptor after its round of `ETH_DMATxDescChainInit`. -/
def txDesc (txBuffCount i : ℕ) (d : EthDmaDesc) : EthDmaDesc where
  Status := ethDmaTxDescTCH
  ControlBufferSize := d.ControlBufferSize
  Buffer1Addr := i * ethMaxPacketSize
  Buffer2NextDescAddr := if i < txBuffCount - 1 then i + 1 else 0

/-- `ETH_DMATxDescChainInit` -/
def ethDmaTxDescChainInit (tab : ℕ → EthDmaDesc) (txBuffCount : ℕ) : ℕ → EthDmaDesc :=
  (List.range txBuffCount).foldl
    (fun tab i => Function.update tab i (txDesc txBuffCount i (tab i))) tab

/-- `ETH_DMATxDescChecksumInsertionConfig(DMATxDesc, ETH_DMATxDesc_ChecksumTCPUDPICMPFull)` -/
def ethDmaTxDescChecksumInsertionConfig (d : EthDmaDesc) : EthDmaDesc :=
  { d with Status := d.Status ||| ethDmaTxDescChecksumFull }

/-- What `low_level_init` makes of the table of the transmit descriptors. -/
def txDescTable (tab : ℕ → EthDmaDesc) : ℕ → EthDmaDesc :=
  (List.range ethTxBufNb).foldl
    (fun tab i => Function.update tab i (ethDmaTxDescChecksumInsertionConfig (tab i)))
    (ethDmaTxDescChainInit tab ethTxBufNb)

/-! ### The driver -/

/-- How far a call of `low_level_output` is. -/
inductive TxPhase
  /-- in its loop -/
  | copies
  /-- before `ETH_TxPkt_ChainMode` -/
  | hands
  /-- in `ETH_TxPkt_ChainMode`, when the descriptor has been given to the DMA -/
  | resumes
  deriving DecidableEq

/-- A call of `low_level_output` that is under way: its `buffer`, the payloads of the pbufs from `p`
and from `q` on, the number of bytes that `memcpy` has copied of the first one of these, and `l`. -/
structure OutputCall where
  buffer : ℕ
  p : List (List UInt8)
  q : List (List UInt8)
  copied : ℕ
  l : ℕ
  phase : TxPhase

/-- The sending side of the Ethernet interface. -/
structure TxDriver where
  DMATxDscrTab : ℕ → EthDmaDesc
  /-- the memory from `Tx_Buff` on -/
  Tx_Buff : Mem
  DMATxDescToSet : ℕ
  /-- the calls of `low_level_output` that are under way, the innermost first: the Ethernet
  interrupt may come in the middle of a call of the main loop -/
  calls : List OutputCall
  /-- the descriptor that the DMA looks at next -/
  current : ℕ
  /-- what the DMA has read so far from the buffer of this descriptor -/
  burst : List UInt8
  /-- the frames that the DMA has read and not given back yet -/
  fifo : List (List UInt8)
  /-- the descriptor of the first one of them -/
  closing : ℕ
  /-- the DMA found no descriptor of its own, and waits for a poll demand -/
  suspended : Bool
  /-- `ETH_DMASR_TBUS` -/
  TBUS : Bool

/-- The loop of `low_level_output` goes one step further: `memcpy` copies a byte of the payload of
`q`, or the next pbuf follows, or the loop is over. -/
def outputLoop (mem : Mem) (c : OutputCall) : Mem × OutputCall :=
  match c.q with
  | [] => (mem, { c with phase := .hands })
  | payload :: q =>
    match payload[c.copied]? with
    | some b => (mem.put (c.buffer + (c.l + c.copied)) b, { c with copied := c.copied + 1 })
    | none => (mem, { c with q := q, copied := 0, l := c.l + payload.length })

namespace TxDriver

/-- The interface after `low_level_init`. -/
def lowLevelInit (tab : ℕ → EthDmaDesc) (buff : Mem) : TxDriver where
  DMATxDscrTab := txDescTable tab
  Tx_Buff := buff
  DMATxDescToSet := 0
  calls := []
  current := 0
  burst := []
  fifo := []
  closing := 0
  suspended := false
  TBUS := false

/-- `DMATxDescToSet->Status & ETH_DMATxDesc_OWN` -/
def owned (s : TxDriver) : Prop :=
  (s.DMATxDscrTab s.DMATxDescToSet).Status &&& ethDmaTxDescOwn ≠ 0

instance (s : TxDriver) : Decidable s.owned :=
  inferInstanceAs (Decidable (_ ≠ _))

/-- `low_level_output` is called: `ETH_GetCurrentTxBuffer`. -/
def call (s : TxDriver) (p : List (List UInt8)) : TxDriver :=
  { s with
    calls := ⟨(s.DMATxDscrTab s.DMATxDescToSet).Buffer1Addr, p, p, 0, 0, .copies⟩ :: s.calls }

/-- `ETH_TxPkt_ChainMode` until the descriptor has been given to the DMA. -/
def give (s : TxDriver) (frameLength : UInt16) : TxDriver :=
  let d := s.DMATxDscrTab s.DMATxDescToSet
  { s with
    DMATxDscrTab := Function.update s.DMATxDscrTab s.DMATxDescToSet { d with
      ControlBufferSize := frameLength.toUInt32 &&& ethDmaTxDescTBS1
      Status := d.Status ||| (ethDmaTxDescLS ||| ethDmaTxDescFS) ||| ethDmaTxDescOwn } }

/-- The end of `ETH_TxPkt_ChainMode`. -/
def resumeTransmission (s : TxDriver) : TxDriver :=
  let s := if s.TBUS then { s with TBUS := false, suspended := false } else s
  { s with DMATxDescToSet := (s.DMATxDscrTab s.DMATxDescToSet).Buffer2NextDescAddr }

/-- The innermost call of `low_level_output` goes one step further. -/
def output (s : TxDriver) : Option TxDriver :=
  match s.calls with
  | [] => none
  | c :: rest =>
    match c.phase with
    | .copies =>
      let out := outputLoop s.Tx_Buff c
      some { s with Tx_Buff := out.1, calls := out.2 :: rest }
    | .hands =>
      if s.owned then some { s with calls := rest }
      else some { s.give (UInt16.ofNat c.l) with calls := { c with phase := .resumes } :: rest }
    | .resumes => some { s.resumeTransmission with calls := rest }

/-- The length of the frame in the descriptor that the DMA looks at. -/
def size (s : TxDriver) : ℕ :=
  ((s.DMATxDscrTab s.current).ControlBufferSize &&& ethDmaTxDescTBS1).toNat

/-- The next byte of that frame. -/
def byte (s : TxDriver) : UInt8 :=
  s.Tx_Buff ((s.DMATxDscrTab s.current).Buffer1Addr + s.burst.length)

/-- The DMA reads the next byte of a frame, or has read all of them and goes on to the next
descriptor.  `ETH_SecondFrameOperate_Enable` lets it read a second frame while the descriptor of the
first one has not been given back, but no third one. -/
def read (s : TxDriver) : Option TxDriver :=
  if (s.DMATxDscrTab s.current).Status &&& ethDmaTxDescOwn = 0 ∨ 1 < s.fifo.length
    ∨ s.suspended then none
  else if s.burst.length < s.size then some { s with burst := s.burst ++ [s.byte] }
  else some { s with
    fifo := s.fifo ++ [s.burst]
    burst := []
    current := (s.DMATxDscrTab s.current).Buffer2NextDescAddr }

/-- The DMA has sent the frame that it read first, and gives the descriptor back with a status that
it writes. -/
def close (s : TxDriver) (status : UInt32) : Option TxDriver :=
  if s.fifo = [] ∨ status &&& ethDmaTxDescOwn ≠ 0 then none
  else some { s with
    DMATxDscrTab := setStatus s.DMATxDscrTab s.closing status
    closing := (s.DMATxDscrTab s.closing).Buffer2NextDescAddr
    fifo := s.fifo.tail }

/-- The DMA finds that its descriptor is not its own.  What it has read is sent nevertheless. -/
def starve (s : TxDriver) : Option TxDriver :=
  if (s.DMATxDscrTab s.current).Status &&& ethDmaTxDescOwn = 0 then
    some { s with suspended := true, TBUS := true }
  else none

end TxDriver

/-- What happens at the sending side. -/
inductive TxEvent
  /-- `low_level_output` is called -/
  | called (p : List (List UInt8))
  /-- a step of the innermost call -/
  | output
  | read
  | closed (status : UInt32)
  | starved

/-- What an event makes of the sending side. -/
def TxDriver.step (s : TxDriver) : TxEvent → Option TxDriver
  | .called p => some (s.call p)
  | .output => s.output
  | .read => s.read
  | .closed status => s.close status
  | .starved => s.starve

/-- A call of `low_level_output` does not come in the middle of another one, and its frame fits in
a buffer. -/
def CallsApart (s : TxDriver) : TxEvent → Prop
  | .called p => s.calls = [] ∧ p.flatten.length ≤ ethMaxPacketSize
  | _ => True

instance (s : TxDriver) (e : TxEvent) : Decidable (CallsApart s e) :=
  match e with
  | .called p => decidable_of_iff
      (s.calls.isEmpty = true ∧ p.flatten.length ≤ ethMaxPacketSize)
      (and_congr List.isEmpty_iff Iff.rfl)
  | .output => isTrue trivial
  | .read => isTrue trivial
  | .closed _ => isTrue trivial
  | .starved => isTrue trivial

/-! ### The transmitter -/

/-- What happens to frames that are to be sent. -/
inductive TxMove
  | begun
  | wrote (b : UInt8)
  | accepted (frame : List UInt8)
  | refused (frame : List UInt8)
  | read (b : UInt8)
  | fetched (frame : List UInt8)
  | sent (frame : List UInt8)

/-- Frames that are to be sent: those that are being sent, what has been read of the first one that
waits, those that wait, and what has been written of the next one. -/
structure Transmitter where
  sending : List (List UInt8)
  reading : List UInt8
  waiting : List (List UInt8)
  writing : Option (List UInt8)

namespace Transmitter

/-- A transmitter without frames. -/
def idle : Transmitter := ⟨[], [], [], none⟩

/-- The number of descriptors in use. -/
def inUse (t : Transmitter) : ℕ := t.sending.length + t.waiting.length

/-- The frames that wait when the byte `k` of another one is written: two of them take all
buffers. -/
def overwritten (t : Transmitter) (k : ℕ) (b : UInt8) : List (List UInt8) :=
  match t.waiting with
  | [first, second] => [first.set k b, second]
  | waiting => waiting

/-- What a transmitter can do. -/
inductive Step : Transmitter → TxMove → Transmitter → Prop
  | begun {t : Transmitter} (h : t.writing = none) :
    Step t .begun { t with writing := some [] }
  | wrote {t : Transmitter} {written : List UInt8} {b : UInt8} (h : t.writing = some written) :
    Step t (.wrote b) { t with
      waiting := t.overwritten written.length b, writing := some (written ++ [b]) }
  | accepted {t : Transmitter} {frame : List UInt8} (h : t.writing = some frame)
    (hroom : t.inUse < ethTxBufNb) :
    Step t (.accepted frame) { t with waiting := t.waiting ++ [frame], writing := none }
  | refused {t : Transmitter} {frame : List UInt8} (h : t.writing = some frame)
    (hfull : t.inUse = ethTxBufNb) :
    Step t (.refused frame) { t with writing := none }
  | read {t : Transmitter} {first : List UInt8} {rest : List (List UInt8)}
    (h : t.waiting = first :: rest) (hmore : t.reading.length < first.length) :
    Step t (.read (first.get ⟨t.reading.length, hmore⟩))
      { t with reading := t.reading ++ [first.get ⟨t.reading.length, hmore⟩] }
  | fetched {t : Transmitter} {first : List UInt8} {rest : List (List UInt8)}
    (h : t.waiting = first :: rest) (hall : t.reading.length = first.length) :
    Step t (.fetched t.reading)
      { t with sending := t.sending ++ [t.reading], reading := [], waiting := rest }
  | sent {t : Transmitter} {frame : List UInt8} {rest : List (List UInt8)}
    (h : t.sending = frame :: rest) :
    Step t (.sent frame) { t with sending := rest }

end Transmitter

/-- What an event does to the frames. -/
def TxDriver.moves (s : TxDriver) : TxEvent → List TxMove
  | .called _ => [.begun]
  | .output =>
    match s.calls with
    | [] => []
    | c :: _ =>
      match c.phase with
      | .copies => (c.q.head?.bind fun payload => payload[c.copied]?).toList.map .wrote
      | .hands => if s.owned then [.refused c.p.flatten] else [.accepted c.p.flatten]
      | .resumes => []
  | .read => if s.burst.length < s.size then [.read s.byte] else [.fetched s.burst]
  | .closed _ => s.fifo.head?.toList.map .sent
  | .starved => []

/-! ### Single descriptors -/

theorem txDescTable_of_lt (tab : ℕ → EthDmaDesc) {i : ℕ} (h : i < ethTxBufNb) :
  txDescTable tab i = ethDmaTxDescChecksumInsertionConfig (txDesc ethTxBufNb i (tab i))
  := by
  unfold txDescTable ethDmaTxDescChainInit
  rw [Ring.foldl_update (fun _ d => ethDmaTxDescChecksumInsertionConfig d), if_pos h,
    Ring.foldl_update (fun i d => txDesc ethTxBufNb i d), if_pos h]

theorem laid_txDescTable (tab : ℕ → EthDmaDesc) :
  Laid ethTxBufNb (txDescTable tab)
  := by
  intro i hi
  rw [txDescTable_of_lt tab hi]
  refine ⟨rfl, ?_⟩
  change (if i < ethTxBufNb - 1 then i + 1 else 0) = (i + 1) % ethTxBufNb
  unfold ethTxBufNb at *
  split
  · omega
  · omega

/-- A frame is sent with its own length. -/
theorem size_given {n : ℕ} (h : n ≤ ethMaxPacketSize) :
  ((UInt16.ofNat n).toUInt32 &&& ethDmaTxDescTBS1 &&& ethDmaTxDescTBS1).toNat = n
  := by
  unfold ethMaxPacketSize at h
  have hmask : ethDmaTxDescTBS1.toNat = 2 ^ 13 - 1 := rfl
  rw [UInt32.toNat_and, UInt32.toNat_and, hmask, Nat.and_two_pow_sub_one_eq_mod,
    Nat.and_two_pow_sub_one_eq_mod, UInt16.toNat_toUInt32, UInt16.toNat_ofNat']
  omega

/-- The bit that gives a descriptor to the DMA. -/
theorem own_given (status : UInt32) :
  (status ||| ethDmaTxDescOwn) &&& ethDmaTxDescOwn ≠ 0
  := by
  intro h
  have hbit := congrArg (fun x => x.toNat.testBit 31) h
  simp only [UInt32.toNat_and, UInt32.toNat_or, Nat.testBit_and, Nat.testBit_or] at hbit
  rw [show ethDmaTxDescOwn.toNat.testBit 31 = true by decide] at hbit
  simp at hbit

/-! ### The ring as a transmitter -/

/-- The elements of the ring: the frames that are being sent, of which only their places are left,
and those that wait. -/
def Transmitter.slots (t : Transmitter) : List (Option (List UInt8)) :=
  t.sending.map (fun _ => none) ++ t.waiting.map some

theorem Transmitter.length_slots (t : Transmitter) :
  t.slots.length = t.inUse
  := by
  simp [slots, inUse]

/-- A frame that waits alone is not written over. -/
theorem Transmitter.overwritten_of_few {t : Transmitter} (h : t.waiting.length < ethTxBufNb) (k : ℕ)
    (b : UInt8) :
  t.overwritten k b = t.waiting
  := by
  unfold overwritten
  split
  · rename_i hwaiting
    rw [hwaiting] at h
    exact absurd h (Nat.lt_irrefl 2)
  · rfl

theorem Transmitter.overwritten_of_room {t : Transmitter} (h : t.inUse < ethTxBufNb) (k : ℕ)
    (b : UInt8) :
  t.overwritten k b = t.waiting
  := overwritten_of_few (Nat.lt_of_le_of_lt (Nat.le_add_left _ _) h) k b

/-- Bytes that are written do not change the lengths of frames. -/
theorem Transmitter.overwritten_lengths (t : Transmitter) (k : ℕ) (b : UInt8) :
  (t.overwritten k b).map List.length = t.waiting.map List.length
  := by
  unfold overwritten
  split
  · rename_i hwaiting
    rw [hwaiting]
    simp
  · rfl

namespace TxDriver

/-- A descriptor that is the reader's. -/
def Free (s : TxDriver) (i : ℕ) : Prop :=
  (s.DMATxDscrTab i).Status &&& ethDmaTxDescOwn = 0

/-- What a descriptor has for the DMA. -/
def Has (s : TxDriver) (i : ℕ) : Option (List UInt8) → Prop
  | none => ¬ s.Free i
  | some frame => ¬ s.Free i ∧ frame.length ≤ ethMaxPacketSize
    ∧ ((s.DMATxDscrTab i).ControlBufferSize &&& ethDmaTxDescTBS1).toNat = frame.length
    ∧ (s.Tx_Buff.shift (i * ethMaxPacketSize)).take frame.length = frame

/-- The loop of a call has copied the bytes `written`. -/
structure Copying (c : OutputCall) (written : List UInt8) : Prop where
  phase : c.phase = .copies
  frame : c.p.flatten = written ++ c.q.flatten.drop c.copied
  length : written.length = c.l + c.copied
  inside : c.copied ≤ (c.q.headD []).length
  fits : c.p.flatten.length ≤ ethMaxPacketSize

/-- How far a call of `low_level_output` is, as the transmitter sees it. -/
inductive Under (s : TxDriver) (t : Transmitter) : Prop
  | idle (hcalls : s.calls = [])
    (hnext : s.DMATxDescToSet = Ring.place ethTxBufNb s.closing t.slots.length)
    (hwriting : t.writing = none)
  | copies (c : OutputCall) (written : List UInt8) (hcalls : s.calls = [c])
    (hnext : s.DMATxDescToSet = Ring.place ethTxBufNb s.closing t.slots.length)
    (hwriting : t.writing = some written) (hcopying : Copying c written)
    (hbuffer : c.buffer = s.DMATxDescToSet * ethMaxPacketSize)
    (hmem : (s.Tx_Buff.shift c.buffer).take written.length = written)
  | hands (c : OutputCall) (hcalls : s.calls = [c]) (hphase : c.phase = .hands)
    (hnext : s.DMATxDescToSet = Ring.place ethTxBufNb s.closing t.slots.length)
    (hwriting : t.writing = some c.p.flatten) (hl : c.l = c.p.flatten.length)
    (hfits : c.p.flatten.length ≤ ethMaxPacketSize)
    (hmem : (s.Tx_Buff.shift (s.DMATxDescToSet * ethMaxPacketSize)).take c.p.flatten.length
      = c.p.flatten)
  | resumes (c : OutputCall) (hcalls : s.calls = [c]) (hphase : c.phase = .resumes)
    (hbound : s.DMATxDescToSet < ethTxBufNb)
    (hnext : Ring.place ethTxBufNb s.DMATxDescToSet 1
      = Ring.place ethTxBufNb s.closing t.slots.length)
    (hwriting : t.writing = none)

/-- The interface is as a transmitter shows it. -/
structure Portrays (s : TxDriver) (t : Transmitter) : Prop where
  layout : Laid ethTxBufNb s.DMATxDscrTab
  ring : Ring.Holds ethTxBufNb s.Free s.Has s.closing t.slots
  current : s.current = Ring.place ethTxBufNb s.closing t.sending.length
  sending : s.fifo = t.sending
  reading : s.burst = t.reading
  part : t.reading.length ≤ (t.waiting.headD []).length
  under : s.Under t
  polled : s.suspended → s.TBUS
  waits : s.suspended → (∀ c ∈ s.calls, c.phase ≠ .resumes) → t.waiting = []

variable {s s' : TxDriver} {t : Transmitter}

theorem Has.not_free {i : ℕ} {a : Option (List UInt8)} (h : s.Has i a) :
  ¬ s.Free i
  := by
  cases a with
  | none => exact h
  | some frame => exact h.1

/-- What a descriptor has does not depend on the other buffers. -/
theorem Has.put_apart {i j k : ℕ} {a : Option (List UInt8)} {b : UInt8} (h : s.Has j a)
    (hne : j ≠ i) (hk : k < ethMaxPacketSize) (calls : List OutputCall) :
  Has { s with Tx_Buff := s.Tx_Buff.put (i * ethMaxPacketSize + k) b, calls := calls } j a
  := by
  cases a with
  | none => exact h
  | some frame =>
    refine ⟨h.1, h.2.1, h.2.2.1, ?_⟩
    refine Eq.trans (List.map_congr_left ?_) h.2.2.2
    intro l hl
    have hlt : l < ethMaxPacketSize := Nat.lt_of_lt_of_le (List.mem_range.mp hl) h.2.1
    apply Mem.put_of_ne
    unfold ethMaxPacketSize at *
    omega

theorem give_self (s : TxDriver) (frameLength : UInt16) :
  (s.give frameLength).DMATxDscrTab s.DMATxDescToSet =
    { s.DMATxDscrTab s.DMATxDescToSet with
      ControlBufferSize := frameLength.toUInt32 &&& ethDmaTxDescTBS1
      Status := (s.DMATxDscrTab s.DMATxDescToSet).Status ||| (ethDmaTxDescLS ||| ethDmaTxDescFS)
        ||| ethDmaTxDescOwn }
  := Function.update_self ..

theorem give_of_ne (frameLength : UInt16) {j : ℕ} (h : j ≠ s.DMATxDescToSet) :
  (s.give frameLength).DMATxDscrTab j = s.DMATxDscrTab j
  := Function.update_of_ne h ..

theorem portrays_lowLevelInit (tab : ℕ → EthDmaDesc) (buff : Mem) :
  (lowLevelInit tab buff).Portrays .idle
  where
  layout := laid_txDescTable tab
  ring := by
    apply Ring.Holds.empty (Nat.zero_lt_succ 1)
    intro i hi
    change (txDescTable tab i).Status &&& ethDmaTxDescOwn = 0
    rw [txDescTable_of_lt tab hi]
    change (ethDmaTxDescTCH ||| ethDmaTxDescChecksumFull) &&& ethDmaTxDescOwn = 0
    decide
  current := rfl
  sending := rfl
  reading := rfl
  part := Nat.le_refl _
  under := .idle rfl rfl rfl
  polled h := by cases h
  waits h := by cases h

/-! ### The loop of a call -/

/-- The loop ends when it has copied the whole frame. -/
theorem Copying.ends {c : OutputCall} {written : List UInt8} (h : Copying c written)
    (hq : c.q = []) :
  c.p.flatten = written ∧ c.l = c.p.flatten.length
  := by
  have hframe := h.frame
  have hinside := h.inside
  rw [hq] at hframe hinside
  rw [List.flatten_nil, List.drop_nil, List.append_nil] at hframe
  have hzero : c.copied = 0 := Nat.le_zero.mp hinside
  refine ⟨hframe, ?_⟩
  rw [hframe, h.length, hzero, Nat.add_zero]

/-- A byte is copied. -/
theorem Copying.byte {c : OutputCall} {written payload : List UInt8} {q : List (List UInt8)}
    {b : UInt8} (h : Copying c written) (hq : c.q = payload :: q)
    (hb : payload[c.copied]? = some b) :
  Copying { c with copied := c.copied + 1 } (written ++ [b]) ∧ written.length < ethMaxPacketSize
  := by
  obtain ⟨hlt, hget⟩ := List.getElem?_eq_some_iff.mp hb
  have hframe : c.p.flatten = written ++ [b] ++ (payload :: q).flatten.drop (c.copied + 1) := by
    rw [h.frame, hq, List.flatten_cons, List.drop_append_of_le_length hlt.le,
      List.drop_append_of_le_length hlt, List.drop_eq_getElem_cons hlt, hget, List.append_assoc]
    rfl
  have hlength := congrArg List.length hframe
  rw [List.length_append, List.length_append, List.length_singleton] at hlength
  have hfits := h.fits
  refine ⟨⟨h.phase, ?_, ?_, ?_, h.fits⟩, by omega⟩
  · dsimp only
    rw [hq]
    exact hframe
  · rw [List.length_append, h.length]
    rfl
  · dsimp only
    rw [hq]
    exact hlt

/-- The next pbuf follows. -/
theorem Copying.next {c : OutputCall} {written payload : List UInt8} {q : List (List UInt8)}
    (h : Copying c written) (hq : c.q = payload :: q) (hb : payload[c.copied]? = none) :
  Copying { c with q := q, copied := 0, l := c.l + payload.length } written
  := by
  have hinside := h.inside
  rw [hq, List.headD_cons] at hinside
  have hall : c.copied = payload.length :=
    Nat.le_antisymm hinside (List.getElem?_eq_none_iff.mp hb)
  refine ⟨h.phase, ?_, ?_, Nat.zero_le _, h.fits⟩
  · dsimp only
    rw [h.frame, hq, List.flatten_cons, hall, List.drop_left, List.drop_zero]
  · dsimp only
    rw [h.length, hall, Nat.add_zero]

namespace Portrays

/-! ### Calls of `low_level_output` -/

/-- The next descriptor is the reader's as long as fewer than two are in use. -/
theorem free_next_iff (h : s.Portrays t)
    (hnext : s.DMATxDescToSet = Ring.place ethTxBufNb s.closing t.slots.length) :
  s.Free s.DMATxDescToSet ↔ t.inUse < ethTxBufNb
  := by
  rw [hnext, ← t.length_slots]
  exact h.ring.free_next_iff fun _ _ hhas => hhas.not_free

theorem call (h : s.Portrays t) {p : List (List UInt8)} (hcalls : s.calls = [])
    (hfits : p.flatten.length ≤ ethMaxPacketSize) :
  ∃ t', Lts.Path Transmitter.Step t [.begun] t' ∧ (s.call p).Portrays t'
  := by
  cases h.under with
  | idle _ hnext hwriting =>
    have hbound : s.DMATxDescToSet < ethTxBufNb := by
      rw [hnext]
      exact Ring.place_lt h.ring.bound _
    refine ⟨_, .single (.begun hwriting), h.layout, h.ring, h.current, h.sending, h.reading, h.part,
      ?_, h.polled, ?_⟩
    · refine .copies ⟨(s.DMATxDscrTab s.DMATxDescToSet).Buffer1Addr, p, p, 0, 0, .copies⟩ [] ?_
        hnext rfl ⟨rfl, rfl, rfl, Nat.zero_le _, hfits⟩ (h.layout _ hbound).1 rfl
      change _ :: s.calls = _
      rw [hcalls]
    · intro hsuspended _
      refine h.waits hsuspended ?_
      intro c hc
      rw [hcalls] at hc
      cases hc
  | copies _ _ hsome => cases hcalls.symm.trans hsome
  | hands _ hsome => cases hcalls.symm.trans hsome
  | resumes _ hsome => cases hcalls.symm.trans hsome

/-- A byte is written to the buffer of the next descriptor. -/
theorem ring_put (h : s.Portrays t) {k : ℕ} {b : UInt8}
    (hnext : s.DMATxDescToSet = Ring.place ethTxBufNb s.closing t.slots.length)
    (hk : k < ethMaxPacketSize) (calls : List OutputCall) (writing : Option (List UInt8)) :
  let s' : TxDriver := { s with
    Tx_Buff := s.Tx_Buff.put (s.DMATxDescToSet * ethMaxPacketSize + k) b
    calls := calls }
  Ring.Holds ethTxBufNb s'.Free s'.Has s.closing
    { t with waiting := t.overwritten k b, writing := writing }.slots
  := by
  intro s'
  by_cases hfree : s.Free s.DMATxDescToSet
  · -- the descriptor has nothing for the DMA
    rw [Transmitter.overwritten_of_room ((h.free_next_iff hnext).mp hfree)]
    refine h.ring.mono (fun _ _ hj => hj) ?_
    intro j _ a ha
    refine ha.put_apart ?_ hk calls
    rintro rfl
    exact ha.not_free hfree
  · -- the descriptor is the first one in use
    have hfull : t.slots.length = ethTxBufNb := by
      refine Nat.le_antisymm h.ring.room (Nat.not_lt.mp ?_)
      rw [t.length_slots, ← h.free_next_iff hnext]
      exact hfree
    have hfirst : s.DMATxDescToSet = s.closing := hnext.trans (h.ring.next_of_full hfull)
    have hother : ∀ j < ethTxBufNb, j ≠ s.closing → ∀ a, s.Has j a → s'.Has j a := by
      intro j _ hne a ha
      rw [← hfirst] at hne
      exact ha.put_apart hne hk calls
    have hring := h.ring
    rw [t.length_slots, Transmitter.inUse] at hfull
    by_cases hsending : t.sending = []
    · -- it waits
      rw [hsending, List.length_nil, Nat.zero_add] at hfull
      obtain ⟨first, second, hwaiting⟩ := List.length_eq_two.mp hfull
      have hslots : t.slots = [some first, some second] := by
        simp [Transmitter.slots, hsending, hwaiting]
      have hslots' : ({ t with
          waiting := t.overwritten k b
          writing := writing } : Transmitter).slots = [some (first.set k b), some second] := by
        simp [Transmitter.slots, Transmitter.overwritten, hsending, hwaiting]
      rw [hslots] at hring
      rw [hslots']
      obtain ⟨hown, hlen, hsize, hbytes⟩ := hring.has_first
      refine hring.replace (b := some _) ⟨hown, ?_, ?_, ?_⟩ (fun _ _ _ hj => hj) hother
      · rwa [List.length_set]
      · rwa [List.length_set]
      · change ((s.Tx_Buff.put _ _).shift (s.closing * ethMaxPacketSize)).take _ = _
        rw [hfirst, List.length_set, Mem.take_shift_put, hbytes]
    · -- it is being sent, and has been read
      obtain ⟨frame, sending, hsending⟩ := List.exists_cons_of_ne_nil hsending
      rw [hsending, List.length_cons] at hfull
      rw [Transmitter.overwritten_of_few (by omega)]
      change Ring.Holds _ _ _ _ t.slots
      have hslots : t.slots = none :: { t with sending := sending }.slots := by
        simp [Transmitter.slots, hsending]
      rw [hslots] at hring ⊢
      exact hring.replace (b := none) hring.has_first (fun _ _ _ hj => hj) hother

/-- The loop of `low_level_output` copies a byte. -/
theorem writes (h : s.Portrays t) {c : OutputCall} {written payload : List UInt8}
    {q : List (List UInt8)} {b : UInt8}
    (hnext : s.DMATxDescToSet = Ring.place ethTxBufNb s.closing t.slots.length)
    (hwriting : t.writing = some written) (hcopying : Copying c written)
    (hbuffer : c.buffer = s.DMATxDescToSet * ethMaxPacketSize)
    (hmem : (s.Tx_Buff.shift c.buffer).take written.length = written)
    (hq : c.q = payload :: q) (hb : payload[c.copied]? = some b)
    (hwaits : s.suspended → t.waiting = []) :
  ∃ t', Lts.Path Transmitter.Step t [.wrote b] t' ∧ Portrays { s with
    Tx_Buff := s.Tx_Buff.put (c.buffer + (c.l + c.copied)) b
    calls := [{ c with copied := c.copied + 1 }] } t'
  := by
  obtain ⟨hcopying', hroom⟩ := hcopying.byte hq hb
  have hlengths := t.overwritten_lengths written.length b
  have hslots : ({ t with
      waiting := t.overwritten written.length b
      writing := some (written ++ [b]) } : Transmitter).slots.length = t.slots.length := by
    have hcount := congrArg List.length hlengths
    rw [List.length_map, List.length_map] at hcount
    rw [Transmitter.length_slots, Transmitter.length_slots]
    exact congrArg (t.sending.length + ·) hcount
  have hring := h.ring_put (b := b) hnext hroom [{ c with copied := c.copied + 1 }]
    (some (written ++ [b]))
  have hplace : c.buffer + (c.l + c.copied)
      = s.DMATxDescToSet * ethMaxPacketSize + written.length := by
    rw [hbuffer, hcopying.length]
  rw [hplace]
  refine ⟨_, .single (.wrote hwriting), h.layout, hring, h.current, h.sending, h.reading, ?_, ?_,
    h.polled, ?_⟩
  · have hpart := h.part
    have hhead := congrArg (fun l => l.headD 0) hlengths
    dsimp only
    cases hold : t.waiting with
    | nil =>
      rw [hold] at hlengths hpart
      rw [List.map_eq_nil_iff.mp hlengths]
      exact hpart
    | cons first rest =>
      rw [hold] at hlengths hpart
      cases hnew : t.overwritten written.length b with
      | nil =>
        rw [hnew] at hlengths
        cases hlengths
      | cons first' rest' =>
        rw [hnew] at hlengths
        have hfirst : first'.length = first.length := List.head_eq_of_cons_eq hlengths
        rw [List.headD_cons, hfirst]
        exact hpart
  · refine .copies _ _ rfl (hslots ▸ hnext) rfl hcopying' hbuffer ?_
    dsimp only
    rw [hbuffer] at hmem ⊢
    rw [List.length_append, List.length_singleton, Mem.shift_put, Mem.take_put, hmem]
  · intro hsuspended _
    have hnil := hwaits hsuspended
    rw [hnil, List.map_nil] at hlengths
    exact List.map_eq_nil_iff.mp hlengths

/-- A step of the loop of `low_level_output`. -/
theorem copies (h : s.Portrays t) {c : OutputCall} {written : List UInt8}
    (hnext : s.DMATxDescToSet = Ring.place ethTxBufNb s.closing t.slots.length)
    (hwriting : t.writing = some written) (hcopying : Copying c written)
    (hbuffer : c.buffer = s.DMATxDescToSet * ethMaxPacketSize)
    (hmem : (s.Tx_Buff.shift c.buffer).take written.length = written)
    (hwaits : s.suspended → t.waiting = []) :
  ∃ t', Lts.Path Transmitter.Step t
      ((c.q.head?.bind fun payload => payload[c.copied]?).toList.map .wrote) t'
    ∧ Portrays { s with
      Tx_Buff := (outputLoop s.Tx_Buff c).1, calls := [(outputLoop s.Tx_Buff c).2] } t'
  := by
  cases hq : c.q with
  | nil =>
    obtain ⟨hframe, hl⟩ := hcopying.ends hq
    simp only [outputLoop, hq]
    refine ⟨t, .nil t, h.layout, h.ring, h.current, h.sending, h.reading, h.part, ?_, h.polled,
      fun hsuspended _ => hwaits hsuspended⟩
    rw [← hframe, hbuffer] at hmem
    exact .hands _ rfl rfl hnext (by rw [hwriting, hframe]) hl hcopying.fits hmem
  | cons payload q =>
    cases hb : payload[c.copied]? with
    | some b =>
      have hloop : outputLoop s.Tx_Buff c
          = (s.Tx_Buff.put (c.buffer + (c.l + c.copied)) b, { c with copied := c.copied + 1 }) := by
        simp only [outputLoop, hq, hb]
      simp only [hloop, List.head?_cons, Option.bind_some, hb]
      exact h.writes hnext hwriting hcopying hbuffer hmem hq hb hwaits
    | none =>
      simp only [outputLoop, hq, List.head?_cons, Option.bind_some, hb]
      exact ⟨t, .nil t, h.layout, h.ring, h.current, h.sending, h.reading, h.part,
        .copies _ written rfl hnext hwriting (hcopying.next hq hb) hbuffer hmem, h.polled,
        fun hsuspended _ => hwaits hsuspended⟩

/-- `ETH_TxPkt_ChainMode` finds that the descriptor is still the DMA's. -/
theorem refuses (h : s.Portrays t) {frame : List UInt8}
    (hnext : s.DMATxDescToSet = Ring.place ethTxBufNb s.closing t.slots.length)
    (hwriting : t.writing = some frame) (hown : s.owned)
    (hwaits : s.suspended → t.waiting = []) :
  ∃ t', Lts.Path Transmitter.Step t [.refused frame] t'
    ∧ Portrays { s with calls := [] } t'
  := by
  have hfull : t.inUse = ethTxBufNb := by
    refine Nat.le_antisymm ?_ (Nat.not_lt.mp ?_)
    · rw [← t.length_slots]
      exact h.ring.room
    · rw [← h.free_next_iff hnext]
      exact hown
  exact ⟨_, .single (.refused hwriting hfull), h.layout, h.ring, h.current, h.sending, h.reading,
    h.part, .idle rfl hnext rfl, h.polled, fun hsuspended _ => hwaits hsuspended⟩

/-- `ETH_TxPkt_ChainMode` gives the descriptor to the DMA. -/
theorem gives (h : s.Portrays t) {c : OutputCall}
    (hnext : s.DMATxDescToSet = Ring.place ethTxBufNb s.closing t.slots.length)
    (hwriting : t.writing = some c.p.flatten) (hl : c.l = c.p.flatten.length)
    (hfits : c.p.flatten.length ≤ ethMaxPacketSize)
    (hmem : (s.Tx_Buff.shift (s.DMATxDescToSet * ethMaxPacketSize)).take c.p.flatten.length
      = c.p.flatten) (hown : ¬ s.owned) :
  ∃ t', Lts.Path Transmitter.Step t [.accepted c.p.flatten] t'
    ∧ Portrays { s.give (UInt16.ofNat c.l) with
      calls := [{ c with phase := .resumes }] } t'
  := by
  have hfew : t.inUse < ethTxBufNb := by
    rw [← h.free_next_iff hnext]
    exact not_not.mp hown
  have hbound : s.DMATxDescToSet < ethTxBufNb := by
    rw [hnext]
    exact Ring.place_lt h.ring.bound _
  have hslots : ({ t with waiting := t.waiting ++ [c.p.flatten], writing := none }
      : Transmitter).slots = t.slots ++ [some c.p.flatten] := by
    simp [Transmitter.slots]
  refine ⟨_, .single (.accepted hwriting hfew), ?_, ?_, h.current, h.sending, h.reading, ?_, ?_,
    h.polled, ?_⟩
  · intro j hj
    by_cases heq : j = s.DMATxDescToSet
    · subst heq
      change ((s.give _).DMATxDscrTab _).Buffer1Addr = _
        ∧ ((s.give _).DMATxDscrTab _).Buffer2NextDescAddr = _
      rw [give_self]
      exact h.layout _ hj
    · change ((s.give _).DMATxDscrTab j).Buffer1Addr = _
        ∧ ((s.give _).DMATxDscrTab j).Buffer2NextDescAddr = _
      rw [give_of_ne _ heq]
      exact h.layout j hj
  · rw [hslots]
    refine h.ring.push (by rwa [t.length_slots]) ?_ ?_ ?_
    · rw [← hnext]
      refine ⟨?_, hfits, ?_, hmem⟩
      · change ¬ ((s.give _).DMATxDscrTab _).Status &&& _ = 0
        rw [give_self]
        exact own_given _
      · change (((s.give _).DMATxDscrTab _).ControlBufferSize &&& _).toNat = _
        rw [give_self, hl]
        exact size_given hfits
    · intro j _ hne hfree
      rw [← hnext] at hne
      change ((s.give _).DMATxDscrTab j).Status &&& _ = 0
      rw [give_of_ne _ hne]
      exact hfree
    · intro j _ hne a ha
      rw [← hnext] at hne
      have hsame := give_of_ne (UInt16.ofNat c.l) hne
      cases a with
      | none =>
        change ¬ ((s.give _).DMATxDscrTab j).Status &&& _ = 0
        rw [hsame]
        exact ha
      | some frame =>
        refine ⟨?_, ha.2.1, ?_, ha.2.2.2⟩
        · change ¬ ((s.give _).DMATxDscrTab j).Status &&& _ = 0
          rw [hsame]
          exact ha.1
        · change (((s.give _).DMATxDscrTab j).ControlBufferSize &&& _).toNat = _
          rw [hsame]
          exact ha.2.2.1
  · -- what has been read is of the first frame, and that is still the first one
    have hpart := h.part
    dsimp only
    cases hold : t.waiting with
    | nil =>
      rw [hold] at hpart
      exact hpart.trans (Nat.zero_le _)
    | cons first rest =>
      rw [hold] at hpart
      exact hpart
  · refine .resumes _ rfl rfl hbound ?_ rfl
    rw [hslots, List.length_append]
    change Ring.place _ s.DMATxDescToSet 1 = _
    rw [hnext, Ring.place_place]
    rfl
  · intro _ hphase
    exact absurd rfl (hphase _ (List.mem_singleton.mpr rfl))

/-- The end of `ETH_TxPkt_ChainMode`. -/
theorem resumes (h : s.Portrays t) (hbound : s.DMATxDescToSet < ethTxBufNb)
    (hnext : Ring.place ethTxBufNb s.DMATxDescToSet 1
      = Ring.place ethTxBufNb s.closing t.slots.length)
    (hwriting : t.writing = none) :
  Portrays { s.resumeTransmission with calls := [] } t
  := by
  have haddr := (h.layout _ hbound).2
  unfold resumeTransmission
  by_cases htbus : s.TBUS
  · simp only [htbus, if_true]
    exact ⟨h.layout, h.ring, h.current, h.sending, h.reading, h.part,
      .idle rfl (haddr.trans hnext) hwriting, nofun, nofun⟩
  · simp only [htbus]
    refine ⟨h.layout, h.ring, h.current, h.sending, h.reading, h.part,
      .idle rfl (haddr.trans hnext) hwriting, h.polled, ?_⟩
    intro hsuspended
    exact absurd (h.polled hsuspended) htbus

/-- A step of a call. -/
theorem output (h : s.Portrays t) (hs : s.output = some s') :
  ∃ t', Lts.Path Transmitter.Step t (s.moves .output) t' ∧ s'.Portrays t'
  := by
  have hwaits : ∀ c, s.calls = [c] → c.phase ≠ .resumes → s.suspended → t.waiting = [] := by
    intro c hcalls hphase hsuspended
    refine h.waits hsuspended ?_
    rw [hcalls]
    intro c' hc
    rw [List.mem_singleton.mp hc]
    exact hphase
  unfold TxDriver.output at hs
  unfold moves
  cases h.under with
  | idle hcalls =>
    simp only [hcalls] at hs
    cases hs
  | copies c written hcalls hnext hwriting hcopying hbuffer hmem =>
    have hphase := hcopying.phase
    simp only [hcalls, hphase] at hs ⊢
    cases hs
    exact h.copies hnext hwriting hcopying hbuffer hmem (hwaits c hcalls (by rw [hphase]; nofun))
  | hands c hcalls hphase hnext hwriting hl hfits hmem =>
    simp only [hcalls, hphase] at hs ⊢
    by_cases hown : s.owned
    · rw [if_pos hown] at hs ⊢
      cases hs
      exact h.refuses hnext hwriting hown (hwaits c hcalls (by rw [hphase]; nofun))
    · rw [if_neg hown] at hs ⊢
      cases hs
      exact h.gives hnext hwriting hl hfits hmem hown
  | resumes c hcalls hphase hbound hnext hwriting =>
    simp only [hcalls, hphase] at hs ⊢
    cases hs
    exact ⟨t, .nil t, h.resumes hbound hnext hwriting⟩

/-! ### The DMA -/

/-- What the DMA does leaves a call as it is, when the ring goes on after the same descriptor. -/
theorem under_of_next (h : s.Under t) {t' : Transmitter}
    (hset : s'.DMATxDescToSet = s.DMATxDescToSet) (hcalls : s'.calls = s.calls)
    (hbuff : s'.Tx_Buff = s.Tx_Buff) (hwriting : t'.writing = t.writing)
    (hplace : Ring.place ethTxBufNb s'.closing t'.slots.length
      = Ring.place ethTxBufNb s.closing t.slots.length) :
  s'.Under t'
  := by
  cases h with
  | idle hc hn hw =>
    exact .idle (hcalls.trans hc) (hset.trans (hn.trans hplace.symm)) (hwriting.trans hw)
  | copies c written hc hn hw hcopying hbuffer hmem =>
    refine .copies c written (hcalls.trans hc) (hset.trans (hn.trans hplace.symm))
      (hwriting.trans hw) hcopying ?_ ?_
    · rw [hset]
      exact hbuffer
    · rw [hbuff]
      exact hmem
  | hands c hc hphase hn hw hl hfits hmem =>
    refine .hands c (hcalls.trans hc) hphase (hset.trans (hn.trans hplace.symm))
      (hwriting.trans hw) hl hfits ?_
    rw [hset, hbuff]
    exact hmem
  | resumes c hc hphase hbound hn hw =>
    refine .resumes c (hcalls.trans hc) hphase ?_ ?_ (hwriting.trans hw)
    · rw [hset]
      exact hbound
    · rw [hset]
      exact hn.trans hplace.symm

/-- The descriptor of the DMA is the one of the first frame that waits. -/
theorem has_current (h : s.Portrays t) {first : List UInt8} {rest : List (List UInt8)}
    (hwaiting : t.waiting = first :: rest) :
  s.Has s.current (some first)
  := by
  have hslots : t.slots = t.sending.map (fun _ => none) ++ some first :: rest.map some := by
    rw [Transmitter.slots, hwaiting, List.map_cons]
  have hlength : t.sending.length < t.slots.length := by
    simp [hslots]
  have helem := h.ring.elem _ hlength
  rw [← h.current] at helem
  simpa [hslots, List.getElem_append_right] using helem

/-- The DMA finds its descriptor its own only when a frame waits. -/
theorem exists_waiting (h : s.Portrays t) (hown : ¬ s.Free s.current) (hfew : s.fifo.length ≤ 1) :
  ∃ first rest, t.waiting = first :: rest
  := by
  cases hwaiting : t.waiting with
  | cons first rest => exact ⟨first, rest, rfl⟩
  | nil =>
    refine absurd ?_ hown
    have hlength : t.slots.length = t.sending.length := by
      simp [Transmitter.slots, hwaiting]
    rw [h.current, ← hlength]
    apply h.ring.free_next
    rw [hlength, ← h.sending]
    exact Nat.lt_succ_of_le hfew

theorem read (h : s.Portrays t) (hs : s.read = some s') :
  ∃ t', Lts.Path Transmitter.Step t (s.moves .read) t' ∧ s'.Portrays t'
  := by
  unfold TxDriver.read at hs
  split at hs
  · cases hs
  · rename_i hc
    obtain ⟨hown, hfew, hsuspended⟩ : ¬ s.Free s.current ∧ s.fifo.length ≤ 1 ∧ ¬ s.suspended := by
      rw [not_or, not_or, Nat.not_lt] at hc
      exact hc
    obtain ⟨first, rest, hwaiting⟩ := h.exists_waiting hown hfew
    obtain ⟨-, -, hlen, hbytes⟩ := h.has_current hwaiting
    have hbound : s.current < ethTxBufNb := by
      rw [h.current]
      exact Ring.place_lt h.ring.bound _
    have hsize : s.size = first.length := hlen
    have hpart := h.part
    rw [hwaiting, List.headD_cons, ← h.reading] at hpart
    unfold moves
    by_cases hmore : s.burst.length < s.size
    · rw [if_pos hmore] at hs ⊢
      cases hs
      have hlt : t.reading.length < first.length := by rwa [← h.reading, ← hsize]
      have hbyte : s.byte = first.get ⟨t.reading.length, hlt⟩ := by
        unfold TxDriver.byte
        rw [(h.layout _ hbound).1, h.reading]
        have hget := Mem.getElem_take (m := s.Tx_Buff.shift (s.current * ethMaxPacketSize))
          (n := first.length) (i := t.reading.length) (by rwa [Mem.length_take])
        simp only [hbytes] at hget
        exact hget.symm
      rw [hbyte]
      refine ⟨_, .single (.read hwaiting hlt), h.layout, h.ring, h.current, h.sending, ?_, ?_,
        under_of_next h.under rfl rfl rfl rfl rfl, h.polled, ?_⟩
      · exact congrArg (· ++ _) h.reading
      · dsimp only
        rw [hwaiting, List.headD_cons, List.length_append]
        exact hlt
      · intro hfalse
        exact absurd hfalse hsuspended
    · rw [if_neg hmore] at hs ⊢
      cases hs
      have hall : t.reading.length = first.length := by
        rw [← h.reading]
        omega
      have hslots : t.slots = t.sending.map (fun _ => none) ++ some first :: rest.map some := by
        rw [Transmitter.slots, hwaiting, List.map_cons]
      rw [h.reading]
      refine ⟨_, .single (.fetched hwaiting hall), h.layout, ?_, ?_, ?_, rfl, Nat.zero_le _, ?_,
        h.polled, ?_⟩
      · have hring := h.ring
        rw [hslots] at hring
        have hforall : List.Forall₂ (fun a a' => ∀ j, s.Has j a → s.Has j a')
            (t.sending.map (fun _ => none) ++ some first :: rest.map some)
            ((t.sending ++ [t.reading]).map (fun _ => none) ++ rest.map some) := by
          rw [List.map_append, List.append_assoc]
          refine List.rel_append (List.forall₂_same.mpr fun _ _ _ ha => ha) ?_
          exact .cons (fun _ ha => ha.1) (List.forall₂_same.mpr fun _ _ _ ha => ha)
        exact hring.change hforall
      · dsimp only
        rw [(h.layout _ hbound).2, h.current, Ring.place_place, List.length_append]
        rfl
      · exact congrArg₂ (fun l r => l ++ [r]) h.sending rfl
      · refine under_of_next h.under rfl rfl rfl rfl ?_
        simp [Transmitter.slots, hwaiting, Nat.add_left_comm]
      · intro hfalse
        exact absurd hfalse hsuspended

theorem close (h : s.Portrays t) {status : UInt32} (hs : s.close status = some s') :
  ∃ t', Lts.Path Transmitter.Step t (s.moves (.closed status)) t' ∧ s'.Portrays t'
  := by
  unfold TxDriver.close at hs
  split at hs
  · cases hs
  · rename_i hc
    obtain ⟨hfifo, hstatus⟩ := not_or.mp hc
    obtain ⟨frame, rest, hframe⟩ := List.exists_cons_of_ne_nil hfifo
    have hsending := h.sending.symm.trans hframe
    have hslots : t.slots = none :: { t with sending := rest }.slots := by
      simp [Transmitter.slots, hsending]
    have hnext := (h.layout _ h.ring.bound).2
    have hring := h.ring
    rw [hslots] at hring
    cases hs
    rw [hnext, show s.moves (.closed status) = [.sent frame] by simp [moves, hframe]]
    refine ⟨_, .single (.sent hsending), h.layout.setStatus _ _, ?_, ?_, ?_, h.reading, h.part, ?_,
      h.polled, h.waits⟩
    · refine hring.pop ?_ ?_ ?_
      · change (setStatus _ _ _ _).Status &&& _ = 0
        rw [setStatus_self]
        exact not_not.mp hstatus
      · intro j _ hne hfree
        change (setStatus _ _ _ j).Status &&& _ = 0
        rw [setStatus_of_ne hne]
        exact hfree
      · intro j _ hne a ha
        have hsame : setStatus s.DMATxDscrTab _ status j = _ := setStatus_of_ne hne status
        cases a with
        | none =>
          change ¬ (setStatus _ _ _ j).Status &&& _ = 0
          rw [hsame]
          exact ha
        | some frame =>
          refine ⟨?_, ha.2.1, ?_, ha.2.2.2⟩
          · change ¬ (setStatus _ _ _ j).Status &&& _ = 0
            rw [hsame]
            exact ha.1
          · change ((setStatus _ _ _ j).ControlBufferSize &&& _).toNat = _
            rw [hsame]
            exact ha.2.2.1
    · dsimp only
      rw [h.current, hsending, Ring.place_place, List.length_cons, Nat.add_comm]
    · rw [hframe]
      rfl
    · refine under_of_next h.under rfl rfl rfl rfl ?_
      rw [hslots, Ring.place_place, List.length_cons, Nat.add_comm]

theorem starve (h : s.Portrays t) (hs : s.starve = some s') :
  s'.Portrays t
  := by
  unfold TxDriver.starve at hs
  split at hs
  · rename_i hfree
    cases hs
    refine ⟨h.layout, h.ring, h.current, h.sending, h.reading, h.part,
      under_of_next h.under rfl rfl rfl rfl rfl, fun _ => rfl, ?_⟩
    intro _ _
    cases hwaiting : t.waiting with
    | nil => rfl
    | cons first rest => exact absurd hfree (h.has_current hwaiting).1
  · cases hs

/-- What one event does to the transmitter. -/
theorem step (h : s.Portrays t) {e : TxEvent} (hapart : CallsApart s e) (hs : s.step e = some s') :
  ∃ t', Lts.Path Transmitter.Step t (s.moves e) t' ∧ s'.Portrays t'
  := by
  cases e with
  | called p =>
    cases hs
    exact h.call hapart.1 hapart.2
  | output => exact h.output hs
  | read => exact h.read hs
  | closed status => exact h.close hs
  | starved => exact ⟨t, .nil t, h.starve hs⟩

end Portrays

end TxDriver

/-! ### Frames that are sent as they are -/

/-- The frames that were sent among what happened. -/
def sentIn : List TxMove → List (List UInt8)
  | [] => []
  | .sent frame :: moves => frame :: sentIn moves
  | _ :: moves => sentIn moves

/-- The event is one of the DMA. -/
def TxEvent.Dma : TxEvent → Prop
  | .called _ | .output => False
  | .read | .closed _ | .starved => True

/-- A frame is not copied into a buffer of the DMA. -/
def CopiesFree (s : TxDriver) : TxEvent → Prop
  | .output => ∀ c ∈ s.calls.head?, c.phase = .copies → ¬ s.owned
  | _ => True

instance (s : TxDriver) (e : TxEvent) : Decidable (CopiesFree s e) :=
  match e with
  | .output => match h : s.calls.head? with
    | none => isTrue fun c hc => by
      rw [h] at hc
      cases hc
    | some c => decidable_of_iff (c.phase = .copies → ¬ s.owned) (by simp [CopiesFree, h])
  | .called _ => isTrue trivial
  | .read => isTrue trivial
  | .closed _ => isTrue trivial
  | .starved => isTrue trivial

namespace Transmitter

end Transmitter

namespace TxDriver

variable {s s' : TxDriver} {t t' : Transmitter} {e : TxEvent}

/-- The frame of a call that has not given it to the DMA yet. -/
def pending (s : TxDriver) : List (List UInt8) :=
  match s.calls with
  | [] => []
  | c :: _ => if c.phase = .resumes then [] else [c.p.flatten]

/-- A frame that has been copied will be accepted. -/
def Roomy (s : TxDriver) : Prop := ∀ c ∈ s.calls.head?, c.phase = .hands → ¬ s.owned

/-- The DMA leaves the calls alone, and takes no descriptor from the reader. -/
theorem step_dma (hs : s.step e = some s') (hdma : e.Dma) :
  s'.calls = s.calls ∧ (s'.owned → s.owned)
  := by
  cases e with
  | called p => exact hdma.elim
  | output => exact hdma.elim
  | read =>
    simp only [TxDriver.step, read] at hs
    split at hs
    · cases hs
    · split at hs
      · cases hs
        exact ⟨rfl, id⟩
      · cases hs
        exact ⟨rfl, id⟩
  | closed status =>
    simp only [TxDriver.step, close] at hs
    split at hs
    · cases hs
    · rename_i hc
      cases hs
      refine ⟨rfl, ?_⟩
      unfold owned
      dsimp only
      by_cases heq : s.DMATxDescToSet = s.closing
      · rw [heq, setStatus_self]
        exact fun hown => absurd hown (not_or.mp hc).2
      · rw [setStatus_of_ne heq]
        exact id
  | starved =>
    simp only [TxDriver.step, starve] at hs
    split at hs
    · cases hs
      exact ⟨rfl, id⟩
    · cases hs

/-- What the DMA does to the frames. -/
theorem moves_dma (hdma : e.Dma) {m : TxMove} (hm : m ∈ s.moves e) :
  (∃ b, m = .read b) ∨ (∃ frame, m = .fetched frame) ∨ ∃ frame, m = .sent frame
  := by
  cases e with
  | called p => exact hdma.elim
  | output => exact hdma.elim
  | read =>
    simp only [moves] at hm
    split at hm
    · exact .inl ⟨_, List.mem_singleton.mp hm⟩
    · exact .inr (.inl ⟨_, List.mem_singleton.mp hm⟩)
  | closed status =>
    obtain ⟨frame, -, rfl⟩ := List.mem_map.mp hm
    exact .inr (.inr ⟨frame, rfl⟩)
  | starved => cases hm

/-- No frame is refused. -/
theorem not_refused (h : s.Portrays t) (hroomy : s.Roomy) (frame : List UInt8) :
  .refused frame ∉ s.moves e
  := by
  intro hmem
  have hdma : e.Dma → False := by
    intro hdma
    obtain ⟨_, heq⟩ | ⟨_, heq⟩ | ⟨_, heq⟩ := moves_dma hdma hmem
    all_goals cases heq
  cases e with
  | called p => cases List.mem_singleton.mp hmem
  | output =>
    simp only [moves] at hmem
    cases h.under with
    | idle hcalls => simp [hcalls] at hmem
    | copies c written hcalls hnext hwriting hcopying =>
      simp only [hcalls, hcopying.phase] at hmem
      obtain ⟨_, -, heq⟩ := List.mem_map.mp hmem
      cases heq
    | hands c hcalls hphase =>
      have hown := hroomy c (by rw [hcalls]; rfl) hphase
      simp [hcalls, hphase, hown] at hmem
    | resumes c hcalls hphase => simp [hcalls, hphase] at hmem
  | read | closed | starved => exact (hdma trivial).elim

theorem Roomy.step (hroomy : s.Roomy) (h : s.Portrays t) (hfree : CopiesFree s e)
    (hs : s.step e = some s') :
  s'.Roomy
  := by
  cases e with
  | called p =>
    cases hs
    intro c hc hphase
    cases Option.some.inj hc
    cases hphase
  | output =>
    simp only [TxDriver.step, output] at hs
    cases h.under with
    | idle hcalls =>
      rw [hcalls] at hs
      cases hs
    | copies c written hcalls hnext hwriting hcopying =>
      simp only [hcalls, hcopying.phase] at hs
      cases hs
      intro _ _ _
      exact hfree c (by rw [hcalls]; rfl) hcopying.phase
    | hands c hcalls hphase =>
      simp only [hcalls, hphase] at hs
      split at hs
      · cases hs
        intro c hc
        cases hc
      · cases hs
        intro c' hc hphase'
        cases Option.some.inj hc
        cases hphase'
    | resumes c hcalls hphase =>
      simp only [hcalls, hphase] at hs
      cases hs
      intro c hc
      cases hc
  | read | closed | starved =>
    obtain ⟨hcalls, howned⟩ := step_dma hs trivial
    intro c hc hphase hown
    rw [hcalls] at hc
    exact hroomy c hc hphase (howned hown)

end TxDriver

/-! ### All runs -/

/-- Whenever the DMA reads and sends and however its steps fall into the calls of
`low_level_output`, byte by byte, the two descriptors and their buffers are a transmitter for two
frames, as long as one call does not come in the middle of another one and its frame fits in a
buffer.  The DMA waits for a poll demand only when it has read everything or a call is about to
issue one. -/
theorem frames_transmitted {events : List TxEvent} {tab : ℕ → EthDmaDesc} {buff : Mem}
    {s : TxDriver}
    (hapart : Run.Along TxDriver.step CallsApart events (TxDriver.lowLevelInit tab buff))
    (hrun : Run.run TxDriver.step events (TxDriver.lowLevelInit tab buff) = some s) :
  ∃ t, Lts.Path Transmitter.Step .idle
      (Lts.labels TxDriver.step TxDriver.moves events
        (TxDriver.lowLevelInit tab buff)) t
    ∧ s.fifo = t.sending
    ∧ t.inUse ≤ ethTxBufNb
    ∧ (s.suspended → (∀ c ∈ s.calls, c.phase ≠ .resumes) → t.waiting = [])
  := by
  obtain ⟨t, hpath, h⟩ := Lts.simulates (fun _ _ _ _ h hapart hs => h.step hapart hs)
    (TxDriver.portrays_lowLevelInit tab buff) hapart hrun
  refine ⟨t, hpath, h.sending, ?_, h.waits⟩
  rw [← t.length_slots]
  exact h.ring.room

/-- Three frames come, and the DMA has read one byte before the third one is written over the first
one.  Then it reads the rest and the second frame, and sends both. -/
def threeOutputs : List TxEvent :=
  .called [[1], [2]] :: List.replicate 7 .output ++ .called [[3, 4]] :: List.replicate 6 .output
    ++ .read :: .called [[5, 6]] :: List.replicate 5 .output ++ List.replicate 5 .read
    ++ [.closed 0, .starved, .closed 0]

theorem frames_transmitted_three :
  ∃ s, Run.run TxDriver.step threeOutputs
      (TxDriver.lowLevelInit (fun _ => ⟨0, 0, 0, 0⟩) fun _ => 0) = some s
    ∧ sentIn (Lts.labels TxDriver.step TxDriver.moves threeOutputs
      (TxDriver.lowLevelInit (fun _ => ⟨0, 0, 0, 0⟩) fun _ => 0)) = [[1, 6], [3, 4]]
    ∧ ∃ t, Lts.Path Transmitter.Step .idle
        (Lts.labels TxDriver.step TxDriver.moves threeOutputs
          (TxDriver.lowLevelInit (fun _ => ⟨0, 0, 0, 0⟩) fun _ => 0)) t
      ∧ s.fifo = t.sending
      ∧ t.inUse ≤ ethTxBufNb
      ∧ (s.suspended → (∀ c ∈ s.calls, c.phase ≠ .resumes) → t.waiting = [])
  := by
  obtain ⟨s, hrun⟩ := Option.isSome_iff_exists.mp
    (by decide +kernel : (Run.run TxDriver.step threeOutputs
      (TxDriver.lowLevelInit (fun _ => ⟨0, 0, 0, 0⟩) fun _ => 0)).isSome)
  exact ⟨s, hrun, by decide +kernel, frames_transmitted (by decide +kernel) hrun⟩

end UhfReader
