import UhfReader.Lib.Memory
import UhfReader.Lib.Ring
import UhfReader.Lib.Run

/-!
# The receive descriptors of the Ethernet interface

The DMA of the Ethernet MAC stores what is received into a ring of four descriptors, each of which
has a buffer of 1520 bytes.  A descriptor with the `OWN` bit is the DMA's; the DMA clears the bit
when it has filled the buffer, and the reader sets it when it has read it.

`ETH_IRQHandler` reads the frames one after the other and hands them to lwIP.  The DMA goes on
storing while it does so.
-/

open Memory

namespace UhfReader

/-! ### The descriptors -/

/-- `ETH_DMADESCTypeDef`.  Addresses are offsets from the start of the buffers, and the places of
descriptors in their table. -/
structure EthDmaDesc where
  Status : UInt32
  ControlBufferSize : UInt32
  Buffer1Addr : ℕ
  Buffer2NextDescAddr : ℕ

/-- A table of descriptors after `DscrTab[i].Status = status`. -/
def setStatus (tab : ℕ → EthDmaDesc) (i : ℕ) (status : UInt32) : ℕ → EthDmaDesc :=
  Function.update tab i { tab i with Status := status }

theorem setStatus_self (tab : ℕ → EthDmaDesc) (i : ℕ) (status : UInt32) :
  (setStatus tab i status i).Status = status
  := congrArg EthDmaDesc.Status (Function.update_self i _ tab)

theorem setStatus_of_ne {tab : ℕ → EthDmaDesc} {i j : ℕ} (h : j ≠ i) (status : UInt32) :
  setStatus tab i status j = tab j
  := Function.update_of_ne h _ tab

/-- What a property says of a descriptor apart from its status holds of a table whatever the
status is. -/
theorem setStatus_apart {tab : ℕ → EthDmaDesc} {P : EthDmaDesc → Prop}
    (hP : ∀ d status, P d → P { d with Status := status }) {i j : ℕ} (h : P (tab j))
    (status : UInt32) :
  P (setStatus tab i status j)
  := by
  by_cases heq : j = i
  · subst heq
    rw [setStatus, Function.update_self]
    exact hP _ _ h
  · rw [setStatus_of_ne heq]
    exact h

/-- `ETH_MAX_PACKET_SIZE` -/
def ethMaxPacketSize : ℕ := 1520

/-- `ETH_RXBUFNB` -/
def ethRxBufNb : ℕ := 4

/-- `ETH_DMARxDesc_OWN` -/
def ethDmaRxDescOwn : UInt32 := 0x80000000

/-- `ETH_DMARxDesc_FL` -/
def ethDmaRxDescFL : UInt32 := 0x3FFF0000

/-- `ETH_DMARxDesc_ES` -/
def ethDmaRxDescES : UInt32 := 0x8000

/-- `ETH_DMARxDesc_FS` -/
def ethDmaRxDescFS : UInt32 := 0x200

/-- `ETH_DMARxDesc_LS` -/
def ethDmaRxDescLS : UInt32 := 0x100

/-- `ETH_DMARxDesc_RCH` -/
def ethDmaRxDescRCH : UInt32 := 0x4000

/-- `ETH_DMARxDesc_DIC` -/
def ethDmaRxDescDIC : UInt32 := 0x80000000

/-- The status of a descriptor that has a whole frame without errors. -/
def Whole (status : UInt32) : Prop :=
  status &&& ethDmaRxDescES = 0 ∧ status &&& ethDmaRxDescLS ≠ 0 ∧ status &&& ethDmaRxDescFS ≠ 0

instance (status : UInt32) : Decidable (Whole status) :=
  inferInstanceAs (Decidable (_ ∧ _ ∧ _))

/-- The length of a frame in the status of its descriptor. -/
def frameLength (status : UInt32) : UInt32 := (status &&& ethDmaRxDescFL) >>> 16

/-- A descriptor after its round of `ETH_DMARxDescChainInit`. -/
def rxDesc (rxBuffCount i : ℕ) : EthDmaDesc where
  Status := ethDmaRxDescOwn
  ControlBufferSize := ethDmaRxDescRCH ||| UInt32.ofNat ethMaxPacketSize
  Buffer1Addr := i * ethMaxPacketSize
  Buffer2NextDescAddr := if i < rxBuffCount - 1 then i + 1 else 0

/-- `ETH_DMARxDescChainInit` -/
def ethDmaRxDescChainInit (tab : ℕ → EthDmaDesc) (rxBuffCount : ℕ) : ℕ → EthDmaDesc :=
  (List.range rxBuffCount).foldl (fun tab i => Function.update tab i (rxDesc rxBuffCount i)) tab

/-- `ETH_DMARxDescReceiveITConfig(DMARxDesc, ENABLE)` -/
def ethDmaRxDescReceiveITConfig (d : EthDmaDesc) : EthDmaDesc :=
  { d with ControlBufferSize := d.ControlBufferSize &&& ~~~ ethDmaRxDescDIC }

/-- What `low_level_init` makes of the table of the receive descriptors. -/
def rxDescTable (tab : ℕ → EthDmaDesc) : ℕ → EthDmaDesc :=
  (List.range ethRxBufNb).foldl
    (fun tab i => Function.update tab i (ethDmaRxDescReceiveITConfig (tab i)))
    (ethDmaRxDescChainInit tab ethRxBufNb)

/-- The `n` descriptors of a table are in a ring, each with its buffer. -/
def Laid (n : ℕ) (tab : ℕ → EthDmaDesc) : Prop :=
  ∀ i < n, (tab i).Buffer1Addr = i * ethMaxPacketSize
    ∧ (tab i).Buffer2NextDescAddr = Ring.place n i 1

/-- The status of a descriptor has no part in that. -/
theorem Laid.setStatus {n : ℕ} {tab : ℕ → EthDmaDesc} (h : Laid n tab) (i : ℕ) (status : UInt32) :
  Laid n (setStatus tab i status)
  := fun j hj => setStatus_apart (P := fun d => d.Buffer1Addr = j * ethMaxPacketSize
    ∧ d.Buffer2NextDescAddr = Ring.place n j 1) (fun _ _ h => h) (h j hj) status

/-- What is written to one buffer is not written to another one. -/
theorem take_copy_apart (buff src : Mem) {i j n k : ℕ} (hne : j ≠ i) (hn : n ≤ ethMaxPacketSize)
    (hk : k ≤ ethMaxPacketSize) :
  ((buff.copy (i * ethMaxPacketSize) src n).shift (j * ethMaxPacketSize)).take k
    = (buff.shift (j * ethMaxPacketSize)).take k
  := by
  unfold ethMaxPacketSize at *
  apply List.map_congr_left
  intro l hl
  have hlt := List.mem_range.mp hl
  change Mem.copy _ _ _ _ (j * 1520 + l) = _
  unfold Mem.copy
  rw [if_neg]
  · rfl
  · omega

/-! ### The pbufs -/

/-- The lengths of the pbufs after the first one. -/
def pbufTail : (free : ℕ) → (remLen : ℕ) → Option (List ℕ)
  | _, 0 => some []
  | 0, _ + 1 => none
  | free + 1, remLen + 1 =>
    let len := min (remLen + 1) 256
    (pbufTail free (remLen + 1 - len)).map (len :: ·)

/-- `pbuf_alloc(PBUF_RAW, length, PBUF_POOL)`, when the pool has `free` pbufs left: the `len` of
each pbuf of the chain. -/
def pbufAlloc (free length : ℕ) : Option (List ℕ) :=
  match free with
  | 0 => none
  | free + 1 =>
    let len := min length 256
    (pbufTail free (length - len)).map (len :: ·)

/-- The number of pbufs of a chain for so many bytes. -/
def pbufsFor (length : ℕ) : ℕ := 1 + (length - 256 + 255) / 256

/-- The loop over a chain of pbufs that copies the bytes of a buffer into their payloads. -/
def copyChain (buffer : Mem) : List ℕ → List (List UInt8)
  | [] => []
  | len :: lens => buffer.take len :: copyChain (buffer.shift len) lens

theorem sum_pbufTail {free remLen : ℕ} {lens : List ℕ} (h : pbufTail free remLen = some lens) :
  lens.sum = remLen
  := by
  induction free generalizing remLen lens with
  | zero =>
    cases remLen with
    | zero =>
      cases h
      rfl
    | succ n => cases h
  | succ free ih =>
    cases remLen with
    | zero =>
      cases h
      rfl
    | succ n =>
      obtain ⟨rest, hrest, rfl⟩ := Option.map_eq_some_iff.mp h
      rw [List.sum_cons, ih hrest]
      omega

/-- The pbufs of a chain have room for what was asked for. -/
theorem sum_pbufAlloc {free length : ℕ} {lens : List ℕ} (h : pbufAlloc free length = some lens) :
  lens.sum = length
  := by
  cases free with
  | zero => cases h
  | succ free =>
    obtain ⟨rest, hrest, rfl⟩ := Option.map_eq_some_iff.mp h
    rw [List.sum_cons, sum_pbufTail hrest]
    omega

theorem isSome_pbufTail (free remLen : ℕ) :
  (pbufTail free remLen).isSome ↔ (remLen + 255) / 256 ≤ free
  := by
  induction free generalizing remLen with
  | zero =>
    cases remLen with
    | zero => decide
    | succ n =>
      have hpos : ¬ (n + 1 + 255) / 256 ≤ 0 := by omega
      exact ⟨nofun, fun h => absurd h hpos⟩
  | succ free ih =>
    cases remLen with
    | zero => simp [pbufTail]
    | succ n =>
      rw [pbufTail, Option.isSome_map, ih]
      omega

/-- A chain is there as soon as the pool has enough pbufs. -/
theorem isSome_pbufAlloc (free length : ℕ) :
  (pbufAlloc free length).isSome ↔ pbufsFor length ≤ free
  := by
  unfold pbufsFor
  cases free with
  | zero =>
    have hpos : ¬ 1 + (length - 256 + 255) / 256 ≤ 0 := by omega
    exact ⟨nofun, fun h => absurd h hpos⟩
  | succ free =>
    have hrest : length - min length 256 = length - 256 := by omega
    rw [pbufAlloc, Option.isSome_map, isSome_pbufTail, hrest]
    omega

/-- The payloads of a chain are the first bytes of the buffer. -/
theorem flatten_copyChain (buffer : Mem) (lens : List ℕ) :
  (copyChain buffer lens).flatten = buffer.take lens.sum
  := by
  induction lens generalizing buffer with
  | nil => rfl
  | cons len lens ih => rw [copyChain, List.flatten_cons, ih, List.sum_cons, Mem.take_add]

/-! ### Reception -/

/-- What the DMA leaves in a descriptor and its buffer.  A frame that is in one descriptor is there
with its checksum of four bytes. -/
structure StoredFrame where
  status : UInt32
  bytes : List UInt8
  released : status &&& ethDmaRxDescOwn = 0
  fits : bytes.length ≤ ethMaxPacketSize
  length_of_whole : Whole status → frameLength status = UInt32.ofNat bytes.length
  checksum_of_whole : Whole status → 4 ≤ bytes.length

/-- A frame without its checksum. -/
def StoredFrame.frame (w : StoredFrame) : List UInt8 := w.bytes.take (w.bytes.length - 4)

/-- How far `ETH_IRQHandler` is. -/
inductive RxHandler
  | returned
  /-- before the condition of its loop -/
  | looks
  /-- in `low_level_input`, before `ETH_RxPkt_ChainMode` -/
  | takes
  /-- in `low_level_input`, when the descriptor has been given back -/
  | resumes
  /-- behind the loop, before `ETH_DMA_IT_R` is cleared -/
  | clears
  /-- before `ETH_DMA_IT_NIS` is cleared -/
  | clearsSummary
  deriving DecidableEq

/-- The receiving side of the Ethernet interface.  `passed` and `unseen` are kept for the
statements: for each call of `low_level_input` the pbufs that were left in the pool and what it
returned, and what the DMA has stored since the handler has last looked at a descriptor. -/
structure Reception where
  DMARxDscrTab : ℕ → EthDmaDesc
  /-- the memory from `Rx_Buff` on -/
  Rx_Buff : Mem
  DMARxDescToGet : ℕ
  /-- the descriptor that the DMA stores into next -/
  current : ℕ
  /-- the DMA found no descriptor of its own, and waits for a poll demand -/
  suspended : Bool
  /-- `ETH_DMASR_RBUS` -/
  RBUS : Bool
  /-- `ETH_DMASR_RS`: a frame was received -/
  RS : Bool
  /-- `ETH_DMASR_NIS`, which `RS` sets when it is set, and which asks for the interrupt -/
  NIS : Bool
  handler : RxHandler
  passed : List (ℕ × Option (List (List UInt8)))
  unseen : List StoredFrame

/-- `FrameTypeDef` -/
structure FrameType where
  length : UInt32
  buffer : ℕ
  descriptor : Option ℕ

namespace Reception

/-- The interface after `low_level_init`. -/
def lowLevelInit (tab : ℕ → EthDmaDesc) (buff : Mem) : Reception where
  DMARxDscrTab := rxDescTable tab
  Rx_Buff := buff
  DMARxDescToGet := 0
  current := 0
  suspended := false
  RBUS := false
  RS := false
  NIS := false
  handler := .returned
  passed := []
  unseen := []

/-- `DMARxDescToGet->Status` -/
def status (s : Reception) : UInt32 := (s.DMARxDscrTab s.DMARxDescToGet).Status

/-- `ETH_GetRxPktSize` -/
def ethGetRxPktSize (s : Reception) : UInt32 :=
  if s.status &&& ethDmaRxDescOwn = 0 ∧ Whole s.status then frameLength s.status else 0

/-- `ETH->DMASR = ETH_DMASR_RBUS; ETH->DMARPDR = 0` where the flag is set. -/
def resumeReception (s : Reception) : Reception :=
  if s.RBUS then { s with RBUS := false, suspended := false } else s

/-- `ETH_RxPkt_ChainMode` -/
def ethRxPktChainMode (s : Reception) : FrameType × Reception :=
  if s.status &&& ethDmaRxDescOwn ≠ 0 then
    (⟨0, 0, none⟩, s.resumeReception)
  else
    let frame : FrameType :=
      if Whole s.status then
        ⟨frameLength s.status - 4, (s.DMARxDscrTab s.DMARxDescToGet).Buffer1Addr,
          some s.DMARxDescToGet⟩
      else ⟨0, 0, some s.DMARxDescToGet⟩
    (frame, { s with
      DMARxDescToGet := (s.DMARxDscrTab s.DMARxDescToGet).Buffer2NextDescAddr })

/-- `low_level_input` until the descriptor has been given back, when the pool has `free` pbufs left:
the payloads of the chain, or `none` for `NULL`.  It would write through a null pointer when
`ETH_RxPkt_ChainMode` found no frame. -/
def lowLevelInput (s : Reception) (free : ℕ) :
    Option (Option (List (List UInt8)) × Reception) :=
  let out := s.ethRxPktChainMode
  let len := out.1.length.toUInt16
  let p := (pbufAlloc free len.toNat).map
    fun lens => copyChain (out.2.Rx_Buff.shift out.1.buffer) lens
  out.1.descriptor.map fun d =>
    (p, { out.2 with
      DMARxDscrTab := setStatus out.2.DMARxDscrTab d ethDmaRxDescOwn })

/-- `ETH_IRQHandler` goes one step further.  `ethernetif_input` hands a frame to lwIP, unless
`low_level_input` returned `NULL`. -/
def handle (s : Reception) (free : ℕ) : Option Reception :=
  match s.handler with
  | .returned => none
  | .looks =>
    some { s with
      handler := if s.ethGetRxPktSize ≠ 0 then .takes else .clears
      unseen := [] }
  | .takes =>
    (s.lowLevelInput free).map fun out =>
      { out.2 with handler := .resumes, passed := s.passed ++ [(free, out.1)] }
  | .resumes => some { s.resumeReception with handler := .looks }
  | .clears => some { s with RS := false, handler := .clearsSummary }
  | .clearsSummary => some { s with NIS := false, handler := .returned }

/-- The DMA stores into its descriptor and goes on to the next one. -/
def store (s : Reception) (w : StoredFrame) : Option Reception :=
  let d := s.DMARxDscrTab s.current
  if d.Status &&& ethDmaRxDescOwn = 0 then none
  else some { s with
    DMARxDscrTab := setStatus s.DMARxDscrTab s.current w.status
    Rx_Buff := s.Rx_Buff.copy d.Buffer1Addr (Mem.ofList w.bytes fun _ => 0) w.bytes.length
    current := d.Buffer2NextDescAddr
    suspended := false
    RS := s.RS || decide (w.status &&& ethDmaRxDescLS ≠ 0)
    NIS := s.NIS || decide (w.status &&& ethDmaRxDescLS ≠ 0)
    unseen := s.unseen ++ [w] }

/-- The DMA finds that its descriptor is not its own. -/
def starve (s : Reception) : Option Reception :=
  if (s.DMARxDscrTab s.current).Status &&& ethDmaRxDescOwn = 0 then
    some { s with suspended := true, RBUS := true }
  else none

end Reception

/-- What happens at the receiving side. -/
inductive RxEvent
  | stored (w : StoredFrame)
  | starved
  /-- the interrupt that `NIS` asks for -/
  | interrupt
  /-- a step of the handler, when the pool has `free` pbufs left -/
  | handler (free : ℕ)

/-- What an event makes of the receiving side. -/
def Reception.step (s : Reception) : RxEvent → Option Reception
  | .stored w => s.store w
  | .starved => s.starve
  | .interrupt =>
    if s.NIS ∧ s.handler = .returned then some { s with handler := .looks } else none
  | .handler free => s.handle free

/-- What the DMA stores in the events of a list. -/
def arrivals : List RxEvent → List StoredFrame
  | [] => []
  | .stored w :: events => w :: arrivals events
  | _ :: events => arrivals events

end UhfReader
