import UhfReader.Radio.Reception
import UhfReader.Serial

/-!
# Received bytes and the bounds of the receive buffers

The three interrupt handlers store a received byte at `rec_buf.index` unless the index is
above `BUF_LEN`.  A byte is stored behind the buffer, on `rec_buf.index` itself, when the
index is `BUF_LEN`; that takes a length byte of 254 or 255, an index that something else has
overwritten, or a length byte that `encodeR2000` leaves in the buffer while a frame comes in.
-/

open Memory

namespace UhfReader

/-! ### The serial ports -/

/-- The handler carries out its store `rec_buf.buf[rec_buf.index] = tmpChar` for this byte. -/
def SLocalTransData.Stores (l : SLocalTransData) (b : UInt8) : Prop :=
  l.setMark = 0 ∧ (l.index = 0 ∧ b = bootCode ∨ l.index ≠ 0 ∧ ¬ l.index > bufLen)

/-- A byte that is stored is stored inside the buffer. -/
def SerialStoresInside (s : Station) (e : SerialEvent) : Prop :=
  ∀ b, e = .rx b → s.link.Stores b → s.link.index < bufLen

theorem serial_stores_inside {port : Port} {es : List SerialEvent}
    (hlen : Run.Along (serialStep port) LengthBytesFit es .initial)
    (hfit : Run.Along (serialStep port) (RepliesFit port) es .initial) :
  Run.Along (serialStep port) SerialStoresInside es .initial
  := by
  apply Run.Along.of_invariant (I := fun s : Station => s.link.Sound)
    (P := fun s e => LengthBytesFit s e ∧ RepliesFit port s e) _ _ _ (hlen.and hfit)
  · intro s e s' hs hcond hstep
    exact sound_serialStep hs hcond.1 hcond.2 hstep
  · intro s e hs _ b _ _
    exact hs.inside
  · exact SLocalTransData.sound_of_index rfl

/-! ### The link to the R2000 -/

/-- What can happen at the link to the R2000: a byte arrives, `SysTick_Handler` calls
`Time_Update`, or `encodeR2000` sends a command or goes round its waiting loop.  The rest of the
firmware clears the record (`AntennaCtrl` when its wait is over), or does something that leaves
the buffer and the index alone. -/
inductive LinkEvent where
  | rx (b : UInt8)
  | tick
  | send (before cmd : UInt8) (p : Mem)
  | poll (cmd : UInt8)
  | clear
  | elsewhere (g : Globals)

/-- `encodeR2000` up to its waiting loop, or up to its return for a command it does not
know. -/
def startCmd (before cmd : UInt8) (p : Mem) (g : Globals) : Globals :=
  if cmd ∈ knownCmds then sendCmd cmd before p g
  else { g with r2000 := ((g.r2000.store 0 0xA0).store 2 0xFF).store 3 (wireCmd cmd) }

/-- What an event makes of the globals. -/
def linkStep (g : Globals) : LinkEvent → Option Globals
  | .rx b => some (uart4IRQHandler g b)
  | .tick => some (timeUpdate g)
  | .send before cmd p => some (startCmd before cmd p g)
  | .poll cmd => some (pollR2000 cmd g).1
  | .clear => some { g with r2000 := .cleared }
  | .elsewhere g' =>
    some { g' with r2000 := { g'.r2000 with buf := g.r2000.buf, index := g.r2000.index } }

/-- A byte that is taken for a length byte is at most 253, and a command that is sent has a frame
that fits in the buffer. -/
def LinkFits (g : Globals) : LinkEvent → Prop
  | .rx b => g.r2000.setMark = 0 → g.r2000.index = 1 → b.toNat ≤ 253
  | .send before cmd p => cmd ∈ knownCmds → FrameFits bufLen cmd before p g.tmpAntenna
  | _ => True

namespace SR2000TransData

variable {r : SR2000TransData} {b : UInt8}

/-- The handler carries out its store `rec_buf.buf[rec_buf.index] = tmpChar` for this byte. -/
def Stores (r : SR2000TransData) (b : UInt8) : Prop :=
  r.setMark = 0 ∧ (r.index = 0 ∧ b = 0xA0 ∨ r.index ≠ 0 ∧ ¬ r.index > bufLen)

/-- The frame under way stays inside the buffer. -/
structure Sound (r : SR2000TransData) : Prop where
  inside : r.index < bufLen
  length : 2 ≤ r.index → (r.buf.load 1).toNat ≤ 253

theorem sound_of_index (h : r.index = 0) :
  r.Sound
  where
  inside := by rw [h]; decide
  length := fun hle => by omega

/-- Only the index and the length byte matter. -/
theorem Sound.congr {r' : SR2000TransData} (h : r.Sound) (hindex : r'.index = r.index)
    (hbuf : r'.buf.load 1 = r.buf.load 1) :
  r'.Sound
  := by
  constructor
  · rw [hindex]
    exact h.inside
  · rw [hindex, hbuf]
    exact h.length

/-- A byte keeps the link sound when it is not a length byte above 253. -/
theorem Sound.receive (h : r.Sound) (hlen : r.setMark = 0 → r.index = 1 → b.toNat ≤ 253) :
  (r.receive b).1.Sound
  := by
  unfold SR2000TransData.receive
  split
  · rename_i hmark
    split
    · constructor
      · exact (by decide : 1 < bufLen)
      · exact fun hle => absurd hle (by decide : ¬ 2 ≤ 1)
    · split
      · rename_i hindex
        have hinside := h.inside
        simp only [bufLen] at hinside
        rw [if_neg (by simp only [bufLen]; omega), store_inside hinside]
        dsimp only
        split
        · split
          · exact sound_of_index rfl
          · exact sound_of_index rfl
        · -- the frame goes on: its length byte is at least its index
          rename_i hmore
          have hload : (r.withBuf (r.buf.put r.index b)).load 1
              = if 1 = r.index then b else r.buf.load 1 :=
            Block.load_put (b := r.buf) (j := 1) (v := b) hinside
          rw [hload] at hmore
          have hsame : (r.withBuf (r.buf.put r.index b)).index = r.index := rfl
          rw [hsame] at hmore
          have hbound : (if 1 = r.index then b else r.buf.load 1).toNat ≤ 253 := by
            split
            · rename_i hone
              exact hlen hmark hone.symm
            · rename_i hone
              exact h.length (by omega)
          constructor
          · simp only [bufLen, hsame]
            omega
          · intro _
            exact (congrArg UInt8.toNat hload).trans_le hbound
      · exact h
  · exact h

end SR2000TransData

theorem sound_uart4IRQHandler {g : Globals} {b : UInt8} (h : g.r2000.Sound)
    (hlen : g.r2000.setMark = 0 → g.r2000.index = 1 → b.toNat ≤ 253) :
  (uart4IRQHandler g b).r2000.Sound
  := by
  have hreceive := h.receive hlen
  rw [uart4IRQHandler_r2000]
  split
  · exact hreceive.congr rfl rfl
  · exact hreceive

/-- A step keeps the link sound. -/
theorem sound_linkStep {g g' : Globals} {e : LinkEvent} (h : g.r2000.Sound) (hfit : LinkFits g e)
    (hstep : linkStep g e = some g') :
  g'.r2000.Sound
  := by
  cases e with
  | rx b =>
    cases hstep
    exact sound_uart4IRQHandler h hfit
  | tick =>
    cases hstep
    apply h.congr (timeUpdate_index g)
    rw [(timeUpdate_link g).2.1]
  | send before cmd p =>
    cases hstep
    unfold startCmd
    split
    · rename_i hknown
      obtain ⟨hindex, hlength⟩ := sendCmd_index (hfit hknown)
      constructor
      · rw [hindex]
        exact h.inside
      · exact fun _ => hlength
    · have hstores : (((g.r2000.store 0 0xA0).store 2 0xFF).store 3 (wireCmd cmd)).Sound :=
        h.congr rfl rfl
      exact hstores
  | poll cmd =>
    cases hstep
    obtain hcleared | ⟨hindex, hbuf⟩ := pollR2000_index cmd g
    · rw [hcleared]
      exact SR2000TransData.sound_of_index rfl
    · apply h.congr hindex
      rw [hbuf]
  | clear =>
    cases hstep
    exact SR2000TransData.sound_of_index rfl
  | elsewhere g' =>
    cases hstep
    have hkept : ({ g'.r2000 with buf := g.r2000.buf, index := g.r2000.index }
        : SR2000TransData).Sound := h.congr rfl rfl
    exact hkept

/-- A byte that is stored is stored inside the buffer. -/
def LinkStoresInside (g : Globals) (e : LinkEvent) : Prop :=
  ∀ b, e = .rx b → g.r2000.Stores b → g.r2000.index < bufLen

theorem link_stores_inside {es : List LinkEvent} {g : Globals} (hg : g.r2000 = .cleared)
    (hfit : Run.Along linkStep LinkFits es g) :
  Run.Along linkStep LinkStoresInside es g
  := by
  apply Run.Along.of_invariant (I := fun g : Globals => g.r2000.Sound) _ _ _ hfit
  · intro g e g' hg hcond hstep
    exact sound_linkStep hg hcond hstep
  · intro g e hg _ b _ _
    exact hg.inside
  · rw [hg]
    exact SR2000TransData.sound_of_index rfl

/-! ### All three receivers -/

/-- Every byte that one of the three handlers stores is stored inside its buffer, in every run
from the zeroed state with length bytes of at most 253 in which nothing else writes behind the
buffer: no reply of `processParamTable` for the ports, and no frame longer than the buffer for
the link to the R2000. -/
theorem received_bytes_stored_inside (port : Port) (es : List SerialEvent)
    (hlen : Run.Along (serialStep port) LengthBytesFit es .initial)
    (hreplies : Run.Along (serialStep port) (RepliesFit port) es .initial)
    (es' : List LinkEvent) (g : Globals) (hg : g.r2000 = .cleared)
    (hlink : Run.Along linkStep LinkFits es' g) :
  Run.Along (serialStep port) SerialStoresInside es .initial
    ∧ Run.Along linkStep LinkStoresInside es' g
  := ⟨serial_stores_inside hlen hreplies, link_stores_inside hg hlink⟩

/-- A request for the version stays inside its buffer, and so does the beginning of an
answer of the R2000. -/
theorem stored_inside_version :
  let request : List UInt8 := [0x40, 0x02, 0x02, 0xBC]
  let answer : List UInt8 := [0xA0, 0x05]
  Run.Along (serialStep .rs232) SerialStoresInside (request.map .rx) .initial
    ∧ Run.Along linkStep LinkStoresInside (.send 0 0x72 (fun _ => 0) :: answer.map .rx)
        (Globals.reset .blank)
  := by
  intro request answer
  apply received_bytes_stored_inside
  · apply Run.Along.of_forall
    intro e he s b heq _ _
    subst heq
    have hmem : b ∈ request := by
      simpa using he
    exact List.all_iff_forall_prop.mp (by decide : request.all fun b => b.toNat ≤ 253) b hmem
  · apply Run.Along.of_forall
    intro e he s r heq
    subst heq
    simp at he
  · rfl
  · apply Run.Along.of_forall
    intro e he g
    rw [List.mem_cons, List.mem_map] at he
    obtain rfl | ⟨b, hb, rfl⟩ := he
    · intro _
      exact ⟨[], rfl, by decide⟩
    · intro _ _
      exact List.all_iff_forall_prop.mp (by decide : answer.all fun b => b.toNat ≤ 253) b hb

/-- A run of received bytes. -/
theorem run_rx (port : Port) (bs : List UInt8) (s : Station) :
  Run.run (serialStep port) (bs.map .rx) s
    = some { s with link := bs.foldl port.irqHandler s.link }
  := by
  induction bs generalizing s with
  | nil => rfl
  | cons b bs ih => exact ih { s with link := port.irqHandler s.link b }

/-- A byte stored outside the buffer after other bytes is a store outside in their run. -/
theorem not_stores_inside {port : Port} {bs : List UInt8} {b : UInt8}
    (hstores : (bs.foldl port.irqHandler .cleared).Stores b)
    (hout : ¬ (bs.foldl port.irqHandler .cleared).index < bufLen) :
  ¬ Run.Along (serialStep port) SerialStoresInside ((bs ++ [b]).map .rx) .initial
  := by
  intro halong
  rw [List.map_append, Run.Along.append_iff (run_rx port bs .initial)] at halong
  exact hout (halong.2.1 b rfl hstores)

/-- A length byte of 254 leads to a store at index 255: the byte hits `rec_buf.index`, and the
bytes after it are stored from there on. -/
theorem length_254_hits_index :
  let bytes : List UInt8 := [0x40, 0xFE] ++ List.replicate 253 0
  let l := bytes.foldl usart2IRQHandler .cleared
  l.Stores 7 ∧ ¬ l.index < bufLen ∧ (usart2IRQHandler l 7).index = 8
    ∧ ¬ Run.Along (serialStep .rs232) SerialStoresInside ((bytes ++ [7]).map .rx) .initial
  := by
  intro bytes l
  have heval : (l.setMark, l.index, (usart2IRQHandler l 7).index) = (0, 255, 8) := by
    decide +kernel
  simp only [Prod.mk.injEq] at heval
  obtain ⟨hmark, hindex, hnext⟩ := heval
  have hstores : l.Stores 7 := by
    refine ⟨hmark, .inr ⟨?_, ?_⟩⟩
    · rw [hindex]
      decide
    · rw [hindex]
      decide
  have houtside : ¬ l.index < bufLen := by
    rw [hindex]
    decide
  exact ⟨hstores, houtside, hnext, not_stores_inside hstores houtside⟩

end UhfReader
