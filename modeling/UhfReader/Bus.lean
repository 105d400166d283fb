import Mathlib.Data.Fintype.Basic
import Mathlib.Logic.Function.Basic
import UhfReader.Requests
import UhfReader.Sessions

/-!
# Readers on a bus

Several readers share an RS485 line with a host.  Each of them hears what the host sends, and what
the others send; the driver of a reader that sends does not hear.  The requests name the reader
that they are for by its address.

`Bus` are the readers, each with its ports, its timers and its main loop, and `Network` says what
they are for: the requests are processed one after the other, each by the reader with its address.
The bus is simulated by the network, although the readers hear each other's replies, in which a
start byte may stand: a host that waits for half a second of silence finds every receiver idle.
-/

open Memory

namespace UhfReader

/-! ### The readers -/

/-- A reader on the bus.  `age` counts the ticks since the frame under way began, and `silence`
those since the last byte came; `rested` says that the main loop has called the module function
after half a second of silence, and that nothing came since. -/
structure Node where
  station : Station
  main : MainLoop
  age : ℕ
  silence : ℕ
  rested : Bool

namespace Node

/-- A reader at its start. -/
def start (m : MainLoop) : Node := ⟨.initial, m, 0, 0, true⟩

/-- The address of the reader. -/
def address (n : Node) : UInt8 := n.main.gDevice.load Offset.address

/-- `USART1_IRQHandler` takes a byte. -/
def hear (n : Node) (b : UInt8) : Node :=
  { n with
    station.link := usart1IRQHandler n.station.link b
    age := if n.station.link.index = 0 then 0 else n.age
    silence := 0
    rested := false }

/-- `SysTick_Handler` calls `Time_Update`. -/
def tick (n : Node) : Node :=
  { n with station := n.station.tick, age := n.age + 1, silence := n.silence + 1 }

/-- `Local_485_module` has been called. -/
def called (n : Node) (out : SLocalTransData × Reader × List UInt8) : Node :=
  { n with
    station.link := out.1
    main.toReader := out.2.1
    rested := n.rested || decide (500 ≤ n.silence) }

/-- The reader by itself, with the port that requests come in on. -/
def line (n : Node) : Line := ⟨n.station, n.main, [], [], n.age⟩

end Node

/-! ### The bus -/

/-- The readers, what is left of the request that the host sends, the requests that it will send,
and what the readers sent. -/
structure Bus (ι : Type) where
  nodes : ι → Node
  rest : List UInt8
  requests : List (List UInt8)
  sent : List (ι × List UInt8)

/-- What can happen: the host begins its next request, the next byte of it arrives, the clock of a
reader ticks, its main loop calls `Local_485_module`, or does something else. -/
inductive BusEvent (ι : Type) where
  | begin
  | deliver
  | tick (i : ι)
  | call (i : ι)
  | background (i : ι) (e : MainEvent)

section

variable {ι : Type} [DecidableEq ι]

/-- What reader `i` sends. -/
def sentBy (i : ι) (bytes : List UInt8) : List (ι × List UInt8) :=
  if bytes = [] then [] else [(i, bytes)]

/-- What an event makes of a bus. -/
def busStep (output : ℕ → M Unit) (s : Bus ι) : BusEvent ι → Option (Bus ι)
  | .begin =>
    match s.rest, s.requests with
    | [], f :: fs => some { s with rest := f, requests := fs }
    | _, _ => none
  | .deliver =>
    match s.rest with
    | [] => none
    | b :: bs => some { s with nodes := fun i => (s.nodes i).hear b, rest := bs }
  | .tick i => some { s with nodes := Function.update s.nodes i (s.nodes i).tick }
  | .call i =>
    (local485Module (s.nodes i).main.toReader (s.nodes i).station.link).map fun out =>
      { s with
        nodes := Function.update (fun j => out.2.2.foldl Node.hear (s.nodes j)) i
          ((s.nodes i).called out)
        sent := s.sent ++ sentBy i out.2.2 }
  | .background i e =>
    (mainStep output (s.nodes i).main e).map fun m =>
      { s with nodes := Function.update s.nodes i { s.nodes i with main := m } }

end

/-- A bus at its start, before the host sends `requests`. -/
def Bus.start {ι : Type} (mains : ι → MainLoop) (requests : List (List UInt8)) : Bus ι :=
  ⟨fun i => .start (mains i), [], requests, []⟩

/-- A request that a host may send on a bus: it ends with its checksum, and its command is one of
those that are registered. -/
structure BusFrame (f : List UInt8) : Prop extends WholeFrame f where
  sum : f.sum = 0
  command : f.getD 2 0 ∈ registeredItems.map Prod.fst

theorem busFrame_iff {f : List UInt8} :
  BusFrame f ↔ (f.getD 0 0 = bootCode ∧ f.length = (f.getD 1 0).toNat + 2) ∧ 4 ≤ f.length
    ∧ f.length ≤ 255 ∧ f.sum = 0 ∧ f.getD 2 0 ∈ registeredItems.map Prod.fst
  := by
  constructor
  · rintro ⟨⟨⟨hhead, hlength⟩, hshort, hlong⟩, hsum, hcommand⟩
    exact ⟨⟨hhead, hlength⟩, hshort, hlong, hsum, hcommand⟩
  · rintro ⟨⟨hhead, hlength⟩, hshort, hlong, hsum, hcommand⟩
    exact ⟨⟨⟨hhead, hlength⟩, hshort, hlong⟩, hsum, hcommand⟩

instance (f : List UInt8) : Decidable (BusFrame f) := decidable_of_iff _ busFrame_iff.symm

/-- The step of the main loop sends nothing on the bus: active mode does when `cardOutModule` is
`OUTPUT_RS485`. -/
def KeepsSilent (m : MainLoop) : MainEvent → Prop
  | .active _ => m.gDevice.load Offset.cardOutModule ≠ 1
  | _ => True

instance (m : MainLoop) : (e : MainEvent) → Decidable (KeepsSilent m e)
  | .active _ => inferInstanceAs (Decidable (_ ≠ _))
  | .rx _ | .tick | .saveData | .clearSetFlag | .request .. | .cmdCtrl => isTrue trivial

/-- The host sends a request to one reader, when every reader has rested, and in less than half a
second; a reply fits in the buffer and holds no complete request; and what the firmware does
besides sends nothing on the bus, and leaves the address alone while a request comes in or
waits. -/
def BusOrderly {ι : Type} (output : ℕ → M Unit) (s : Bus ι) : BusEvent ι → Prop
  | .begin =>
    (∀ i, (s.nodes i).rested = true)
      ∧ ∀ f ∈ s.requests.head?, BusFrame f
        ∧ ∃ i, (s.nodes i).address = f.getD 3 0 ∧ ∀ j ≠ i, (s.nodes j).address ≠ f.getD 3 0
  | .deliver => True
  | .tick i => s.rest ≠ [] → (s.nodes i).station.link.index ≠ 0 → (s.nodes i).age < 490
  | .call i =>
    ReplyFits .rs485 (s.nodes i).line
      ∧ ∀ out ∈ local485Module (s.nodes i).main.toReader (s.nodes i).station.link,
          (out.2.2.foldl (Framing.feed bootCode) Framing.idle).frame = none
  | .background i e =>
    KeepsSilent (s.nodes i).main e
      ∧ (s.rest ≠ [] ∨ (s.nodes i).station.link.setMark ≠ 0 →
          ∀ m ∈ mainStep output (s.nodes i).main e,
            m.gDevice.load Offset.address = (s.nodes i).address)

instance {ι : Type} [Fintype ι] [DecidableEq ι] (output : ℕ → M Unit) (s : Bus ι)
    (e : BusEvent ι) : Decidable (BusOrderly output s e) :=
  match e with
  | .begin => inferInstanceAs (Decidable (_ ∧ ∀ _ ∈ s.requests.head?, _ ∧ ∃ _, _ ∧ ∀ _, _ → _))
  | .deliver => isTrue trivial
  | .tick _ => inferInstanceAs (Decidable (_ → _ → _))
  | .call _ => inferInstanceAs (Decidable (_ ∧ ∀ _ ∈ _, _))
  | .background _ _ => inferInstanceAs (Decidable (_ ∧ (_ → ∀ _ ∈ _, _)))

/-- What the firmware does besides leaves the table of commands as it was registered. -/
def TablesKept {ι : Type} (output : ℕ → M Unit) (s : Bus ι) (e : BusEvent ι) : Prop :=
  ∀ i e', e = .background i e' →
    ∀ m ∈ mainStep output (s.nodes i).main e', Registered m.gParamTable

/-! ### The network -/

/-- The readers, the requests that are to come, and what was sent for those processed. -/
@[ext]
structure Network (ι : Type) where
  mains : ι → MainLoop
  requests : List (List UInt8)
  sent : List (ι × List UInt8)

/-- What a network does: a reader serves the next request, or goes on with something else. -/
inductive NetworkEvent (ι : Type) where
  | serve (i : ι)
  | background (i : ι) (e : MainEvent)

section

variable {ι : Type} [DecidableEq ι]

/-- The reader with the address of the next request processes it, and answers. -/
inductive NetworkStep (output : ℕ → M Unit) : Network ι → NetworkEvent ι → Network ι → Prop
  | serve {s : Network ι} {i : ι} {f : List UInt8} {fs : List (List UInt8)} {buffer : Mem}
    {out : UInt8 × Mem × Reader} :
    s.requests = f :: fs → (s.mains i).gDevice.load Offset.address = f.getD 3 0 →
    buffer.take f.length = f →
    processParamTable .sourceFrom485 buffer f.length (s.mains i).toReader = some out →
    NetworkStep output s (.serve i)
      ⟨Function.update s.mains i { s.mains i with toReader := out.2.2 }, fs,
        s.sent ++ sentBy i (answerBytes out)⟩
  | background {s : Network ι} {i : ι} {e : MainEvent} {m : MainLoop} :
    mainStep output (s.mains i) e = some m →
    NetworkStep output s (.background i e) { s with mains := Function.update s.mains i m }

/-- The steps of the network that an event of a bus stands for. -/
def Bus.networkEvents (s : Bus ι) : BusEvent ι → List (NetworkEvent ι)
  | .call i =>
    if (s.nodes i).station.link.see.2 ∧ (s.nodes i).station.link.load 3 = (s.nodes i).address then
      [.serve i]
    else []
  | .background i e => [.background i e]
  | .begin | .deliver | .tick _ => []

end

/-! ### Frames that are broken off -/

/-- The receive timer has run out, or it does before half a second of silence is over. -/
def RunsOut (t : STimer) (sysTimer1 silence : ℕ) : Prop :=
  t.isOverflow ≠ 0
    ∨ t.isStart ≠ 0 ∧ 1 ≤ t.time ∧ t.time ≤ 50 ∧ 10 * t.time + silence ≤ 500 + sysTimer1

/-- The port holds the receiver `rcv`, which waits for bytes; what it gathered is given up when
nothing comes for half a second. -/
structure Fades (n : Node) (rcv : Framing.Receiver) : Prop where
  free : rcv.frame = none
  holds : n.station.link.Holds rcv
  divider : n.station.sysTimer1 ≤ 9
  runsOut : rcv.gathered ≠ [] →
    RunsOut n.station.link.localTimer n.station.sysTimer1 n.silence
  rested : n.rested = true → rcv.gathered = []

/-- One timer update of `Time_Update` does not stop a timer from running out in time. -/
theorem RunsOut.update {t : STimer} {silence : ℕ} (h : RunsOut t 9 silence) :
  RunsOut t.update 0 (silence + 1)
  := by
  unfold STimer.update
  obtain hover | ⟨hrunning, hpos, hmost, hleft⟩ := h
  · rw [if_neg (fun hrun => hover hrun.2)]
    exact .inl hover
  · by_cases hfresh : t.isOverflow = 0
    · rw [if_pos ⟨hrunning, hfresh⟩]
      unfold STimer.count
      split
      · exact .inl (by decide : (1 : UInt8) ≠ 0)
      · right
        have hless : (t.time + (2 ^ 32 - 1)) % 2 ^ 32 = t.time - 1 := by
          omega
        unfold STimer.decrement
        rw [hless]
        exact ⟨hrunning, by dsimp only; omega, by dsimp only; omega, by dsimp only; omega⟩
    · rw [if_neg (fun hrun => hfresh hrun.2)]
      exact .inl hfresh

namespace Fades

variable {n : Node} {rcv : Framing.Receiver}

theorem index_eq (h : Fades n rcv) :
  n.station.link.index = rcv.gathered.length
  := h.holds.counted

theorem setMark_eq (h : Fades n rcv) :
  n.station.link.setMark = 0
  := by
  have hmarked := h.holds.marked
  rw [h.free] at hmarked
  exact hmarked

/-- A port without a frame under way. -/
theorem of_idle (hidle : n.station.link.Idle) (hdivider : n.station.sysTimer1 ≤ 9) :
  Fades n Framing.idle
  where
  free := rfl
  holds := SLocalTransData.holds_idle_iff.mpr hidle
  divider := hdivider
  runsOut := fun h => absurd rfl h
  rested := fun _ => rfl

/-- A receiver that has rested waits for a start byte. -/
theorem idle (h : Fades n rcv) (hrested : n.rested = true) :
  Tracks n.station n.age Framing.idle
  := by
  have hindex := h.index_eq
  rw [h.rested hrested] at hindex
  exact Tracks.of_idle ⟨h.setMark_eq, hindex⟩ h.divider n.age

theorem tick (h : Fades n rcv) :
  Fades n.tick rcv
  := by
  have hdivider := h.divider
  unfold Node.tick Station.tick
  split
  · rename_i hupdate
    have hlast : n.station.sysTimer1 = 9 := by
      omega
    refine ⟨h.free, h.holds, Nat.zero_le _, ?_, h.rested⟩
    intro hgathered
    have hruns := h.runsOut hgathered
    rw [hlast] at hruns
    exact hruns.update
  · refine ⟨h.free, h.holds, by dsimp only; omega, ?_, h.rested⟩
    intro hgathered
    obtain hover | ⟨hrunning, hpos, hmost, hleft⟩ := h.runsOut hgathered
    · exact .inl hover
    · exact .inr ⟨hrunning, hpos, hmost, by dsimp only; omega⟩

/-- A byte comes that does not complete a frame. -/
theorem hear {b : UInt8} (h : Fades n rcv) (hroom : rcv.gathered.length < 255)
    (hfree : (Framing.feed bootCode rcv b).frame = none) :
  Fades (n.hear b) (Framing.feed bootCode rcv b)
  := by
  have hholds := h.holds.receive hroom 50 b
  have hcounted : (n.station.link.receive 50 b).index
      = (Framing.feed bootCode rcv b).gathered.length := hholds.counted
  refine ⟨hfree, hholds, h.divider, ?_, fun hrested => by cases hrested⟩
  intro hgathered
  have hmore : (n.station.link.receive 50 b).index ≠ 0 := by
    rw [hcounted]
    exact fun hzero => hgathered (List.length_eq_zero_iff.mp hzero)
  by_cases hindex : n.station.link.index = 0
  · have hstarts := SLocalTransData.receive_starts hindex hmore
    change RunsOut (n.station.link.receive 50 b).localTimer n.station.sysTimer1 0
    rw [hstarts]
    exact .inr ⟨(by decide : (1 : UInt8) ≠ 0), (by decide : 1 ≤ 50), Nat.le_refl 50,
      by simp only [STimer.start]; omega⟩
  · have hinside : n.station.link.index < bufLen := by
      rw [h.index_eq]
      exact hroom
    have hgathered' : rcv.gathered ≠ [] := by
      intro hnil
      apply hindex
      rw [h.index_eq, hnil]
      rfl
    have hkept := SLocalTransData.receive_timer hindex hmore hinside
    change RunsOut (n.station.link.receive 50 b).localTimer n.station.sysTimer1 0
    rw [hkept]
    obtain hover | ⟨hrunning, hpos, hmost, hleft⟩ := h.runsOut hgathered'
    · exact .inl hover
    · exact .inr ⟨hrunning, hpos, hmost, by omega⟩

/-- Bytes come that do not complete a frame. -/
theorem foldl_hear {bs : List UInt8} (h : Fades n rcv)
    (hroom : rcv.gathered.length + bs.length ≤ 255)
    (hfree : (bs.foldl (Framing.feed bootCode) rcv).frame = none) :
  Fades (bs.foldl Node.hear n) (bs.foldl (Framing.feed bootCode) rcv)
  := by
  induction bs generalizing n rcv with
  | nil => exact h
  | cons b bs ih =>
    rw [List.length_cons] at hroom
    rw [List.foldl_cons] at hfree ⊢
    have hgrows := Framing.length_gathered_feed bootCode rcv b
    exact ih (h.hear (by omega) (Framing.frame_of_foldl hfree)) (by omega) hfree

/-- The main loop calls the module function. -/
theorem call (h : Fades n rcv) (r : Reader) :
  local485Module r n.station.link = some (n.station.link.see.1, r, [])
    ∧ n.station.link.see.2 = false
    ∧ ∃ rcv', Fades (n.called (n.station.link.see.1, r, [])) rcv'
        ∧ (rcv.gathered = [] → rcv'.gathered = [])
  := by
  have hmark := h.setMark_eq
  unfold local485Module localModule
  by_cases hover : n.station.link.localTimer.isOverflow ≠ 0
  · -- what was gathered is given up
    have hsee : n.station.link.see = (.cleared, false) := by
      unfold SLocalTransData.see
      dsimp only
      rw [if_pos hover]
      rfl
    rw [hsee]
    have hcleared : (n.called (.cleared, r, [])).station.link.Idle := ⟨rfl, rfl⟩
    exact ⟨rfl, rfl, Framing.idle, of_idle hcleared h.divider, fun _ => rfl⟩
  · have hsee : n.station.link.see = (n.station.link, false) := by
      unfold SLocalTransData.see
      dsimp only
      rw [if_neg hover, if_neg (not_not.mpr hmark)]
    rw [hsee]
    refine ⟨rfl, rfl, rcv, ⟨h.free, h.holds, h.divider, h.runsOut, ?_⟩, id⟩
    intro hrested
    by_contra hgathered
    obtain hover' | ⟨-, hpos, -, hleft⟩ := h.runsOut hgathered
    · exact hover hover'
    · have hdivider := h.divider
      simp only [Node.called, Bool.or_eq_true, decide_eq_true_eq] at hrested
      obtain hrested | hsilence := hrested
      · exact hgathered (h.rested hrested)
      · omega

end Fades

/-! ### Frames that wait -/

/-- An answer is at most as long as the buffer. -/
theorem length_answerBytes {o : CmdOrigin} {b : Mem} {n : ℕ} {r : Reader}
    {out : UInt8 × Mem × Reader} (h : processParamTable o b n r = some out) :
  (answerBytes out).length ≤ 255
  := by
  unfold answerBytes
  split
  · rename_i hflag
    have hfits := processParamTable_fits h hflag
    simp only [bufLen] at hfits
    rw [Mem.length_take]
    omega
  · exact Nat.zero_le _

/-- A complete request waits in the port. -/
structure Waits (n : Node) (f : List UInt8) : Prop where
  frame : BusFrame f
  tracks : Tracks n.station n.age (Framing.full f)
  awake : n.rested = false

/-- A request of a host is well formed for every reader. -/
theorem BusFrame.wellFormed {f : List UInt8} {buffer : Mem} {g : Globals} (hf : BusFrame f)
    (hreg : Registered g.gParamTable) (htake : buffer.take f.length = f) :
  WellFormed buffer f.length g
  := by
  have hshort := hf.short
  have hone : buffer 1 = f.getD 1 0 := getD_of_take htake (by omega)
  have htwo : buffer 2 = f.getD 2 0 := getD_of_take htake (by omega)
  have hlength : f.length = (buffer 1).toNat + 2 := by
    rw [hone]
    exact hf.frame.length
  obtain ⟨⟨cmd, item⟩, hmem, hcmd⟩ := List.mem_map.mp hf.command
  have hnonzero : ∀ e ∈ registeredItems, e.1 ≠ 0 := by decide
  constructor
  · rw [htwo, ← hcmd]
    exact (hreg.found hmem).1
  · rw [htwo, ← hcmd]
    exact hnonzero _ hmem
  · exact hlength.ge
  · rw [← hlength, byteSum_eq_sum, htake]
    exact hf.sum

/-- A reader leaves a request for another one alone, and does not answer. -/
theorem BusFrame.ignored {f : List UInt8} {buffer : Mem} {r : Reader}
    {out : UInt8 × Mem × Reader} (hf : BusFrame f) (hreg : Registered r.gParamTable)
    (htake : buffer.take f.length = f) (haddr : r.gDevice.load Offset.address ≠ f.getD 3 0)
    (hout : processParamTable .sourceFrom485 buffer f.length r = some out) :
  out.2.2 = r ∧ answerBytes out = []
  := by
  have hshort := hf.short
  have hthree : buffer 3 ≠ r.gDevice.load Offset.address := by
    rw [getD_of_take htake (by omega)]
    exact haddr.symm
  have hnot : ¬ Addressed .sourceFrom485 buffer r.toGlobals := fun h => hthree (h rfl)
  obtain ⟨buffer', hforeign⟩ := processParamTable_foreign f.length hthree
  rw [(checkRequest_of_wellFormed (hf.wellFormed hreg htake)).2 hnot, hout,
    Option.some.injEq] at hforeign
  rw [hforeign]
  exact ⟨rfl, if_neg (not_not.mpr rfl)⟩

@[simp]
theorem Node.foldl_hear_main (bs : List UInt8) (n : Node) :
  (bs.foldl Node.hear n).main = n.main
  := by
  induction bs generalizing n with
  | nil => rfl
  | cons b bs ih => exact ih (n.hear b)

namespace Waits

variable {n : Node} {f : List UInt8}

theorem index_eq (h : Waits n f) :
  n.station.link.index = 0
  := h.tracks.index_eq

theorem setMark_ne (h : Waits n f) :
  n.station.link.setMark ≠ 0
  := by
  rw [h.tracks.holds.marked]
  exact (by decide : (1 : UInt8) ≠ 0)

theorem tick (h : Waits n f) :
  Waits n.tick f
  where
  frame := h.frame
  tracks := h.tracks.tick fun hindex => absurd h.index_eq hindex
  awake := h.awake

/-- The bytes that come are dropped. -/
theorem foldl_hear (h : Waits n f) (bs : List UInt8) :
  Waits (bs.foldl Node.hear n) f
  := by
  induction bs generalizing n with
  | nil => exact h
  | cons b bs ih =>
    rw [List.foldl_cons]
    apply ih
    have hlink : (n.hear b).station = n.station := by
      unfold Node.hear usart1IRQHandler
      dsimp only
      rw [SLocalTransData.receive_of_drops (.inl h.setMark_ne)]
    refine ⟨h.frame, ?_, rfl⟩
    rw [hlink]
    exact { h.tracks with timed := fun hgathered => absurd rfl hgathered }

/-- The frame stands in the buffer. -/
theorem load_take (h : Waits n f) :
  n.station.link.load.take f.length = f
  := (h.tracks.call_full h.frame.toWholeFrame).2.2

theorem see (h : Waits n f) :
  n.station.link.see.2 = true
  := by
  rw [(h.tracks.call_full h.frame.toWholeFrame).1]

/-- The address byte of the frame. -/
theorem load_three (h : Waits n f) :
  n.station.link.load 3 = f.getD 3 0
  := by
  have hshort := h.frame.short
  exact getD_of_take h.load_take (by omega)

/-- The module function processes the frame. -/
theorem call {out : SLocalTransData × Reader × List UInt8} (h : Waits n f)
    (hfits : ReplyFits .rs485 n.line)
    (hout : local485Module n.main.toReader n.station.link = some out) :
  ∃ out', processParamTable .sourceFrom485 n.station.link.load f.length n.main.toReader
      = some out'
    ∧ out.2 = (out'.2.2, answerBytes out') ∧ Fades (n.called out) Framing.idle
  := by
  obtain ⟨hsee, hlen, -⟩ := h.tracks.call_full h.frame.toWholeFrame
  simp only [local485Module, localModule, hsee, if_true, SLocalTransData.process, Option.map_map,
    Option.map_eq_some_iff, Function.comp_apply] at hout
  obtain ⟨out', hout', rfl⟩ := hout
  have hidle : ({ n.station.link with setMark := 0 } : SLocalTransData).Idle := ⟨rfl, h.index_eq⟩
  have hindex : ∀ i < 4, out'.2.1 (255 + i)
      = ({ n.station.link with setMark := 0 } : SLocalTransData).load (255 + i) := by
    unfold ReplyFits Node.line at hfits
    dsimp only at hfits
    rw [hsee] at hfits
    exact hfits rfl out' hout'
  refine ⟨out', ?_, ?_, ?_⟩
  · rw [← hlen]
    exact hout'
  · rw [SLocalTransData.reply_bytes hout']
  · exact Fades.of_idle (SLocalTransData.reply_idle out'.1 hidle hindex) h.tracks.divider

end Waits

/-! ### Readers that do not answer -/

/-- The port of a reader that the host has not asked: a request for another reader waits in it, or
no complete frame does.  When it is `bare`, no part of one does either. -/
def Passive (bare : Bool) (n : Node) : Prop :=
  (∃ f, Waits n f ∧ n.address ≠ f.getD 3 0)
    ∨ ∃ rcv, Fades n rcv ∧ (bare = true → rcv = Framing.idle)

namespace Passive

variable {bare : Bool} {n : Node}

theorem mono (h : Passive bare n) :
  Passive false n
  := by
  obtain hwaits | ⟨rcv, hfades, -⟩ := h
  · exact .inl hwaits
  · exact .inr ⟨rcv, hfades, fun hbare => by cases hbare⟩

theorem tick (h : Passive bare n) :
  Passive bare n.tick
  := by
  obtain ⟨f, hwaits, haddr⟩ | ⟨rcv, hfades, hbare⟩ := h
  · exact .inl ⟨f, hwaits.tick, haddr⟩
  · exact .inr ⟨rcv, hfades.tick, hbare⟩

/-- The rest of the firmware goes on. -/
theorem background (h : Passive bare n) {m : MainLoop}
    (haddr : n.station.link.setMark ≠ 0 → m.gDevice.load Offset.address = n.address) :
  Passive bare { n with main := m }
  := by
  obtain ⟨f, hwaits, hforeign⟩ | ⟨rcv, hfades, hbare⟩ := h
  · left
    refine ⟨f, ⟨hwaits.frame, hwaits.tracks, hwaits.awake⟩, ?_⟩
    change m.gDevice.load Offset.address ≠ _
    rwa [haddr hwaits.setMark_ne]
  · exact .inr ⟨rcv, ⟨hfades.free, hfades.holds, hfades.divider, hfades.runsOut, hfades.rested⟩,
      hbare⟩

/-- Another reader answers. -/
theorem foldl_hear (h : Passive true n) {bs : List UInt8} (hroom : bs.length ≤ 255)
    (hfree : (bs.foldl (Framing.feed bootCode) Framing.idle).frame = none) :
  Passive false (bs.foldl Node.hear n)
  := by
  obtain ⟨f, hwaits, haddr⟩ | ⟨rcv, hfades, hbare⟩ := h
  · left
    refine ⟨f, hwaits.foldl_hear bs, ?_⟩
    unfold Node.address
    rwa [Node.foldl_hear_main]
  · right
    rw [hbare rfl] at hfades
    refine ⟨_, hfades.foldl_hear ?_ hfree, fun hbare' => by cases hbare'⟩
    rw [show Framing.idle.gathered.length = 0 from rfl, Nat.zero_add]
    exact hroom

/-- The main loop calls the module function: nothing is sent, and the reader stays as it is. -/
theorem call {out : SLocalTransData × Reader × List UInt8} (h : Passive bare n)
    (hreg : Registered n.main.gParamTable) (hfits : ReplyFits .rs485 n.line)
    (hout : local485Module n.main.toReader n.station.link = some out) :
  out.2 = (n.main.toReader, []) ∧ Passive bare (n.called out)
    ∧ ¬ (n.station.link.see.2 = true ∧ n.station.link.load 3 = n.address)
  := by
  obtain ⟨f, hwaits, haddr⟩ | ⟨rcv, hfades, hbare⟩ := h
  · obtain ⟨out', hout', hreply, hfades⟩ := hwaits.call hfits hout
    obtain ⟨hsame, hsilent⟩ := hwaits.frame.ignored hreg hwaits.load_take haddr hout'
    refine ⟨by rw [hreply, hsame, hsilent], .inr ⟨_, hfades, fun _ => rfl⟩, ?_⟩
    rintro ⟨-, hthree⟩
    apply haddr
    rw [← hthree, hwaits.load_three]
  · obtain ⟨hcall, hsee, rcv', hfades', hkept⟩ := hfades.call n.main.toReader
    rw [hcall, Option.some.injEq] at hout
    subst hout
    refine ⟨rfl, .inr ⟨rcv', hfades', ?_⟩, ?_⟩
    · intro hbare'
      apply Framing.Receiver.ext _ hfades'.free
      apply hkept
      rw [hbare hbare']
      rfl
    · rintro ⟨htaken, -⟩
      rw [hsee] at htaken
      cases htaken

end Passive

/-! ### The bus is simulated by the network -/

/-- What is under way on a bus, and the requests that are still to be served. -/
inductive UnderWay {ι : Type} (s : Bus ι) : List (List UInt8) → Prop
  | quiet : s.rest = [] → (∀ i, Passive false (s.nodes i)) → UnderWay s s.requests
  | waiting {f : List UInt8} {i : ι} :
    s.rest = [] → Waits (s.nodes i) f → (s.nodes i).address = f.getD 3 0 →
    (∀ j ≠ i, Passive true (s.nodes j)) → UnderWay s (f :: s.requests)
  | sending {f : List UInt8} {n : ℕ} {i : ι} :
    BusFrame f → n < f.length → s.rest = f.drop n → (s.nodes i).address = f.getD 3 0 →
    (∀ j ≠ i, (s.nodes j).address ≠ f.getD 3 0) →
    (∀ j, Tracks (s.nodes j).station (s.nodes j).age (Framing.progress f n)) →
    UnderWay s (f :: s.requests)

/-- A frame that is sent is not complete in any port. -/
theorem Framing.progress_free {f : List UInt8} {n : ℕ} (hlt : n < f.length) :
  (Framing.progress f n).frame = none
  := by
  unfold Framing.progress
  rw [if_neg (by omega)]
  rfl

namespace UnderWay

variable {ι : Type} {s : Bus ι} {reqs : List (List UInt8)}

/-- The host begins a request. -/
theorem begin {f : List UInt8} {fs : List (List UInt8)} (h : UnderWay s reqs)
    (hrest : s.rest = []) (hrequests : s.requests = f :: fs)
    (hrested : ∀ i, (s.nodes i).rested = true) (hf : BusFrame f)
    (haddr : ∃ i, (s.nodes i).address = f.getD 3 0
      ∧ ∀ j ≠ i, (s.nodes j).address ≠ f.getD 3 0) :
  UnderWay { s with rest := f, requests := fs } reqs
  := by
  cases h with
  | quiet _ hpassive =>
    obtain ⟨i, hi, hothers⟩ := haddr
    have hpos : 0 < f.length := by
      have := hf.short
      omega
    rw [hrequests]
    refine .sending (n := 0) (i := i) hf hpos rfl hi hothers fun j => ?_
    rw [Framing.progress_zero hf.frame]
    obtain ⟨f', hwaits, -⟩ | ⟨rcv, hfades, -⟩ := hpassive j
    · have hawake := hwaits.awake
      rw [hrested j] at hawake
      cases hawake
    · exact hfades.idle (hrested j)
  | @waiting f' i _ hwaits _ _ =>
    have hawake := hwaits.awake
    rw [hrested i] at hawake
    cases hawake
  | @sending f' n i _ hlt hsending _ _ _ =>
    rw [hrest] at hsending
    have := List.drop_eq_nil_iff.mp hsending.symm
    omega

/-- A byte of the request arrives at all readers. -/
theorem deliver {b : UInt8} {bs : List UInt8} (h : UnderWay s reqs) (hrest : s.rest = b :: bs) :
  UnderWay { s with nodes := fun i => (s.nodes i).hear b, rest := bs } reqs
  := by
  cases h with
  | quiet hnil _ =>
    rw [hrest] at hnil
    cases hnil
  | waiting hnil _ _ _ =>
    rw [hrest] at hnil
    cases hnil
  | @sending f n i hf hlt hsending haddr hothers htracks =>
    rw [hrest, List.drop_eq_getElem_cons hlt, List.cons.injEq] at hsending
    obtain ⟨rfl, rfl⟩ := hsending
    have hnext : ∀ j, Tracks ((s.nodes j).hear f[n]).station ((s.nodes j).hear f[n]).age
        (Framing.progress f (n + 1)) := by
      intro j
      have hmark : (s.nodes j).station.link.setMark = 0 := by
        have hmarked := (htracks j).holds.marked
        rw [Framing.progress_free hlt] at hmarked
        exact hmarked
      rw [← Framing.feed_progress hf.frame hlt]
      exact (htracks j).rx hmark (hf.lengthByte hlt)
    by_cases hlast : n + 1 < f.length
    · exact .sending (n := n + 1) (i := i) hf hlast rfl haddr hothers hnext
    · -- the request is complete in every port
      have hend : n + 1 = f.length := by
        omega
      have hwaits : ∀ j, Waits ((s.nodes j).hear f[n]) f := by
        intro j
        refine ⟨hf, ?_, rfl⟩
        rw [← Framing.progress_length, ← hend]
        exact hnext j
      refine .waiting (i := i) (List.drop_eq_nil_of_le (by omega)) (hwaits i) haddr ?_
      intro j hj
      exact .inl ⟨f, hwaits j, hothers j hj⟩

/-- What holds of a reader of an updated bus. -/
theorem at_update [DecidableEq ι] {nodes : ι → Node} {n' : Node} {i k : ι} {P : Node → Prop}
    (h : P (nodes k)) (hi : k = i → P (nodes i) → P n') :
  P (Function.update nodes i n' k)
  := by
  obtain rfl | hk := eq_or_ne k i
  · rw [Function.update_self]
    exact hi rfl h
  · rw [Function.update_of_ne hk]
    exact h

/-- A step of one reader that sends nothing, and leaves its address alone while it matters. -/
theorem update [DecidableEq ι] (h : UnderWay s reqs) {i : ι} (n' : Node)
    (haddr : s.rest ≠ [] ∨ (s.nodes i).station.link.setMark ≠ 0 →
      n'.address = (s.nodes i).address)
    (hwaits : ∀ f, Waits (s.nodes i) f → Waits n' f)
    (hpassive : ∀ bare, Passive bare (s.nodes i) → Passive bare n')
    (htracks : s.rest ≠ [] → ∀ rcv, rcv.frame = none →
      Tracks (s.nodes i).station (s.nodes i).age rcv → Tracks n'.station n'.age rcv) :
  UnderWay { s with nodes := Function.update s.nodes i n' } reqs
  := by
  cases h with
  | quiet hrest hall =>
    refine .quiet (s := { s with nodes := Function.update s.nodes i n' }) hrest fun j => ?_
    exact at_update (P := Passive false) (hall j) fun _ => hpassive false
  | @waiting f k hrest hk hkaddr hall =>
    refine .waiting (f := f) (i := k) hrest ?_ ?_ ?_
    · exact at_update (P := fun n => Waits n f) hk fun _ => hwaits f
    · apply at_update (P := fun n => n.address = f.getD 3 0) hkaddr
      rintro rfl hsame
      rw [haddr (.inr hk.setMark_ne)]
      exact hsame
    · intro j hj
      exact at_update (P := Passive true) (hall j hj) fun _ => hpassive true
  | @sending f n k hf hlt hsending hkaddr hothers hall =>
    have hbusy : s.rest ≠ [] := by
      rw [hsending]
      intro hnil
      have := List.drop_eq_nil_iff.mp hnil
      omega
    have hsame : ∀ j, (Function.update s.nodes i n' j).address = (s.nodes j).address := by
      intro j
      apply at_update (P := fun n => n.address = (s.nodes j).address) rfl
      rintro rfl -
      exact haddr (.inl hbusy)
    refine .sending (f := f) (n := n) (i := k) hf hlt hsending ?_ ?_ ?_
    · exact (hsame k).trans hkaddr
    · intro j hj hequal
      exact hothers j hj ((hsame j).symm.trans hequal)
    · intro j
      exact at_update (P := fun n' => Tracks n'.station n'.age (Framing.progress f n)) (hall j)
        fun _ => htracks hbusy _ (Framing.progress_free hlt)

/-- The module function of a reader is called: nothing is sent, and its reader stays as it is, or
it serves the request. -/
theorem call [DecidableEq ι] {i : ι} {out : SLocalTransData × Reader × List UInt8}
    (h : UnderWay s reqs) (hreg : Registered (s.nodes i).main.gParamTable)
    (hfits : ReplyFits .rs485 (s.nodes i).line)
    (hfree : (out.2.2.foldl (Framing.feed bootCode) Framing.idle).frame = none)
    (hout : local485Module (s.nodes i).main.toReader (s.nodes i).station.link = some out) :
  (¬ ((s.nodes i).station.link.see.2 = true
        ∧ (s.nodes i).station.link.load 3 = (s.nodes i).address)
      ∧ out.2 = ((s.nodes i).main.toReader, [])
      ∧ UnderWay { s with nodes := Function.update s.nodes i ((s.nodes i).called out) } reqs)
    ∨ ∃ f out', reqs = f :: s.requests ∧ Waits (s.nodes i) f
      ∧ (s.nodes i).address = f.getD 3 0
      ∧ processParamTable .sourceFrom485 (s.nodes i).station.link.load f.length
          (s.nodes i).main.toReader = some out'
      ∧ out.2 = (out'.2.2, answerBytes out')
      ∧ UnderWay { s with
          nodes := Function.update (fun j => out.2.2.foldl Node.hear (s.nodes j)) i
            ((s.nodes i).called out)
          sent := s.sent ++ sentBy i out.2.2 } s.requests
  := by
  cases h with
  | quiet hrest hall =>
    left
    obtain ⟨hsame, hpassive, hserves⟩ := (hall i).call hreg hfits hout
    refine ⟨hserves, hsame, .quiet
      (s := { s with nodes := Function.update s.nodes i ((s.nodes i).called out) }) hrest ?_⟩
    intro j
    exact at_update (P := Passive false) (hall j) fun _ _ => hpassive
  | @waiting f k hrest hk hkaddr hall =>
    obtain rfl | hik := eq_or_ne i k
    · right
      obtain ⟨out', hout', hreply, hfades⟩ := hk.call hfits hout
      refine ⟨f, out', rfl, hk, hkaddr, hout', hreply, .quiet (s := { s with
        nodes := Function.update (fun j => out.2.2.foldl Node.hear (s.nodes j)) i
          ((s.nodes i).called out)
        sent := s.sent ++ sentBy i out.2.2 }) hrest ?_⟩
      have hroom : out.2.2.length ≤ 255 := by
        rw [hreply]
        exact length_answerBytes hout'
      intro j
      obtain rfl | hji := eq_or_ne j i
      · dsimp only
        rw [Function.update_self]
        exact .inr ⟨_, hfades, fun _ => rfl⟩
      · dsimp only
        rw [Function.update_of_ne hji]
        exact (hall j hji).foldl_hear hroom hfree
    · left
      obtain ⟨hsame, hpassive, hserves⟩ := (hall i hik).call hreg hfits hout
      refine ⟨hserves, hsame, .waiting (f := f) (i := k) hrest ?_ ?_ ?_⟩
      · exact at_update (P := fun n => Waits n f) hk fun hki => absurd hki.symm hik
      · exact at_update (P := fun n => n.address = f.getD 3 0) hkaddr
          fun hki => absurd hki.symm hik
      · intro j hj
        exact at_update (P := Passive true) (hall j hj) fun _ _ => hpassive
  | @sending f n k hf hlt hsending hkaddr hothers hall =>
    left
    obtain ⟨hsee, htracks⟩ := (hall i).call_free (Framing.progress_free hlt)
    unfold local485Module localModule at hout
    rw [hsee] at hout
    cases hout
    have hsame : ∀ j, (Function.update s.nodes i ((s.nodes i).called
        ((s.nodes i).station.link.see.1, (s.nodes i).main.toReader, [])) j).address
          = (s.nodes j).address := by
      intro j
      apply at_update (P := fun n => n.address = (s.nodes j).address) rfl
      rintro rfl -
      rfl
    refine ⟨?_, rfl, .sending (f := f) (n := n) (i := k) hf hlt hsending ?_ ?_ ?_⟩
    · rintro ⟨htaken, -⟩
      rw [hsee] at htaken
      cases htaken
    · exact (hsame k).trans hkaddr
    · intro j hj hequal
      exact hothers j hj ((hsame j).symm.trans hequal)
    · intro j
      exact at_update (P := fun n' => Tracks n'.station n'.age (Framing.progress f n)) (hall j)
        fun _ _ => htracks

/-- When nothing is under way, the requests to be served are those that the host has not begun. -/
theorem done (h : UnderWay s reqs) (hrest : s.rest = [])
    (hmarks : ∀ i, (s.nodes i).station.link.setMark = 0) :
  reqs = s.requests
  := by
  cases h with
  | quiet _ _ => rfl
  | @waiting f i _ hwaits _ _ => exact absurd (hmarks i) hwaits.setMark_ne
  | @sending f n i _ hlt hsending _ _ _ =>
    rw [hrest] at hsending
    have := List.drop_eq_nil_iff.mp hsending.symm
    omega

end UnderWay

/-- The network is in the state that the bus shows. -/
structure Portrays {ι : Type} (s : Bus ι) (t : Network ι) : Prop where
  mains : t.mains = fun i => (s.nodes i).main
  sent : t.sent = s.sent
  registered : ∀ i, Registered (s.nodes i).main.gParamTable
  underWay : UnderWay s t.requests

section

variable {ι : Type} [DecidableEq ι]

/-- The main loops of an updated bus. -/
theorem mains_update {nodes nodes' : ι → Node} {i : ι} {n' : Node}
    (h : ∀ j, (nodes' j).main = (nodes j).main) :
  (fun j => (Function.update nodes' i n' j).main)
    = Function.update (fun j => (nodes j).main) i n'.main
  := by
  funext j
  obtain rfl | hj := eq_or_ne j i
  · rw [Function.update_self, Function.update_self]
  · rw [Function.update_of_ne hj, Function.update_of_ne hj, h j]

/-- Each event of an orderly bus is matched by what it stands for. -/
theorem Portrays.step {output : ℕ → M Unit} {s s' : Bus ι} {t : Network ι} {e : BusEvent ι}
    (h : Portrays s t) (hcond : BusOrderly output s e) (htables : TablesKept output s e)
    (hstep : busStep output s e = some s') :
  ∃ t', Lts.Path (NetworkStep output) t (s.networkEvents e) t' ∧ Portrays s' t'
  := by
  cases e with
  | begin =>
    obtain ⟨hrested, hnext⟩ := hcond
    simp only [busStep] at hstep
    split at hstep
    · rename_i f fs hrest hrequests
      cases hstep
      obtain ⟨hf, haddr⟩ := hnext f (by rw [hrequests]; rfl)
      exact ⟨t, .nil t, h.mains, h.sent, h.registered,
        h.underWay.begin hrest hrequests hrested hf haddr⟩
    · cases hstep
  | deliver =>
    simp only [busStep] at hstep
    split at hstep
    · cases hstep
    · rename_i b bs hrest
      cases hstep
      exact ⟨t, .nil t, h.mains, h.sent, h.registered, h.underWay.deliver hrest⟩
  | tick i =>
    cases hstep
    refine ⟨t, .nil t, ?_, h.sent, ?_, ?_⟩
    · dsimp only
      rw [mains_update fun _ => rfl, h.mains]
      exact (Function.update_eq_self i fun j => (s.nodes j).main).symm
    · intro j
      exact UnderWay.at_update (P := fun n => Registered n.main.gParamTable) (h.registered j)
        (by rintro rfl hj; exact hj)
    · apply h.underWay.update (s.nodes i).tick (fun _ => rfl)
      · intro f hwaits
        exact hwaits.tick
      · intro bare hpassive
        exact hpassive.tick
      · intro hbusy rcv _ htracks
        exact htracks.tick (hcond hbusy)
  | call i =>
    obtain ⟨hfits, hfree⟩ := hcond
    simp only [busStep, Option.map_eq_some_iff] at hstep
    obtain ⟨out, hout, rfl⟩ := hstep
    obtain ⟨hserves, hsame, hunder⟩
      | ⟨f, out', hreqs, hwaits, haddr, hout', hreply, hunder⟩ :=
        h.underWay.call (h.registered i) hfits (hfree out hout) hout
    · -- nothing is sent, and nobody hears anything
      have hreader : out.2.1 = (s.nodes i).main.toReader := by
        rw [hsame]
      have hnothing : out.2.2 = [] := by
        rw [hsame]
      simp only [Bus.networkEvents, if_neg hserves]
      rw [hnothing, sentBy, if_pos rfl, List.append_nil]
      have hmain : ((s.nodes i).called out).main = (s.nodes i).main := by
        unfold Node.called
        rw [hreader]
      refine ⟨t, .nil t, ?_, h.sent, ?_, hunder⟩
      · dsimp only
        rw [mains_update fun _ => rfl, hmain, h.mains]
        exact (Function.update_eq_self i fun j => (s.nodes j).main).symm
      · intro j
        apply UnderWay.at_update (P := fun n => Registered n.main.gParamTable) (h.registered j)
        rintro rfl hj
        rw [hmain]
        exact hj
    · have hserves : (s.nodes i).station.link.see.2 = true
          ∧ (s.nodes i).station.link.load 3 = (s.nodes i).address :=
        ⟨hwaits.see, by rw [hwaits.load_three, haddr]⟩
      simp only [Bus.networkEvents, if_pos hserves]
      have hreader : out.2.1 = out'.2.2 := by
        rw [hreply]
      have hbytes : out.2.2 = answerBytes out' := by
        rw [hreply]
      have hmains : t.mains i = (s.nodes i).main := by
        rw [h.mains]
      unfold Node.address at haddr
      rw [← hmains] at hout' haddr
      refine ⟨_, .single (.serve hreqs haddr hwaits.load_take hout'), ?_, ?_, ?_, hunder⟩
      · dsimp only
        rw [mains_update (fun j => Node.foldl_hear_main _ _), h.mains]
        unfold Node.called
        rw [hreader]
      · dsimp only
        rw [h.sent, hbytes]
      · intro j
        dsimp only
        obtain rfl | hj := eq_or_ne j i
        · rw [Function.update_self]
          unfold Node.called
          dsimp only
          rw [hreader]
          apply processParamTable_registered _ hout'
          rw [hmains]
          exact h.registered j
        · rw [Function.update_of_ne hj, Node.foldl_hear_main]
          exact h.registered j
  | background i e =>
    obtain ⟨-, haddr⟩ := hcond
    simp only [busStep, Option.map_eq_some_iff] at hstep
    obtain ⟨m, hm, rfl⟩ := hstep
    have hmains : t.mains i = (s.nodes i).main := by
      rw [h.mains]
    rw [← hmains] at hm
    refine ⟨_, .single (.background hm), ?_, h.sent, ?_, ?_⟩
    · dsimp only
      rw [mains_update fun _ => rfl, h.mains]
    · intro j
      apply UnderWay.at_update (P := fun n => Registered n.main.gParamTable) (h.registered j)
      rintro rfl -
      rw [hmains] at hm
      exact htables j e rfl m hm
    · rw [hmains] at hm
      apply h.underWay.update { s.nodes i with main := m }
      · intro hbusy
        exact haddr hbusy m hm
      · intro f hwaits
        exact ⟨hwaits.frame, hwaits.tracks, hwaits.awake⟩
      · intro bare hpassive
        exact hpassive.background fun hmark => haddr (.inr hmark) m hm
      · intro _ _ _ htracks
        exact htracks

/-- Readers with different addresses, whose tables of commands stay as they were registered, share a
bus with a host that asks one of them at a time, as `BusOrderly` says.  Whatever the clocks and the
main loops do between the bytes, the requests that were processed are the first of those that were
sent, each once and in order; each was processed by the reader with its address, in the state that
the rest of its firmware and its earlier requests had made, and answered by it alone; no other
reader did anything.  When nothing is under way, all requests that were begun have been served. -/
theorem bus_serves {output : ℕ → M Unit} {mains : ι → MainLoop} {requests : List (List UInt8)}
    (hreg : ∀ i, Registered (mains i).gParamTable) {es : List (BusEvent ι)} {s : Bus ι}
    (hrun : Run.run (busStep output) es (.start mains requests) = some s)
    (h : Run.Along (busStep output) (BusOrderly output) es (.start mains requests))
    (htables : Run.Along (busStep output) (TablesKept output) es (.start mains requests)) :
  ∃ left, Lts.Path (NetworkStep output) ⟨mains, requests, []⟩
      (Lts.labels (busStep output) Bus.networkEvents es (.start mains requests))
      ⟨fun i => (s.nodes i).main, left, s.sent⟩
    ∧ left <:+ requests ∧ s.sent.length + left.length ≤ requests.length
    ∧ (s.rest = [] → (∀ i, (s.nodes i).station.link.setMark = 0) → left = s.requests)
  := by
  have hstart : Portrays (.start mains requests) ⟨mains, requests, []⟩ := by
    refine ⟨rfl, rfl, hreg, .quiet (s := .start mains requests) rfl ?_⟩
    intro i
    exact .inr ⟨Framing.idle, Fades.of_idle ⟨rfl, rfl⟩ (Nat.zero_le _), fun _ => rfl⟩
  obtain ⟨⟨mains', left, sent⟩, hpath, hportrays⟩ :=
    Lts.simulates (R := Portrays) (P := fun s e => BusOrderly output s e ∧ TablesKept output s e)
      (fun s e s' t hR hP hs => hR.step hP.1 hP.2 hs) hstart (h.and htables) hrun
  have hmains : mains' = fun i => (s.nodes i).main := hportrays.mains
  have hsent : sent = s.sent := hportrays.sent
  subst hmains hsent
  have hcount := hpath.invariant
    (I := fun t => t.requests <:+ requests ∧ t.sent.length + t.requests.length ≤ requests.length)
    (by
      rintro t a t' ⟨hsuffix, hlength⟩ hstep
      cases hstep with
      | @serve i f fs buffer out hnext _ _ _ =>
        rw [hnext] at hsuffix hlength
        refine ⟨(List.suffix_cons _ _).trans hsuffix, ?_⟩
        have hone : (sentBy i (answerBytes out)).length ≤ 1 := by
          unfold sentBy
          split
          · exact Nat.zero_le _
          · exact Nat.le_refl _
        rw [List.length_cons] at hlength
        dsimp only
        rw [List.length_append]
        omega
      | background _ => exact ⟨hsuffix, hlength⟩)
    ⟨List.suffix_rfl, (Nat.zero_add _).le⟩
  refine ⟨left, hpath, hcount.1, hcount.2, ?_⟩
  intro hrest hmarks
  exact hportrays.underWay.done hrest hmarks

/-- A host asks the reader with address 2 for its version, with another reader on the bus, and has
still to ask that one: the first request is served, and the other reader hears the answer. -/
theorem bus_serves_version :
  let asked : List UInt8 := [0x40, 0x03, 0x02, 0x02, 0xB9]
  let next : List UInt8 := [0x40, 0x03, 0x02, 0x01, 0xBA]
  let second : MainLoop :=
    { MainLoop.start .blank with gDevice := (MainLoop.start .blank).gDevice.put Offset.address 2 }
  let mains : Bool → MainLoop := fun i => if i then second else .start .blank
  let es : List (BusEvent Bool) :=
    .begin :: List.replicate 5 .deliver ++ [.call true, .tick false, .call false]
  ∃ s served, Run.run (busStep fun _ => pure ()) es (.start mains [asked, next]) = some s
    ∧ Lts.Path (NetworkStep fun _ => pure ()) ⟨mains, [asked, next], []⟩ served
      ⟨fun i => (s.nodes i).main, [next], s.sent⟩
    ∧ s.sent = [(true, [0xF0, 0x07, 0x02, 0x02, 0x03, 0x00, 0x07, 0x03, 0xF8])]
  := by
  intro asked next second mains es
  have hreg : ∀ i, Registered (mains i).gParamTable := by
    intro i
    have hregistered : Registered (MainLoop.start .blank).gParamTable := registered_powerOn .blank
    unfold mains
    split
    · dsimp only [second]
      exact hregistered
    · exact hregistered
  have heval : (Run.run (busStep fun _ => pure ()) es (.start mains [asked, next])).map
        (fun s => (s.sent, s.rest, s.requests,
          [true, false].map fun i => (s.nodes i).station.link.setMark))
      = some ([(true, [0xF0, 0x07, 0x02, 0x02, 0x03, 0x00, 0x07, 0x03, 0xF8])], [], [next],
        [0, 0]) := by
    unfold mains second MainLoop.start
    rw [powerOn_eq]
    decide +kernel
  have horderly : Run.Along (busStep fun _ => pure ()) (BusOrderly fun _ => pure ()) es
      (.start mains [asked, next]) := by
    unfold mains second MainLoop.start
    rw [powerOn_eq]
    decide +kernel
  have htables : Run.Along (busStep fun _ => pure ()) (TablesKept fun _ => pure ()) es
      (.start mains [asked, next]) := by
    apply Run.Along.of_forall
    intro e he s i e' heq
    subst heq
    simp [es] at he
  obtain ⟨s, hrun, heq⟩ := Option.map_eq_some_iff.mp heval
  simp only [Prod.mk.injEq, List.map_cons, List.map_nil, List.cons.injEq] at heq
  obtain ⟨hsent, hrest, hrequests, htrue, hfalse, -⟩ := heq
  obtain ⟨left, hpath, -, -, hdone⟩ := bus_serves hreg hrun horderly htables
  have hmarks : ∀ i, (s.nodes i).station.link.setMark = 0 := by
    intro i
    cases i with
    | false => exact hfalse
    | true => exact htrue
  rw [hdone hrest hmarks, hrequests] at hpath
  exact ⟨s, _, hrun, hpath, hsent⟩

end

end UhfReader
