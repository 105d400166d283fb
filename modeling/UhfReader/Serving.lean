import UhfReader.Reply
import UhfReader.Serial

/-!
# A request while it is served

The module function of a serial port takes the mark of a request back before it calls
`processParamTable`, so the interrupt handler may store bytes in the buffer from then on, until
the reply has been sent from it.  `Serving` splits the module function into its three steps; a
received byte can come between any two of them.

The request and its reply are safe as long as the bytes that come in are dropped, that is, as
long as none of them starts a frame.
-/

open Memory

namespace UhfReader

/-- How far the module function is: it has not seen a mark, it has taken a mark back, or
`processParamTable` has returned `flag`. -/
inductive Phase where
  | waiting
  | seen
  | served (flag : UInt8)
  deriving DecidableEq, Repr

/-- A serial port and its module function.  `raised` is the frame that raised the mark last,
`taken` the frame whose mark was taken back, and `built` the reply that `processParamTable`
built for it. -/
structure Serving where
  link : SLocalTransData
  phase : Phase
  raised : List UInt8
  taken : List UInt8
  built : List UInt8

/-- What can happen: a byte arrives, the receive timer is updated, or the module function goes on
by one of its steps. -/
inductive ServingEvent where
  | rx (b : UInt8)
  | tick
  | see
  /-- `processParamTable` is called, with the rest of the reader in the state `r` -/
  | process (r : Reader)
  | send

/-- The bytes of the buffer that `rec_buf.len` counts. -/
def SLocalTransData.contents (l : SLocalTransData) : List UInt8 := l.buf.load.take l.len

/-- The bytes of the reply in the buffer. -/
def SLocalTransData.replyBytes (l : SLocalTransData) : List UInt8 :=
  l.buf.load.take ((l.buf.load 1).toNat + 2)

namespace Serving

/-- The port after start-up. -/
def initial : Serving := ⟨.cleared, .waiting, [], [], []⟩

/-- A byte arrives. -/
def rx (port : Port) (s : Serving) (b : UInt8) : Serving :=
  { s with
    link := port.irqHandler s.link b
    raised :=
      if s.link.setMark = 0 ∧ (port.irqHandler s.link b).setMark ≠ 0 then
        (port.irqHandler s.link b).contents
      else s.raised }

/-- The module function looks for a mark and takes it back. -/
def see (s : Serving) : Serving :=
  { s with
    link := s.link.see.1
    phase := if s.link.see.2 then .seen else .waiting
    taken := s.raised }

end Serving

/-- A step of a serial port and its module function, which goes through its steps in order. -/
def servingStep (port : Port) (s : Serving) : ServingEvent → Option Serving
  | .rx b => some (s.rx port b)
  | .tick => some { s with link := { s.link with localTimer := s.link.localTimer.update } }
  | .see => if s.phase = .waiting then some s.see else none
  | .process r =>
    if s.phase = .seen then
      (s.link.process port.origin r).map fun out =>
        { s with link := out.2.1, phase := .served out.1, built := out.2.1.replyBytes }
    else none
  | .send =>
    match s.phase with
    | .served flag => some { s with link := (s.link.reply flag).1, phase := .waiting }
    | _ => none

/-- What `processParamTable` gets are the bytes of the frame whose mark was taken back, and what
is sent is the reply it built. -/
structure ServedIntact (s : Serving) (e : ServingEvent) : Prop where
  request : ∀ r, e = .process r → s.phase = .seen →
    s.link.load.take s.link.len = s.taken
  reply : ∀ flag, e = .send → s.phase = .served flag → flag ≠ errorNoReturn →
    (s.link.reply flag).2 = s.built

/-- The receiver drops the byte: a frame waits to be taken, or none is under way and the byte
does not start one. -/
def SLocalTransData.Drops (l : SLocalTransData) (b : UInt8) : Prop :=
  l.setMark ≠ 0 ∨ l.index = 0 ∧ b ≠ bootCode

/-- A byte that arrives after a mark was taken back and before the reply is sent is dropped. -/
def Undisturbed (s : Serving) (e : ServingEvent) : Prop :=
  ∀ b, e = .rx b → s.phase ≠ .waiting → s.link.Drops b

namespace SLocalTransData

variable {l : SLocalTransData} {b : UInt8}

theorem receive_of_drops (h : l.Drops b) (time : ℕ) :
  l.receive time b = l
  := by
  unfold receive
  obtain hmark | ⟨hindex, hb⟩ := h
  · rw [if_neg hmark]
  · rw [if_neg (fun h : _ ∧ _ => hb h.2), if_neg (not_not.mpr hindex), ite_self]

theorem load_take_eq {n : ℕ} (h : n ≤ 255) :
  l.load.take n = l.buf.load.take n
  := by
  apply Mem.AgreeBelow.take_eq
  intro i hi
  unfold load
  rw [if_pos (by omega)]

/-- What the module function takes is a frame of at most 255 bytes, and nothing but its mark
changes. -/
theorem see_eq (h : l.see.2 = true) :
  l.setMark ≠ 0 ∧ l.len ≤ 255 ∧ l.see.1 = { l with setMark := 0 }
  := by
  unfold see at h ⊢
  dsimp only at h ⊢
  by_cases hover : l.localTimer.isOverflow ≠ 0
  · rw [if_pos hover] at h
    cases h
  · rw [if_neg hover] at h ⊢
    split at h
    · rename_i hmark
      rw [if_pos hmark]
      split at h
      · cases h
      · rename_i hlen
        rw [if_neg hlen]
        refine ⟨hmark, ?_, rfl⟩
        simp only [bufLen] at hlen
        omega
    · cases h

/-- No mark is left when the module function has looked for one. -/
theorem see_setMark (l : SLocalTransData) :
  l.see.1.setMark = 0
  := by
  unfold see
  dsimp only
  generalize (if l.localTimer.isOverflow ≠ 0 then cleared else l) = l'
  split
  · split
    · rfl
    · rfl
  · rename_i hmark
    exact not_not.mp hmark

/-- The bytes sent are those of the reply in the buffer, when there are less than 255. -/
theorem reply_eq {flag : UInt8} (hflag : flag ≠ errorNoReturn)
    (hlen : (l.buf.load 1).toNat + 2 < 255) :
  (l.reply flag).2 = l.replyBytes
  := by
  have hone : l.load 1 = l.buf.load 1 := rfl
  unfold reply sendBytes replyBytes
  rw [if_pos hflag]
  dsimp only
  rw [hone, if_neg (by simp only [bufLen]; omega)]
  exact load_take_eq (by omega)

end SLocalTransData

/-- A reply that is not suppressed is shorter than `BUF_LEN`. -/
theorem processParamTable_fits {o : CmdOrigin} {b : Mem} {n : ℕ} {r : Reader}
    {out : UInt8 × Mem × Reader} (h : processParamTable o b n r = some out)
    (hflag : out.1 ≠ errorNoReturn) :
  (out.2.1 1).toNat + 2 < bufLen
  := by
  obtain ⟨outcome, rfl, -⟩ := processWith_cases h
  exact (packet_frame hflag).short

/-- So is the one that a port has in its buffer. -/
theorem process_fits {o : CmdOrigin} {r : Reader} {l : SLocalTransData}
    {out : UInt8 × SLocalTransData × Reader} (h : l.process o r = some out)
    (hflag : out.1 ≠ errorNoReturn) :
  (out.2.1.buf.load 1).toNat + 2 < 255
  := by
  unfold SLocalTransData.process at h
  obtain ⟨reply, hreply, rfl⟩ := Option.map_eq_some_iff.mp h
  exact processParamTable_fits hreply hflag

/-! ### What is served stays what it is -/

/-- The frame that waits, that is being processed, or the reply to be sent, stands in the
buffer. -/
structure Serving.Intact (s : Serving) : Prop where
  unmarked : s.phase ≠ .waiting → s.link.setMark = 0
  waiting : s.phase = .waiting → s.link.setMark ≠ 0 → s.link.contents = s.raised
  seen : s.phase = .seen → s.link.len ≤ 255 ∧ s.link.contents = s.taken
  served : ∀ flag, s.phase = .served flag → flag ≠ errorNoReturn →
    (s.link.buf.load 1).toNat + 2 < 255 ∧ s.link.replyBytes = s.built

namespace Serving.Intact

variable {s : Serving}

/-- Before a mark is seen, only the frame that raised it matters. -/
theorem of_waiting (hphase : s.phase = .waiting)
    (h : s.link.setMark ≠ 0 → s.link.contents = s.raised) :
  s.Intact
  := by
  refine ⟨fun hne => absurd hphase hne, fun _ => h, fun hseen => ?_, fun flag hserved => ?_⟩
  · rw [hphase] at hseen
    cases hseen
  · rw [hphase] at hserved
    cases hserved

theorem initial :
  Serving.initial.Intact
  := of_waiting rfl fun h => absurd rfl h

/-- A timer update changes nothing of what is served. -/
theorem tick (h : s.Intact) :
  ({ s with link := { s.link with localTimer := s.link.localTimer.update } } : Serving).Intact
  := ⟨h.unmarked, h.waiting, h.seen, h.served⟩

theorem rx (h : s.Intact) {port : Port} {b : UInt8}
    (hdrop : s.phase ≠ .waiting → s.link.Drops b) :
  (s.rx port b).Intact
  := by
  have hsame : s.link.Drops b → port.irqHandler s.link b = s.link := by
    intro hdrops
    rw [Port.irqHandler_eq]
    exact SLocalTransData.receive_of_drops hdrops 50
  by_cases hphase : s.phase = .waiting
  · apply of_waiting (s := s.rx port b) hphase
    intro hmark
    unfold Serving.rx at hmark ⊢
    dsimp only at hmark ⊢
    by_cases hzero : s.link.setMark = 0
    · rw [if_pos ⟨hzero, hmark⟩]
    · -- a frame waits already, and the byte is dropped
      rw [if_neg (fun hboth => hzero hboth.1), hsame (.inl hzero)]
      exact h.waiting hphase hzero
  · have hrx : s.rx port b = s := by
      unfold Serving.rx
      rw [hsame (hdrop hphase), if_neg (fun hboth => hboth.2 hboth.1)]
    rw [hrx]
    exact h

theorem see (h : s.Intact) (hphase : s.phase = .waiting) :
  s.see.Intact
  := by
  have hunmarked := SLocalTransData.see_setMark s.link
  unfold Serving.see
  by_cases hsee : s.link.see.2 = true
  · obtain ⟨hmark, hlen, heq⟩ := SLocalTransData.see_eq hsee
    rw [if_pos hsee]
    refine ⟨fun _ => hunmarked, fun hwaiting => ?_, fun _ => ?_, fun flag hserved => ?_⟩
    · cases hwaiting
    · rw [heq]
      exact ⟨hlen, h.waiting hphase hmark⟩
    · cases hserved
  · rw [if_neg hsee]
    exact of_waiting rfl fun hmark => absurd hunmarked hmark

theorem process (h : s.Intact) (hphase : s.phase = .seen) {port : Port} {r : Reader}
    {out : UInt8 × SLocalTransData × Reader} (hout : s.link.process port.origin r = some out) :
  ({ s with link := out.2.1, phase := .served out.1, built := out.2.1.replyBytes }
    : Serving).Intact
  := by
  refine ⟨fun _ => ?_, fun hwaiting => ?_, fun hseen => ?_, fun flag hserved hflag => ?_⟩
  · have hzero := h.unmarked (by rw [hphase]; decide)
    unfold SLocalTransData.process at hout
    rw [Option.map_eq_some_iff] at hout
    obtain ⟨x, -, rfl⟩ := hout
    exact hzero
  · cases hwaiting
  · cases hseen
  · cases hserved
    exact ⟨process_fits hout hflag, rfl⟩

theorem send (h : s.Intact) (hphase : s.phase ≠ .waiting) (flag : UInt8) :
  ({ s with link := (s.link.reply flag).1, phase := .waiting } : Serving).Intact
  := by
  apply of_waiting rfl
  intro hmark
  exfalso
  apply hmark
  unfold SLocalTransData.reply
  dsimp only
  split
  · exact h.unmarked hphase
  · exact h.unmarked hphase

end Serving.Intact

/-- A step keeps what is served intact when the bytes that arrive meanwhile are dropped. -/
theorem intact_servingStep {port : Port} {s s' : Serving} {e : ServingEvent} (h : s.Intact)
    (hquiet : Undisturbed s e) (hstep : servingStep port s e = some s') :
  s'.Intact
  := by
  cases e with
  | rx b =>
    cases hstep
    exact h.rx (hquiet b rfl)
  | tick =>
    cases hstep
    exact h.tick
  | see =>
    simp only [servingStep, Option.ite_none_right_eq_some, Option.some.injEq] at hstep
    obtain ⟨hphase, rfl⟩ := hstep
    exact h.see hphase
  | process r =>
    simp only [servingStep, Option.ite_none_right_eq_some, Option.map_eq_some_iff] at hstep
    obtain ⟨hphase, out, hout, rfl⟩ := hstep
    exact h.process hphase hout
  | send =>
    simp only [servingStep] at hstep
    split at hstep
    · rename_i flag hphase
      cases hstep
      exact h.send (by rw [hphase]; exact fun hne => by cases hne) flag
    · cases hstep

/-- A request is not overwritten while it is served: in every run in which no byte that arrives
between the clearing of the mark and the end of the reply starts a frame, `processParamTable`
gets the bytes of the frame that raised the mark, and the bytes sent are the reply it built. -/
theorem request_served_intact (port : Port) (es : List ServingEvent)
    (h : Run.Along (servingStep port) Undisturbed es .initial) :
  Run.Along (servingStep port) ServedIntact es .initial
  := by
  apply Run.Along.of_invariant (I := Serving.Intact) _ _ Serving.Intact.initial h
  · intro s e s' hs hquiet hstep
    exact intact_servingStep hs hquiet hstep
  · intro s e hs _
    constructor
    · intro r _ hphase
      obtain ⟨hlen, hcontents⟩ := hs.seen hphase
      rw [SLocalTransData.load_take_eq hlen]
      exact hcontents
    · intro flag _ hphase hflag
      obtain ⟨hlen, hbuilt⟩ := hs.served flag hphase hflag
      rw [SLocalTransData.reply_eq hflag hlen]
      exact hbuilt

/-- A request that arrives before its mark is seen, and then no byte until it is served. -/
theorem undisturbed_request (port : Port) (bs : List UInt8) (r : Reader) {s : Serving}
    (hphase : s.phase = .waiting) :
  Run.Along (servingStep port) Undisturbed (bs.map .rx ++ [.see, .process r, .send]) s
  := by
  induction bs generalizing s with
  | nil =>
    apply Run.Along.of_forall
    intro e he s b heq
    subst heq
    simp at he
  | cons b bs ih => exact ⟨fun _ _ hne => absurd hphase hne, ih (s := s.rx port b) hphase⟩

/-- A request for the version is served. -/
theorem served_intact_version :
  let request : List UInt8 := [0x40, 0x02, 0x02, 0xBC]
  Run.Along (servingStep .rs232) ServedIntact
    (request.map .rx ++ [.see, .process (powerOn .blank), .send]) .initial
  := by
  intro request
  exact request_served_intact .rs232 _ (undisturbed_request .rs232 request (powerOn .blank) rfl)

/-- A second request arrives when the mark of the first has been taken back: what
`processParamTable` gets is the second one. -/
theorem second_request_overwrites :
  let first : List UInt8 := [0x40, 0x02, 0x02, 0xBC]
  let second : List UInt8 := [0x40, 0x03, 0x0F, 0x00, 0xAE]
  let es := first.map .rx ++ (.see :: second.map .rx)
  ∃ s, Run.run (servingStep .rs232) es .initial = some s ∧ s.phase = .seen ∧ s.taken = first
    ∧ s.link.load.take s.link.len = second
    ∧ ∀ r, ¬ Run.Along (servingStep .rs232) ServedIntact (es ++ [.process r]) .initial
  := by
  intro first second es
  have heval : (Run.run (servingStep .rs232) es .initial).map
      (fun s => (s.phase, s.taken, s.link.load.take s.link.len)) = some (.seen, first, second) := by
    decide
  rw [Option.map_eq_some_iff] at heval
  obtain ⟨s, hrun, heq⟩ := heval
  simp only [Prod.mk.injEq] at heq
  obtain ⟨hphase, htaken, hbytes⟩ := heq
  refine ⟨s, hrun, hphase, htaken, hbytes, ?_⟩
  intro r halong
  have hlast := ((Run.Along.append_iff hrun).mp halong).2.1.request r rfl hphase
  rw [hbytes, htaken] at hlast
  exact absurd hlast (by decide)

end UhfReader
