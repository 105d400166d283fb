import UhfReader.Datagrams
import UhfReader.Lib.Simulation
import UhfReader.TagRuns

/-!
# Requests from a host that waits

A host that sends a request on a serial port, and the next one when that has been processed, sees
a server: it processes whole requests, one after the other, and answers each of them.  `Server` is
this server, and `Line` the host, its line, the port with its interrupts and its timer, and the
main loop.  The line is simulated by the server.

Everything else that the firmware does meanwhile is the background: the other requests, active
mode, and the saving of the parameters.
-/

open Memory

namespace UhfReader

/-! ### The server -/

/-- The bytes sent when `processParamTable` has returned. -/
def answerBytes (out : UInt8 × Mem × Reader) : List UInt8 :=
  if out.1 ≠ errorNoReturn then out.2.1.take ((out.2.1 1).toNat + 2) else []

/-- The main loop with the requests that are to come, and what was sent for those processed. -/
@[ext]
structure Server where
  main : MainLoop
  requests : List (List UInt8)
  replies : List (List UInt8)

/-- What a server does: it serves the next request, or goes on with something else. -/
inductive ServerEvent where
  | serve
  | background (e : MainEvent)

/-- The next request is processed in some buffer that begins with it, and answered. -/
inductive ServerStep (o : CmdOrigin) (output : ℕ → M Unit) : Server → ServerEvent → Server → Prop
  | serve {s : Server} {f : List UInt8} {fs : List (List UInt8)} {buffer : Mem}
    {out : UInt8 × Mem × Reader} :
    s.requests = f :: fs → buffer.take f.length = f →
    processParamTable o buffer f.length s.main.toReader = some out →
    ServerStep o output s .serve
      ⟨{ s.main with toReader := out.2.2 }, fs, s.replies ++ [answerBytes out]⟩
  | background {s : Server} {e : MainEvent} {m : MainLoop} :
    mainStep output s.main e = some m →
    ServerStep o output s (.background e) { s with main := m }

/-! ### The host -/

/-- A request that fits in the buffer of a port. -/
structure WholeFrame (f : List UInt8) : Prop where
  frame : Framing.IsFrame bootCode f
  short : 4 ≤ f.length
  long : f.length ≤ 255

/-- The byte that a receiver takes for the length byte of a request is at most 253. -/
theorem WholeFrame.lengthByte {f : List UInt8} (hf : WholeFrame f) {n : ℕ} (hlt : n < f.length)
    (hsecond : (Framing.progress f n).gathered.length = 1) :
  (f.get ⟨n, hlt⟩).toNat ≤ 253
  := by
  have hlong := hf.long
  have hlength := hf.frame.length
  unfold Framing.progress at hsecond
  rw [if_neg (by omega)] at hsecond
  simp only [Framing.gathering, List.length_take] at hsecond
  have hone : n = 1 := by
    omega
  subst hone
  rw [List.getD_eq_getElem _ _ hlt] at hlength
  change f[1].toNat ≤ 253
  omega

/-- What a host sends: requests, and noise between them in which no byte starts a frame. -/
inductive HostStream : List UInt8 → List (List UInt8) → Prop
  | quiet {noise : List UInt8} : (∀ b ∈ noise, b ≠ bootCode) → HostStream noise []
  | request {noise f rest : List UInt8} {fs : List (List UInt8)} :
    (∀ b ∈ noise, b ≠ bootCode) → WholeFrame f → HostStream rest fs →
    HostStream (noise ++ (f ++ rest)) (f :: fs)

/-- A host, its line and a reader.  `toSend` are the bytes that the host has still to send,
`replies` what it got for the requests processed, and `age` counts the ticks since the frame under
way began. -/
structure Line where
  station : Station
  main : MainLoop
  toSend : List UInt8
  replies : List (List UInt8)
  age : ℕ

/-- What can happen: the next byte of the host arrives, `SysTick_Handler` calls `Time_Update`, the
main loop calls the module function of the port, or something else is done. -/
inductive LineEvent where
  | deliver
  | tick
  | call
  | background (e : MainEvent)

/-- What an event makes of a line. -/
def lineStep (port : Port) (output : ℕ → M Unit) (s : Line) : LineEvent → Option Line
  | .deliver =>
    match s.toSend with
    | [] => none
    | b :: bs =>
      some { s with
        station.link := port.irqHandler s.station.link b
        toSend := bs
        age := if s.station.link.index = 0 then 0 else s.age }
  | .tick => some { s with station := s.station.tick, age := s.age + 1 }
  | .call =>
    (port.moduleFunction s.main.toReader s.station.link).map fun out =>
      { s with
        station.link := out.1
        main.toReader := out.2.1
        replies := if s.station.link.see.2 then s.replies ++ [out.2.2] else s.replies }
  | .background e => (mainStep output s.main e).map fun m => { s with main := m }

/-- A line at its start, before the host sends `stream`. -/
def Line.start (m : MainLoop) (stream : List UInt8) : Line := ⟨.initial, m, stream, [], 0⟩

/-- The reply to the request that waits does not write on `rec_buf.index`, which stands right
behind the buffer. -/
def ReplyFits (port : Port) (s : Line) : Prop :=
  let seen := s.station.link.see
  seen.2 = true → ∀ out ∈ processParamTable port.origin seen.1.load seen.1.len s.main.toReader,
    ∀ i < 4, out.2.1 (255 + i) = seen.1.load (255 + i)

instance (port : Port) (s : Line) : Decidable (ReplyFits port s) :=
  inferInstanceAs (Decidable (_ → ∀ _ ∈ _, _))

/-- The host waits until a request has been processed, and sends each of them in less than half a
second; and the replies fit. -/
def Orderly (port : Port) (s : Line) : LineEvent → Prop
  | .deliver => s.station.link.setMark = 0
  | .tick => s.station.link.index ≠ 0 → s.age < 490
  | .call => ReplyFits port s
  | .background _ => True

instance (port : Port) (s : Line) (e : LineEvent) : Decidable (Orderly port s e) :=
  match e with
  | .deliver => inferInstanceAs (Decidable (_ = _))
  | .tick => inferInstanceAs (Decidable (_ → _))
  | .call => inferInstanceAs (Decidable (ReplyFits port s))
  | .background _ => isTrue trivial

/-- The server steps that an event of a line stands for. -/
def Line.serverEvents (s : Line) : LineEvent → List ServerEvent
  | .call => if s.station.link.see.2 then [.serve] else []
  | .background e => [.background e]
  | .deliver | .tick => []

/-! ### The receiver and what is to come -/

/-- What the port has received, what is still to come, and the requests that it will complete. -/
inductive Expects : Framing.Receiver → List UInt8 → List (List UInt8) → Prop
  | between {stream : List UInt8} {fs : List (List UInt8)} :
    HostStream stream fs → Expects Framing.idle stream fs
  | within {f stream : List UInt8} {fs : List (List UInt8)} {n : ℕ} :
    WholeFrame f → n ≤ f.length → HostStream stream fs →
    Expects (Framing.progress f n) (f.drop n ++ stream) (f :: fs)

namespace Expects

variable {rcv : Framing.Receiver} {b : UInt8} {f stream : List UInt8} {fs : List (List UInt8)}

/-- A byte of a request. -/
theorem next {n : ℕ} (hf : WholeFrame f) (hlt : n < f.length) (hrest : HostStream stream fs) :
  Expects (Framing.feed bootCode (Framing.progress f n) (f.get ⟨n, hlt⟩))
    (f.drop (n + 1) ++ stream) (f :: fs)
  := by
  rw [Framing.feed_progress hf.frame hlt]
  exact .within hf hlt hrest

/-- A byte of the host goes to the receiver. -/
theorem feed (h : Expects rcv (b :: stream) fs) (hfree : rcv.frame = none) :
  Expects (Framing.feed bootCode rcv b) stream fs
  := by
  generalize hbytes : b :: stream = bytes at h
  cases h with
  | between hstream =>
    cases hstream with
    | quiet hnoise =>
      subst hbytes
      rw [Framing.feed_idle_of_ne (hnoise b List.mem_cons_self)]
      exact .between (.quiet fun b' hb' => hnoise b' (List.mem_cons_of_mem b hb'))
    | @request noise f rest fs hnoise hf hrest =>
      cases noise with
      | nil =>
        have hpos : 0 < f.length := by
          have := hf.short
          omega
        rw [List.nil_append, ← List.drop_zero (l := f), List.drop_eq_getElem_cons hpos,
          List.cons_append, List.cons.injEq] at hbytes
        obtain ⟨rfl, rfl⟩ := hbytes
        rw [← Framing.progress_zero hf.frame]
        exact next hf hpos hrest
      | cons b' noise =>
        rw [List.cons_append, List.cons.injEq] at hbytes
        obtain ⟨rfl, rfl⟩ := hbytes
        rw [Framing.feed_idle_of_ne (hnoise b List.mem_cons_self)]
        exact .between (.request (fun b' hb' => hnoise b' (List.mem_cons_of_mem b hb')) hf hrest)
  | @within f rest fs n hf hle hrest =>
    obtain heq | hlt := Nat.eq_or_lt_of_le hle
    · -- the frame is complete, and the byte would be dropped
      rw [heq, Framing.progress_length] at hfree
      cases hfree
    · rw [List.drop_eq_getElem_cons hlt, List.cons_append, List.cons.injEq] at hbytes
      obtain ⟨rfl, rfl⟩ := hbytes
      exact next hf hlt hrest

/-- The second byte of a frame is no wrong length byte. -/
theorem lengthByte (h : Expects rcv (b :: stream) fs) (hfree : rcv.frame = none)
    (hsecond : rcv.gathered.length = 1) :
  b.toNat ≤ 253
  := by
  generalize hbytes : b :: stream = bytes at h
  cases h with
  | between _ => cases hsecond
  | @within f rest fs n hf hle hrest =>
    obtain heq | hlt := Nat.eq_or_lt_of_le hle
    · rw [heq, Framing.progress_length] at hfree
      cases hfree
    · rw [List.drop_eq_getElem_cons hlt, List.cons_append, List.cons.injEq] at hbytes
      rw [hbytes.1]
      exact hf.lengthByte hlt hsecond

/-- The request that is complete is the next one. -/
theorem taken (h : Expects (Framing.full f) stream fs) :
  ∃ fs', fs = f :: fs' ∧ WholeFrame f ∧ HostStream stream fs'
  := by
  generalize hrcv : Framing.full f = rcv at h
  cases h with
  | between _ => cases hrcv
  | @within f' rest fs' n hf hle hrest =>
    have hframe : (Framing.progress f' n).frame = some f := by
      rw [← hrcv]
      rfl
    obtain ⟨hlast, hsame⟩ := Framing.progress_frame hframe
    subst hsame
    rw [hlast, List.drop_length, List.nil_append]
    exact ⟨fs', rfl, hf, hrest⟩

/-- When all bytes have come and no request waits, none is left. -/
theorem done (h : Expects rcv [] fs) (hfree : rcv.frame = none) :
  fs = []
  := by
  generalize hbytes : [] = bytes at h
  cases h with
  | between hstream =>
    cases hstream with
    | quiet _ => rfl
    | request hnoise hf hrest =>
      have hlength := congrArg List.length hbytes
      have hshort := hf.short
      simp only [List.length_append, List.length_nil] at hlength
      omega
  | @within f rest fs n hf hle hrest =>
    have hnil := List.append_eq_nil_iff.mp hbytes.symm
    have hlast : n = f.length := Nat.le_antisymm hle (List.drop_eq_nil_iff.mp hnil.1)
    rw [hlast, Framing.progress_length] at hfree
    cases hfree

end Expects

/-! ### The port -/

/-- A receive timer that has not run out `age` ticks after it was started. -/
structure Counting (t : STimer) (sysTimer1 age : ℕ) : Prop where
  running : t.isStart ≠ 0
  fresh : t.isOverflow = 0
  young : age ≤ 490
  most : t.time ≤ 50
  left : 500 + sysTimer1 ≤ 10 * t.time + age + 9

/-- The port holds the receiver `rcv`, and its timer does not break off the frame under way, which
began `age` ticks ago. -/
structure Tracks (s : Station) (age : ℕ) (rcv : Framing.Receiver) : Prop where
  holds : s.link.Holds rcv
  sound : s.link.Sound
  divider : s.sysTimer1 ≤ 9
  timed : rcv.gathered ≠ [] → Counting s.link.localTimer s.sysTimer1 age
  stopped : rcv.frame.isSome → s.link.localTimer.isStart = 0 ∧ s.link.localTimer.isOverflow = 0

/-- The byte that raises the mark stops the timer. -/
theorem SLocalTransData.receive_stops {l : SLocalTransData} {time : ℕ} {b : UInt8}
    (hbefore : l.setMark = 0) (hafter : (l.receive time b).setMark ≠ 0) :
  (l.receive time b).localTimer.isStart = 0
  := by
  revert hafter
  unfold receive
  rw [if_pos hbefore]
  split
  · intro hafter
    refine absurd ?_ hafter
    unfold store
    split
    · exact hbefore
    · exact hbefore
  · split
    · split
      · intro _
        rfl
      · dsimp only
        split
        · intro _
          rfl
        · intro hafter
          refine absurd ?_ hafter
          unfold store
          split
          · exact hbefore
          · exact hbefore
    · intro hafter
      exact absurd hbefore hafter

/-- Until a frame is complete, its timer runs on. -/
theorem SLocalTransData.receive_timer {l : SLocalTransData} {time : ℕ} {b : UInt8}
    (hunder : l.index ≠ 0) (hmore : (l.receive time b).index ≠ 0) (hinside : l.index < bufLen) :
  (l.receive time b).localTimer = l.localTimer
  := by
  revert hmore
  simp only [bufLen] at hinside
  unfold receive
  by_cases hmark : l.setMark = 0
  · have hfits : ¬ l.index > bufLen := by
      simp only [bufLen]
      omega
    rw [if_pos hmark, if_neg (fun h => hunder h.1), if_pos hunder, if_neg hfits]
    unfold store
    rw [if_pos hinside]
    dsimp only
    split
    · intro hmore
      exact absurd rfl hmore
    · intro _
      rfl
  · rw [if_neg hmark]
    intro _
    rfl

/-- The first byte of a frame starts the timer. -/
theorem SLocalTransData.receive_starts {l : SLocalTransData} {time : ℕ} {b : UInt8}
    (hidle : l.index = 0) (hmore : (l.receive time b).index ≠ 0) :
  (l.receive time b).localTimer = l.localTimer.start time
  := by
  revert hmore
  unfold receive
  split
  · split
    · intro _
      rfl
    · rw [if_neg (not_not.mpr hidle)]
      intro hmore
      exact absurd hidle hmore
  · intro hmore
    exact absurd hidle hmore

namespace Tracks

variable {s : Station} {age : ℕ} {rcv : Framing.Receiver} {b : UInt8}

/-- A port without a frame under way. -/
theorem of_idle (hidle : s.link.Idle) (hdivider : s.sysTimer1 ≤ 9) (age : ℕ) :
  Tracks s age Framing.idle
  where
  holds := SLocalTransData.holds_idle_iff.mpr hidle
  sound := SLocalTransData.sound_of_index hidle.2
  divider := hdivider
  timed := fun h => absurd rfl h
  stopped := fun h => by cases h

theorem unmarked (h : Tracks s age rcv) (hmark : s.link.setMark = 0) :
  rcv.frame = none
  := by
  have hmarked := h.holds.marked
  rw [hmark] at hmarked
  cases hframe : rcv.frame with
  | none => rfl
  | some f =>
    rw [hframe] at hmarked
    cases hmarked

theorem index_eq (h : Tracks s age rcv) :
  s.link.index = rcv.gathered.length
  := h.holds.counted

/-- A byte arrives. -/
theorem rx (h : Tracks s age rcv) (hmark : s.link.setMark = 0)
    (hlen : rcv.gathered.length = 1 → b.toNat ≤ 253) :
  Tracks { s with link := s.link.receive 50 b } (if s.link.index = 0 then 0 else age)
    (Framing.feed bootCode rcv b)
  := by
  have hinside := h.sound.inside
  have hroom : rcv.gathered.length < 255 := by
    rw [← h.index_eq]
    exact hinside
  have hholds := h.holds.receive hroom 50 b
  have hcounted : (s.link.receive 50 b).index = (Framing.feed bootCode rcv b).gathered.length :=
    hholds.counted
  constructor
  · exact hholds
  · apply h.sound.receive
    intro _ hindex
    apply hlen
    rw [← h.index_eq, hindex]
  · exact h.divider
  · intro hgathered
    have hmore : (s.link.receive 50 b).index ≠ 0 := by
      rw [hcounted]
      exact fun hzero => hgathered (List.length_eq_zero_iff.mp hzero)
    by_cases hindex : s.link.index = 0
    · rw [if_pos hindex]
      dsimp only
      rw [SLocalTransData.receive_starts hindex hmore]
      have hdivider := h.divider
      refine ⟨(by decide : (1 : UInt8) ≠ 0), rfl, Nat.zero_le _, Nat.le_refl 50, ?_⟩
      simp only [STimer.start]
      omega
    · rw [if_neg hindex]
      dsimp only
      rw [SLocalTransData.receive_timer hindex hmore hinside]
      apply h.timed
      intro hnil
      apply hindex
      rw [h.index_eq, hnil]
      rfl
  · intro hframe
    have hraised : (s.link.receive 50 b).setMark ≠ 0 := by
      rw [hholds.marked, if_pos hframe]
      decide
    exact ⟨SLocalTransData.receive_stops hmark hraised,
      SLocalTransData.receive_raises hmark hraised⟩

/-- A tick, before the frame under way has taken 490 of them. -/
theorem tick (h : Tracks s age rcv) (hprompt : s.link.index ≠ 0 → age < 490) :
  Tracks s.tick (age + 1) rcv
  := by
  have hdivider := h.divider
  have hunder : rcv.gathered ≠ [] → age < 490 := by
    intro hgathered
    apply hprompt
    rw [h.index_eq]
    exact fun hzero => hgathered (List.length_eq_zero_iff.mp hzero)
  unfold Station.tick
  split
  · rename_i hupdate
    refine ⟨h.holds, h.sound.update, Nat.zero_le _, ?_, ?_⟩
    · intro hgathered
      obtain ⟨hrunning, hfresh, -, hmost, hleft⟩ := h.timed hgathered
      have hyoung := hunder hgathered
      have hupdated : s.link.localTimer.update
          = { s.link.localTimer with time := s.link.localTimer.time - 1 } := by
        have hless : (s.link.localTimer.time + (2 ^ 32 - 1)) % 2 ^ 32
            = s.link.localTimer.time - 1 := by
          omega
        unfold STimer.update STimer.count STimer.decrement
        rw [if_pos ⟨hrunning, hfresh⟩, if_neg (by omega), hless]
      dsimp only
      rw [hupdated]
      refine ⟨hrunning, hfresh, ?_, ?_, ?_⟩
      · omega
      · dsimp only
        omega
      · dsimp only
        omega
    · intro hframe
      obtain ⟨hstart, hoverflow⟩ := h.stopped hframe
      have hsame : s.link.localTimer.update = s.link.localTimer := by
        unfold STimer.update
        rw [if_neg (fun hrun => hrun.1 hstart)]
      dsimp only
      rw [hsame]
      exact ⟨hstart, hoverflow⟩
  · rename_i hkeep
    refine ⟨h.holds, h.sound, by dsimp only; omega, ?_, h.stopped⟩
    intro hgathered
    obtain ⟨hrunning, hfresh, -, hmost, hleft⟩ := h.timed hgathered
    have hyoung := hunder hgathered
    refine ⟨hrunning, hfresh, hyoung, hmost, ?_⟩
    dsimp only
    omega

/-- The module function finds no request. -/
theorem call_free (h : Tracks s age rcv) (hfree : rcv.frame = none) :
  s.link.see.2 = false ∧ Tracks { s with link := s.link.see.1 } age rcv
  := by
  have hmark : s.link.setMark = 0 := by
    have hmarked := h.holds.marked
    rw [hfree] at hmarked
    exact hmarked
  unfold SLocalTransData.see
  dsimp only
  by_cases hover : s.link.localTimer.isOverflow ≠ 0
  · -- an expired timer clears a port that is idle
    have hgathered : rcv.gathered = [] := by
      by_contra hgathered
      exact hover (h.timed hgathered).fresh
    have hidle : rcv = Framing.idle := by
      obtain ⟨gathered, frame⟩ := rcv
      dsimp only at hgathered hfree
      rw [hgathered, hfree]
      rfl
    rw [if_pos hover, hidle]
    exact ⟨rfl, of_idle (s := { s with link := .cleared }) ⟨rfl, rfl⟩ h.divider age⟩
  · rw [if_neg hover, if_neg (not_not.mpr hmark)]
    exact ⟨rfl, h⟩

/-- The module function finds a request. -/
theorem call_full {f : List UInt8} (h : Tracks s age (Framing.full f)) (hf : WholeFrame f) :
  s.link.see = ({ s.link with setMark := 0 }, true) ∧ s.link.len = f.length
    ∧ s.link.load.take f.length = f
  := by
  obtain ⟨hmark, -, hlen, htake⟩ := Framing.Represents.full_iff.mp h.holds
  have hmarked : s.link.setMark ≠ 0 := by
    rw [hmark]
    decide
  have hshort := hf.short
  have hlong := hf.long
  refine ⟨?_, hlen, ?_⟩
  · unfold SLocalTransData.see
    dsimp only
    rw [if_neg (not_not.mpr (h.stopped rfl).2), if_pos hmarked,
      if_neg (by simp only [bufLen]; omega)]
  · rw [SLocalTransData.load_take_eq hlong, ← hlen]
    exact htake

end Tracks

/-! ### The line is simulated by the server -/

/-- What the port sends when it has processed a request. -/
theorem SLocalTransData.reply_bytes {o : CmdOrigin} {b : Mem} {n : ℕ} {r : Reader}
    {out : UInt8 × Mem × Reader} (h : processParamTable o b n r = some out) (l : SLocalTransData) :
  ((l.written out.2.1).reply out.1).2 = answerBytes out
  := by
  unfold reply answerBytes
  by_cases hflag : out.1 ≠ errorNoReturn
  · have hfits := processParamTable_fits h hflag
    have hone : (l.written out.2.1).load 1 = out.2.1 1 := rfl
    rw [if_pos hflag, if_pos hflag]
    dsimp only
    unfold sendBytes
    rw [hone, if_neg (Nat.not_le.mpr hfits)]
    apply load_of_buf rfl
    simp only [bufLen] at hfits
    omega
  · rw [if_neg hflag, if_neg hflag]

/-- The port after it has processed a request, when the reply did not write on
`rec_buf.index`. -/
theorem SLocalTransData.reply_idle {l : SLocalTransData} {m : Mem} (flag : UInt8) (hidle : l.Idle)
    (hfit : ∀ i < 4, m (255 + i) = l.load (255 + i)) :
  ((l.written m).reply flag).1.Idle
  := by
  have hindex : (l.written m).index = 0 := by
    apply loadNat_zero
    intro i hi
    rw [hfit i hi]
    unfold load
    rw [if_neg (by omega), if_pos (by omega), hidle.2]
    simp [getByte]
  have hwritten : (l.written m).Idle := ⟨hidle.1, hindex⟩
  unfold reply
  dsimp only
  split
  · exact hwritten
  · exact hwritten

/-- The server is in the state that the line shows: the port has received what the next requests
begin with. -/
structure Shows (s : Line) (t : Server) (rcv : Framing.Receiver) : Prop where
  tracks : Tracks s.station s.age rcv
  expects : Expects rcv s.toSend t.requests
  main : t.main = s.main
  replies : t.replies = s.replies

/-- A request is processed: the server serves it. -/
theorem Shows.serve {port : Port} {output : ℕ → M Unit} {s s' : Line} {t : Server} {f : List UInt8}
    (h : Shows s t (Framing.full f)) (hfits : ReplyFits port s)
    (hstep : lineStep port output s .call = some s') :
  ∃ t', ServerStep port.origin output t .serve t' ∧ Shows s' t' Framing.idle
  := by
  obtain ⟨fs, hnext, hf, hstream⟩ := h.expects.taken
  obtain ⟨hsee, hlen, htake⟩ := h.tracks.call_full hf
  have hidle : ({ s.station.link with setMark := 0 } : SLocalTransData).Idle :=
    ⟨rfl, h.tracks.index_eq⟩
  simp only [lineStep, Port.moduleFunction_eq, localModule, hsee, if_true,
    SLocalTransData.process, Option.map_map, Option.map_eq_some_iff, Function.comp_apply]
    at hstep
  obtain ⟨out, hout, rfl⟩ := hstep
  have hbuffer : processParamTable port.origin s.station.link.load f.length t.main.toReader
      = some out := by
    rw [h.main, ← hlen]
    exact hout
  have hindex : ∀ i < 4, out.2.1 (255 + i)
      = ({ s.station.link with setMark := 0 } : SLocalTransData).load (255 + i) := by
    unfold ReplyFits at hfits
    rw [hsee] at hfits
    exact hfits rfl out hout
  refine ⟨_, .serve hnext htake hbuffer, ?_⟩
  constructor
  · exact Tracks.of_idle (s := ⟨s.station.sysTimer1, _⟩)
      (SLocalTransData.reply_idle out.1 hidle hindex) h.tracks.divider s.age
  · exact .between hstream
  · dsimp only
    rw [h.main]
  · dsimp only
    rw [h.replies, SLocalTransData.reply_bytes hout]

/-- Each event of an orderly line is matched by what it stands for. -/
theorem Shows.step {port : Port} {output : ℕ → M Unit} {s s' : Line} {t : Server} {e : LineEvent}
    (h : ∃ rcv, Shows s t rcv) (hcond : Orderly port s e)
    (hstep : lineStep port output s e = some s') :
  ∃ t', Lts.Path (ServerStep port.origin output) t (s.serverEvents e) t' ∧ ∃ rcv, Shows s' t' rcv
  := by
  obtain ⟨rcv, h⟩ := h
  cases e with
  | deliver =>
    have hmark : s.station.link.setMark = 0 := hcond
    have hfree := h.tracks.unmarked hmark
    have hexpects := h.expects
    simp only [lineStep] at hstep
    cases hbytes : s.toSend with
    | nil =>
      rw [hbytes] at hstep
      cases hstep
    | cons b bs =>
      rw [hbytes, Port.irqHandler_eq] at hstep
      rw [hbytes] at hexpects
      cases hstep
      refine ⟨t, .nil t, Framing.feed bootCode rcv b, ?_, hexpects.feed hfree, h.main, h.replies⟩
      exact h.tracks.rx hmark (hexpects.lengthByte hfree)
  | tick =>
    cases hstep
    exact ⟨t, .nil t, rcv, h.tracks.tick hcond, h.expects, h.main, h.replies⟩
  | call =>
    cases hframe : rcv.frame with
    | none =>
      obtain ⟨hsee, htracks⟩ := h.tracks.call_free hframe
      simp only [lineStep, Port.moduleFunction_eq, localModule, hsee, Bool.false_eq_true,
        if_false, Option.map_some, Option.some.injEq] at hstep
      subst hstep
      simp only [Line.serverEvents, hsee, Bool.false_eq_true, if_false]
      exact ⟨t, .nil t, rcv, htracks, h.expects, h.main, h.replies⟩
    | some f =>
      have hfull : rcv = Framing.full f := by
        obtain ⟨-, -, hnil⟩ := h.tracks.holds.complete f hframe
        exact Framing.Receiver.ext hnil hframe
      rw [hfull] at h
      obtain ⟨fs, -, hf, -⟩ := h.expects.taken
      obtain ⟨t', hserve, hshows⟩ := h.serve hcond hstep
      have hsee : s.station.link.see.2 = true := by
        rw [(h.tracks.call_full hf).1]
      simp only [Line.serverEvents, hsee, if_true]
      exact ⟨t', .single hserve, Framing.idle, hshows⟩
  | background e =>
    simp only [lineStep, Option.map_eq_some_iff] at hstep
    obtain ⟨m, hm, rfl⟩ := hstep
    rw [← h.main] at hm
    exact ⟨{ t with main := m }, .single (.background hm), rcv, h.tracks, h.expects, rfl, h.replies⟩

/-- A host that waits for its requests to be processed, and sends each of them within 490 ticks, is
served by a server, if the replies leave the `rec_buf.index` behind the buffer alone.  Whatever the
ticks and the rest of the firmware do between its bytes, the requests that were processed are the
first of those that it sent, each once and in order; they were processed as they were sent, in the
states that the rest of the firmware and the requests before them had made, and answered.  When all
bytes have been sent and no request waits, none is left. -/
theorem line_serves {port : Port} {output : ℕ → M Unit} {m : MainLoop} {stream : List UInt8}
    {requests : List (List UInt8)} (hstream : HostStream stream requests) {es : List LineEvent}
    {s : Line} (hrun : Run.run (lineStep port output) es (.start m stream) = some s)
    (h : Run.Along (lineStep port output) (Orderly port) es (.start m stream)) :
  ∃ left, Lts.Path (ServerStep port.origin output) ⟨m, requests, []⟩
      (Lts.labels (lineStep port output) Line.serverEvents es (.start m stream))
      ⟨s.main, left, s.replies⟩
    ∧ left <:+ requests ∧ requests.length = s.replies.length + left.length
    ∧ (s.toSend = [] → s.station.link.setMark = 0 → left = [])
  := by
  have hstart : Shows (.start m stream) ⟨m, requests, []⟩ Framing.idle :=
    ⟨Tracks.of_idle ⟨rfl, rfl⟩ (Nat.zero_le _) 0, .between hstream, rfl, rfl⟩
  obtain ⟨⟨main, left, replies⟩, hpath, rcv, hshows⟩ :=
    Lts.simulates (R := fun s t => ∃ rcv, Shows s t rcv)
      (fun s e s' t hR hP hs => Shows.step hR hP hs) ⟨_, hstart⟩ h hrun
  have hmain : main = s.main := hshows.main
  have hreplies : replies = s.replies := hshows.replies
  subst hmain hreplies
  have hcount := hpath.invariant
    (I := fun t => t.requests <:+ requests ∧ requests.length = t.replies.length + t.requests.length)
    (by
      rintro t a t' ⟨hsuffix, hlength⟩ hstep
      cases hstep with
      | serve hnext _ _ =>
        rw [hnext] at hsuffix hlength
        refine ⟨(List.suffix_cons _ _).trans hsuffix, ?_⟩
        rw [List.length_cons] at hlength
        dsimp only
        rw [List.length_append, List.length_singleton]
        omega
      | background _ => exact ⟨hsuffix, hlength⟩)
    ⟨List.suffix_rfl, (Nat.zero_add _).symm⟩
  refine ⟨left, hpath, hcount.1, hcount.2, ?_⟩
  intro hsent hmark
  have hexpects := hshows.expects
  rw [hsent] at hexpects
  exact hexpects.done (hshows.tracks.unmarked hmark)

/-- The host sends two requests for the version, with a byte of noise before the second. -/
theorem line_serves_versions :
  let request : List UInt8 := [0x40, 0x02, 0x02, 0xBC]
  let es : List LineEvent :=
    List.replicate 4 .deliver ++ [.tick, .call] ++ List.replicate 5 .deliver ++ [.call]
  ∃ s served, Run.run (lineStep .rs232 fun _ => pure ()) es
      (.start (MainLoop.start .blank) (request ++ 0x55 :: request)) = some s
    ∧ Lts.Path (ServerStep .sourceFrom232 fun _ => pure ())
      ⟨MainLoop.start .blank, [request, request], []⟩ served ⟨s.main, [], s.replies⟩
    ∧ s.replies = List.replicate 2 [0xF0, 0x06, 0x02, 0x03, 0x00, 0x07, 0x03, 0xFB]
  := by
  intro request es
  have heval : (Run.run (lineStep .rs232 fun _ => pure ()) es
        (.start (MainLoop.start .blank) (request ++ 0x55 :: request))).map
      (fun s => (s.replies, s.toSend, s.station.link.setMark))
      = some (List.replicate 2 [0xF0, 0x06, 0x02, 0x03, 0x00, 0x07, 0x03, 0xFB], [], 0) := by
    unfold MainLoop.start
    rw [powerOn_eq]
    decide +kernel
  have horderly : Run.Along (lineStep .rs232 fun _ => pure ()) (Orderly .rs232) es
      (.start (MainLoop.start .blank) (request ++ 0x55 :: request)) := by
    unfold MainLoop.start
    rw [powerOn_eq]
    decide +kernel
  have hframe : WholeFrame request := ⟨⟨rfl, rfl⟩, by decide, by decide⟩
  have hstream : HostStream (request ++ 0x55 :: request) [request, request] := by
    have hlast : HostStream ([0x55] ++ (request ++ [])) [request] :=
      .request (by decide +kernel) hframe (.quiet (by decide +kernel))
    have hfirst : HostStream ([] ++ (request ++ 0x55 :: request)) [request, request] :=
      .request (by decide +kernel) hframe hlast
    exact hfirst
  obtain ⟨s, hrun, heq⟩ := Option.map_eq_some_iff.mp heval
  simp only [Prod.mk.injEq] at heq
  obtain ⟨hreplies, hsent, hmark⟩ := heq
  obtain ⟨left, hpath, -, -, hdone⟩ := line_serves hstream hrun horderly
  rw [hdone hsent hmark] at hpath
  exact ⟨s, _, hrun, hpath, hreplies⟩

end UhfReader
