import UhfReader.Agreement
import UhfReader.Serving

/-!
# Requests in datagrams

LwIP gives a datagram to `UDP_Receive` as a chain of pbufs.  A pbuf of the pool has 256 bytes with
the headers, so that a long request takes several.  `UDP_Receive` copies the payload of the first
one, and takes its `len` for the length of the request.

The record of the UDP module is that of a serial port without the mark.
-/

open Memory

namespace UhfReader

/-- `SUIP_TRANS_DATA` -/
structure SUipTransData where
  /-- `rec_buf.buf` -/
  buf : Block 255
  /-- `rec_buf.index` -/
  index : ℕ
  /-- `rec_buf.len` -/
  len : ℕ
  uipTimer : STimer

namespace SUipTransData

/-- The record with a mark in front of it, which is laid out like that of a serial port. -/
def marked (u : SUipTransData) (setMark : UInt8) : SLocalTransData :=
  ⟨setMark, u.buf, u.index, u.len, u.uipTimer⟩

/-- The memory from `uip.rec_buf.buf` on. -/
def load (u : SUipTransData) : Mem := (u.marked 0).load

/-- The record after the memory from `uip.rec_buf.buf` on was written. -/
def written (u : SUipTransData) (m : Mem) : SUipTransData :=
  let l := (u.marked 0).written m
  ⟨l.buf, l.index, l.len, l.localTimer⟩

/-- `memcpy(&uip.rec_buf, p->payload, p->len); uip.rec_buf.len = p->len`. -/
def arrive (u : SUipTransData) (payload : List UInt8) : SUipTransData :=
  { u.written (u.load.copy 0 (Mem.ofList payload fun _ => 0) payload.length) with
    len := payload.length }

/-- `memset(&uip.rec_buf, 0, sizeof(uip.rec_buf))`. -/
def cleared (u : SUipTransData) : SUipTransData :=
  { buf := Block.zero 255, index := 0, len := 0, uipTimer := u.uipTimer }

end SUipTransData

/-- `UDP_sendData`: the bytes given to `udp_sendto`.  `alloc` tells for which lengths `pbuf_alloc`
has memory. -/
def udpSendData (alloc : ℕ → Bool) (pucBuffer : Mem) (ucCount : ℕ) : List UInt8 :=
  if alloc ucCount then pucBuffer.take ucCount else []

/-- `UDP_Receive`, for the payloads of a chain of pbufs, which is empty where `p` is `NULL`: the
record, the rest of the reader and the bytes sent. -/
def udpReceive (alloc : ℕ → Bool) (u : SUipTransData) (r : Reader) :
    List (List UInt8) → Option (SUipTransData × Reader × List UInt8)
  | [] => some (u, r, [])
  | payload :: _ =>
    let u := u.arrive payload
    if u.len < 4 ∨ u.len > bufLen then some (u.cleared, r, [])
    else
      (processParamTable .sourceFromUDP u.load u.len r).map fun out =>
        let u := u.written out.2.1
        if out.1 ≠ errorNoReturn then
          let u := { u with len := (u.load 1).toNat + 2 }
          (u.cleared, out.2.2, udpSendData alloc u.load u.len)
        else (u.cleared, out.2.2, [])

/-! ### Requests that are served -/

/-- The buffer and the length that `Local_232_module` calls `processParamTable` with, when a frame
has come in on RS232. -/
def serialCall (l : SLocalTransData) (frame : List UInt8) : Option (Mem × ℕ) :=
  let seen := (frame.foldl usart2IRQHandler l).see
  if seen.2 then some (seen.1.load, seen.1.len) else none

/-- The buffer and the length that `UDP_Receive` calls `processParamTable` with. -/
def udpCall (u : SUipTransData) : List (List UInt8) → Option (Mem × ℕ)
  | [] => none
  | payload :: _ =>
    let u := u.arrive payload
    if u.len < 4 ∨ u.len > bufLen then none else some (u.load, u.len)

/-- What `Local_232_module` sends when `processParamTable` has returned. -/
def serialBytes (out : UInt8 × Mem × Reader) : List UInt8 :=
  if out.1 ≠ errorNoReturn then
    SLocalTransData.sendBytes out.2.1 ((out.2.1 1).toNat + 2)
  else []

/-- A request in a datagram is served like one on RS232: `processParamTable` is called with the same
bytes and the same length, whatever else the two receive buffers hold, and what is sent is what
`Local_232_module` would send for that buffer. -/
structure ServedLikeSerial (alloc : ℕ → Bool) (u : SUipTransData) (r : Reader) (frame : List UInt8)
    (chain : List (List UInt8)) : Prop where
  call : ∀ l : SLocalTransData, l.Idle → ∃ b b' n, serialCall l frame = some (b, n)
    ∧ udpCall u chain = some (b', n) ∧ b'.take n = b.take n
  reply : ∀ b n, udpCall u chain = some (b, n) →
    (udpReceive alloc u r chain).map (fun out => out.2.2)
      = (processParamTable .sourceFrom232 b n r).map serialBytes

/-! ### The serial port -/

/-- The byte that raises the mark stops the timer. -/
theorem SLocalTransData.receive_raises {l : SLocalTransData} {time : ℕ} {b : UInt8}
    (hbefore : l.setMark = 0) (hafter : (l.receive time b).setMark ≠ 0) :
  (l.receive time b).localTimer.isOverflow = 0
  := by
  revert hafter
  unfold receive
  rw [if_pos hbefore]
  split
  · intro _
    rfl
  · split
    · split
      · intro _
        rfl
      · dsimp only
        split
        · intro _
          rfl
        · intro hafter
          refine absurd ?_ hafter
          unfold store
          split
          · exact hbefore
          · exact hbefore
    · intro hafter
      exact absurd hbefore hafter

/-- A frame that comes in on RS232 is processed as it is. -/
theorem serialCall_eq {l : SLocalTransData} (hidle : l.Idle) {frame : List UInt8}
    (hframe : Framing.IsFrame bootCode frame) (hshort : 4 ≤ frame.length)
    (hlong : frame.length ≤ 255) :
  ∃ b, serialCall l frame = some (b, frame.length) ∧ b.take frame.length = frame
  := by
  obtain ⟨hbefore, hholds⟩ := @receives_frame localRevTimer l hidle [] frame
    (by intro b hb; cases hb) hframe hlong
  rw [List.nil_append] at hbefore hholds
  obtain ⟨hmark, -, hlen, htake⟩ := Framing.Represents.full_iff.mp hholds
  have htimer : (frame.foldl (SLocalTransData.receive localRevTimer) l).localTimer.isOverflow
      = 0 := by
    have hne : frame ≠ [] := List.ne_nil_of_length_pos (by omega)
    have hlast := List.dropLast_append_getLast hne
    have hunmarked := hbefore (frame.length - 1) (by omega)
    rw [← List.dropLast_eq_take] at hunmarked
    rw [← hlast, List.foldl_append, List.foldl_cons, List.foldl_nil] at hmark ⊢
    apply SLocalTransData.receive_raises hunmarked
    rw [hmark]
    decide
  have hunmarked : (frame.foldl (SLocalTransData.receive localRevTimer) l).setMark ≠ 0 := by
    rw [hmark]
    decide
  unfold serialCall usart2IRQHandler SLocalTransData.see
  generalize frame.foldl (SLocalTransData.receive localRevTimer) l = port at *
  have hfits : ¬ (port.len < 4 ∨ port.len > bufLen) := by
    rw [hlen]
    simp only [bufLen]
    omega
  dsimp only
  rw [if_neg (not_not.mpr htimer), if_pos hunmarked, if_neg hfits, if_pos rfl]
  refine ⟨_, congrArg (fun n => some (_, n)) hlen, ?_⟩
  rw [SLocalTransData.load_take_eq hlong]
  dsimp only
  rw [← hlen, htake]

/-- What a record of a port holds of the memory that was written to it. -/
theorem SLocalTransData.load_of_buf {l : SLocalTransData} {m : Mem}
    (hbuf : l.buf = fun i => m i.val) {n : ℕ} (h : n ≤ 255) :
  l.load.take n = m.take n
  := by
  rw [SLocalTransData.load_take_eq h, hbuf]
  apply Mem.AgreeBelow.take_eq
  intro i hi
  exact Block.load_of_lt (by omega)

/-- What `Local_232_module` sends is made of what `processParamTable` leaves in the buffer. -/
theorem local232Module_sends (r : Reader) {l : SLocalTransData} (h : l.see.2 = true) :
  (local232Module r l).map (fun out => out.2.2)
    = (processParamTable .sourceFrom232 l.see.1.load l.see.1.len r).map serialBytes
  := by
  unfold local232Module localModule SLocalTransData.process
  rw [if_pos h, Option.map_map, Option.map_map]
  congr 1
  funext out
  dsimp only [Function.comp_apply]
  unfold SLocalTransData.reply serialBytes
  split
  · have hone : (l.see.1.written out.2.1).load 1 = out.2.1 1 := rfl
    dsimp only
    rw [hone]
    unfold SLocalTransData.sendBytes
    split
    · rfl
    · rename_i hshort
      exact SLocalTransData.load_of_buf rfl (by simp only [bufLen] at hshort; omega)
  · rfl

/-! ### The datagram -/

/-- The buffer starts with the payload. -/
theorem SUipTransData.load_arrive (u : SUipTransData) {payload : List UInt8}
    (h : payload.length ≤ 255) :
  (u.arrive payload).load.take payload.length = payload
  := by
  refine (SLocalTransData.load_of_buf
    (m := u.load.copy 0 (Mem.ofList payload fun _ => 0) payload.length) rfl h).trans ?_
  apply List.ext_getElem
  · exact Mem.length_take _ _
  · intro i hi hi'
    have hcopied := @Mem.copy_inside u.load 0 (Mem.ofList payload fun _ => 0) payload.length i hi'
    rw [Nat.zero_add, Mem.ofList_of_lt hi'] at hcopied
    simp only [Mem.take, List.getElem_map, List.getElem_range]
    exact hcopied

/-! ### The origin -/

/-- An outcome without the origin that it notes. -/
def withoutOrigin (outcome : UInt8 × Mem × Reader) : UInt8 × Mem × Globals :=
  (outcome.1, outcome.2.1, outcome.2.2.toGlobals)

/-- What is made alike of two options with the same image has the same image. -/
theorem map_congr_of_map_eq {α β γ δ : Type} {f : α → γ} {f' : β → γ} {g : α → δ} {g' : β → δ}
    {a : Option α} {a' : Option β} (h : a'.map f' = a.map f)
    (hg : ∀ x y, f' y = f x → g' y = g x) :
  a'.map g' = a.map g
  := by
  obtain ⟨rfl, rfl⟩ | ⟨x, y, rfl, rfl, hsame⟩ := map_eq_map_cases h
  · rfl
  · exact congrArg some (hg x y hsame)

section Origin

variable (run : HandlerRun) (buffer : Mem)

/-- A function finds its parameters by the layout of the origin that was noted. -/
theorem callFunction_origin (f : Option Handler) {r r' : Reader}
    (hglobals : r'.toGlobals = r.toGlobals)
    (hlayout : paraOff r'.tagDataOrigin = paraOff r.tagDataOrigin) :
  (callFunction run f buffer r').map (fun called => (called.1, called.2.toGlobals))
    = (callFunction run f buffer r).map (fun called => (called.1, called.2.toGlobals))
  := by
  unfold callFunction
  cases f with
  | none => exact congrArg (fun g => some (buffer, g)) hglobals
  | some f =>
    dsimp only
    rw [hglobals, hlayout, Option.map_map, Option.map_map]
    rfl

theorem finishOther_udp (m : Mem) {r r' : Reader} (h : r'.toGlobals = r.toGlobals) :
  withoutOrigin (finishOther .sourceFromUDP (m, r'))
    = withoutOrigin (finishOther .sourceFrom232 (m, r))
  := by
  obtain ⟨g, o⟩ := r
  obtain ⟨g', o'⟩ := r'
  dsimp only at h
  subst h
  have hempty : emptyLen .sourceFromUDP = emptyLen .sourceFrom232 := rfl
  unfold finishOther withoutOrigin
  rw [hempty]
  dsimp only
  split
  · rfl
  · rfl

variable (idindex : ℕ) (r : Reader)

theorem otherRequest_udp :
  (otherRequest run .sourceFromUDP idindex buffer r).map withoutOrigin
    = (otherRequest run .sourceFrom232 idindex buffer r).map withoutOrigin
  := by
  have hpurse : tagDataLenPurse .sourceFromUDP = tagDataLenPurse .sourceFrom232 := rfl
  unfold otherRequest
  rw [hpurse]
  dsimp only
  split
  · rfl
  · cases (r.gParamTable.table idindex).function with
    | none => rfl
    | some f =>
      have hcall := callFunction_origin run buffer (some f)
        (show ({ r with tagDataOrigin := .sourceFromUDP } : Reader).toGlobals
          = ({ r with tagDataOrigin := .sourceFrom232 } : Reader).toGlobals from rfl) rfl
      dsimp only at hcall ⊢
      rw [Option.map_map, Option.map_map]
      refine map_congr_of_map_eq hcall ?_
      rintro ⟨m, r₁⟩ ⟨m', r₂⟩ hsame
      obtain ⟨rfl, hglobals⟩ := Prod.mk.inj hsame
      exact finishOther_udp m' hglobals

/-- Up to the function, the origin only matters for the layout. -/
theorem storeRequest_udp :
  let stored := storeRequest .sourceFrom232 idindex buffer r
  ∃ o, paraOff o = paraOff stored.2.2.tagDataOrigin
    ∧ storeRequest .sourceFromUDP idindex buffer r
      = (stored.1, stored.2.1, { stored.2.2 with tagDataOrigin := o })
  := by
  unfold storeRequest
  dsimp only
  by_cases hbare : buffer 2 ∈ bareCmds
  · rw [if_pos hbare, if_pos hbare]
    refine ⟨if buffer 2 = 0x88 then .sourceFromUDP else r.tagDataOrigin, ?_, rfl⟩
    dsimp only
    split
    · rfl
    · rfl
  · rw [if_neg hbare, if_neg hbare]
    exact ⟨r.tagDataOrigin, rfl, rfl⟩

theorem writeRequest_udp :
  (writeRequest run .sourceFromUDP idindex buffer r).map withoutOrigin
    = (writeRequest run .sourceFrom232 idindex buffer r).map withoutOrigin
  := by
  obtain ⟨o, hlayout, hstored⟩ := storeRequest_udp buffer idindex r
  unfold writeRequest
  rw [hstored]
  generalize storeRequest .sourceFrom232 idindex buffer r = stored at *
  dsimp only
  split
  · have hcall := callFunction_origin run stored.2.1
      (stored.2.2.gParamTable.table idindex).function
      (show ({ stored.2.2 with tagDataOrigin := o } : Reader).toGlobals = stored.2.2.toGlobals
        from rfl) hlayout
    rw [Option.map_map, Option.map_map]
    refine map_congr_of_map_eq hcall ?_
    rintro ⟨m, r₁⟩ ⟨m', r₂⟩ hsame
    obtain ⟨rfl, hglobals⟩ := Prod.mk.inj hsame
    exact congrArg (fun g => (_, _, g)) hglobals
  · rfl

/-- Requests with the origins UDP and RS232 are processed alike. -/
theorem processWith_udp (length : ℕ) :
  (processWith run .sourceFromUDP buffer length r).map withoutOrigin
    = (processWith run .sourceFrom232 buffer length r).map withoutOrigin
  := by
  have hcheck : checkRequest .sourceFromUDP buffer length r.toGlobals
      = checkRequest .sourceFrom232 buffer length r.toGlobals := rfl
  have hread : readRequest run .sourceFromUDP = readRequest run .sourceFrom232 := rfl
  have hdispatch : (dispatch run .sourceFromUDP buffer r).map withoutOrigin
      = (dispatch run .sourceFrom232 buffer r).map withoutOrigin := by
    unfold dispatch
    dsimp only
    rw [hread]
    split
    · rfl
    · split
      · exact writeRequest_udp run buffer _ r
      · split
        · rfl
        · split
          · exact otherRequest_udp run buffer _ r
          · rfl
  unfold processWith
  rw [hcheck]
  dsimp only
  split
  · rw [Option.map_map, Option.map_map]
    apply map_congr_of_map_eq hdispatch
    rintro ⟨flag, m, r₁⟩ ⟨flag', m', r₂⟩ hsame
    simp only [withoutOrigin, Prod.mk.injEq] at hsame
    obtain ⟨rfl, rfl, hglobals⟩ := hsame
    exact congrArg (fun g => (_, _, g)) hglobals
  · rfl

end Origin

/-- What is sent for a datagram, when `pbuf_alloc` has memory for it. -/
theorem udpReceive_sends {alloc : ℕ → Bool} (halloc : ∀ n, alloc n = true) {u : SUipTransData}
    {r : Reader} {chain : List (List UInt8)} {b : Mem} {n : ℕ} (h : udpCall u chain = some (b, n)) :
  (udpReceive alloc u r chain).map (fun out => out.2.2)
    = (processParamTable .sourceFrom232 b n r).map serialBytes
  := by
  cases chain with
  | nil => cases h
  | cons payload rest =>
    unfold udpCall at h
    unfold udpReceive
    dsimp only at h ⊢
    split at h
    · cases h
    · rename_i hfits
      obtain ⟨rfl, rfl⟩ := Prod.mk.inj (Option.some.inj h)
      rw [if_neg hfits, Option.map_map]
      obtain ⟨hnone, hnone'⟩ | ⟨x, y, hx, hy, hsame⟩ :=
        map_eq_map_cases (processWith_udp runHandler (u.arrive payload).load r
          (u.arrive payload).len)
      · rw [processParamTable, processParamTable, hnone, hnone']
        rfl
      · have hshort := processParamTable_fits (o := .sourceFrom232) hx
        rw [processParamTable, processParamTable, hx, hy]
        obtain ⟨flag, m, r₁⟩ := x
        obtain ⟨flag', m', r₂⟩ := y
        simp only [withoutOrigin, Prod.mk.injEq] at hsame
        obtain ⟨rfl, rfl, -⟩ := hsame
        simp only [Option.map_some, Function.comp_apply, Option.some.injEq]
        unfold serialBytes
        split
        · rename_i hflag
          have hcount := hshort hflag
          have hone : ((u.arrive payload).written m').load 1 = m' 1 := rfl
          dsimp only at hcount ⊢
          unfold udpSendData SLocalTransData.sendBytes
          rw [if_pos (halloc _), hone, if_neg (Nat.not_le.mpr hcount)]
          refine SLocalTransData.load_of_buf rfl ?_
          simp only [bufLen] at hcount
          omega
        · rfl

/-- The call has the length of the first pbuf, so that nothing may be left for the others. -/
theorem ServedLikeSerial.whole {alloc : ℕ → Bool} {u : SUipTransData} {r : Reader}
    {frame : List UInt8} {chain : List (List UInt8)} (h : ServedLikeSerial alloc u r frame chain)
    (hshort : 4 ≤ frame.length) (hlong : frame.length ≤ 255)
    (hframe : Framing.IsFrame bootCode frame) (hchain : chain.flatten = frame) :
  chain.head? = some frame
  := by
  obtain ⟨b, b', n, hserial, hudp, -⟩ := h.call .cleared ⟨rfl, rfl⟩
  obtain ⟨b₁, hserial₁, -⟩ := serialCall_eq (l := .cleared) ⟨rfl, rfl⟩ hframe hshort hlong
  obtain ⟨-, hn⟩ := Prod.mk.inj (Option.some.inj (hserial₁.symm.trans hserial))
  cases chain with
  | nil => cases hudp
  | cons payload rest =>
    have hlen : payload.length = n := by
      unfold udpCall at hudp
      dsimp only at hudp
      split at hudp
      · cases hudp
      · exact (Prod.mk.inj (Option.some.inj hudp)).2
    rw [List.flatten_cons] at hchain
    have hrest : rest.flatten = [] := by
      have hsum := congrArg List.length hchain
      rw [List.length_append] at hsum
      exact List.eq_nil_of_length_eq_zero (by omega)
    rw [hrest, List.append_nil] at hchain
    rw [List.head?_cons, hchain]

/-- A request in a datagram is served like one on RS232 if and only if the first pbuf holds all
of it. -/
theorem udp_served_iff (alloc : ℕ → Bool) (halloc : ∀ n, alloc n = true) (u : SUipTransData)
    (r : Reader) (frame : List UInt8) (chain : List (List UInt8)) (hshort : 4 ≤ frame.length)
    (hlong : frame.length ≤ 253) (hframe : Framing.IsFrame bootCode frame)
    (hchain : chain.flatten = frame) :
  ServedLikeSerial alloc u r frame chain ↔ chain.head? = some frame
  := by
  constructor
  · intro h
    exact h.whole hshort (by omega) hframe hchain
  · intro hfirst
    obtain ⟨rest, rfl⟩ := List.head?_eq_some_iff.mp hfirst
    have hudp : udpCall u (frame :: rest) = some ((u.arrive frame).load, frame.length) := by
      have hlen : (u.arrive frame).len = frame.length := rfl
      have hfits : ¬ ((u.arrive frame).len < 4 ∨ (u.arrive frame).len > bufLen) := by
        rw [hlen]
        simp only [bufLen]
        omega
      unfold udpCall
      dsimp only
      rw [if_neg hfits, hlen]
    constructor
    · intro l hidle
      obtain ⟨b, hserial, hbytes⟩ := serialCall_eq hidle hframe hshort (by omega)
      exact ⟨b, _, _, hserial, hudp, (u.load_arrive (by omega)).trans hbytes.symm⟩
    · intro b n h
      exact udpReceive_sends halloc h

/-- The record of the UDP module after start-up. -/
def SUipTransData.initial : SUipTransData := ⟨Block.zero 255, 0, 0, .cleared⟩

/-- A request for the version, which one pbuf holds. -/
theorem udp_served_version :
  ServedLikeSerial (fun _ => true) .initial (powerOn .blank) [0x40, 0x02, 0x02, 0xBC]
    [[0x40, 0x02, 0x02, 0xBC]]
  :=
  (udp_served_iff (fun _ => true) (fun _ => rfl) .initial (powerOn .blank)
    [0x40, 0x02, 0x02, 0xBC] [[0x40, 0x02, 0x02, 0xBC]] (by decide) (by decide)
    ⟨rfl, rfl⟩ rfl).mpr rfl

/-- A request to write 206 bytes to an ISO18000-6B tag. -/
def longRequest : List UInt8 :=
  requestFrame .sourceFrom232 0xF5 0 (List.replicate 9 0 ++ 206 :: List.replicate 206 0)

/-- Of 220 bytes, 214 are in the first pbuf behind the headers: a request that passes the checks on
RS232 is answered with an error. -/
theorem long_request_cut :
  longRequest.length = 220 ∧ Framing.IsFrame bootCode longRequest
    ∧ (udpReceive (fun _ => true) .initial (powerOn .blank)
        [longRequest.take 214, longRequest.drop 214]).map (fun out => out.2.2)
      = some [0xF4, 0x03, 0xF5, ortherWrong, 0xF4]
    ∧ ((serialCall .cleared longRequest).map fun c =>
        checkRequest .sourceFrom232 c.1 c.2 (powerOn .blank).toGlobals) = some cmdoorCheckOk
    ∧ ¬ ServedLikeSerial (fun _ => true) .initial (powerOn .blank) longRequest
      [longRequest.take 214, longRequest.drop 214]
  := by
  have hlength : longRequest.length = 220 := by decide +kernel
  have hframe : Framing.IsFrame bootCode longRequest := ⟨by decide +kernel, by decide +kernel⟩
  refine ⟨hlength, hframe, ?_, ?_, ?_⟩
  · rw [powerOn_eq]
    decide +kernel
  · rw [powerOn_eq]
    decide +kernel
  · intro h
    have hfirst := h.whole (by omega) (by omega) hframe (by simp)
    have hcut := congrArg List.length (Option.some.inj hfirst)
    rw [List.length_take, hlength] at hcut
    exact absurd hcut (by decide)

end UhfReader
