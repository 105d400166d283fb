import UhfReader.LengthChecks
import UhfReader.Resync

/-!
# Access to a tag

A request to read, write or destroy a tag is translated for the R2000: a frame selects the tag by
its identifier, and when the R2000 has confirmed this, a second frame carries the access.  The
requests for ISO18000-6B tags are single frames.  `accessFrames` says what is to be sent, with the
places of the parameters computed without wrapping around.

`ReadAnswer` is the answer to a read.  `EPC1G2_ReadWordBlock` finds the data in it from the end.
-/

open Memory Stateful

namespace UhfReader

/-! ### The frames of a request -/

/-- The words of the identifier in a request. -/
def idWords (p : Mem) : ℕ := (p 0).toNat

/-- The frame that selects a tag by its identifier. -/
def selectFrame (p : Mem) : List UInt8 :=
  frameBytes 0x85 ([0, UInt8.ofNat (2 * idWords p)] ++ (p.shift 1).take (2 * idWords p))

/-- The commands that read or destroy a tag, and those for ISO18000-6B tags. -/
def accessCmds : List UInt8 := [0xEC, 0xE8, 0xF6, 0xF5, 0xF4, 0xF3]

/-- The frames that a request of `accessCmds` stands for. -/
def accessFrames (cmd : UInt8) (p : Mem) : List (List UInt8) :=
  -- the place behind the identifier
  let k := 2 * idWords p + 1
  match cmd with
  | 0xEC => [selectFrame p,
      frameBytes 0x81 ([p k, p (k + 1), p (k + 2)] ++ (p.shift (k + 3)).take 4)]
  | 0xE8 => [selectFrame p, frameBytes 0x84 ((p.shift k).take 4)]
  | 0xF6 => [frameBytes 0xB1 (p.take 8 ++ [p 8, p 9])]
  | 0xF5 => [frameBytes 0xB2 (p.take 8 ++ [p 8, p 9] ++ (p.shift 10).take (p 9).toNat)]
  | 0xF4 => [frameBytes 0xB3 (p.take 8 ++ [p 8])]
  | 0xF3 => [frameBytes 0xB4 (p.take 8 ++ [p 8])]
  | _ => []

/-- The length byte of a request of `accessCmds`, for its identifier and its data. -/
def accessLen (o : CmdOrigin) (cmd : UInt8) (p : Mem) : ℕ :=
  let n :=
    match cmd with
    | 0xEC => 10 + 2 * idWords p
    | 0xE8 => 7 + 2 * idWords p
    | 0xF6 => 12
    | 0xF5 => 12 + (p 9).toNat
    | 0xF4 => 11
    | 0xF3 => 11
    | _ => 0
  n + ((emptyLen o).toNat - 2)

/-- The R2000 confirms that the tag is selected, if it is asked to. -/
def SelectAcked (cmd : UInt8) (p : Mem) (g : Globals) : Prop :=
  cmd ∈ [(0xEC : UInt8), 0xE8] → Confirmed 0x85 p g

/-- The length byte of a frame counts the bytes behind it, and the bytes sum to zero. -/
structure ProperFrame (f : List UInt8) : Prop where
  frame : Framing.IsFrame 0xA0 f
  sum : f.sum = 0

theorem properFrame_frameBytes (cmd : UInt8) {fields : List UInt8} (h : fields.length ≤ 250) :
  ProperFrame (frameBytes cmd fields)
  := ⟨(isAnswer_frameBytes cmd h).frame, (isAnswer_frameBytes cmd h).sum⟩

section Fields

variable {o : CmdOrigin} {b p : Mem}

/-- An identifier that fits is not longer in eight bits. -/
theorem idBytes_eq_idWords (h : idWords p < 128) :
  idBytes p = 2 * idWords p
  := by
  rw [idBytes_eq, ← idWords, Nat.mod_eq_of_lt (by omega)]

/-- The fields of the frame that selects a tag. -/
theorem selectFields (h : idWords p < 128) :
  [0, p 0 * 2] ++ (p.shift 1).take (idBytes p)
    = [0, UInt8.ofNat (2 * idWords p)] ++ (p.shift 1).take (2 * idWords p)
  := by
  have hbyte : p 0 * 2 = UInt8.ofNat (idBytes p) := (UInt8.ofNat_toNat).symm
  rw [hbyte, idBytes_eq_idWords h]

theorem length_selectFrame (p : Mem) :
  (selectFrame p).length = 2 * idWords p + 7
  := by
  rw [selectFrame, length_frameBytes, List.length_append, Mem.length_take]
  simp only [List.length_cons, List.length_nil]
  omega

/-- A request with the right length passes the check of its length. -/
theorem purse_of_accessLen (hcmd : b 2 ∈ accessCmds)
    (hlen : (b 1).toNat = accessLen o (b 2) (b.shift (paraOff o))) :
  tagDataLenPurse o b = cmdoorCheckOk
  := by
  have hbyte := (b 1).toNat_lt
  have hwords : ∀ p : Mem, (p 0 * 2).toNat = idBytes p := fun _ => rfl
  have hid : idWords (b.shift (paraOff o)) < 128 →
      idBytes (b.shift (paraOff o)) = 2 * idWords (b.shift (paraOff o)) := idBytes_eq_idWords
  rw [tagDataLenPurse_ok_iff]
  intro n hn
  simp only [accessCmds, List.mem_cons, List.not_mem_nil, or_false] at hcmd
  obtain hb | hb | hb | hb | hb | hb := hcmd
  all_goals
    rw [hb] at hlen hn
    simp only [accessLen] at hlen
    simp only [tagDataLen, Option.some.injEq, hwords] at hn
    omega

end Fields

/-! ### What the functions send -/

section Sent

variable {p q : Mem} {g g' : Globals}

/-- After the R2000 has confirmed the selection, the access is carried out. -/
theorem selectTag_confirmed {access : M Mem} (hid : idWords p ≤ 123)
    (h : selectTag p access g = some (q, g')) (hconfirmed : Confirmed 0x85 p g) :
  ∃ g₂, g₂.sent = g.sent ++ [selectFrame p] ∧ access g₂ = some (q, g')
  := by
  have hbytes : idBytes p = 2 * idWords p := idBytes_eq_idWords (by omega)
  have hfit : ([0, p 0 * 2] ++ (p.shift 1).take (idBytes p)).length + 5 < bufLen := by
    rw [List.length_append, Mem.length_take]
    simp only [List.length_cons, List.length_nil, bufLen]
    omega
  obtain ⟨flagReturn, g₁, hask, hsent, h⟩ := asked_sent (by decide) rfl hfit h
  obtain ⟨_, _, hget, h⟩ := bind_eq_some h
  cases hget
  obtain ⟨g₂, hask', hpara⟩ := hconfirmed
  cases hask.symm.trans hask'
  rw [if_pos ⟨rfl, hpara⟩] at h
  obtain ⟨_, g₂, hdelay, h⟩ := bind_eq_some h
  rw [selectFields (by omega)] at hsent
  exact ⟨g₂, (delayMs_sent hdelay).trans hsent, h⟩

/-- What follows the answer to a command leaves the frames sent alone. -/
def Silent (m : M Mem) : Prop := ∀ g q g', m g = some (q, g') → g'.sent = g.sent

theorem silent_reply (p : Mem) (n : UInt8) :
  Silent (reply p n)
  := by
  intro g q g' h
  cases h
  rfl

theorem silent_fail (p : Mem) :
  Silent (fail p)
  := by
  intro g q g' h
  cases h
  rfl

theorem silent_beep {m : M Mem} (h : Silent m) :
  Silent (do beep; m)
  := by
  intro g q g' hrun
  have hrest : m { g with beepFlag := 1 } = some (q, g') := hrun
  exact h { g with beepFlag := 1 } q g' hrest

theorem silent_confirmAccess (flagReturn : UInt8) (p : Mem) :
  Silent (confirmAccess flagReturn p)
  := by
  intro g q g' h
  obtain ⟨_, _, hget, h⟩ := bind_eq_some h
  cases hget
  dsimp only at h
  split at h
  · exact silent_beep (silent_reply p 0) _ _ _ h
  · exact silent_fail p _ _ _ h

theorem silent_command6B {cmd : UInt8} {fields : List UInt8}
    {onFrame onShort : SR2000TransData → M Mem} (hknown : cmd ∈ knownCmds)
    (hframe : frameFields cmd 0 p g.tmpAntenna = some fields) (hfit : fields.length + 5 < bufLen)
    (honFrame : ∀ r, Silent (onFrame r)) (honShort : ∀ r, Silent (onShort r))
    (h : command6B cmd p onFrame onShort g = some (q, g')) :
  g'.sent = g.sent ++ [frameBytes cmd fields]
  := by
  obtain ⟨flagReturn, g₁, -, hsent, h⟩ := asked_sent hknown hframe hfit h
  rw [← hsent]
  split at h
  · obtain ⟨_, _, hget, h⟩ := bind_eq_some h
    cases hget
    split at h
    · exact silent_beep (honFrame _) _ _ _ h
    · exact honShort _ _ _ _ h
  · exact silent_fail p _ _ _ h

/-- A read sends the two frames. -/
theorem epc1g2ReadWordBlock_sent (hid : idWords p ≤ 123) (hconfirmed : Confirmed 0x85 p g)
    (h : epc1g2ReadWordBlock p g = some (q, g')) :
  g'.sent = g.sent ++ accessFrames 0xEC p
  := by
  have hbytes : idBytes p = 2 * idWords p := idBytes_eq_idWords (by omega)
  obtain ⟨g₂, hselect, h⟩ := selectTag_confirmed hid h hconfirmed
  obtain ⟨flagReturn, g₃, -, hsent, h⟩ := asked_sent (by decide) rfl
    (by rw [Mem.length_take]; decide) h
  have hfields : (p.shift (p 0 * 2 + 1).toNat).take 7
      = [p (2 * idWords p + 1), p (2 * idWords p + 1 + 1), p (2 * idWords p + 1 + 2)]
        ++ (p.shift (2 * idWords p + 1 + 3)).take 4 := by
    rw [toNat_idBytes_add_one, hbytes]
    rfl
  have hframes : g₃.sent = g.sent ++ accessFrames 0xEC p := by
    rw [hsent, hselect, hfields, List.append_assoc]
    rfl
  rw [← hframes]
  obtain ⟨_, _, hget, h⟩ := bind_eq_some h
  cases hget
  dsimp only at h
  split at h
  · exact silent_beep (silent_reply _ _) _ _ _ h
  · exact silent_fail p _ _ _ h

/-- The destruction of a tag sends the two frames. -/
theorem destroyTag_sent (hid : idWords p ≤ 123) (hconfirmed : Confirmed 0x85 p g)
    (h : destroyTag p g = some (q, g')) :
  g'.sent = g.sent ++ accessFrames 0xE8 p
  := by
  have hbytes : idBytes p = 2 * idWords p := idBytes_eq_idWords (by omega)
  obtain ⟨g₂, hselect, h⟩ := selectTag_confirmed hid h hconfirmed
  obtain ⟨flagReturn, g₃, -, hsent, h⟩ := asked_sent (by decide) rfl
    (by rw [Mem.length_take]; decide) h
  have hframes : g₃.sent = g.sent ++ accessFrames 0xE8 p := by
    rw [hsent, hselect, toNat_idBytes_add_one, hbytes, List.append_assoc]
    rfl
  rw [← hframes]
  exact silent_confirmAccess flagReturn p _ _ _ h

/-- The requests for ISO18000-6B tags send one frame. -/
theorem readByteBlock_sent (h : readByteBlock p g = some (q, g')) :
  g'.sent = g.sent ++ accessFrames 0xF6 p
  := by
  unfold readByteBlock at h
  refine silent_command6B (by decide) rfl ?_ ?_ ?_ h
  · rw [List.length_append, Mem.length_take]
    exact (by decide : 8 + 2 + 5 < bufLen)
  · intro r
    exact silent_reply _ _
  · intro r
    exact silent_fail p

theorem writeByteBlock_sent
    (hfit : (p.take 8 ++ [p 8, p 9] ++ (p.shift 10).take (p 9).toNat).length + 5 < bufLen)
    (h : writeByteBlock p g = some (q, g')) :
  g'.sent = g.sent ++ accessFrames 0xF5 p
  := by
  unfold writeByteBlock at h
  refine silent_command6B (by decide) rfl hfit ?_ ?_ h
  · intro r
    exact silent_reply _ _
  · intro r
    exact silent_fail p

theorem writeProtect_sent (h : writeProtect p g = some (q, g')) :
  g'.sent = g.sent ++ accessFrames 0xF4 p
  := by
  unfold writeProtect at h
  refine silent_command6B (by decide) rfl ?_ ?_ ?_ h
  · rw [List.length_append, Mem.length_take]
    exact (by decide : 8 + 1 + 5 < bufLen)
  · intro r
    exact silent_reply p 0
  · intro r
    exact silent_fail p

theorem readWriteProtect_sent (h : readWriteProtect p g = some (q, g')) :
  g'.sent = g.sent ++ accessFrames 0xF3 p
  := by
  unfold readWriteProtect at h
  refine silent_command6B (by decide) rfl ?_ ?_ ?_ h
  · rw [List.length_append, Mem.length_take]
    exact (by decide : 8 + 1 + 5 < bufLen)
  · intro r
    exact silent_reply _ 1
  · intro r
    exact silent_reply _ 1

end Sent

/-! ### The answer to a read -/

/-- A well-formed answer to `0x81`: the number of tags, the length of the data, PC, EPC and CRC of
the tag, the data read and their length, the antenna and the number of reads. -/
structure ReadAnswer where
  address : UInt8
  tagCount : UInt8 × UInt8
  dataLen : UInt8
  tag : List UInt8
  data : List UInt8
  antenna : UInt8
  readCount : UInt8
  short : tag.length + data.length ≤ 244

namespace ReadAnswer

variable (a : ReadAnswer)

/-- The bytes before the data. -/
def front : List UInt8 :=
  [0xA0, UInt8.ofNat (a.tag.length + a.data.length + 9), a.address, 0x81, a.tagCount.1,
    a.tagCount.2, a.dataLen] ++ a.tag

/-- The frame up to its checksum. -/
def body : List UInt8 :=
  a.front ++ (a.data ++ [UInt8.ofNat a.data.length, a.antenna, a.readCount])

/-- The frame of the answer. -/
def bytes : List UInt8 := a.body ++ [~~~ a.body.sum + 1]

theorem length_front :
  a.front.length = a.tag.length + 7
  := by
  rw [front, List.length_append, Nat.add_comm]
  rfl

theorem length_bytes :
  a.bytes.length = a.tag.length + a.data.length + 11
  := by
  simp only [bytes, body, List.length_append, length_front, List.length_cons, List.length_nil]
  omega

theorem isAnswer :
  IsAnswer 0x81 a.bytes
  := by
  have hlength := a.length_bytes
  have hshort := a.short
  refine ⟨⟨rfl, ?_⟩, by omega, by omega, rfl, sum_closed _⟩
  have hone : a.bytes.getD 1 0 = UInt8.ofNat (a.tag.length + a.data.length + 9) := rfl
  rw [hone, hlength, UInt8.toNat_ofNat']
  omega

variable {a} {r : SR2000TransData}

/-- The length byte of the answer in the buffer. -/
theorem frameLen_toNat (h : r.load.take a.bytes.length = a.bytes) :
  r.frameLen.toNat = a.tag.length + a.data.length + 9
  := by
  have hlength := a.length_bytes
  have hshort := a.short
  have hone : r.frameLen = UInt8.ofNat (a.tag.length + a.data.length + 9) :=
    getD_of_take h (i := 1) (by omega)
  rw [hone, UInt8.toNat_ofNat']
  omega

theorem frameLen_long (h : r.load.take a.bytes.length = a.bytes) :
  r.frameLen > 4
  := by
  rw [gt_iff_lt, UInt8.lt_iff_toNat_lt, frameLen_toNat h]
  simp only [UInt8.reduceToNat]
  omega

/-- Behind the front of the answer stand the data, and behind these their length. -/
theorem data_in_buffer (h : r.load.take a.bytes.length = a.bytes) :
  (r.load.shift (a.tag.length + 7)).take a.data.length = a.data
    ∧ r.load (a.tag.length + 7 + a.data.length) = UInt8.ofNat a.data.length
  := by
  obtain ⟨hbody, -⟩ := Mem.take_append h
  obtain ⟨-, hrest⟩ := Mem.take_append hbody
  obtain ⟨hdata, hback⟩ := Mem.take_append hrest
  rw [length_front] at hdata hback
  refine ⟨hdata, ?_⟩
  have hlen := getD_of_take hback (i := 0) (by simp)
  rwa [Mem.shift_apply, Mem.shift_apply, Nat.add_zero] at hlen

end ReadAnswer

/-- The R2000 confirms the selection of the tag and answers the read. -/
def ReadAnswered (p : Mem) (g : Globals) (a : ReadAnswer) : Prop :=
  ∃ g₁ g₂ g₃, encodeR2000 0x85 p g = some (0, g₁) ∧ g₁.r2000.para 0 = commandSuccess
    ∧ delayMs g₁ = some ((), g₂) ∧ encodeR2000 0x81 p g₂ = some (0, g₃)
    ∧ g₃.r2000.load.take a.bytes.length = a.bytes

/-- The handler copies the data of the answer to the parameters. -/
theorem epc1g2ReadWordBlock_answered {p q : Mem} {g g' : Globals} {a : ReadAnswer}
    (ha : ReadAnswered p g a) (h : epc1g2ReadWordBlock p g = some (q, g')) :
  q.take a.data.length = a.data ∧ g'.cmdTmpLen.toNat = a.data.length
  := by
  obtain ⟨g₁, g₂, g₃, hselect, hconfirmed, hdelay, hread, hbytes⟩ := ha
  have hshort := a.short
  have hlen := ReadAnswer.frameLen_toNat hbytes
  obtain ⟨hdata, hcount⟩ := ReadAnswer.data_in_buffer hbytes
  have hlong := ReadAnswer.frameLen_long hbytes
  have hlast : (g₃.r2000.frameLen - 2).toNat = a.tag.length + 7 + a.data.length := by
    rw [UInt8.toNat_sub, hlen]
    simp only [UInt8.reduceToNat]
    omega
  have hn : (UInt8.ofNat a.data.length).toNat = a.data.length := by
    rw [UInt8.toNat_ofNat']
    omega
  obtain ⟨_, _, hasked, h⟩ := bind_eq_some h
  cases hasked.symm.trans hselect
  obtain ⟨_, _, hget, h⟩ := bind_eq_some h
  cases hget
  rw [if_pos ⟨rfl, hconfirmed⟩] at h
  obtain ⟨_, _, hdelayed, h⟩ := bind_eq_some h
  cases hdelayed.symm.trans hdelay
  obtain ⟨_, _, hasked, h⟩ := bind_eq_some h
  cases hasked.symm.trans hread
  obtain ⟨_, _, hget, h⟩ := bind_eq_some h
  cases hget
  dsimp only at h
  rw [if_pos ⟨rfl, hlong⟩, hlast, hcount, hn] at h
  cases h
  refine ⟨?_, hn⟩
  refine (Mem.AgreeBelow.take_eq ?_).trans hdata
  intro i hi
  have hplace : (((a.tag.length + 7 + a.data.length : ℕ) : ℤ) - (a.data.length : ℕ) + (i : ℕ))
      = ((a.tag.length + 7 + i : ℕ) : ℤ) := by omega
  have hinside := @Mem.copy_inside p 0 (fun i => g₃.r2000.loadInt
    (((a.tag.length + 7 + a.data.length : ℕ) : ℤ) - (a.data.length : ℕ) + (i : ℕ)))
    a.data.length i hi
  rw [Nat.zero_add] at hinside
  rw [hinside, hplace, SR2000TransData.loadInt, if_pos (Int.natCast_nonneg _), Int.toNat_natCast]
  rfl

/-! ### A request -/

section Request

variable {o : CmdOrigin} {b : Mem} {length : ℕ} {r : Reader} {reply : UInt8 × Mem × Reader}

/-- The function of a request of `accessCmds` sends its frames. -/
theorem access_function {cmd : UInt8} (hcmd : cmd ∈ accessCmds) :
  ∃ f, (cmd, f) ∈ otherFunctions ∧ ∀ (before : UInt8) (p q : Mem) (g g' : Globals),
    (∀ frame ∈ accessFrames cmd p, frame.length < bufLen) → SelectAcked cmd p g →
      f.run before p g = some (q, g') → g'.sent = g.sent ++ accessFrames cmd p
  := by
  have hid : ∀ p : Mem, (selectFrame p).length < bufLen → idWords p ≤ 123 := by
    intro p hp
    rw [length_selectFrame, bufLen] at hp
    omega
  simp only [accessCmds, List.mem_cons, List.not_mem_nil, or_false] at hcmd
  obtain rfl | rfl | rfl | rfl | rfl | rfl := hcmd
  · refine ⟨.epc1g2ReadWordBlock, by decide, ?_⟩
    intro before p q g g' hshort hselect h
    exact epc1g2ReadWordBlock_sent (hid p (hshort _ List.mem_cons_self)) (hselect (by decide)) h
  · refine ⟨.destroyTag, by decide, ?_⟩
    intro before p q g g' hshort hselect h
    exact destroyTag_sent (hid p (hshort _ List.mem_cons_self)) (hselect (by decide)) h
  · refine ⟨.readByteBlock, by decide, ?_⟩
    intro before p q g g' hshort hselect h
    exact readByteBlock_sent h
  · refine ⟨.writeByteBlock, by decide, ?_⟩
    intro before p q g g' hshort hselect h
    have hfit := hshort _ List.mem_cons_self
    rw [length_frameBytes] at hfit
    exact writeByteBlock_sent hfit h
  · refine ⟨.writeProtect, by decide, ?_⟩
    intro before p q g g' hshort hselect h
    exact writeProtect_sent h
  · refine ⟨.readWriteProtect, by decide, ?_⟩
    intro before p q g g' hshort hselect h
    exact readWriteProtect_sent h

/-- The frames of a request are proper. -/
theorem accessFrames_proper {cmd : UInt8} {p : Mem} {frame : List UInt8}
    (h : frame ∈ accessFrames cmd p) (hshort : frame.length < bufLen) :
  ProperFrame frame
  := by
  have hproper : ∀ (cmd : UInt8) (fields : List UInt8), (frameBytes cmd fields).length < bufLen →
      ProperFrame (frameBytes cmd fields) := by
    intro cmd fields hlen
    rw [length_frameBytes, bufLen] at hlen
    exact properFrame_frameBytes cmd (by omega)
  unfold accessFrames at h
  dsimp only at h
  split at h
  all_goals simp only [List.mem_cons, List.not_mem_nil, or_false] at h
  · obtain rfl | rfl := h
    · exact hproper _ _ hshort
    · exact hproper _ _ hshort
  · obtain rfl | rfl := h
    · exact hproper _ _ hshort
    · exact hproper _ _ hshort
  · rw [h] at hshort ⊢
    exact hproper _ _ hshort
  · rw [h] at hshort ⊢
    exact hproper _ _ hshort
  · rw [h] at hshort ⊢
    exact hproper _ _ hshort
  · rw [h] at hshort ⊢
    exact hproper _ _ hshort

/-- A valid request to read, write, protect or destroy a tag is translated faithfully: when the
R2000 confirms the selection of the tag, its frames are sent and no others, each with the right
length byte and checksum, and the reply to a read has the data of the answer for its parameters. -/
theorem access_translated (r : Reader) (hreg : Registered r.gParamTable) (o : CmdOrigin)
    (b : Mem) (length : ℕ) (hvalid : Valid o b length r.toGlobals) (hcmd : b 2 ∈ accessCmds)
    (hlen : (b 1).toNat = accessLen o (b 2) (b.shift (paraOff o)))
    (hshort : ∀ frame ∈ accessFrames (b 2) (b.shift (paraOff o)), frame.length ≤ 254)
    (hselect : SelectAcked (b 2) (b.shift (paraOff o)) r.toGlobals)
    (reply : UInt8 × Mem × Reader) (h : processParamTable o b length r = some reply) :
  reply.2.2.sent = r.sent ++ accessFrames (b 2) (b.shift (paraOff o))
    ∧ (∀ frame ∈ accessFrames (b 2) (b.shift (paraOff o)), ProperFrame frame)
    ∧ (b 2 = 0xEC → ∀ a, ReadAnswered (b.shift (paraOff o)) r.toGlobals a →
      reply.1 = cmdoorCheckOk ∧ replyPara o reply.2.1 = a.data)
  := by
  have hfits : ∀ frame ∈ accessFrames (b 2) (b.shift (paraOff o)), frame.length < bufLen :=
    fun frame hframe => Nat.lt_succ_of_le (hshort frame hframe)
  obtain ⟨f, hmem, hsends⟩ := access_function hcmd
  have hrun := h
  rw [process_function hreg hvalid hmem (purse_of_accessLen hcmd hlen),
    Option.map_eq_some_iff] at hrun
  obtain ⟨⟨q, g'⟩, hf, hreply⟩ := hrun
  refine ⟨?_, fun frame hframe => accessFrames_proper hframe (hfits frame hframe), ?_⟩
  · rw [← hsends _ _ _ _ _ hfits hselect hf, ← hreply]
    exact congrArg (fun r : Reader => r.sent) (finishOther_reader o _)
  · intro hread a ha
    have hmem' : (b 2, Handler.epc1g2ReadWordBlock) ∈ otherFunctions := by
      rw [hread]
      decide
    rw [process_function hreg hvalid hmem' (purse_of_accessLen hcmd hlen),
      Option.map_eq_some_iff] at h
    obtain ⟨⟨q, g'⟩, hf, rfl⟩ := h
    obtain ⟨hdata, hn⟩ := epc1g2ReadWordBlock_answered ha hf
    have hdataShort := a.short
    have hempty : (emptyLen o).toNat ≤ 3 := by cases o <;> decide
    obtain ⟨hok, hpara⟩ := replyPara_function (o := o) (q := q) hn
      (by simp only [bufLen]; omega) b
    exact ⟨hok, hpara.trans hdata⟩

/-- A tag with the identifier `E2 00`, of which two words are read. -/
def tagAnswer : ReadAnswer where
  address := 0xFF
  tagCount := (0, 1)
  dataLen := 10
  tag := [0x08, 0x00, 0xE2, 0x00, 0x5A, 0xA5]
  data := [1, 2, 3, 4]
  antenna := 0
  readCount := 1
  short := by decide

/-- What a new reader is connected to: an R2000 that answers each command with the next of the
given frames, and is silent where a list is empty. -/
def answering (frames : List (List UInt8)) : Surroundings :=
  { Surroundings.blank with traffic := frames.map fun frame => frame.map .rx ++ [.poll] }

/-- A new reader is set to command mode and told to read two words of a tag, which the R2000
answers. -/
theorem access_translated_read :
  let e := answering [frameBytes 0x85 [commandSuccess], [], tagAnswer.bytes]
  let b := requestBuffer .sourceFrom232 0xEC 0 [1, 0xE2, 0, 3, 0, 2, 0, 0, 0, 0] fun _ => 0
  ∃ buffer₀ r reply, processParamTable .sourceFrom232 commandModeRequest 5 (powerOn e)
      = some (cmdoorCheckOk, buffer₀, r)
    ∧ processParamTable .sourceFrom232 b 14 r = some reply
    ∧ reply.2.2.sent = r.sent ++ [[0xA0, 0x07, 0xFF, 0x85, 0, 2, 0xE2, 0, 0xF1],
      [0xA0, 0x0A, 0xFF, 0x81, 3, 0, 2, 0, 0, 0, 0, 0xD1]]
    ∧ reply.1 = cmdoorCheckOk ∧ replyPara .sourceFrom232 reply.2.1 = [1, 2, 3, 4]
  := by
  intro e b
  have heval : ((processParamTable .sourceFrom232 commandModeRequest 5 (powerOn e)).bind
      fun mode => (encodeR2000 0x85 (b.shift 3) mode.2.2.toGlobals).bind
        fun selected => (delayMs selected.2).bind
        fun delayed => (encodeR2000 0x81 (b.shift 3) delayed.2).bind
        fun read => (processParamTable .sourceFrom232 b 14 mode.2.2).map
        fun _ => ([mode.1, checkRequest .sourceFrom232 b 14 mode.2.2.toGlobals, selected.1,
          selected.2.r2000.para 0, read.1], modeAllows (b 2) mode.2.2.toGlobals,
          read.2.r2000.load.take tagAnswer.bytes.length))
      = some ([cmdoorCheckOk, cmdoorCheckOk, 0, commandSuccess, 0], true, tagAnswer.bytes) := by
    rw [powerOn_eq]
    decide +kernel
  obtain ⟨⟨flag₀, buffer₀, r⟩, hmode, heval⟩ := Option.bind_eq_some_iff.mp heval
  obtain ⟨⟨flag₁, g₁⟩, hselect, heval⟩ := Option.bind_eq_some_iff.mp heval
  obtain ⟨⟨_, g₂⟩, hdelay, heval⟩ := Option.bind_eq_some_iff.mp heval
  obtain ⟨⟨flag₃, g₃⟩, hread, heval⟩ := Option.bind_eq_some_iff.mp heval
  obtain ⟨reply, hreply, heq⟩ := Option.map_eq_some_iff.mp heval
  simp only [Prod.mk.injEq, List.cons.injEq, and_true] at heq
  obtain ⟨⟨rfl, hcheck, rfl, hconfirmed, rfl⟩, hallows, hbytes⟩ := heq
  obtain ⟨hsent, -, hpara⟩ := access_translated r (registered_commandMode hmode) .sourceFrom232 b 14
    (valid_of_check hcheck ((modeAllows_iff b _).mp hallows)) (by decide) (by decide) (by decide)
    (fun _ => ⟨g₁, hselect, hconfirmed⟩) reply hreply
  have hframes : accessFrames (b 2) (b.shift (paraOff .sourceFrom232))
      = [[0xA0, 0x07, 0xFF, 0x85, 0, 2, 0xE2, 0, 0xF1],
        [0xA0, 0x0A, 0xFF, 0x81, 3, 0, 2, 0, 0, 0, 0, 0xD1]] := by decide
  rw [hframes] at hsent
  obtain ⟨hok, hdata⟩ := hpara (by decide) tagAnswer
    ⟨g₁, g₂, g₃, hselect, hconfirmed, hdelay, hread, hbytes⟩
  exact ⟨buffer₀, r, reply, hmode, hreply, hsent, hok, hdata⟩

end Request

end UhfReader
