import UhfReader.Validation

/-!
# The form of replies

Each kind of request computes the length byte of its reply on its own, in 8-bit arithmetic
that can wrap.  `packet` refuses every length for which there would be no proper frame, so
whatever the functions of the table leave in the buffer and in `cmdTmpLen`, a reply that is
sent is well formed.
-/

open Memory

namespace UhfReader

/-- A reply frame to the command `cmd`, with the flag that `processParamTable` returns. -/
structure ReplyFrame (o : CmdOrigin) (cmd flag : UInt8) (buffer : Mem) : Prop where
  boot : buffer 0 = if flag = cmdoorCheckOk then 0xF0 else 0xF4
  cmd : buffer 2 = cmd
  long : emptyLen o ≤ buffer 1
  short : (buffer 1).toNat + 2 < bufLen
  sum : byteSum buffer ((buffer 1).toNat + 2) = 0

/-! ### The command byte -/

theorem two_lt_paraOff (o : CmdOrigin) :
  2 < paraOff o
  := by
  cases o <;> decide

theorem toNat_emptyLen_succ (o : CmdOrigin) :
  (emptyLen o).toNat + 1 = paraOff o
  := by
  cases o <;> rfl

/-- A length byte that counts `n` parameters. -/
theorem toNat_emptyLen_add {o : CmdOrigin} {n : UInt8} (h : n.toNat < 253) :
  (emptyLen o + n).toNat = (emptyLen o).toNat + n.toNat
  := by
  rw [UInt8.toNat_add]
  cases o <;> simp only [emptyLen, UInt8.reduceToNat] <;> omega

/-- Setting the length byte keeps the command byte. -/
theorem putLen_cmd (buffer : Mem) (b : UInt8) :
  (buffer.put 1 b) 2 = buffer 2
  := Mem.put_of_ne (by decide)

section Dispatch

variable {run : HandlerRun} {o : CmdOrigin} {i length : ℕ} {buffer : Mem} {r : Reader}

theorem storeRequest_cmd (o : CmdOrigin) (i : ℕ) (buffer : Mem) (r : Reader) :
  (storeRequest o i buffer r).2.1 2 = buffer 2
  := by
  unfold storeRequest
  dsimp only
  split
  · rfl
  · dsimp only
    rw [putLen_cmd]

/-- Filling in a value and counting it in the length byte keeps the command byte. -/
theorem putLen_copy_cmd {off : ℕ} (h : 2 < off) (buffer src : Mem) (n : ℕ) (b : UInt8) :
  ((buffer.copy off src n).put 1 b) 2 = buffer 2
  := by
  rw [putLen_cmd, Mem.copy_below h]

theorem loadValue_cmd (o : CmdOrigin) (i : ℕ) (buffer : Mem) (g : Globals) :
  (loadValue o i buffer g).1 2 = buffer 2
  := by
  have hoff := two_lt_paraOff o
  unfold loadValue
  dsimp only
  split
  · split
    · dsimp only
      rw [putLen_copy_cmd hoff]
    · rfl
  · split
    · dsimp only
      rw [putLen_copy_cmd hoff]
    · split
      · unfold loadTagFilter
        dsimp only
        rw [putLen_copy_cmd (by omega), Mem.copy_below hoff]
      · dsimp only
        rw [putLen_copy_cmd hoff]

/-- Carrying out a request keeps its command byte. -/
theorem dispatch_cmd {outcome : UInt8 × Mem × Reader}
    (h : dispatch run o buffer r = some outcome) :
  outcome.2.1 2 = buffer 2
  := by
  obtain rfl | rfl | hw | hr | ho := dispatch_cases h
  · rfl
  · rfl
  · obtain ⟨-, rfl⟩ | ⟨called, -, hcall, rfl⟩ := writeRequest_cases hw
    · exact storeRequest_cmd _ _ _ _
    · exact (callFunction_below (by decide) hcall).trans (storeRequest_cmd _ _ _ _)
  · obtain ⟨-, rfl⟩ | ⟨called, -, hcall, rfl⟩ := readRequest_cases hr
    · rfl
    · exact (loadValue_cmd _ _ _ _).trans (callFunction_below (by decide) hcall)
  · obtain ⟨-, rfl⟩ | ⟨-, -, rfl⟩ | ⟨f, called, -, -, hcall, rfl⟩ := otherRequest_cases ho
    · rfl
    · dsimp only
      rw [putLen_cmd]
    · have hcmd : called.1 2 = buffer 2 := callFunction_below (by decide) hcall
      unfold finishOther
      split
      · exact hcmd
      · dsimp only
        rw [putLen_cmd, hcmd]

end Dispatch

/-! ### Packing -/

/-- A buffer whose length byte is `n` is closed by the checksum at `n + 1`. -/
theorem byteSum_setChecksum {buffer : Mem} {pos : ℕ} (hpos : pos = (buffer 1).toNat + 1) :
  byteSum (buffer.put pos (setChecksum buffer ((buffer 1).toNat + 1))) ((buffer 1).toNat + 2) = 0
  := by
  rw [hpos]
  exact byteSum_close buffer ((buffer 1).toNat + 1)

/-- The reply to a request that failed is a frame with the flag as its parameter. -/
theorem packet_error_frame {o : CmdOrigin} {flag : UInt8} (buffer : Mem)
    (h : flag ≠ cmdoorCheckOk) :
  ReplyFrame o (buffer 2) flag (packet o flag buffer bufLen).2
  := by
  have hoff := two_lt_paraOff o
  unfold packet
  rw [if_pos h]
  dsimp only
  generalize hb : ((buffer.put 0 0xF4).put 1 (emptyLen o + 1)).put (paraOff o) flag = b
  have hlen : b 1 = emptyLen o + 1 := by
    rw [← hb, Mem.put_of_ne (by omega), Mem.put_same]
  have hpos : paraOff o + 1 = (b 1).toNat + 1 := by
    rw [hlen]
    cases o <;> decide
  refine ⟨?_, ?_, ?_, ?_, ?_⟩
  · rw [if_neg h, Mem.put_of_ne (by omega), ← hb, Mem.put_of_ne (by omega),
      Mem.put_of_ne (by decide), Mem.put_same]
  · rw [Mem.put_of_ne (by omega), ← hb, Mem.put_of_ne (by omega), Mem.put_of_ne (by decide),
      Mem.put_of_ne (by decide)]
  · rw [Mem.put_of_ne (by omega), hlen]
    cases o <;> decide
  · rw [Mem.put_of_ne (by omega), hlen]
    cases o <;> decide
  · rw [Mem.put_of_ne (show 1 ≠ paraOff o + 1 by omega)]
    exact byteSum_setChecksum hpos

/-- The place of the checksum that `packet` computes is the one after the frame. -/
theorem paraOff_add_sub {o : CmdOrigin} {len : UInt8} (h : ¬ len < emptyLen o) :
  paraOff o + (len.toNat - (emptyLen o).toNat) = len.toNat + 1
  := by
  have hle : (emptyLen o).toNat ≤ len.toNat := by
    rw [← UInt8.le_iff_toNat_le]
    exact UInt8.not_lt.mp h
  cases o <;> simp only [paraOff, emptyLen] at hle ⊢ <;> simp at hle ⊢ <;> omega

/-- The reply to a request that succeeded is suppressed when its length byte is too small or
too large. -/
theorem packet_ok_flag (o : CmdOrigin) (buffer : Mem) :
  (packet o cmdoorCheckOk buffer bufLen).1
    = if buffer 1 < emptyLen o ∨ (buffer 1).toNat + 2 ≥ bufLen then errorNoReturn
      else cmdoorCheckOk
  := by
  have hb : (buffer.put 0 0xF0) 1 = buffer 1 := Mem.put_of_ne (by decide)
  unfold packet
  rw [if_neg (not_not.mpr rfl)]
  dsimp only
  rw [hb]
  by_cases hlong : buffer 1 < emptyLen o
  · rw [if_pos hlong, if_pos (.inl hlong)]
  · have hoff := two_lt_paraOff o
    rw [if_neg hlong]
    dsimp only
    rw [Mem.put_of_ne (show 1 ≠ paraOff o + ((buffer 1).toNat - (emptyLen o).toNat) by omega), hb]
    by_cases hshort : (buffer 1).toNat + 2 ≥ bufLen
    · rw [if_pos hshort, if_pos (.inr hshort)]
    · rw [if_neg hshort, if_neg (not_or.mpr ⟨hlong, hshort⟩)]

/-- Packing the reply to a request that succeeded leaves its length byte as it is. -/
theorem packet_ok_len (o : CmdOrigin) (buffer : Mem) :
  (packet o cmdoorCheckOk buffer bufLen).2 1 = buffer 1
  := by
  have hoff := two_lt_paraOff o
  have hb : (buffer.put 0 0xF0) 1 = buffer 1 := Mem.put_of_ne (by decide)
  unfold packet
  rw [if_neg (not_not.mpr rfl)]
  dsimp only
  split
  · exact hb
  · dsimp only
    rw [Mem.put_of_ne (by omega), hb]

/-- Packing the reply to a request that succeeded leaves what stands between its first byte and
its checksum as it is. -/
theorem packet_ok_kept {o : CmdOrigin} {buffer : Mem} {i : ℕ} (hpos : 0 < i)
    (hi : i ≤ (buffer 1).toNat) :
  (packet o cmdoorCheckOk buffer bufLen).2 i = buffer i
  := by
  have hb : (buffer.put 0 0xF0) 1 = buffer 1 := Mem.put_of_ne (by decide)
  unfold packet
  rw [if_neg (not_not.mpr rfl)]
  dsimp only
  rw [hb]
  split
  · exact Mem.put_of_ne (by omega)
  · rename_i hlong
    dsimp only
    rw [paraOff_add_sub hlong, Mem.put_of_ne (by omega), Mem.put_of_ne (by omega)]

/-- Packing the reply to a request that succeeded leaves its parameters as they are. -/
theorem packet_ok_para {o : CmdOrigin} {buffer : Mem} {i : ℕ}
    (hi : i + (emptyLen o).toNat < (buffer 1).toNat) :
  (packet o cmdoorCheckOk buffer bufLen).2 (paraOff o + i) = buffer (paraOff o + i)
  := by
  have hoff := two_lt_paraOff o
  have hempty := toNat_emptyLen_succ o
  apply packet_ok_kept
  · omega
  · omega

/-- The reply to a request that succeeded is sent when it is not too long. -/
theorem packet_ok_sent {o : CmdOrigin} {buffer : Mem} {n : UInt8} (hlen : buffer 1 = emptyLen o + n)
    (hshort : n.toNat + (emptyLen o).toNat + 2 < bufLen) :
  (packet o cmdoorCheckOk buffer bufLen).1 = cmdoorCheckOk
  := by
  simp only [bufLen] at hshort
  have hoff := two_lt_paraOff o
  have hempty := toNat_emptyLen_succ o
  have hsum := toNat_emptyLen_add (o := o) (show n.toNat < 253 by omega)
  rw [packet_ok_flag, hlen, if_neg]
  rintro (hless | hlong)
  · rw [UInt8.lt_iff_toNat_lt] at hless
    omega
  · simp only [bufLen] at hlong
    omega

/-- The reply that a function leaves is sent when it is not too long. -/
theorem pack_finishOther_ok {o : CmdOrigin} (called : Mem × Reader)
    (hshort : called.2.cmdTmpLen.toNat + (emptyLen o).toNat + 2 < bufLen) :
  let reply := pack o (finishOther o called)
  reply.1 = cmdoorCheckOk
    ∧ (reply.2.1 1).toNat = called.2.cmdTmpLen.toNat + (emptyLen o).toNat
    ∧ ∀ i < called.2.cmdTmpLen.toNat, reply.2.1 (paraOff o + i) = called.1 (paraOff o + i)
  := by
  intro reply
  have hoff := two_lt_paraOff o
  have hempty := toNat_emptyLen_succ o
  have hfits : ¬ called.2.cmdTmpLen.toNat ≥ bufLen := by omega
  have hsum : (emptyLen o + called.2.cmdTmpLen).toNat
      = (emptyLen o).toNat + called.2.cmdTmpLen.toNat := by
    apply toNat_emptyLen_add
    simp only [bufLen] at hshort
    omega
  generalize hc : called.1.put 1 (called.2.cmdTmpLen + emptyLen o) = c
  have hlen : c 1 = emptyLen o + called.2.cmdTmpLen := by
    rw [← hc, Mem.put_same, UInt8.add_comm]
  have hreply : reply = pack o (cmdoorCheckOk, c, called.2) := by
    unfold reply finishOther
    rw [if_neg hfits, hc]
  rw [hreply, pack]
  dsimp only
  refine ⟨packet_ok_sent hlen hshort, ?_, ?_⟩
  · rw [packet_ok_len, hlen, hsum, Nat.add_comm]
  · intro i hi
    rw [packet_ok_para (by rw [hlen, hsum]; omega), ← hc, Mem.put_of_ne (by omega)]

/-- The reply to a request that succeeded is a frame, unless it is suppressed. -/
theorem packet_ok_frame {o : CmdOrigin} {buffer : Mem}
    (h : (packet o cmdoorCheckOk buffer bufLen).1 ≠ errorNoReturn) :
  (packet o cmdoorCheckOk buffer bufLen).1 = cmdoorCheckOk
    ∧ ReplyFrame o (buffer 2) cmdoorCheckOk (packet o cmdoorCheckOk buffer bufLen).2
  := by
  unfold packet at h ⊢
  rw [if_neg (not_not.mpr rfl)] at h ⊢
  dsimp only at h ⊢
  generalize hb : buffer.put 0 0xF0 = b at h ⊢
  split at h
  · exact absurd rfl h
  · rename_i hlong
    have hpos := paraOff_add_sub hlong
    rw [if_neg hlong]
    rw [hpos] at h ⊢
    have htwo : 2 ≤ (b 1).toNat := by
      have := two_lt_paraOff o
      have := toNat_emptyLen_succ o
      omega
    have hlen : ∀ c, (b.put ((b 1).toNat + 1) c) 1 = b 1 := by
      intro c
      apply Mem.put_of_ne
      omega
    dsimp only at h ⊢
    rw [hlen] at h ⊢
    split at h
    · exact absurd rfl h
    · rename_i hshort
      refine ⟨if_neg hshort, ?_, ?_, ?_, ?_, ?_⟩
      · rw [if_pos rfl, Mem.put_of_ne (by omega), ← hb, Mem.put_same]
      · rw [Mem.put_of_ne (by omega), ← hb, Mem.put_of_ne (by decide)]
      · rw [hlen]
        exact UInt8.not_lt.mp hlong
      · rw [hlen]
        exact Nat.not_le.mp hshort
      · rw [hlen]
        exact byteSum_setChecksum rfl

/-- The reply that is packed from any outcome is a frame, unless it is suppressed. -/
theorem packet_frame {o : CmdOrigin} {flag : UInt8} {buffer : Mem}
    (h : (packet o flag buffer bufLen).1 ≠ errorNoReturn) :
  ReplyFrame o (buffer 2) (packet o flag buffer bufLen).1 (packet o flag buffer bufLen).2
  := by
  by_cases hflag : flag = cmdoorCheckOk
  · subst hflag
    obtain ⟨hok, hframe⟩ := packet_ok_frame h
    rwa [hok]
  · rw [packet_error hflag]
    exact packet_error_frame buffer hflag

/-! ### Every reply is well formed -/

/-- A reply that is not suppressed is a frame with the command of the request. -/
theorem processWith_frame {run : HandlerRun} {r : Reader} {o : CmdOrigin} {buffer : Mem}
    {length : ℕ} {reply : UInt8 × Mem × Reader}
    (h : processWith run o buffer length r = some reply) (hflag : reply.1 ≠ errorNoReturn) :
  ReplyFrame o (buffer 2) reply.1 reply.2.1
  := by
  obtain ⟨outcome, rfl, hcases⟩ := processWith_cases h
  have hcmd : outcome.2.1 2 = buffer 2 := by
    obtain ⟨-, rfl⟩ | ⟨-, hd⟩ := hcases
    · rfl
    · exact dispatch_cmd hd
  rw [← hcmd]
  exact packet_frame hflag

/-- Every reply is well formed, whatever the functions of the table do: for every meaning
`run` of them, in particular for the one of `processParamTable`, a reply that is not
suppressed is a frame with the command of the request. -/
theorem reply_well_formed (run : HandlerRun) (r r' : Reader) (o : CmdOrigin)
    (buffer buffer' : Mem) (length : ℕ) (flag : UInt8)
    (h : processWith run o buffer length r = some (flag, buffer', r'))
    (hflag : flag ≠ errorNoReturn) :
  ReplyFrame o (buffer 2) flag buffer'
  := processWith_frame h hflag

/-- The request `0x02` for the version, answered by a new reader. -/
theorem reply_well_formed_version :
  let buffer := Mem.ofList [0x40, 0x02, 0x02, 0xBC] fun _ => 0
  ∃ buffer' r', processParamTable .sourceFrom232 buffer 4 (powerOn .blank)
      = some (cmdoorCheckOk, buffer', r')
    ∧ ReplyFrame .sourceFrom232 0x02 cmdoorCheckOk buffer'
  := by
  intro buffer
  have hflag : (processParamTable .sourceFrom232 buffer 4 (powerOn .blank)).map Prod.fst
      = some cmdoorCheckOk := by
    rw [powerOn_eq]
    decide
  rw [Option.map_eq_some_iff] at hflag
  obtain ⟨⟨flag, buffer', r'⟩, hp, rfl⟩ := hflag
  exact ⟨buffer', r', hp, reply_well_formed _ _ _ _ _ _ _ _ hp (by decide)⟩

end UhfReader
