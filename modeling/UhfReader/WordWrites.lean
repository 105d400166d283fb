import UhfReader.Access

/-!
# Writing words to a tag

`0xEB` asks to write a run of words to a bank of the tag.  What it asks for and what the frame of
`0x82` directs the R2000 to do are both a `WordWrite`.

For the bank of the EPC, `encodeR2000` writes a new EPC: it starts at the PC word, which it computes
from the number of words, and does not look at the address that the request gives.
-/

open Memory Stateful

namespace UhfReader

/-! ### Runs of words -/

/-- A run of words of a bank to be written, with the password for it. -/
structure WordWrite where
  password : List UInt8
  bank : UInt8
  start : ℕ
  count : ℕ
  data : Mem

namespace WordWrite

/-- The two bytes written to the word `k` of the bank, if it is one of the run. -/
def word? (w : WordWrite) (k : ℕ) : Option (UInt8 × UInt8) :=
  if w.start ≤ k ∧ k < w.start + w.count then
    some (w.data (2 * (k - w.start)), w.data (2 * (k - w.start) + 1))
  else none

/-- What a frame of `0x82` directs the R2000 to write. -/
def ofFrame (f : List UInt8) : WordWrite where
  password := (f.drop 4).take 4
  bank := f.getD 8 0
  start := (f.getD 9 0).toNat
  count := (f.getD 10 0).toNat
  data := fun i => f.getD (11 + i) 0

/-- What the parameters of `0xEB` ask for. -/
def requested (p : Mem) : WordWrite where
  password := (p.shift (2 * idWords p + 2 * dataWords p + 4)).take 4
  bank := p (2 * idWords p + 1)
  start := (p (2 * idWords p + 2)).toNat
  count := dataWords p
  data := p.shift (2 * idWords p + 4)

/-- A proper frame of `0x82` that writes the words of the run and no others, apart from the PC word
of the EPC bank, with the password. -/
structure Done (w : WordWrite) (f : List UInt8) : Prop where
  proper : ProperFrame f
  code : f.getD 3 0 = 0x82
  length : f.length = 2 * (ofFrame f).count + 12
  password : (ofFrame f).password = w.password
  bank : (ofFrame f).bank = w.bank
  words : ∀ k, ¬ (w.bank = 1 ∧ k = 1) → (ofFrame f).word? k = w.word? k

variable {w w' : WordWrite} {k : ℕ}

theorem word?_congr (hstart : w.start = w'.start) (hcount : w.count = w'.count)
    (hdata : ∀ i < 2 * w'.count, w.data i = w'.data i) :
  w.word? k = w'.word? k
  := by
  unfold word?
  rw [hstart, hcount]
  split
  · rw [hdata _ (by omega), hdata _ (by omega)]
  · rfl

/-- A run with one more word in front of it writes the same behind that word. -/
theorem word?_behind (hstart : w'.start = w.start + 1) (hcount : w.count = w'.count + 1)
    (hdata : ∀ i < 2 * w'.count, w.data (i + 2) = w'.data i) (hk : k ≠ w.start) :
  w.word? k = w'.word? k
  := by
  unfold word?
  rw [hstart, hcount]
  by_cases hin : w.start + 1 ≤ k ∧ k < w.start + 1 + w'.count
  · have hplace : 2 * (k - w.start) = 2 * (k - (w.start + 1)) + 2 := by omega
    rw [if_pos hin, if_pos (by omega), hplace, hdata _ (by omega), Nat.add_right_comm,
      hdata _ (by omega)]
  · rw [if_neg hin, if_neg (by omega)]

end WordWrite

/-! ### The frame that is sent -/

/-- The bytes of the frame of `0x82` between its code and its checksum. -/
def writeFields (p : Mem) : List UInt8 :=
  let w := WordWrite.requested p
  let n := p (2 * idWords p + 3)
  w.password ++ ([w.bank] ++ ((if w.bank = 0x01 then [1, n + 1, n * 8, 0]
      else [p (2 * idWords p + 2), n]) ++ w.data.take (2 * dataWords p)))

/-- The number of words that a frame for the bank has room for. -/
def maxWords (bank : UInt8) : ℕ := if bank = 0x01 then 120 else 121

section

variable {p q : Mem} {g g' : Globals}

theorem frameFields_write {before antennas : UInt8} (hid : idWords p ≤ 123) :
  frameFields 0x82 before p antennas = some (writeFields p)
  := by
  have hbytes : idBytes p = 2 * idWords p := idBytes_eq_idWords (by omega)
  have hplace : (p 0 * 2 + 3).toNat = 2 * idWords p + 3 := by
    rw [toNat_idBytes_add_three (by omega), hbytes]
  have hwords : (p (2 * idWords p + 3)).toNat = dataWords p := rfl
  simp only [frameFields]
  rw [hplace, if_neg (by omega), hwords, Nat.mul_comm (dataWords p) 2,
    Nat.add_right_comm (2 * idWords p) 3, Nat.add_assoc _ 3 1]
  rfl

theorem length_writeFields (p : Mem) :
  (writeFields p).length
    = 2 * dataWords p + if (WordWrite.requested p).bank = 0x01 then 9 else 7
  := by
  have hpassword : (WordWrite.requested p).password.length = 4 := Mem.length_take _ 4
  simp only [writeFields, List.length_append, hpassword, Mem.length_take]
  split
  · simp only [List.length_cons, List.length_nil]
    omega
  · simp only [List.length_cons, List.length_nil]
    omega

theorem writeFields_fit (h : dataWords p ≤ maxWords (WordWrite.requested p).bank) :
  (writeFields p).length + 5 < bufLen
  := by
  rw [length_writeFields, bufLen]
  unfold maxWords at h
  split at h
  · rw [if_pos ‹_›]
    omega
  · rw [if_neg ‹_›]
    omega

/-- A byte of a run of a memory in a list. -/
theorem getD_run (front back : List UInt8) (m : Mem) {n i : ℕ} (hi : i < n) :
  (front ++ (m.take n ++ back)).getD (front.length + i) 0 = m i
  := by
  rw [List.getD_append_right _ _ _ _ (Nat.le_add_right _ i), Nat.add_sub_cancel_left,
    List.getD_append _ _ _ _ (by rwa [Mem.length_take]),
    List.getD_eq_getElem _ _ (by rwa [Mem.length_take])]
  simp [Mem.take]

/-- What a frame of `0x82` with these parts directs the R2000 to write; `front` is what stands in
front of the data. -/
theorem ofFrame_frameBytes {fields password front : List UInt8} {bank start count : UInt8} {m : Mem}
    {n : ℕ} (hpassword : password.length = 4)
    (hfields : fields = password ++ ([bank] ++ (start :: count :: front ++ m.take n))) :
  let w := WordWrite.ofFrame (frameBytes 0x82 fields)
  w.password = password ∧ w.bank = bank ∧ w.start = start.toNat ∧ w.count = count.toNat
    ∧ (∀ i < front.length, w.data i = front.getD i 0) ∧ ∀ i < n, w.data (front.length + i) = m i
  := by
  have hframe : ∃ length checksum, frameBytes 0x82 fields
      = [0xA0, length, 0xFF, 0x82] ++ (fields ++ [checksum]) := ⟨_, _, rfl⟩
  obtain ⟨length, checksum, hframe⟩ := hframe
  have hparts : frameBytes 0x82 fields = ([0xA0, length, 0xFF, 0x82] ++ password
      ++ [bank, start, count] ++ front) ++ (m.take n ++ [checksum]) := by
    rw [hframe, hfields]
    simp only [List.append_assoc, List.cons_append, List.nil_append]
  have hplace : ∀ i, 11 + i = ([0xA0, length, 0xFF, 0x82] ++ password
      ++ [bank, start, count]).length + i := by
    intro i
    simp only [List.length_append, hpassword, List.length_cons, List.length_nil]
  obtain ⟨b₀, b₁, b₂, b₃, rfl⟩ := List.length_eq_four.mp hpassword
  unfold WordWrite.ofFrame
  rw [hparts]
  refine ⟨rfl, rfl, rfl, rfl, ?_, ?_⟩
  · intro i hi
    dsimp only
    rw [hplace i, List.append_assoc, List.getD_append_right _ _ _ _ (Nat.le_add_right _ i),
      Nat.add_sub_cancel_left, List.getD_append _ _ _ _ hi]
  · intro i hi
    dsimp only
    rw [hplace, ← Nat.add_assoc, ← List.length_append]
    exact getD_run _ _ _ hi

/-- A frame for another bank than that of the EPC writes what is asked for. -/
theorem writeFrame_other (hbank : (WordWrite.requested p).bank ≠ 0x01)
    (h : dataWords p ≤ 121) :
  (WordWrite.requested p).Done (frameBytes 0x82 (writeFields p))
  := by
  have hlength := length_writeFields p
  rw [if_neg hbank] at hlength
  have hfields : writeFields p = (WordWrite.requested p).password
      ++ ([(WordWrite.requested p).bank] ++ (p (2 * idWords p + 2) :: p (2 * idWords p + 3) :: []
        ++ (WordWrite.requested p).data.take (2 * dataWords p))) := by
    unfold writeFields
    dsimp only
    rw [if_neg hbank]
  obtain ⟨hpassword, hbank', hstart, hcount, -, hdata⟩ :=
    ofFrame_frameBytes (Mem.length_take _ 4) hfields
  refine ⟨properFrame_frameBytes _ (by omega), rfl, ?_, hpassword, hbank', ?_⟩
  · rw [length_frameBytes, hlength, hcount]
    rfl
  · intro k _
    apply WordWrite.word?_congr hstart hcount
    intro i hi
    rw [← hdata i hi, List.length_nil, Nat.zero_add]

/-- A frame for the bank of the EPC writes the data behind the PC word. -/
theorem writeFrame_epc (hbank : (WordWrite.requested p).bank = 0x01) (h : dataWords p ≤ 120) :
  { WordWrite.requested p with start := 2 }.Done (frameBytes 0x82 (writeFields p))
  := by
  have hlength := length_writeFields p
  rw [if_pos hbank] at hlength
  have hfields : writeFields p = (WordWrite.requested p).password
      ++ ([(WordWrite.requested p).bank] ++ (1 :: (p (2 * idWords p + 3) + 1)
        :: [p (2 * idWords p + 3) * 8, 0]
        ++ (WordWrite.requested p).data.take (2 * dataWords p))) := by
    unfold writeFields
    dsimp only
    rw [if_pos hbank]
  obtain ⟨hpassword, hbank', hstart, hcount, -, hdata⟩ :=
    ofFrame_frameBytes (Mem.length_take _ 4) hfields
  have hwords : (p (2 * idWords p + 3) + 1).toNat = dataWords p + 1 := by
    have hn : (p (2 * idWords p + 3)).toNat = dataWords p := rfl
    rw [UInt8.toNat_add, hn]
    simp only [UInt8.reduceToNat]
    omega
  rw [hwords] at hcount
  refine ⟨properFrame_frameBytes _ (by omega), rfl, ?_, hpassword, hbank', ?_⟩
  · rw [length_frameBytes, hlength, hcount]
    omega
  · intro k hk
    apply WordWrite.word?_behind
    · rw [hstart]
      rfl
    · exact hcount
    · intro i hi
      rw [← hdata i hi, Nat.add_comm i 2]
      rfl
    · rw [hstart]
      exact fun hone => hk ⟨hbank, hone⟩

/-- The run that is written for a request: the one it asks for, but for the EPC bank the one that
starts behind the PC word. -/
def WordWrite.carriedOut (w : WordWrite) : WordWrite :=
  if w.bank = 0x01 then { w with start := 2 } else w

theorem writeFrame_carriedOut (h : dataWords p ≤ maxWords (WordWrite.requested p).bank) :
  (WordWrite.requested p).carriedOut.Done (frameBytes 0x82 (writeFields p))
  := by
  unfold maxWords at h
  unfold WordWrite.carriedOut
  split at h
  · rw [if_pos ‹_›]
    exact writeFrame_epc ‹_› h
  · rw [if_neg ‹_›]
    exact writeFrame_other ‹_› h

/-- After the R2000 has confirmed the selection of the tag, the frame is sent. -/
theorem epc1g2WriteWordBlock_sent {before : UInt8} (hid : idWords p ≤ 123)
    (hwords : dataWords p ≤ maxWords (WordWrite.requested p).bank)
    (hconfirmed : Confirmed 0x85 p g) (h : epc1g2WriteWordBlock before p g = some (q, g')) :
  g'.sent = g.sent ++ [selectFrame p, frameBytes 0x82 (writeFields p)]
  := by
  obtain ⟨g₂, hselect, h⟩ := selectTag_confirmed hid h hconfirmed
  obtain ⟨flagReturn, g₃, -, hsent, h⟩ := asked_sent (by decide) (frameFields_write hid)
    (writeFields_fit hwords) h
  rw [silent_confirmAccess flagReturn p _ _ _ h, hsent, hselect, List.append_assoc]
  rfl

end

/-! ### A request -/

/-- A valid request to write words, with a length byte for its identifier and its words and with
no more words than a frame has room for, sends two frames when the R2000 confirms the selection of
the tag.  The second one writes the words that are asked for, with the password: for the bank of the
EPC from the word 2 on, and for the other banks from the address that is asked for on. -/
theorem words_written (r : Reader) (hreg : Registered r.gParamTable) (o : CmdOrigin) (b : Mem)
    (length : ℕ) (hvalid : Valid o b length r.toGlobals) (hcmd : b 2 = 0xEB)
    (hlen : (b 1).toNat = fixedLen o 0xEB + countedBytes 0xEB (b.shift (paraOff o)))
    (hwords : dataWords (b.shift (paraOff o))
      ≤ maxWords (WordWrite.requested (b.shift (paraOff o))).bank)
    (hselect : Confirmed 0x85 (b.shift (paraOff o)) r.toGlobals)
    (reply : UInt8 × Mem × Reader) (h : processParamTable o b length r = some reply) :
  ∃ frame, reply.2.2.sent = r.sent ++ [selectFrame (b.shift (paraOff o)), frame]
    ∧ (WordWrite.requested (b.shift (paraOff o))).carriedOut.Done frame
  := by
  have hbyte := (b 1).toNat_lt
  have hid : (b.shift (paraOff o) 0).toNat = idWords (b.shift (paraOff o)) := rfl
  have hbound : 2 * idWords (b.shift (paraOff o)) + 2 * dataWords (b.shift (paraOff o)) ≤ 245 := by
    simp only [fixedLen, countedBytes] at hlen
    omega
  have hdata := dataBytes_eq (p := b.shift (paraOff o)) (by omega)
  have hok : tagDataLenPurse o b = cmdoorCheckOk := by
    have hempty := toNat_emptyLen_succ o
    rw [tagDataLenPurse_ok_iff]
    intro n hn
    rw [hcmd, tagDataLen_write, Option.some.injEq, idBytes_eq_idWords (by omega), hdata] at hn
    simp only [fixedLen, countedBytes] at hlen
    omega
  have hmem : (b 2, Handler.epc1g2WriteWordBlock) ∈ otherFunctions := by
    rw [hcmd]
    decide
  rw [process_function hreg hvalid hmem hok, Option.map_eq_some_iff] at h
  obtain ⟨⟨q, g'⟩, hrun, rfl⟩ := h
  refine ⟨_, ?_, writeFrame_carriedOut hwords⟩
  rw [← epc1g2WriteWordBlock_sent (by omega) hwords hselect hrun]
  exact congrArg (fun r : Reader => r.sent) (finishOther_reader o _)

/-- A request to write one word of a tag with the identifier `E2 00`. -/
def oneWordRequest (bank address : UInt8) : Mem :=
  requestBuffer .sourceFrom232 0xEB 0 [1, 0xE2, 0, bank, address, 1, 0xAA, 0xBB, 0, 0, 0, 0]
    fun _ => 0

/-- The R2000 confirms the selection of the tag and the write. -/
def wordAnswers : List (List UInt8) :=
  [frameBytes 0x85 [commandSuccess], [], frameBytes 0x82 [0, 1, 2, 0xE2, 0, commandSuccess, 0, 1]]

/-- A new reader is set to command mode and told to write the word 4 of the bank 3. -/
theorem words_written_user :
  let b := oneWordRequest 3 4
  ∃ buffer₀ r reply frame,
    processParamTable .sourceFrom232 commandModeRequest 5 (powerOn (answering wordAnswers))
        = some (cmdoorCheckOk, buffer₀, r)
      ∧ processParamTable .sourceFrom232 b 16 r = some reply
      ∧ reply.2.2.sent = r.sent ++ [selectFrame (b.shift 3), frame]
      ∧ (WordWrite.requested (b.shift 3)).carriedOut.Done frame
  := by
  intro b
  have heval :
      ((processParamTable .sourceFrom232 commandModeRequest 5
          (powerOn (answering wordAnswers))).bind
        fun mode => (encodeR2000 0x85 (b.shift 3) mode.2.2.toGlobals).bind
        fun selected => (processParamTable .sourceFrom232 b 16 mode.2.2).map
        fun _ => ([mode.1, checkRequest .sourceFrom232 b 16 mode.2.2.toGlobals, selected.1,
          selected.2.r2000.para 0], modeAllows (b 2) mode.2.2.toGlobals))
      = some ([cmdoorCheckOk, cmdoorCheckOk, 0, commandSuccess], true) := by
    rw [powerOn_eq]
    decide +kernel
  obtain ⟨⟨flag₀, buffer₀, r⟩, hmode, heval⟩ := Option.bind_eq_some_iff.mp heval
  obtain ⟨⟨flag₁, g₁⟩, hselect, heval⟩ := Option.bind_eq_some_iff.mp heval
  obtain ⟨reply, hreply, heq⟩ := Option.map_eq_some_iff.mp heval
  simp only [Prod.mk.injEq, List.cons.injEq, and_true] at heq
  obtain ⟨⟨rfl, hcheck, rfl, hconfirmed⟩, hallows⟩ := heq
  obtain ⟨frame, hsent, hdone⟩ := words_written r (registered_commandMode hmode) .sourceFrom232 b 16
    (valid_of_check hcheck ((modeAllows_iff b _).mp hallows)) (by decide) (by decide) (by decide)
    ⟨g₁, hselect, hconfirmed⟩ reply hreply
  exact ⟨buffer₀, r, reply, frame, hmode, hreply, hsent, hdone⟩

/-- A new reader is set to command mode and told to write the word 3 of the bank of the EPC: the
frame that it sends writes the word 2. -/
theorem epc_word_moved :
  let b := oneWordRequest 1 3
  ∃ buffer₀ r reply frame,
    processParamTable .sourceFrom232 commandModeRequest 5 (powerOn (answering wordAnswers))
        = some (cmdoorCheckOk, buffer₀, r)
      ∧ Valid .sourceFrom232 b 16 r.toGlobals
      ∧ (b 1).toNat = fixedLen .sourceFrom232 0xEB + countedBytes 0xEB (b.shift 3)
      ∧ processParamTable .sourceFrom232 b 16 r = some reply
      ∧ reply.2.2.sent = r.sent ++ [selectFrame (b.shift 3), frame]
      ∧ (WordWrite.ofFrame frame).word? 2 = some (0xAA, 0xBB)
      ∧ (WordWrite.requested (b.shift 3)).word? 2 = none
      ∧ ¬ (WordWrite.requested (b.shift 3)).Done frame
  := by
  intro b
  have heval :
      ((processParamTable .sourceFrom232 commandModeRequest 5
          (powerOn (answering wordAnswers))).bind
        fun mode => (processParamTable .sourceFrom232 b 16 mode.2.2).map
        fun reply => ([mode.1, checkRequest .sourceFrom232 b 16 mode.2.2.toGlobals],
          modeAllows (b 2) mode.2.2.toGlobals,
          decide (reply.2.2.sent = mode.2.2.sent
            ++ [selectFrame (b.shift 3), frameBytes 0x82 (writeFields (b.shift 3))])))
      = some ([cmdoorCheckOk, cmdoorCheckOk], true, true) := by
    rw [powerOn_eq]
    decide +kernel
  obtain ⟨⟨flag₀, buffer₀, r⟩, hmode, heval⟩ := Option.bind_eq_some_iff.mp heval
  obtain ⟨reply, hreply, heq⟩ := Option.map_eq_some_iff.mp heval
  simp only [Prod.mk.injEq, List.cons.injEq, and_true, decide_eq_true_eq] at heq
  obtain ⟨⟨rfl, hcheck⟩, hallows, hsent⟩ := heq
  refine ⟨buffer₀, r, reply, _, hmode,
    valid_of_check hcheck ((modeAllows_iff b _).mp hallows), by decide, hreply, hsent, by decide,
    by decide, ?_⟩
  intro hdone
  have htwo := hdone.words 2 (by decide)
  exact absurd htwo (by decide)

end UhfReader
