import UhfReader.Handlers

/-!
# The command handlers for tags

The handlers that talk to tags through the R2000, and `Handler.call`, which runs the
function that a table entry names.
-/

open Memory

namespace UhfReader

/-! ### Lists of tags -/

/-- `rssitab`, the signal strength in dBm for the readings 31 to 98. -/
def rssitab : List UInt8 :=
  [99, 98, 97, 96, 95, 94, 93, 92, 91, 90, 89, 88, 87, 86, 85, 84, 83, 82, 81, 80,
    79, 78, 77, 76, 75, 74, 73, 72, 71, 70, 69, 68, 67, 66, 65, 64, 63, 62, 61, 60,
    59, 58, 57, 56, 55, 54, 53, 52, 51, 50, 49, 48, 47, 46, 45, 44, 43, 42, 41, 39,
    38, 37, 36, 35, 34, 33, 32, 31]

/-- `rssichk`: the entry of `rssitab` and the new `bakrssi`. -/
def rssichk (bakrssi rssi : ℕ) : UInt8 × ℕ :=
  let rssi := if rssi = 0 then if bakrssi = 0 then 98 else bakrssi else rssi
  let rssi := if rssi > 98 then 98 else if rssi < 31 then 31 else rssi
  (rssitab.getD (rssi - 31) 0, rssi)

/-- A reply under construction: its bytes, the 8-bit count of them, and `bakrssi`. -/
structure Listing where
  p : Mem
  lenth : UInt8
  bakrssi : ℕ

/-- The row `k` of `CardIndex` appended to a reply: its length byte and its identifier. -/
def appendRow (g : Globals) (l : Listing) (k : ℕ) : Listing :=
  let n := (g.cardIndex k).load 0 * 2 + 1
  { l with p := l.p.copy l.lenth.toNat (g.cardMem k) n.toNat, lenth := l.lenth + n }

/-- The table value for the signal strength of the row `k` appended to a reply. -/
def appendRssi (g : Globals) (l : Listing) (k : ℕ) : Listing :=
  let (v, bakrssi) := rssichk l.bakrssi ((g.cardIndex k).load (tagIdLength + 7)).toNat
  { p := l.p.put l.lenth.toNat v, lenth := l.lenth + 1, bakrssi := bakrssi }

/-- `n` rows appended to a reply that starts with the byte `p[0]`; `row` appends the row of
round `i`. -/
def listRows (g : Globals) (p : Mem) (n : ℕ) (row : Listing → ℕ → Listing) : Listing :=
  (List.range n).foldl row { p := p, lenth := 1, bakrssi := g.bakrssi }

/-- The reply that a finished listing stands for. -/
def replyListing (l : Listing) : M Mem := do
  modify fun g => { g with cmdTmpLen := l.lenth, bakrssi := l.bakrssi }
  return l.p

/-- `Tag_all_number = CardPos`, and `Tag_send_count` is the number of rows of the first
page. -/
def firstPage (g : Globals) : Globals :=
  let all := g.cardPos % 2 ^ 16
  { g with tagAllNumber := all, tagSendCount := if all > 8 then 8 else UInt8.ofNat all }

/-- The number of rows of the next page, and the globals with that page counted as sent.
`Tag_send_count` is a byte. -/
def nextPage (g : Globals) : ℕ × Globals :=
  if g.tagAllNumber > g.tagSendCount.toNat + 8 then
    (8, { g with tagSendCount := g.tagSendCount + 8 })
  else
    ((UInt8.ofNat (g.tagAllNumber + 256 - g.tagSendCount.toNat)).toNat,
      { g with tagSendCount := UInt8.ofNat g.tagAllNumber })

/-! ### ISO18000-6B -/

/-- An inventory with command `0xB0`: `onTags` replies unless the R2000 was silent. -/
def inventory6B (p : Mem) (onTags : M Mem) : M Mem := do
  modify fun g => { g with tagR2000Cmd91Number := 0, tagR2000Cmd80Number := 0, cardPos := 0 }
  let flagReturn ← encodeR2000 0xB0 p
  if flagReturn ≠ 0xFF then onTags else fail p

/-- `DetectTagNum` (`0xFF`) -/
def detectTagNum (p : Mem) : M Mem := do
  modify fun g => { g with mask6B := 0 }
  inventory6B p do
    let g ← get
    reply (p.put 0 (UInt8.ofNat g.cardPos)) 1

/-- `ReadLabelID` (`0xFE`) -/
def readLabelID (p : Mem) : M Mem := do
  modify fun g => { g with mask6B := 0 }
  inventory6B p do
    modify firstPage
    let g ← get
    replyListing <| listRows g (p.put 0 (UInt8.ofNat g.tagAllNumber)) g.tagSendCount.toNat
      (appendRow g)

/-- `ListIDReport` (`0xFD`).  The rows are taken from the start of `CardIndex`. -/
def listIDReport (p : Mem) : M Mem := do
  let tmplen ← modifyGet nextPage
  let g ← get
  replyListing <| listRows g (p.put 0 (UInt8.ofNat tmplen)) tmplen (appendRow g)

/-- `ListSelectedID` (`0xFB`) -/
def listSelectedID (p : Mem) : M Mem := do
  modify fun g => { g with
    maskSel := p 0
    maskAddr6B := p 1
    mask6B := p 2
    maskData6B := fun i => p (3 + i.val) }
  inventory6B p do
    modify firstPage
    let g ← get
    replyListing <| listRows g (p.put 0 g.tagSendCount) g.tagSendCount.toNat (appendRow g)

/-- A command to one ISO18000-6B tag: `onFrame` replies to an answer of more than four
bytes, and `onShort` to a shorter one. -/
def command6B (cmd : UInt8) (p : Mem) (onFrame onShort : SR2000TransData → M Mem) : M Mem := do
  let flagReturn ← encodeR2000 cmd p
  if flagReturn = 0 then
    let g ← get
    if g.r2000.frameLen > 4 then
      beep
      onFrame g.r2000
    else onShort g.r2000
  else fail p

/-- `ReadByteBlock` (`0xF6`) -/
def readByteBlock (p : Mem) : M Mem :=
  command6B 0xB1 p
    (fun r => reply (p.copy 0 (r.para.shift 1) (r.frameLen - 4).toNat) (r.frameLen - 4))
    (fun _ => fail p)

/-- `WriteByteBlock` (`0xF5`) and `WriteAByte` (`0xF2`): the bytes written are sent back. -/
def writeByteBlock (p : Mem) : M Mem :=
  command6B 0xB2 p (fun _ => reply (p.copy 0 (p.shift 10) (p 9).toNat) (p 9)) (fun _ => fail p)

/-- `WriteProtect` (`0xF4`) -/
def writeProtect (p : Mem) : M Mem :=
  command6B 0xB3 p (fun _ => reply p 0) (fun _ => fail p)

/-- `ReadWriteProtect` (`0xF3`): a short answer is reported with its first byte. -/
def readWriteProtect (p : Mem) : M Mem :=
  command6B 0xB4 p (fun r => reply (p.put 0 (r.para 1)) 1) (fun r => reply (p.put 0 (r.para 0)) 1)

/-! ### EPC C1G2 -/

/-- `read_r2000vertion` (`0x18`) -/
def readR2000vertion (p : Mem) : M Mem := do
  let flagReturn ← encodeR2000 0x72 p
  let g ← get
  if flagReturn = 0 ∧ g.r2000.frameLen > 4 then reply (p.copy 0 g.r2000.para 2) 2
  else fail p

/-- An inventory with the commands `0x80` and `0x91`.  When `0x91` fails after a count was
reported, `cmdTmpLen` is left as it was. -/
def inventory6C (p : Mem) (row : Globals → Listing → ℕ → Listing) : M Mem := do
  modify fun g => { g with
    cmdMaskaddr := (p 1).toNat * 256 + (p 2).toNat
    cmdMasklen := 0
    cardPos := 0 }
  let g ← get
  let p := p.put 0 (if g.gDevice.load Offset.maxReadCardNum < 20 then 255 else 1)
  let flagReturn ← encodeR2000 0x80 p
  let g ← get
  if flagReturn = 0 ∧ g.r2000.frameLen > 4 then
    modify fun g => { g with
      tagR2000Cmd80Number := (g.r2000.para 1).toNat * 256 + (g.r2000.para 2).toNat }
    let g ← get
    if g.tagR2000Cmd80Number > 0 then
      delayMs
      modify fun g => { g with tagR2000Cmd91Number := 0 }
      let flagReturn ← encodeR2000 0x91 p
      if flagReturn = 0 then
        modify firstPage
        let g ← get
        replyListing <| listRows g (p.put 0 (UInt8.ofNat g.tagAllNumber)) g.tagSendCount.toNat
          (row g)
      else return p
    else fail p
  else fail p

/-- `EPC1G2_ListMaskTagID` (`0xEE`) -/
def epc1g2ListMaskTagID (p : Mem) : M Mem := inventory6C p appendRow

/-- `EPC1G2_ListRSSIMaskTag` (`0xDF`) -/
def epc1g2ListRSSIMaskTag (p : Mem) : M Mem :=
  inventory6C p fun g l k => appendRssi g (appendRow g l k) k

/-- The next page of an inventory: the count of the rows not sent before, and the rows that
`row` appends from the position `pos` on. -/
def nextRows (p : Mem) (row : Globals → ℕ → Listing → ℕ → Listing) : M Mem := do
  let g ← get
  let p := p.put 0 (UInt8.ofNat (g.tagAllNumber + 256 - g.tagSendCount.toNat))
  let pos := g.tagSendCount.toNat
  let tmplen ← modifyGet nextPage
  let g ← get
  replyListing <| listRows g p tmplen (row g pos)

/-- `EPC1G2_GetIDList` (`0xED`) -/
def epc1g2GetIDList (p : Mem) : M Mem :=
  nextRows p fun g pos l i => appendRow g l (pos + i)

/-- `EPC1G2_GetRSSIIDList` (`0xDE`).  The signal strengths are those of the rows from the
start of `CardIndex`. -/
def epc1g2GetRSSIIDList (p : Mem) : M Mem :=
  nextRows p fun g pos l i => appendRssi g (appendRow g l (pos + i)) i

/-- `EPC1G2_Accessmatch` (`0xDD`) -/
def epc1g2Accessmatch (p : Mem) : M Mem := do
  let flagReturn ← encodeR2000 0x85 p
  let g ← get
  if flagReturn = 0 ∧ g.r2000.para 0 = commandSuccess then
    beep
    reply p 0
  else fail p

/-- `EPC1G2_ListTagID` (`0xEF`), which reads the TID of a tag. -/
def epc1g2ListTagID (p : Mem) : M Mem := do
  modify fun g => { g with cmdMasklen := 0, cardPos := 0 }
  let flagReturn ← encodeR2000 0xC5 p
  let g ← get
  if flagReturn = 0 ∧ g.r2000.para 0 = commandSuccess then
    delayMs
    let flagReturn ← encodeR2000 0xC1 p
    let g ← get
    if flagReturn = 0 ∧ g.r2000.frameLen > 4 then
      beep
      reply (p.copy 0 g.r2000.para (g.r2000.frameLen - 3).toNat) (g.r2000.frameLen - 3)
    else fail p
  else fail p

/-- An access to the tag whose EPC the request gives: the tag is selected with command
`0x85`, and after a success `access` is carried out. -/
def selectTag (p : Mem) (access : M Mem) : M Mem := do
  let flagReturn ← encodeR2000 0x85 p
  let g ← get
  if flagReturn = 0 ∧ g.r2000.para 0 = commandSuccess then
    delayMs
    access
  else fail p

/-- The reply to a command that changes a tag: success when the answer is long enough and
the byte after the tag data confirms it. -/
def confirmAccess (flagReturn : UInt8) (p : Mem) : M Mem := do
  let g ← get
  let r := g.r2000
  if flagReturn = 0 ∧ r.frameLen > 4 ∧ r.para ((r.para 2).toNat + 3) = commandSuccess then
    beep
    reply p 0
  else fail p

/-- `EPC1G2_ReadWordBlock` (`0xEC`).  The length of the data read is the third byte from the
end of the answer, and the data stand before it. -/
def epc1g2ReadWordBlock (p : Mem) : M Mem :=
  selectTag p do
    let flagReturn ← encodeR2000 0x81 p
    let g ← get
    let r := g.r2000
    if flagReturn = 0 ∧ r.frameLen > 4 then
      beep
      let last := (r.frameLen - 2).toNat
      let len := r.load last
      reply (p.copy 0 (fun i => r.loadInt (last - len.toNat + i)) len.toNat) len
    else fail p

/-- `EPC1G2_WriteWordBlock` (`0xEB`); `before` is the byte before the parameters. -/
def epc1g2WriteWordBlock (before : UInt8) (p : Mem) : M Mem :=
  selectTag p do
    let flagReturn ← encodeR2000From before 0x82 p
    confirmAccess flagReturn p

/-- `EPC1G2_WriteSetBlock` (`0xEA`) -/
def epc1g2WriteSetBlock (p : Mem) : M Mem :=
  selectTag p do
    let flagReturn ← encodeR2000 0x83 p
    confirmAccess flagReturn p

/-- `DestroyTag` (`0xE8`) -/
def destroyTag (p : Mem) : M Mem :=
  selectTag p do
    let flagReturn ← encodeR2000 0x84 p
    confirmAccess flagReturn p

/-- The copy of the request that `EPC1G2_WriteEPC` keeps in `tmpEpcdata`, 35 bytes at most.
What it does not fill is not initialised, and is read as zero. -/
def tmpEpcdata (p : Mem) : Mem :=
  let n := (p 0 * 2 + 5).toNat
  Mem.copy (fun _ => 0) 0 p (if n > 35 then 35 else n)

/-- `EPC1G2_WriteEPC` (`0xE7`).  A match that is active is cleared first. -/
def epc1g2WriteEPC (p : Mem) : M Mem := do
  let tmp := tmpEpcdata p
  let flagReturn ← encodeR2000 0x86 p
  let g ← get
  let r := g.r2000
  if flagReturn = 0 ∧ r.para 0 = 0 then
    let p := (p.put 0 (r.para 1 >>> 1)).copy 1 (r.para.shift 2) (r.para 1).toNat
    let flagReturn ← encodeR2000 0xC5 p
    let g ← get
    if flagReturn = 0 ∧ g.r2000.para 0 = commandSuccess then
      let flagReturn ← encodeR2000 0xC2 tmp
      confirmAccess flagReturn p
    else fail p
  else if flagReturn = 0 ∧ r.para 0 = 1 then
    let flagReturn ← encodeR2000 0xC2 p
    confirmAccess flagReturn p
  else fail p

/-- `ReadEPCAndData` (`0xE0`).  The branch for an active match tests
`para[0] == 0 && para[0] > 0` and is never taken; `cmdTmpLen` is the result of the last
command, not the length of the data. -/
def readEPCAndData (p : Mem) : M Mem := do
  let flagReturn ← encodeR2000 0x86 p
  let g ← get
  if flagReturn = 0 ∧ g.r2000.para 0 = 1 then
    let flagReturn ← encodeR2000 0xC1 p
    let g ← get
    let r := g.r2000
    if flagReturn = 0 ∧ r.frameLen > 4 then
      beep
      reply (p.copy 0 (r.para.shift 7) (r.para 6).toNat) flagReturn
    else fail p
  else fail p

/-! ### Calling a handler -/

/-- The function that a table entry names, on the parameters `p` of a request; `before` is
the byte that stands before them. -/
def Handler.run (before : UInt8) (p : Mem) : Handler → M Mem
  | .setBaudRate => UhfReader.setBaudRate p
  | .setRelay => UhfReader.setRelay p
  | .setOutputPower => UhfReader.setOutputPower p
  | .setFrequency => UhfReader.setFrequency p
  | .setFrequency1 => UhfReader.setFrequency1 p
  | .readParam => UhfReader.readParam p
  | .setAntenna => UhfReader.setAntenna p
  | .readReaderPara => UhfReader.readReaderPara p
  | .reboot => UhfReader.reboot p
  | .setReaderWorkType => UhfReader.setReaderWorkType p
  | .clearTagListMem => UhfReader.clearTagListMem p
  | .setReaderTime => UhfReader.setReaderTime p
  | .getReaderTime => UhfReader.getReaderTime p
  | .getReaderRevStatus => UhfReader.getReaderRevStatus p
  | .getTagRecord => UhfReader.getTagRecord p
  | .readR2000vertion => UhfReader.readR2000vertion p
  | .epc1g2ListRSSIMaskTag => UhfReader.epc1g2ListRSSIMaskTag p
  | .epc1g2GetRSSIIDList => UhfReader.epc1g2GetRSSIIDList p
  | .epc1g2Accessmatch => UhfReader.epc1g2Accessmatch p
  | .epc1g2ListTagID => UhfReader.epc1g2ListTagID p
  | .epc1g2ListMaskTagID => UhfReader.epc1g2ListMaskTagID p
  | .epc1g2GetIDList => UhfReader.epc1g2GetIDList p
  | .epc1g2ReadWordBlock => UhfReader.epc1g2ReadWordBlock p
  | .epc1g2WriteWordBlock => UhfReader.epc1g2WriteWordBlock before p
  | .epc1g2WriteSetBlock => UhfReader.epc1g2WriteSetBlock p
  | .destroyTag => UhfReader.destroyTag p
  | .epc1g2WriteEPC => UhfReader.epc1g2WriteEPC p
  | .readEPCAndData => UhfReader.readEPCAndData p
  | .detectTagNum => UhfReader.detectTagNum p
  | .readLabelID => UhfReader.readLabelID p
  | .listIDReport => UhfReader.listIDReport p
  | .listSelectedID => UhfReader.listSelectedID p
  | .readByteBlock => UhfReader.readByteBlock p
  | .writeByteBlock => UhfReader.writeByteBlock p
  | .writeAByte => UhfReader.writeByteBlock p
  | .writeProtect => UhfReader.writeProtect p
  | .readWriteProtect => UhfReader.readWriteProtect p
  -- functions that only set `cmdTmpLen = 0`
  | .eraseTagData | .dataLocking | .epc1g2Changeeas | .epc1g2EasAlarm | .epc1g2ReadProtect
  | .epc1g2RSTReadProtect | .setUserDataProtect => reply p 0
  -- functions with an empty body
  | .writeRadioDeep | .readRadioDeep | .writeParam | .setReaderPara | .setAutoPara
  | .getAutoPara | .setTagFilter | .setReaderNetwork | .setReaderMAC | .setReaderOutStatus
  | .getReaderOutStatus | .immediatelyNotify | .updateProgrram => idle p

end UhfReader
