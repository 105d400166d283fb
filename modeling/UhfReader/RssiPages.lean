import UhfReader.Overreads
import UhfReader.Paging

/-!
# Signal strengths by pages

The reply to `0xDF` holds the first eight tags of an inventory, each with the value of `rssitab` for
its signal strength, and the reply to `0xDE` the next eight.  `EPC1G2_GetRSSIIDList` takes the tags
from the rows behind those that were sent, and the signal strengths from the first rows.

The bytes of a reply are counted in eight bits: eight tags with identifiers of 15 words take 257.
-/

open Memory

namespace UhfReader

/-! ### Rows with signal strengths -/

/-- The value of `rssitab` for the signal strength of a row. -/
def Row.rssiValue (row : Row) : UInt8 := (rssichk 0 (row.load (tagIdLength + 7)).toNat).1

/-- A row has an identifier of at most 15 words, and a signal strength. -/
structure Row.Ranged (row : Row) : Prop where
  short : (row.load 0).toNat ≤ 15
  strength : row.load (tagIdLength + 7) ≠ 0

/-- The tags of the rows `u 0`, `u 1`, … with the signal strengths of the rows `v 0`, `v 1`, …, up
to `n` of them. -/
def pairedRecords (rows : ℕ → Row) (u v : ℕ → ℕ) (n : ℕ) : List UInt8 :=
  (List.range n).flatMap fun i => (rows (u i)).tag ++ [(rows (v i)).rssiValue]

/-- `rssichk` looks at `bakrssi` for the signal strength 0 only. -/
theorem rssichk_value {rssi : ℕ} (h : rssi ≠ 0) (bakrssi bakrssi' : ℕ) :
  (rssichk bakrssi rssi).1 = (rssichk bakrssi' rssi).1
  := by
  unfold rssichk
  rw [if_neg h, if_neg h]

section Listing

variable {g : Globals} {l : Listing} {bytes : List UInt8} {k : ℕ}

/-- A signal strength is appended with its value. -/
theorem Listing.Holds.appendRssi (h : l.Holds bytes)
    (hrssi : (g.cardIndex k).load (tagIdLength + 7) ≠ 0) (hroom : bytes.length + 1 ≤ 255) :
  (appendRssi g l k).Holds (bytes ++ [(g.cardIndex k).rssiValue])
  := by
  have hlength := h.length
  have hnonzero : ((g.cardIndex k).load (tagIdLength + 7)).toNat ≠ 0 := by
    intro hzero
    exact hrssi (UInt8.toNat_inj.mp hzero)
  unfold UhfReader.appendRssi
  constructor
  · dsimp only
    rw [UInt8.toNat_add, List.length_append, List.length_singleton, hlength]
    simp only [UInt8.reduceToNat]
    omega
  · dsimp only
    rw [List.length_append, List.length_singleton, hlength, Mem.take_put, h.bytes]
    congr 2
    exact rssichk_value hnonzero _ _

/-- The bytes that a row and a signal strength take are counted in eight bits. -/
theorem pair_lenth (g : Globals) (l : Listing) (k j : ℕ) :
  (UhfReader.appendRssi g (UhfReader.appendRow g l k) j).lenth
    = l.lenth + UInt8.ofNat ((g.cardIndex k).tag ++ [(g.cardIndex j).rssiValue]).length
  := by
  have hlenth : (UhfReader.appendRssi g (UhfReader.appendRow g l k) j).lenth
      = l.lenth + ((g.cardIndex k).load 0 * 2 + 1) + 1 := rfl
  rw [hlenth, List.length_append, List.length_singleton, Row.length_tag, UInt8.ofNat_add,
    UInt8.ofNat_add, UInt8.ofNat_mul, UInt8.ofNat_toNat, UInt8.mul_comm, UInt8.add_assoc]
  rfl

/-- Rows with signal strengths are appended one after another, as long as the count fits; the count
is right up to its eight bits in any case. -/
theorem appendPairs {u v : ℕ → ℕ} {is : List ℕ}
    (hrows : ∀ i ∈ is, (g.cardIndex (u i)).Ranged ∧ (g.cardIndex (v i)).Ranged) :
  let records := is.flatMap fun i =>
    (g.cardIndex (u i)).tag ++ [(g.cardIndex (v i)).rssiValue]
  let l' := is.foldl (fun l i => UhfReader.appendRssi g (UhfReader.appendRow g l (u i)) (v i)) l
  l'.lenth = l.lenth + UInt8.ofNat records.length
    ∧ (l.Holds bytes → bytes.length + records.length ≤ 255 → l'.Holds (bytes ++ records))
  := by
  induction is generalizing l bytes with
  | nil =>
    refine ⟨(UInt8.add_zero _).symm, ?_⟩
    intro h _
    simpa using h
  | cons i is ih =>
    obtain ⟨htag, hrssi⟩ := hrows i List.mem_cons_self
    have hpair := pair_lenth g l (u i) (v i)
    have happended : l.Holds bytes →
        bytes.length + ((g.cardIndex (u i)).tag ++ [(g.cardIndex (v i)).rssiValue]).length ≤ 255 →
        (UhfReader.appendRssi g (UhfReader.appendRow g l (u i)) (v i)).Holds
          (bytes ++ ((g.cardIndex (u i)).tag ++ [(g.cardIndex (v i)).rssiValue])) := by
      intro h hroom
      rw [List.length_append, List.length_singleton] at hroom
      rw [← List.append_assoc]
      apply (h.appendRow htag.short (by omega)).appendRssi hrssi.strength
      rw [List.length_append]
      omega
    rw [List.foldl_cons, List.flatMap_cons]
    generalize (g.cardIndex (u i)).tag ++ [(g.cardIndex (v i)).rssiValue] = record at *
    obtain ⟨hcount, hholds⟩ := @ih
      (UhfReader.appendRssi g (UhfReader.appendRow g l (u i)) (v i)) (bytes ++ record)
      fun j hj => hrows j (List.mem_cons_of_mem i hj)
    rw [List.length_append] at hholds
    dsimp only at hcount hholds ⊢
    rw [hcount, hpair, List.length_append]
    refine ⟨?_, ?_⟩
    · rw [UInt8.ofNat_add, UInt8.add_assoc]
    · intro h hroom
      rw [← List.append_assoc]
      exact hholds (happended h (by omega)) (by omega)

end Listing

/-- The rows that a reply lists, with signal strengths. -/
theorem listRows_pairs {g : Globals} {u v : ℕ → ℕ} {n : ℕ}
    (hrows : ∀ i < n, (g.cardIndex (u i)).Ranged ∧ (g.cardIndex (v i)).Ranged) (p : Mem) :
  let l := listRows g p n fun l i => appendRssi g (appendRow g l (u i)) (v i)
  l.lenth.toNat = ((pairedRecords g.cardIndex u v n).length + 1) % 256
    ∧ ((pairedRecords g.cardIndex u v n).length + 1 ≤ 255 →
      l.Holds (p 0 :: pairedRecords g.cardIndex u v n))
  := by
  obtain ⟨hcount, hholds⟩ := @appendPairs g ⟨p, 1, g.bakrssi⟩ [p 0] u v (List.range n)
    fun i hi => hrows i (List.mem_range.mp hi)
  dsimp only at hcount hholds ⊢
  refine ⟨?_, ?_⟩
  · unfold listRows
    rw [hcount, UInt8.toNat_add, UInt8.toNat_ofNat', pairedRecords]
    simp only [UInt8.reduceToNat]
    omega
  · intro hroom
    apply hholds (Listing.holds_start p g.bakrssi)
    rw [List.length_singleton, Nat.add_comm]
    exact hroom

/-! ### Lists of records -/

section Records

variable {rows : ℕ → Row} {u v w : ℕ → ℕ}

/-- The length of a list of records does not depend on the signal strengths. -/
theorem length_pairedRecords (rows : ℕ → Row) (u v w : ℕ → ℕ) (n : ℕ) :
  (pairedRecords rows u v n).length = (pairedRecords rows u w n).length
  := by
  unfold pairedRecords
  rw [List.length_flatMap, List.length_flatMap]
  congr 1
  apply List.map_congr_left
  intro i _
  rw [List.length_append, List.length_append, List.length_singleton, List.length_singleton]

/-- The rows of identifiers with at most `w` words. -/
theorem length_pairedRecords_le {n w : ℕ}
    (hshort : ∀ i < n, ((rows (u i)).load 0).toNat ≤ w) :
  (pairedRecords rows u v n).length ≤ n * (2 * w + 2)
  := by
  unfold pairedRecords
  induction n with
  | zero => simp
  | succ n ih =>
    have hlast := hshort n (Nat.lt_succ_self n)
    have hfirst := ih fun i hi => hshort i (Nat.lt_succ_of_lt hi)
    rw [List.range_succ, List.flatMap_append, List.length_append, List.flatMap_singleton,
      List.length_append, List.length_singleton, Row.length_tag, Nat.add_mul, Nat.one_mul]
    omega

/-- Lists of the same tags are the same if and only if the signal strengths are. -/
theorem pairedRecords_eq_iff (n : ℕ) :
  pairedRecords rows u v n = pairedRecords rows u w n
    ↔ ∀ i < n, (rows (v i)).rssiValue = (rows (w i)).rssiValue
  := by
  unfold pairedRecords
  induction n with
  | zero => simp
  | succ n ih =>
    rw [List.range_succ, List.flatMap_append, List.flatMap_append, List.flatMap_singleton,
      List.flatMap_singleton, Nat.forall_lt_succ_right, ← ih]
    constructor
    · intro h
      obtain ⟨hfirst, hlast⟩ := List.append_inj h (length_pairedRecords rows u v w n)
      exact ⟨hfirst, by simpa using hlast⟩
    · rintro ⟨hfirst, hlast⟩
      rw [hfirst, hlast]

end Records

/-! ### The replies -/

/-- A reply lists the rows `u 0` to `u (n - 1)`, each with its own signal strength, behind a count,
and `cmdTmpLen` is the number of these bytes. -/
structure RssiReply (o : CmdOrigin) (rows : ℕ → Row) (u : ℕ → ℕ) (n : ℕ)
    (reply : UInt8 × Mem × Reader) : Prop where
  ok : reply.1 = cmdoorCheckOk
  records : ∃ count, replyPara o reply.2.1 = count :: pairedRecords rows u u n
  length : reply.2.2.cmdTmpLen.toNat = (pairedRecords rows u u n).length + 1

/-- The frame with the records has at most 254 bytes. -/
def RssiFits (o : CmdOrigin) (rows : ℕ → Row) (u : ℕ → ℕ) (n : ℕ) : Prop :=
  (pairedRecords rows u u n).length + 1 + (emptyLen o).toNat + 2 < bufLen

/-- Identifiers of at most 14 words fit. -/
theorem rssiFits_of_short {rows : ℕ → Row} {u : ℕ → ℕ} {n : ℕ} (o : CmdOrigin) (hn : n ≤ 8)
    (hshort : ∀ i < n, ((rows (u i)).load 0).toNat ≤ 14) :
  RssiFits o rows u n
  := by
  have hlength := length_pairedRecords_le (v := u) hshort
  have hempty : (emptyLen o).toNat ≤ 7 := by cases o <;> decide
  simp only [RssiFits, bufLen]
  omega

/-- A handler that has listed rows with the signal strengths of others gives the right reply if and
only if it fits and the signal strengths have the same values. -/
theorem rssiReply_iff {o : CmdOrigin} {rows : ℕ → Row} {u v : ℕ → ℕ} {n : ℕ} {first : UInt8}
    {m : Mem} {g : Globals}
    (hcount : g.cmdTmpLen.toNat = ((pairedRecords rows u v n).length + 1) % 256)
    (hholds : (pairedRecords rows u v n).length + 1 ≤ 255 →
      Listing.Holds ⟨m, g.cmdTmpLen, g.bakrssi⟩ (first :: pairedRecords rows u v n))
    (buffer : Mem) :
  RssiReply o rows u n (pack o (finishOther o
      (buffer.graft (paraOff o) m, { toGlobals := g, tagDataOrigin := o })))
    ↔ RssiFits o rows u n ∧ ∀ i < n, (rows (v i)).rssiValue = (rows (u i)).rssiValue
  := by
  have hreader : (pack o (finishOther o
      (buffer.graft (paraOff o) m, { toGlobals := g, tagDataOrigin := o }))).2.2.cmdTmpLen
      = g.cmdTmpLen := congrArg (fun r : Reader => r.cmdTmpLen) (finishOther_reader o _)
  have hfits : RssiFits o rows u n →
      (pack o (finishOther o
        (buffer.graft (paraOff o) m, { toGlobals := g, tagDataOrigin := o }))).1 = cmdoorCheckOk
      ∧ replyPara o (pack o (finishOther o
        (buffer.graft (paraOff o) m, { toGlobals := g, tagDataOrigin := o }))).2.1
        = first :: pairedRecords rows u v n
      ∧ g.cmdTmpLen.toNat = (pairedRecords rows u u n).length + 1 := by
    intro hfits
    unfold RssiFits at hfits
    rw [length_pairedRecords rows u u v] at hfits ⊢
    simp only [bufLen] at hfits
    have hn : g.cmdTmpLen.toNat = (pairedRecords rows u v n).length + 1 := by omega
    obtain ⟨hok, hpara⟩ := replyPara_function (o := o) (q := m) hn
      (by simp only [bufLen]; exact hfits) buffer
    have hbytes := (hholds (by omega)).bytes
    rw [List.length_cons] at hbytes
    exact ⟨hok, hpara.trans hbytes, hn⟩
  constructor
  · rintro ⟨hok, ⟨count, hrecords⟩, hlength⟩
    rw [hreader] at hlength
    have hshort : RssiFits o rows u n := by
      obtain ⟨-, hflag⟩ | ⟨-, hflag⟩ | ⟨hsent, -⟩ := pack_finishOther (o := o)
        (buffer.graft (paraOff o) m, { toGlobals := g, tagDataOrigin := o })
      · exact absurd (hflag.symm.trans hok) (by decide)
      · exact absurd (hflag.symm.trans hok) (by decide)
      · dsimp only at hsent
        rwa [hlength] at hsent
    obtain ⟨-, hpara, -⟩ := hfits hshort
    have hsame := (List.cons.inj (hpara.symm.trans hrecords)).2
    exact ⟨hshort, (pairedRecords_eq_iff n).mp hsame⟩
  · rintro ⟨hshort, hvalues⟩
    obtain ⟨hok, hpara, hlength⟩ := hfits hshort
    refine ⟨hok, ⟨first, ?_⟩, hreader ▸ hlength⟩
    rw [hpara, (pairedRecords_eq_iff n).mpr hvalues]

/-! ### Requests -/

/-- Packing a reply leaves the pages alone. -/
theorem paging_pack (o : CmdOrigin) (called : Mem × Reader) :
  (pack o (finishOther o called)).2.2.paging = called.2.paging
  := by
  have hreader : (pack o (finishOther o called)).2.2 = called.2 := finishOther_reader o called
  rw [hreader]

/-- The number of rows of the first page. -/
def firstRows (g : Globals) : ℕ := (firstPage g).tagSendCount.toNat

/-- The reply to `0xDF`, after an inventory that has left the globals `g`. -/
theorem rssi_first {r : Reader} {o : CmdOrigin} {buffer : Mem} {length : ℕ} {g : Globals}
    (hreg : Registered r.gParamTable) (hrequest : ListRequest 0xDF o buffer length r.toGlobals)
    (hinventory : InventoryTaken (buffer.shift (paraOff o)) r.toGlobals g)
    (hrows : ∀ i < firstRows g, (g.cardIndex i).Ranged) :
  ∃ reply, processParamTable o buffer length r = some reply
    ∧ reply.2.2.paging = (firstPage g).paging ∧ Registered reply.2.2.gParamTable
    ∧ (RssiReply o g.cardIndex id (firstRows g) reply
      ↔ RssiFits o g.cardIndex id (firstRows g))
  := by
  obtain ⟨g₁, quiet, traffic, hcall, hlong, hnumber, htraffic, hretrieve⟩ := hinventory
  have hretrieves := inventory6C_retrieves (fun g l k => appendRssi g (appendRow g l k) k) hcall
    hlong hnumber htraffic hretrieve
  have hprocess := hrequest.process (f := .epc1g2ListRSSIMaskTag) hreg (by decide)
  have hrun : runHandler (buffer (paraOff o - 1)) (buffer.shift (paraOff o))
      .epc1g2ListRSSIMaskTag r.toGlobals = _ :=
    hretrieves.trans (replyFirstPage_eq _ _ g)
  rw [hrun, Option.map_some] at hprocess
  obtain ⟨hcount, hholds⟩ := listRows_pairs (g := firstPage g) (u := id) (v := id)
    (fun i hi => ⟨hrows i hi, hrows i hi⟩)
    ((inventoryRounds (buffer.shift (paraOff o)) r.toGlobals).put 0
      (UInt8.ofNat (firstPage g).tagAllNumber))
  refine ⟨_, hprocess, ?_, processParamTable_registered hreg hprocess, ?_⟩
  · exact paging_pack o _
  · refine (rssiReply_iff hcount hholds buffer).trans ?_
    exact and_iff_left fun _ _ => rfl

/-- The places of the rows of the next page. -/
def nextRow (g : Globals) (i : ℕ) : ℕ := g.tagSendCount.toNat + i

/-- The reply to `0xDE`. -/
theorem rssi_next {r : Reader} {o : CmdOrigin} {buffer : Mem} {length : ℕ}
    (hreg : Registered r.gParamTable) (hrequest : ListRequest 0xDE o buffer length r.toGlobals)
    (hrows : ∀ i < (nextPage r.toGlobals).1,
      (r.cardIndex (nextRow r.toGlobals i)).Ranged ∧ (r.cardIndex i).Ranged) :
  ∃ reply, processParamTable o buffer length r = some reply ∧ Registered reply.2.2.gParamTable
    ∧ (RssiReply o r.cardIndex (nextRow r.toGlobals) (nextPage r.toGlobals).1 reply
      ↔ RssiFits o r.cardIndex (nextRow r.toGlobals) (nextPage r.toGlobals).1
        ∧ ∀ i < (nextPage r.toGlobals).1,
          (r.cardIndex i).rssiValue = (r.cardIndex (nextRow r.toGlobals i)).rssiValue)
  := by
  have hindex : (nextPage r.toGlobals).2.cardIndex = r.cardIndex := by
    unfold nextPage
    split
    · rfl
    · rfl
  have hprocess := hrequest.process (f := .epc1g2GetRSSIIDList) hreg (by decide)
  obtain ⟨hcount, hholds⟩ := listRows_pairs (g := (nextPage r.toGlobals).2)
    (u := nextRow r.toGlobals) (v := id) (n := (nextPage r.toGlobals).1) (by rwa [hindex])
    ((buffer.shift (paraOff o)).put 0
      (UInt8.ofNat (r.tagAllNumber + 256 - r.tagSendCount.toNat)))
  rw [hindex] at hcount hholds
  have hrun : runHandler (buffer (paraOff o - 1)) (buffer.shift (paraOff o))
      .epc1g2GetRSSIIDList r.toGlobals = some (_, _) := rfl
  rw [hrun, Option.map_some] at hprocess
  exact ⟨_, hprocess, processParamTable_registered hreg hprocess,
    rssiReply_iff hcount hholds buffer⟩

/-! ### Runs -/

/-- A request for the next page, for rows with signal strengths, or anything else. -/
def AsksForRssi (s : Pager) : PagerEvent → Prop
  | .request o buffer length => ListRequest 0xDE o buffer length s.reader.toGlobals
    ∧ ∀ i < (nextPage s.reader.toGlobals).1,
      (s.reader.cardIndex (nextRow s.reader.toGlobals i)).Ranged ∧ (s.reader.cardIndex i).Ranged
  | .other f => Registered (f s.reader).gParamTable

/-- A request is answered with the next page, each row with its own signal strength. -/
def RssiAnswered (s : Pager) : PagerEvent → Prop
  | .request o buffer length => ∃ reply, processParamTable o buffer length s.reader = some reply
    ∧ RssiReply o s.reader.cardIndex (nextRow s.reader.toGlobals) (nextPage s.reader.toGlobals).1
      reply
  | .other _ => True

/-- The next page fits, and its rows have the signal strengths of the first rows, as far as
`rssitab` tells them apart. -/
def RssiRepeats (s : Pager) : PagerEvent → Prop
  | .request o _ _ =>
    RssiFits o s.reader.cardIndex (nextRow s.reader.toGlobals) (nextPage s.reader.toGlobals).1
    ∧ ∀ i < (nextPage s.reader.toGlobals).1, (s.reader.cardIndex i).rssiValue
      = (s.reader.cardIndex (nextRow s.reader.toGlobals i)).rssiValue
  | .other _ => True

/-- The reply to `0xDF` and those to any requests `0xDE` after it give each row with its own signal
strength, if and only if all pages fit and the rows behind the first page have the signal strengths
of the first rows. -/
theorem rssi_pages_iff (r : Reader) (o : CmdOrigin) (buffer : Mem) (length : ℕ) (g : Globals)
    (hreg : Registered r.gParamTable) (hrequest : ListRequest 0xDF o buffer length r.toGlobals)
    (hinventory : InventoryTaken (buffer.shift (paraOff o)) r.toGlobals g)
    (hrows : ∀ i < firstRows g, (g.cardIndex i).Ranged) :
  ∃ first, processParamTable o buffer length r = some first
    ∧ first.2.2.paging = (firstPage g).paging
    ∧ ∀ es, Run.Along Pager.step AsksForRssi es ⟨first.2.2, []⟩ →
      (RssiReply o g.cardIndex id (firstRows g) first
          ∧ Run.Along Pager.step RssiAnswered es ⟨first.2.2, []⟩
        ↔ RssiFits o g.cardIndex id (firstRows g)
          ∧ Run.Along Pager.step RssiRepeats es ⟨first.2.2, []⟩)
  := by
  obtain ⟨first, hprocess, hpaging, hregistered, hfirst⟩ :=
    rssi_first hreg hrequest hinventory hrows
  refine ⟨first, hprocess, hpaging, ?_⟩
  intro es hes
  refine and_congr hfirst ?_
  refine Run.Along.iff_of_invariant (I := fun s : Pager => Registered s.reader.gParamTable) ?_ ?_
    hregistered hes
  · intro s e s' hI hasks hstep
    cases e with
    | request o buffer length =>
      obtain ⟨reply, hreply, rfl⟩ := Option.map_eq_some_iff.mp hstep
      exact processParamTable_registered hI hreply
    | other f =>
      simp only [Pager.step, Option.some.injEq] at hstep
      subst hstep
      exact hasks
  · intro s e hI hasks
    cases e with
    | request o buffer length =>
      obtain ⟨reply, hreply, -, hiff⟩ := rssi_next hI hasks.1 hasks.2
      refine Iff.trans ?_ hiff
      constructor
      · rintro ⟨reply', hreply', hright⟩
        obtain rfl := Option.some.inj (hreply.symm.trans hreply')
        exact hright
      · intro hright
        exact ⟨reply, hreply, hright⟩
    | other f => exact Iff.rfl

/-! ### Nine tags -/

/-- A new reader in command mode, and nine tags that will answer it, the last one with the signal
strength `last`. -/
def readerHearing (last : UInt8) : Reader :=
  { readerWithTags 9 with
    traffic := [(tagReport 9).map .rx ++ [.poll], [],
      polled (tagFrames 8 ++ [{ shortTag with rssi := last }.bytes.map .rx])] }

/-- The request `0xDF` without a mask. -/
def rssiRequest : Mem := requestBuffer .sourceFrom232 0xDF 0 [0, 0, 0, 0] fun _ => 0

/-- The request `0xDE`. -/
def nextRssiRequest : Mem := requestBuffer .sourceFrom232 0xDE 0 [0, 0] fun _ => 0

theorem readerHearing_ready (last : UInt8) :
  Pager.Ready ⟨readerHearing last, []⟩
  := by
  obtain ⟨hregistered, hmode⟩ := readerWithTags_ready 9
  dsimp only at hregistered hmode
  unfold readerHearing
  generalize readerWithTags 9 = r at *
  exact ⟨hregistered, hmode⟩

theorem rssiRequest_ready (last : UInt8) :
  ListRequest 0xDF .sourceFrom232 rssiRequest 8 (readerHearing last).toGlobals
  := by
  have h := readerHearing_ready last
  exact listRequest_requestBuffer h.registered
    (show ((0xDF : UInt8), (⟨none, flagOTHR, 4, some .epc1g2ListRSSIMaskTag⟩ : SParamItem))
      ∈ registeredItems by decide)
    (by decide) h.mode (by decide) (by decide)

/-- The calls of the R2000 for the nine tags: what they return, the report, and the rows that they
leave, each with its length and its signal strength. -/
def hearingCalls (last : UInt8) : Option (List UInt8 × List UInt8 × ℕ × List (List UInt8)) :=
  let g := (readerHearing last).toGlobals
  let p := inventoryRounds (rssiRequest.shift 3) g
  (encodeR2000 0x80 p (inventoryStart (rssiRequest.shift 3) g)).bind fun out =>
    (encodeR2000 0x91 p (retrievalStart [] (g.traffic.drop 2) out.2)).map fun out' =>
      ([out.1, out'.1], out.2.r2000.load.take 7, out'.2.cardPos,
        (List.range 9).map fun k =>
          [(out'.2.cardIndex k).load 0, (out'.2.cardIndex k).load (tagIdLength + 7)])

/-- What they return for nine identifiers of one word. -/
def heard (last : UInt8) : List UInt8 × List UInt8 × ℕ × List (List UInt8) :=
  ([0, 0], (tagReport 9).take 7, 9, List.replicate 8 [1, 0x4A] ++ [[1, last]])

section Hearing

variable {last : UInt8} {g : Globals}

/-- The inventory of the nine tags, and what it leaves of a row. -/
theorem inventoryTaken_hearing (hcalls : hearingCalls last = some (heard last)) :
  ∃ g, InventoryTaken (rssiRequest.shift 3) (readerHearing last).toGlobals g ∧ g.cardPos = 9
    ∧ ∀ k < 9, (g.cardIndex k).load 0 = 1
      ∧ (g.cardIndex k).load (tagIdLength + 7) = if k = 8 then last else 0x4A
  := by
  rw [hearingCalls, heard] at hcalls
  obtain ⟨⟨flag, g₁⟩, hcall, hretrieved⟩ := Option.bind_eq_some_iff.mp hcalls
  obtain ⟨⟨flag', g⟩, hretrieve, heq⟩ := Option.map_eq_some_iff.mp hretrieved
  simp only [Prod.mk.injEq, List.cons.injEq, and_true] at heq
  obtain ⟨⟨rfl, rfl⟩, hframe, hpos, hrows⟩ := heq
  have hload : ∀ i < 7, g₁.r2000.load i = ((tagReport 9).take 7).getD i 0 := by
    intro i hi
    exact getD_of_take (f := (tagReport 9).take 7) hframe hi
  refine ⟨g, ⟨g₁, [], _, hcall, ?_, ?_, encodeR2000_traffic (by decide) rfl hcall, hretrieve⟩,
    hpos, ?_⟩
  · rw [SR2000TransData.frameLen, hload 1 (by decide)]
    decide
  · rw [SR2000TransData.para, Mem.shift_apply, Mem.shift_apply, hload 5 (by decide),
      hload 6 (by decide)]
    decide
  · intro k hk
    have hrow := congrArg (fun rows => rows.getD k []) hrows
    interval_cases k <;> simpa using hrow

/-- The nine rows have short identifiers and signal strengths. -/
theorem ranged_hearing (hlast : last ≠ 0)
    (hrows : ∀ k < 9, (g.cardIndex k).load 0 = 1
      ∧ (g.cardIndex k).load (tagIdLength + 7) = if k = 8 then last else 0x4A) :
  ∀ k < 9, (g.cardIndex k).Ranged
  := by
  intro k hk
  obtain ⟨hshort, hstrength⟩ := hrows k hk
  constructor
  · rw [hshort]
    decide
  · rw [hstrength]
    split
    · exact hlast
    · decide

/-- The first page has eight of them. -/
theorem firstRows_hearing (hpos : g.cardPos = 9) :
  firstRows g = 8
  := by
  rw [firstRows, firstPage, hpos]
  rfl

/-- The second page has the ninth. -/
theorem nextRssiRequest_ready {first : UInt8 × Mem × Reader}
    (hfirst : processParamTable .sourceFrom232 rssiRequest 8 (readerHearing last) = some first)
    (hpos : g.cardPos = 9) (hpaging : first.2.2.paging = (firstPage g).paging) :
  ListRequest 0xDE .sourceFrom232 nextRssiRequest 6 first.2.2.toGlobals
    ∧ (nextPage first.2.2.toGlobals).1 = 1 ∧ first.2.2.cardIndex = g.cardIndex
    ∧ nextRow first.2.2.toGlobals = fun i => 8 + i
  := by
  have hready : Pager.Ready ⟨first.2.2, [(first.1, replyPara .sourceFrom232 first.2.1)]⟩ := by
    apply Pager.Ready.step (f := .epc1g2ListRSSIMaskTag) (readerHearing_ready last)
      (rssiRequest_ready last) (by decide) (by decide)
    simp only [Pager.step, hfirst, Option.map_some, List.nil_append]
  have hall : first.2.2.tagAllNumber = 9 := by
    have h := congrArg Paging.tagAllNumber hpaging
    rw [Globals.paging, Globals.paging, firstPage, hpos] at h
    exact h
  have hsent : first.2.2.tagSendCount = 8 := by
    have h := congrArg Paging.tagSendCount hpaging
    rw [Globals.paging, Globals.paging, firstPage, hpos] at h
    exact h
  refine ⟨?_, ?_, congrArg Paging.cardIndex hpaging, ?_⟩
  · exact listRequest_requestBuffer hready.registered
      (show ((0xDE : UInt8), (⟨none, flagOTHR, 4, some .epc1g2GetRSSIIDList⟩ : SParamItem))
        ∈ registeredItems by decide)
      (by decide) hready.mode (by decide) (by decide)
  · rw [nextPage, hall, hsent]
    rfl
  · funext i
    rw [nextRow, hsent]
    rfl

end Hearing

/-- Nine tags with the same signal strength are given in two pages. -/
theorem rssi_pages_same :
  ∃ g first, InventoryTaken (rssiRequest.shift 3) (readerHearing 0x4A).toGlobals g
    ∧ processParamTable .sourceFrom232 rssiRequest 8 (readerHearing 0x4A) = some first
    ∧ RssiReply .sourceFrom232 g.cardIndex id 8 first
    ∧ Run.Along Pager.step RssiAnswered [.request .sourceFrom232 nextRssiRequest 6]
      ⟨first.2.2, []⟩
  := by
  have hcalls : hearingCalls 0x4A = some (heard 0x4A) := by
    unfold hearingCalls readerHearing readerWithTags
    rw [powerOn_eq]
    decide +kernel
  obtain ⟨g, hinventory, hpos, hrows⟩ := inventoryTaken_hearing hcalls
  have hranged := ranged_hearing (by decide) hrows
  have hcount := firstRows_hearing hpos
  obtain ⟨first, hfirst, hpaging, hall⟩ := rssi_pages_iff (readerHearing 0x4A) .sourceFrom232
    rssiRequest 8 g (readerHearing_ready 0x4A).registered (rssiRequest_ready 0x4A) hinventory
    (by
      intro i hi
      exact hranged i (by omega))
  rw [hcount] at hall
  obtain ⟨hrequest, hone, hindex, hplace⟩ := nextRssiRequest_ready hfirst hpos hpaging
  have hasks : Run.Along Pager.step AsksForRssi [.request .sourceFrom232 nextRssiRequest 6]
      ⟨first.2.2, []⟩ := by
    refine Run.Along.singleton ⟨hrequest, ?_⟩
    rw [hone, hindex, hplace]
    intro i hi
    exact ⟨hranged (8 + i) (by omega), hranged i (by omega)⟩
  have hstrength : ∀ k < 9, (g.cardIndex k).load (tagIdLength + 7) = 0x4A := by
    intro k hk
    rw [(hrows k hk).2, ite_self]
  have hfits : RssiFits .sourceFrom232 g.cardIndex id 8 := by
    apply rssiFits_of_short _ (Nat.le_refl 8)
    intro i hi
    rw [id_eq, (hrows i (by omega)).1]
    decide
  have hrepeats : Run.Along Pager.step RssiRepeats [.request .sourceFrom232 nextRssiRequest 6]
      ⟨first.2.2, []⟩ := by
    apply Run.Along.singleton
    rw [RssiRepeats, hone, hindex, hplace]
    constructor
    · apply rssiFits_of_short _ (by decide)
      intro i hi
      rw [(hrows (8 + i) (by omega)).1]
      decide
    · intro i hi
      rw [Row.rssiValue, Row.rssiValue, hstrength i (by omega), hstrength (8 + i) (by omega)]
  obtain ⟨hreply, hanswers⟩ := (hall _ hasks).mpr ⟨hfits, hrepeats⟩
  exact ⟨g, first, hinventory, hfirst, hreply, hanswers⟩

/-- The ninth tag is given with the signal strength of the first. -/
theorem ninth_strength_lost :
  ∃ g first reply, InventoryTaken (rssiRequest.shift 3) (readerHearing 0x4B).toGlobals g
    ∧ g.cardPos = 9 ∧ (∀ k < 9, (g.cardIndex k).Ranged)
    ∧ processParamTable .sourceFrom232 rssiRequest 8 (readerHearing 0x4B) = some first
    ∧ processParamTable .sourceFrom232 nextRssiRequest 6 first.2.2 = some reply
    ∧ first.2.2.cardIndex = g.cardIndex
    ∧ (nextPage first.2.2.toGlobals).1 = 1 ∧ nextRow first.2.2.toGlobals 0 = 8
    ∧ (g.cardIndex 0).rssiValue = 56 ∧ (g.cardIndex 8).rssiValue = 55
    ∧ ¬ RssiReply .sourceFrom232 g.cardIndex (nextRow first.2.2.toGlobals)
      (nextPage first.2.2.toGlobals).1 reply
  := by
  have hcalls : hearingCalls 0x4B = some (heard 0x4B) := by
    unfold hearingCalls readerHearing readerWithTags
    rw [powerOn_eq]
    decide +kernel
  obtain ⟨g, hinventory, hpos, hrows⟩ := inventoryTaken_hearing hcalls
  have hranged := ranged_hearing (by decide) hrows
  have hcount := firstRows_hearing hpos
  obtain ⟨first, hfirst, hpaging, hregistered, -⟩ := rssi_first
    (readerHearing_ready 0x4B).registered (rssiRequest_ready 0x4B) hinventory
    (by
      intro i hi
      exact hranged i (by omega))
  obtain ⟨hrequest, hone, hindex, hplace⟩ := nextRssiRequest_ready hfirst hpos hpaging
  obtain ⟨reply, hreply, -, hiff⟩ := rssi_next hregistered hrequest (by
    rw [hone, hindex, hplace]
    intro i hi
    exact ⟨hranged (8 + i) (by omega), hranged i (by omega)⟩)
  have hvalue₀ : (g.cardIndex 0).rssiValue = 56 := by
    rw [Row.rssiValue, (hrows 0 (by decide)).2]
    decide
  have hvalue₈ : (g.cardIndex 8).rssiValue = 55 := by
    rw [Row.rssiValue, (hrows 8 (by decide)).2]
    decide
  refine ⟨g, first, reply, hinventory, hpos, hranged, hfirst, hreply, hindex, hone, ?_, hvalue₀,
    hvalue₈, ?_⟩
  · rw [hplace]
  · intro hright
    rw [← hindex] at hright
    have hsame := (hiff.mp hright).2 0 (by rw [hone]; decide)
    rw [hplace, hindex, hvalue₀, hvalue₈] at hsame
    exact absurd hsame (by decide)

end UhfReader
