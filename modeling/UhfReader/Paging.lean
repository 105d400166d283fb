import Mathlib.Algebra.Order.BigOperators.Group.List
import UhfReader.Judge
import UhfReader.Collect
import UhfReader.Origins
import UhfReader.Lib.Pages

/-!
# Inventories by pages

The reply to `0xEE` holds the first eight tags of an inventory, and each reply to `0xED` the next
eight.  `Tag_all_number` and the payload length fit their types, but `Tag_send_count` and the
count in a reply are bytes, so that the pages are right up to 255 tags only.

`Listing.Holds l bytes` is the invariant of the loops that fill a reply.  `Pager` is a reader with
the replies it has given, over requests and whatever leaves the paging alone in between.
-/

open Memory Pages

namespace UhfReader

/-! ### Filling a reply -/

/-- The reply under construction consists of `bytes`. -/
structure Listing.Holds (l : Listing) (bytes : List UInt8) : Prop where
  length : l.lenth.toNat = bytes.length
  bytes : l.p.take bytes.length = bytes

/-- The bytes of a row in `CardIndex` are those of the row. -/
theorem agreeBelow_cardMem (g : Globals) (k : ℕ) :
  Mem.AgreeBelow 39 (g.cardMem k) (g.cardIndex k).load
  := by
  intro i hi
  rw [Globals.cardMem, Nat.div_eq_of_lt hi, Nat.mod_eq_of_lt hi, Nat.add_zero]

theorem Row.length_tag (row : Row) :
  row.tag.length = 2 * (row.load 0).toNat + 1
  := Mem.length_take _ _

/-- A row with an identifier of 15 words at most is appended with its length byte. -/
theorem Listing.Holds.appendRow {l : Listing} {bytes : List UInt8} (h : l.Holds bytes)
    {g : Globals} {k : ℕ} (hrow : ((g.cardIndex k).load 0).toNat ≤ 15)
    (hroom : bytes.length + (g.cardIndex k).tag.length ≤ 255) :
  (appendRow g l k).Holds (bytes ++ (g.cardIndex k).tag)
  := by
  have hn : ((g.cardIndex k).load 0 * 2 + 1).toNat = 2 * ((g.cardIndex k).load 0).toNat + 1 := by
    rw [UInt8.toNat_add, UInt8.toNat_mul]
    simp only [UInt8.reduceToNat]
    omega
  have hlength := h.length
  have htag := (g.cardIndex k).length_tag
  unfold UhfReader.appendRow
  constructor
  · dsimp only
    rw [UInt8.toNat_add, List.length_append]
    omega
  · dsimp only
    rw [List.length_append, hlength, hn, htag, Mem.take_copy, h.bytes]
    congr 1
    exact ((agreeBelow_cardMem g k).mono (by omega)).take_eq

/-- Up to eight rows are appended one after another. -/
theorem Listing.Holds.appendRows {g : Globals} {ks : List ℕ}
    (hrows : ∀ k ∈ ks, ((g.cardIndex k).load 0).toNat ≤ 15) {l : Listing} {bytes : List UInt8}
    (h : l.Holds bytes) (hroom : bytes.length + 31 * ks.length ≤ 255) :
  (ks.foldl (UhfReader.appendRow g) l).Holds (bytes ++ ks.flatMap fun k => (g.cardIndex k).tag)
  := by
  induction ks generalizing l bytes with
  | nil => simpa using h
  | cons k ks ih =>
    rw [List.length_cons] at hroom
    have hrow := hrows k List.mem_cons_self
    have htag := (g.cardIndex k).length_tag
    rw [List.foldl_cons, List.flatMap_cons, ← List.append_assoc]
    apply ih
    · intro j hj
      exact hrows j (List.mem_cons_of_mem k hj)
    · exact h.appendRow hrow (by omega)
    · rw [List.length_append]
      omega

/-- A reply starts with the byte `p[0]`. -/
theorem Listing.holds_start (p : Mem) (bakrssi : ℕ) :
  Listing.Holds ⟨p, 1, bakrssi⟩ [p 0]
  := ⟨rfl, rfl⟩

/-- The rows of the page `i` listed in a reply. -/
theorem holds_listRows {g : Globals} {n i : ℕ}
    (hrows : ∀ k < n, ((g.cardIndex k).load 0).toNat ≤ 15) (p : Mem) :
  (listRows g p (min 8 (n - 8 * i)) fun l j => appendRow g l (8 * i + j)).Holds
    (p 0 :: (page 8 (List.range n) i).flatMap fun k => (g.cardIndex k).tag)
  := by
  unfold listRows
  rw [← List.foldl_map, ← page_range]
  refine (Listing.holds_start p g.bakrssi).appendRows ?_ ?_
  · intro k hk
    apply hrows
    exact List.mem_range.mp (List.mem_of_mem_drop (List.mem_of_mem_take hk))
  · rw [length_page, List.length_singleton]
    omega

/-! ### The pages of an inventory -/

/-- The records of the page `i` of an inventory of `n` tags: the rows `8 * i` to `8 * i + 7`, as
far as there are any, each with its length byte. -/
def records (rows : ℕ → Row) (n i : ℕ) : List UInt8 :=
  (page 8 (List.range n) i).flatMap fun k => (rows k).tag

theorem length_records_le {rows : ℕ → Row} {n : ℕ} (h : ∀ k < n, ((rows k).load 0).toNat ≤ 15)
    (i : ℕ) :
  (records rows n i).length ≤ 248
  := by
  have hpage := length_page 8 (List.range n) i
  have hsum : ((page 8 (List.range n) i).map fun k => (rows k).tag.length).sum
      ≤ ((page 8 (List.range n) i).map fun k => (rows k).tag.length).length • 31 := by
    apply List.sum_le_card_nsmul
    intro length hlength
    obtain ⟨k, hk, rfl⟩ := List.mem_map.mp hlength
    have hlt := List.mem_range.mp (List.mem_of_mem_drop (List.mem_of_mem_take hk))
    have hrow := h k hlt
    rw [Row.length_tag]
    omega
  rw [List.length_map, Nat.nsmul_eq_mul] at hsum
  rw [records, List.length_flatMap]
  omega

/-- What the pages of an inventory are taken from. -/
structure Paging where
  cardIndex : ℕ → Row
  tagAllNumber : ℕ
  tagSendCount : UInt8

/-- The paging of the globals. -/
def Globals.paging (g : Globals) : Paging := ⟨g.cardIndex, g.tagAllNumber, g.tagSendCount⟩

/-- The paging when `i` pages of `n` rows are sent. -/
def Paging.sent (rows : ℕ → Row) (n i : ℕ) : Paging := ⟨rows, n, UInt8.ofNat (min n (8 * i))⟩

/-- A handler has left the reply `bytes` at `m`, with the paging `next`. -/
structure Lists (bytes : List UInt8) (next : Paging) (m : Mem) (g : Globals) : Prop where
  reply : Listing.Holds ⟨m, g.cmdTmpLen, g.bakrssi⟩ bytes
  paging : g.paging = next

/-- The first page of an inventory. -/
theorem replyFirstPage_lists {g : Globals} {n : ℕ} (hpos : g.cardPos = n) (hmax : n ≤ maxNum)
    (hrows : ∀ k < n, ((g.cardIndex k).load 0).toNat ≤ 15) (p : Mem) :
  ∃ m g', replyFirstPage p appendRow g = some (m, g')
    ∧ Lists (UInt8.ofNat n :: records g.cardIndex n 0) (.sent g.cardIndex n 1) m g'
    ∧ g'.gParamTable = g.gParamTable
  := by
  simp only [maxNum] at hmax
  have hall : (firstPage g).tagAllNumber = n := by
    unfold firstPage
    dsimp only
    omega
  have hcount : (firstPage g).tagSendCount = UInt8.ofNat (min n 8) := by
    unfold firstPage
    dsimp only
    rw [hpos, Nat.mod_eq_of_lt (by omega)]
    split
    · rw [Nat.min_eq_right (by omega)]
      rfl
    · rw [Nat.min_eq_left (by omega)]
  have htoNat : (firstPage g).tagSendCount.toNat = min 8 (n - 8 * 0) := by
    rw [hcount, UInt8.toNat_ofNat']
    omega
  have hholds := holds_listRows (g := firstPage g) (i := 0) hrows (p.put 0 (UInt8.ofNat n))
  simp only [Nat.mul_zero, Nat.zero_add] at hholds
  rw [Mem.put_same] at hholds
  rw [Nat.mul_zero] at htoNat
  refine ⟨_, _, replyFirstPage_eq p appendRow g, ⟨?_, ?_⟩, rfl⟩
  · rw [hall, htoNat]
    exact hholds
  · have hpaging : (firstPage g).paging = .sent g.cardIndex n 1 := by
      rw [Globals.paging, hall, hcount]
      rfl
    exact hpaging

/-- `Tag_send_count` is the number of rows sent while there are at most 255. -/
theorem toNat_sent {n : ℕ} (hn : n ≤ 255) (i : ℕ) :
  (UInt8.ofNat (min n (8 * i))).toNat = min n (8 * i)
  := by
  rw [UInt8.toNat_ofNat']
  omega

/-- The number of rows of the next page. -/
theorem nextPage_sent {g : Globals} {rows : ℕ → Row} {n i : ℕ} (hn : n ≤ 255)
    (h : g.paging = .sent rows n i) :
  (nextPage g).1 = min 8 (n - 8 * i) ∧ (nextPage g).2.paging = .sent rows n (i + 1)
  := by
  unfold Globals.paging Paging.sent at h
  simp only [Paging.mk.injEq] at h
  obtain ⟨hrows, hall, hcount⟩ := h
  have htoNat : g.tagSendCount.toNat = min n (8 * i) := by
    rw [hcount, toNat_sent hn]
  unfold nextPage
  rw [htoNat, hall]
  split
  · rename_i hmore
    refine ⟨by dsimp only; omega, ?_⟩
    unfold Globals.paging Paging.sent
    simp only [Paging.mk.injEq]
    refine ⟨hrows, trivial, UInt8.toNat_inj.mp ?_⟩
    rw [UInt8.toNat_add, htoNat, toNat_sent hn]
    simp only [UInt8.reduceToNat]
    omega
  · rename_i hlast
    refine ⟨?_, ?_⟩
    · dsimp only
      rw [UInt8.toNat_ofNat']
      omega
    · unfold Globals.paging Paging.sent
      simp only [Paging.mk.injEq]
      refine ⟨hrows, trivial, ?_⟩
      congr 1
      omega

/-- The rows of the next page, by their places in `CardIndex`. -/
theorem listRows_next {g : Globals} {n i : ℕ} (p : Mem) :
  listRows g p (min 8 (n - 8 * i)) (fun l j => appendRow g l (min n (8 * i) + j))
    = listRows g p (min 8 (n - 8 * i)) (fun l j => appendRow g l (8 * i + j))
  := by
  by_cases hi : 8 * i ≤ n
  · rw [Nat.min_eq_right hi]
  · rw [Nat.sub_eq_zero_of_le (by omega)]
    rfl

/-- The next page of an inventory of at most 255 tags. -/
theorem epc1g2GetIDList_lists {g : Globals} {rows : ℕ → Row} {n i : ℕ} (hn : n ≤ 255)
    (hrows : ∀ k < n, ((rows k).load 0).toNat ≤ 15) (h : g.paging = .sent rows n i) (p : Mem) :
  ∃ m g', epc1g2GetIDList p g = some (m, g')
    ∧ Lists (UInt8.ofNat (n - 8 * i) :: records rows n i) (.sent rows n (i + 1)) m g'
    ∧ g'.gParamTable = g.gParamTable
  := by
  obtain ⟨hlength, hnext⟩ := nextPage_sent hn h
  have hindex : (nextPage g).2.cardIndex = rows := congrArg Paging.cardIndex hnext
  have htable : (nextPage g).2.gParamTable = g.gParamTable := by
    unfold nextPage
    split
    · rfl
    · rfl
  have hcount : g.tagSendCount.toNat = min n (8 * i) := by
    rw [show g.tagSendCount = _ from congrArg Paging.tagSendCount h]
    exact toNat_sent hn i
  have hall : g.tagAllNumber = n := congrArg Paging.tagAllNumber h
  have hfirst : UInt8.ofNat (g.tagAllNumber + 256 - g.tagSendCount.toNat)
      = UInt8.ofNat (n - 8 * i) := by
    apply UInt8.toNat_inj.mp
    rw [UInt8.toNat_ofNat', UInt8.toNat_ofNat', hall, hcount]
    omega
  have hholds := holds_listRows (g := (nextPage g).2) (n := n) (i := i) (by rwa [hindex])
    (p.put 0 (UInt8.ofNat (n - 8 * i)))
  rw [← listRows_next, Mem.put_same, hindex] at hholds
  refine ⟨_, _, rfl, ⟨?_, hnext⟩, htable⟩
  rw [← hfirst, ← hlength, ← hcount] at hholds
  rw [← hfirst]
  exact hholds

/-! ### Requests for pages -/

/-- A valid request of the command `cmd`, with the length that the command asks for. -/
structure ListRequest (cmd : UInt8) (o : CmdOrigin) (buffer : Mem) (length : ℕ) (g : Globals) : Prop
    extends Valid o buffer length g where
  isCmd : buffer 2 = cmd
  fits : tagDataLenPurse o buffer = cmdoorCheckOk

section Requests

variable {cmd : UInt8} {f : Handler} {o : CmdOrigin} {buffer m : Mem} {length : ℕ} {r : Reader}
  {g : Globals}

/-- A request is answered with what its function has left. -/
theorem ListRequest.process (h : ListRequest cmd o buffer length r.toGlobals)
    (hreg : Registered r.gParamTable)
    (hmem : (cmd, (⟨none, flagOTHR, 4, some f⟩ : SParamItem)) ∈ registeredItems) :
  processParamTable o buffer length r
    = (runHandler (buffer (paraOff o - 1)) (buffer.shift (paraOff o)) f r.toGlobals).map fun ran =>
        pack o (finishOther o
          (buffer.graft (paraOff o) ran.1, { toGlobals := ran.2, tagDataOrigin := o }))
  := by
  have hentry := hreg.entry hmem h.isCmd
  have hother := otherRequest_of_function runHandler (r.gParamTable.getparaindex (buffer 2)) h.fits
    hentry.function
  rw [processParamTable, processWith_of_valid _ h.toValid, dispatch_other _ h.toValid hentry.flag,
    hother, Option.map_map]
  rfl

/-- A request keeps the settings when its function does. -/
theorem ListRequest.settings (h : ListRequest cmd o buffer length r.toGlobals)
    (hreg : Registered r.gParamTable)
    (hmem : (cmd, (⟨none, flagOTHR, 4, some f⟩ : SParamItem)) ∈ registeredItems)
    (hnot : f ∉ settingHandlers) {reply : UInt8 × Mem × Reader}
    (hreply : processParamTable o buffer length r = some reply) :
  reply.2.2.settings = r.settings
  := by
  rw [h.process hreg hmem, Option.map_eq_some_iff] at hreply
  obtain ⟨⟨m, g⟩, hrun, rfl⟩ := hreply
  rw [pack, finishOther_reader]
  exact keeps_run _ _ hnot _ _ _ hrun

/-- The reply that a function has left is sent as it is. -/
theorem pack_finishOther_holds (o : CmdOrigin) (buffer : Mem) {bytes : List UInt8}
    (hholds : Listing.Holds ⟨m, g.cmdTmpLen, g.bakrssi⟩ bytes) (hlength : bytes.length ≤ 249) :
  ∃ reply, pack o (finishOther o
        (buffer.graft (paraOff o) m, { toGlobals := g, tagDataOrigin := o }))
      = (cmdoorCheckOk, reply, { toGlobals := g, tagDataOrigin := o })
    ∧ replyPara o reply = bytes
  := by
  have hlen : g.cmdTmpLen.toNat = bytes.length := hholds.length
  have hoff := two_lt_paraOff o
  have hfinish : finishOther o (buffer.graft (paraOff o) m,
        { toGlobals := g, tagDataOrigin := o })
      = (cmdoorCheckOk, (buffer.graft (paraOff o) m).put 1 (emptyLen o + g.cmdTmpLen),
          { toGlobals := g, tagDataOrigin := o }) := by
    unfold finishOther
    rw [if_neg, UInt8.add_comm]
    simp only [bufLen]
    omega
  obtain ⟨hflag, hpara⟩ := replyPara_ok (o := o)
    (Mem.put_same (buffer.graft (paraOff o) m) 1 (emptyLen o + g.cmdTmpLen)) (by omega)
  rw [hfinish]
  refine ⟨_, Prod.ext hflag rfl, hpara.trans ?_⟩
  rw [hlen]
  refine Eq.trans (Mem.AgreeBelow.take_eq ?_) hholds.bytes
  intro i _
  rw [Mem.shift_apply, Mem.put_of_ne (by omega), Mem.graft_above]

end Requests

/-! ### Runs -/

/-- A reader with the flags and the parameters of the replies it has given. -/
structure Pager where
  reader : Reader
  replies : List (UInt8 × List UInt8)

/-- What happens to a reader: a request, or anything else. -/
inductive PagerEvent where
  | request (o : CmdOrigin) (buffer : Mem) (length : ℕ)
  | other (f : Reader → Reader)

def PagerEvent.isRequest : PagerEvent → Bool
  | .request _ _ _ => true
  | .other _ => false

/-- A step of the reader, with its reply. -/
def Pager.step (s : Pager) : PagerEvent → Option Pager
  | .request o buffer length =>
    (processParamTable o buffer length s.reader).map fun reply =>
      { reader := reply.2.2, replies := s.replies ++ [(reply.1, replyPara o reply.2.1)] }
  | .other f => some { s with reader := f s.reader }

/-- The requests ask for the next page, and nothing else touches the pages. -/
def AsksForPages (s : Pager) : PagerEvent → Prop
  | .request o buffer length => ListRequest 0xED o buffer length s.reader.toGlobals
  | .other f => (f s.reader).paging = s.reader.paging ∧ Registered (f s.reader).gParamTable

/-- The replies give the `n` rows by pages: each counts the rows that were not sent before it and
holds the records of the next eight of them, all pages together hold each row once and in order,
and after the last page the replies are empty. -/
structure PagesComplete (rows : ℕ → Row) (n : ℕ) (replies : List (UInt8 × List UInt8)) : Prop where
  counted : ∀ i (h : i < replies.length), ∃ count : UInt8, count.toNat = n - 8 * i
    ∧ replies.get ⟨i, h⟩ = (cmdoorCheckOk, count :: records rows n i)
  complete : (n + 7) / 8 ≤ replies.length →
    replies.flatMap (fun reply => reply.2.tail) = (List.range n).flatMap fun k => (rows k).tag
  ended : ∀ i (h : i < replies.length), (n + 7) / 8 ≤ i →
    replies.get ⟨i, h⟩ = (cmdoorCheckOk, [0])

/-- The replies to the first requests, for at most 255 rows. -/
def pageReplies (rows : ℕ → Row) (n k : ℕ) : List (UInt8 × List UInt8) :=
  (List.range k).map fun i => (cmdoorCheckOk, UInt8.ofNat (n - 8 * i) :: records rows n i)

theorem pagesComplete_pageReplies {n : ℕ} (hn : n ≤ 255) (rows : ℕ → Row) (k : ℕ) :
  PagesComplete rows n (pageReplies rows n k)
  := by
  refine ⟨?_, ?_, ?_⟩
  · intro i h
    refine ⟨UInt8.ofNat (n - 8 * i), ?_, ?_⟩
    · rw [UInt8.toNat_ofNat']
      omega
    · simp [pageReplies]
  · intro hall
    have hlength : (pageReplies rows n k).length = k := by simp [pageReplies]
    have henough : (List.range n).length ≤ 8 * k := by
      rw [List.length_range]
      omega
    rw [← flatMap_page_all henough, pageReplies, List.flatMap_map]
    rfl
  · intro i h hlast
    have hnone : page 8 (List.range n) i = [] := by
      apply page_eq_nil
      rw [List.length_range]
      omega
    have hzero : n - 8 * i = 0 := by omega
    simp [pageReplies, records, hnone, hzero]

/-- The first reply of complete pages counts all rows, in a byte. -/
theorem PagesComplete.first_count {rows : ℕ → Row} {n : ℕ} {flag count : UInt8} {bytes : List UInt8}
    {more : List (UInt8 × List UInt8)}
    (h : PagesComplete rows n ((flag, count :: bytes) :: more)) :
  count.toNat = n
  := by
  obtain ⟨count', hcount, hreply⟩ := h.counted 0 (by simp)
  simp only [List.get_eq_getElem, List.getElem_cons_zero, Prod.mk.injEq, List.cons.injEq] at hreply
  rw [hreply.2.1, hcount]
  omega

theorem Pager.step_request {s : Pager} {o : CmdOrigin} {buffer : Mem} {length : ℕ}
    {reply : UInt8 × Mem × Reader} (h : processParamTable o buffer length s.reader = some reply) :
  s.step (.request o buffer length)
    = some ⟨reply.2.2, s.replies ++ [(reply.1, replyPara o reply.2.1)]⟩
  := by
  simp only [step, h, Option.map_some]

/-- A handler has left the reply `bytes`, which is sent. -/
theorem Lists.step {cmd : UInt8} {f : Handler} {o : CmdOrigin} {buffer m : Mem} {length : ℕ}
    {s : Pager} {g : Globals} {bytes : List UInt8} {next : Paging}
    (hreg : Registered s.reader.gParamTable)
    (hrequest : ListRequest cmd o buffer length s.reader.toGlobals)
    (hmem : (cmd, (⟨none, flagOTHR, 4, some f⟩ : SParamItem)) ∈ registeredItems)
    (hrun : runHandler (buffer (paraOff o - 1)) (buffer.shift (paraOff o)) f s.reader.toGlobals
      = some (m, g))
    (hlists : Lists bytes next m g) (hlength : bytes.length ≤ 249) :
  ∃ s', s.step (.request o buffer length) = some s' ∧ Registered s'.reader.gParamTable
    ∧ s'.reader.paging = next ∧ s'.replies = s.replies ++ [(cmdoorCheckOk, bytes)]
  := by
  have hprocess := hrequest.process hreg hmem
  rw [hrun, Option.map_some] at hprocess
  obtain ⟨reply, hpack, hpara⟩ := pack_finishOther_holds o buffer hlists.reply hlength
  rw [hpack] at hprocess
  refine ⟨_, Pager.step_request hprocess, processParamTable_registered hreg hprocess,
    hlists.paging, ?_⟩
  rw [hpara]

/-- Every request for a page is answered. -/
theorem step_asks {s : Pager} {e : PagerEvent} (hreg : Registered s.reader.gParamTable)
    (h : AsksForPages s e) :
  ∃ s' more, s.step e = some s' ∧ Registered s'.reader.gParamTable
    ∧ s'.replies = s.replies ++ more ∧ more.length = if e.isRequest then 1 else 0
  := by
  cases e with
  | request o buffer length =>
    obtain ⟨m, g', hrun⟩ : ∃ m g', epc1g2GetIDList (buffer.shift (paraOff o)) s.reader.toGlobals
        = some (m, g') := ⟨_, _, rfl⟩
    have hprocess := ListRequest.process (f := .epc1g2GetIDList) h hreg (by decide)
    rw [show runHandler _ _ .epc1g2GetIDList _ = _ from hrun, Option.map_some] at hprocess
    exact ⟨_, [_], Pager.step_request hprocess, processParamTable_registered hreg hprocess, rfl,
      rfl⟩
  | other f => exact ⟨_, [], rfl, h.2, (List.append_nil _).symm, rfl⟩

/-- A run of requests for pages is answered request by request. -/
theorem run_asks {es : List PagerEvent} {s : Pager} (hreg : Registered s.reader.gParamTable)
    (h : Run.Along Pager.step AsksForPages es s) :
  ∃ s' more, Run.run Pager.step es s = some s' ∧ s'.replies = s.replies ++ more
    ∧ more.length = es.countP PagerEvent.isRequest
  := by
  induction es generalizing s with
  | nil => exact ⟨s, [], rfl, (List.append_nil _).symm, rfl⟩
  | cons e es ih =>
    obtain ⟨s₁, more₁, hstep, hreg₁, hreplies₁, hlength₁⟩ := step_asks hreg h.1
    obtain ⟨s', more, hrun, hreplies, hlength⟩ := ih hreg₁ (h.tail hstep)
    refine ⟨s', more₁ ++ more, (Run.run_cons_of_some hstep).trans hrun, ?_, ?_⟩
    · rw [hreplies, hreplies₁, List.append_assoc]
    · rw [List.length_append, List.countP_cons, hlength₁, hlength, Nat.add_comm]

/-- As many pages are sent as replies were given. -/
structure Pager.Sent (rows : ℕ → Row) (n : ℕ) (s : Pager) : Prop where
  registered : Registered s.reader.gParamTable
  paging : s.reader.paging = .sent rows n s.replies.length
  replies : s.replies = pageReplies rows n s.replies.length

/-- The next page of at most 255 rows. -/
theorem Pager.Sent.step {rows : ℕ → Row} {n : ℕ} (hn : n ≤ 255)
    (hrows : ∀ k < n, ((rows k).load 0).toNat ≤ 15) {s s' : Pager} {e : PagerEvent}
    (h : s.Sent rows n) (hasks : AsksForPages s e) (hstep : s.step e = some s') :
  s'.Sent rows n
  := by
  cases e with
  | request o buffer length =>
    obtain ⟨m, g', hrun, hlists, -⟩ :=
      epc1g2GetIDList_lists hn hrows h.paging (buffer.shift (paraOff o))
    have hbound := length_records_le hrows s.replies.length
    obtain ⟨t, hstep', hregistered, hpaging, hreplies⟩ := hlists.step (f := .epc1g2GetIDList)
      h.registered hasks (by decide) hrun (by rw [List.length_cons]; omega)
    obtain rfl := Option.some.inj (hstep'.symm.trans hstep)
    have hlength : t.replies.length = s.replies.length + 1 := by
      rw [hreplies, List.length_append, List.length_singleton]
    refine ⟨hregistered, ?_, ?_⟩
    · rw [hlength]
      exact hpaging
    · rw [hlength, pageReplies, List.range_succ, List.map_append, ← pageReplies, ← h.replies,
        hreplies, List.map_singleton]
  | other f =>
    simp only [Pager.step, Option.some.injEq] at hstep
    subst hstep
    exact ⟨hasks.2, hasks.1.trans h.paging, h.replies⟩

/-- The inventory that `0xEE` carries out on the parameters `p` is taken: tags were reported to
`0x80`, and `0x91` has returned `0` with the globals `g₂`. -/
def InventoryTaken (p : Mem) (g g₂ : Globals) : Prop :=
  ∃ g₁ quiet traffic, encodeR2000 0x80 (inventoryRounds p g) (inventoryStart p g) = some (0, g₁)
    ∧ g₁.r2000.frameLen > 4
    ∧ (g₁.r2000.para 1).toNat * 256 + (g₁.r2000.para 2).toNat > 0
    ∧ g₁.traffic = quiet :: traffic
    ∧ encodeR2000 0x91 (inventoryRounds p g) (retrievalStart quiet traffic g₁) = some (0, g₂)

/-- The reply to `0xEE` is the first page. -/
theorem step_firstPage {r : Reader} {o : CmdOrigin} {buffer : Mem} {length n : ℕ} {g : Globals}
    (hreg : Registered r.gParamTable) (hrequest : ListRequest 0xEE o buffer length r.toGlobals)
    (hinventory : InventoryTaken (buffer.shift (paraOff o)) r.toGlobals g) (hpos : g.cardPos = n)
    (hmax : n ≤ maxNum) (hrows : ∀ k < n, ((g.cardIndex k).load 0).toNat ≤ 15) :
  ∃ s, Pager.step ⟨r, []⟩ (.request o buffer length) = some s ∧ s.Sent g.cardIndex n
    ∧ s.replies = [(cmdoorCheckOk, UInt8.ofNat n :: records g.cardIndex n 0)]
  := by
  obtain ⟨g₁, quiet, traffic, hcall, hlong, hnumber, htraffic, hretrieve⟩ := hinventory
  have hretrieves := inventory6C_retrieves appendRow hcall hlong hnumber htraffic hretrieve
  obtain ⟨m, g', hreply, hlists, -⟩ := replyFirstPage_lists hpos hmax hrows
    (inventoryRounds (buffer.shift (paraOff o)) r.toGlobals)
  have hrun : epc1g2ListMaskTagID (buffer.shift (paraOff o)) r.toGlobals = some (m, g') :=
    hretrieves.trans hreply
  have hbound := length_records_le hrows 0
  obtain ⟨s, hstep, hregistered, hpaging, hreplies⟩ := hlists.step (s := ⟨r, []⟩)
    (f := .epc1g2ListMaskTagID) hreg hrequest (by decide) hrun (by rw [List.length_cons]; omega)
  rw [List.nil_append] at hreplies
  refine ⟨s, hstep, ⟨hregistered, ?_, ?_⟩, hreplies⟩
  · rw [hreplies]
    exact hpaging
  · rw [hreplies]
    rfl

/-- Inventories by pages are complete for at most 255 tags.  The reply to `0xEE`, which has taken
an inventory of `n` tags, up to `MAXNUM`, and those to any number of requests `0xED` give the tags
by pages, if and only if the number of tags fits in the first byte of a reply. -/
theorem pages_complete_iff (r : Reader) (o : CmdOrigin) (buffer : Mem) (length : ℕ) (g : Globals)
    (n : ℕ) (hreg : Registered r.gParamTable)
    (hrequest : ListRequest 0xEE o buffer length r.toGlobals)
    (hinventory : InventoryTaken (buffer.shift (paraOff o)) r.toGlobals g) (hpos : g.cardPos = n)
    (hmax : n ≤ maxNum) (hrows : ∀ k < n, ((g.cardIndex k).load 0).toNat ≤ 15) :
  ∃ s₁, Pager.step ⟨r, []⟩ (.request o buffer length) = some s₁
    ∧ ∀ es, Run.Along Pager.step AsksForPages es s₁ →
      ∃ s, Run.run Pager.step es s₁ = some s
        ∧ s.replies.length = 1 + es.countP PagerEvent.isRequest
        ∧ (PagesComplete g.cardIndex n s.replies ↔ n ≤ 255)
  := by
  obtain ⟨s₁, hfirst, hsent, hreply⟩ := step_firstPage hreg hrequest hinventory hpos hmax hrows
  refine ⟨s₁, hfirst, ?_⟩
  intro es hes
  obtain ⟨s, more, hrun, hreplies, hlength⟩ := run_asks hsent.registered hes
  rw [hreply, List.singleton_append] at hreplies
  refine ⟨s, hrun, ?_, ?_, ?_⟩
  · rw [hreplies, List.length_cons, hlength, Nat.add_comm]
  · intro hcomplete
    rw [hreplies] at hcomplete
    have hcount := hcomplete.first_count
    rw [← hcount]
    exact Nat.le_of_lt_succ (UInt8.ofNat n).toNat_lt
  · intro hn
    have hall : s.Sent g.cardIndex n :=
      hes.invariant (fun _ _ _ => Pager.Sent.step hn hrows) hsent hrun
    rw [hall.replies]
    exact pagesComplete_pageReplies hn _ _

/-! ### Some inventories -/

/-- An answer to `0x80` that reports `n` tags. -/
def tagReport (n : ℕ) : List UInt8 :=
  let head := [0xA0, 0x0C, 0x01, 0x80, 0x00, UInt8.ofNat (n / 256), UInt8.ofNat n, 0x00, 0x64,
    0x00, 0x00, 0x00, 0x01]
  head ++ [~~~ head.sum + 1]

/-- The frames of `n` tags, which arrive without delay. -/
def tagFrames (n : ℕ) : List (List Event) := List.replicate n (shortTag.bytes.map .rx)

/-- A new reader that was put into command mode, and `n` tags that will answer it. -/
def readerWithTags (n : ℕ) : Reader :=
  { powerOn .blank with
    gDevice := (powerOn .blank).gDevice.put Offset.readerWorkStatus workCmd
    traffic := [(tagReport n).map .rx ++ [.poll], [], polled (tagFrames n)] }

/-- The request `0xEE` without a mask. -/
def listRequest : Mem := requestBuffer .sourceFrom232 0xEE 0 [0, 0, 0, 0] fun _ => 0

/-- The request `0xED`. -/
def nextRequest : Mem := requestBuffer .sourceFrom232 0xED 0 [0, 0] fun _ => 0

theorem deliver_tagFrames (n : ℕ) :
  Deliver (List.replicate n shortTag) (tagFrames n)
  := by
  induction n with
  | zero => exact .nil
  | succ n ih => exact .cons (rxBytes_map _) ih

theorem polled_tagFrames_no_tick (n : ℕ) :
  ∀ e ∈ polled (tagFrames n), e ≠ .tick
  := by
  intro e he
  simp only [polled, tagFrames, List.mem_flatMap] at he
  obtain ⟨es, hes, he⟩ := he
  rw [List.eq_of_mem_replicate hes, List.mem_append] at he
  obtain he | he := he
  · obtain ⟨b, -, rfl⟩ := List.mem_map.mp he
    exact Event.noConfusion
  · rw [List.mem_singleton.mp he]
    exact Event.noConfusion

/-- The tags are reported. -/
theorem tags_reported {p : Mem} {n : ℕ} (hn : n < 2 ^ 16)
    (hcall : (encodeR2000 0x80 (inventoryRounds p (readerWithTags n).toGlobals)
        (inventoryStart p (readerWithTags n).toGlobals)).map
        (fun out => (out.1, out.2.r2000.load.take 14)) = some (0, tagReport n)) :
  ∃ g₁, encodeR2000 0x80 (inventoryRounds p (readerWithTags n).toGlobals)
        (inventoryStart p (readerWithTags n).toGlobals) = some (0, g₁)
    ∧ g₁.r2000.Reports n ∧ g₁.traffic = [[], polled (tagFrames n)]
  := by
  obtain ⟨⟨flag, g₁⟩, hcall, heq⟩ := Option.map_eq_some_iff.mp hcall
  simp only [Prod.mk.injEq] at heq
  obtain ⟨rfl, hframe⟩ := heq
  have hload : ∀ i < 14, g₁.r2000.load i = (tagReport n).getD i 0 := by
    intro i hi
    exact getD_of_take (f := tagReport n) hframe hi
  refine ⟨g₁, hcall, ⟨hload 3 (by decide), ?_, ?_⟩, encodeR2000_traffic (by decide) rfl hcall⟩
  · rw [SR2000TransData.frameLen, hload 1 (by decide)]
    exact (by decide : (0x0C : UInt8) > 4)
  · rw [SR2000TransData.para, Mem.shift_apply, Mem.shift_apply, hload 5 (by decide),
      hload 6 (by decide)]
    have hnumber : (UInt8.ofNat (n / 256)).toNat * 256 + (UInt8.ofNat n).toNat = n := by
      rw [UInt8.toNat_ofNat', UInt8.toNat_ofNat']
      omega
    exact hnumber

/-- The tags are collected once they are reported. -/
theorem inventoryTaken_tags {p : Mem} {n : ℕ} (hone : 1 ≤ n) (hmax : n ≤ maxNum)
    (hcall : (encodeR2000 0x80 (inventoryRounds p (readerWithTags n).toGlobals)
        (inventoryStart p (readerWithTags n).toGlobals)).map
        (fun out => (out.1, out.2.r2000.load.take 14)) = some (0, tagReport n)) :
  ∃ g, InventoryTaken p (readerWithTags n).toGlobals g ∧ g.cardPos = n
    ∧ ∀ k < n, ((g.cardIndex k).load 0).toNat ≤ 15
  := by
  obtain ⟨g₁, hcall, hreport, htraffic⟩ :=
    tags_reported (by simp only [maxNum] at hmax; omega) hcall
  have hlength : (List.replicate n shortTag).length = n := List.length_replicate
  have htime : Run.Along (waitStep 0x91) InTime (polled (tagFrames n))
      (sendCmd 0x91 0 (inventoryRounds p (readerWithTags n).toGlobals)
        (retrievalStart [] [] g₁)) := by
    apply inTime_of_no_tick (polled_tagFrames_no_tick n)
    rfl
  obtain ⟨⟨g₂, hretrieve, hcollected, -⟩, -⟩ := retrieval_collects []
    (by rwa [hlength]) (by rwa [hlength]) hcall (by rwa [hlength]) rfl (deliver_tagFrames n) htime
  rw [List.append_nil] at hretrieve
  refine ⟨g₂, ⟨g₁, [], _, hcall, hreport.long, ?_, htraffic, hretrieve⟩, ?_, ?_⟩
  · rw [hreport.number]
    exact hone
  · exact hcollected.rows.trans hlength
  · intro k hk
    have hrow := hcollected.held k (by rwa [hlength])
    have hfirst := congrArg (fun l => l.getD 0 0) hrow
    have hword : (g₂.cardIndex k).load 0 = 1 := by
      rw [List.get_eq_getElem, List.getElem_replicate] at hfirst
      exact hfirst
    rw [hword]
    decide

/-- The requests are valid in command mode. -/
theorem listRequest_requestBuffer {cmd : UInt8} {item : SParamItem} {para : List UInt8}
    {g : Globals} (hreg : Registered g.gParamTable) (hmem : (cmd, item) ∈ registeredItems)
    (hcmd : cmd ≠ 0) (hmode : g.gDevice.load Offset.readerWorkStatus ≠ workAct)
    (hshort : para.length ≤ 252)
    (hfits : tagDataLenPurse .sourceFrom232 (requestBuffer .sourceFrom232 cmd 0 para fun _ => 0)
      = cmdoorCheckOk) :
  ListRequest cmd .sourceFrom232 (requestBuffer .sourceFrom232 cmd 0 para fun _ => 0)
    (para.length + 4) g
  := by
  have h := isRequest_requestBuffer .sourceFrom232 cmd 0 (fun _ => 0) hshort
  refine ⟨⟨⟨?_, ?_, ?_, h.sum⟩, ?_, ?_⟩, h.cmd, hfits⟩
  · rw [h.cmd]
    exact (hreg.found hmem).1
  · rwa [h.cmd]
  · rw [h.len]
    exact Nat.le_refl _
  · intro horigin
    cases horigin
  · intro hact
    exact absurd hact hmode

/-- The reader is in command mode and has its commands. -/
structure Pager.Ready (s : Pager) : Prop where
  registered : Registered s.reader.gParamTable
  mode : s.reader.gDevice.load Offset.readerWorkStatus ≠ workAct

theorem readerWithTags_ready (n : ℕ) :
  Pager.Ready ⟨readerWithTags n, []⟩
  := by
  have htable : (readerWithTags n).gParamTable = .ofItems registeredItems := by
    unfold readerWithTags
    dsimp only
    rw [(powerOn_spec .blank).1]
  have hmode : (readerWithTags n).gDevice.load Offset.readerWorkStatus = workCmd := by
    unfold readerWithTags
    rw [Block.load_put (by decide), if_pos rfl]
  constructor
  · dsimp only
    rw [htable]
    exact registered_ofItems
  · dsimp only
    rw [hmode]
    decide

theorem listRequest_ready (n : ℕ) :
  ListRequest 0xEE .sourceFrom232 listRequest 8 (readerWithTags n).toGlobals
  := by
  have h := readerWithTags_ready n
  exact listRequest_requestBuffer h.registered
    (show ((0xEE : UInt8), (⟨none, flagOTHR, 4, some .epc1g2ListMaskTagID⟩ : SParamItem))
      ∈ registeredItems by decide)
    (by decide) h.mode (by decide) (by decide)

namespace Pager.Ready

variable {s s' : Pager}

/-- A request for tags leaves the reader ready. -/
theorem step (h : s.Ready) {cmd : UInt8} {f : Handler} {o : CmdOrigin} {buffer : Mem} {length : ℕ}
    (hrequest : ListRequest cmd o buffer length s.reader.toGlobals)
    (hmem : (cmd, (⟨none, flagOTHR, 4, some f⟩ : SParamItem)) ∈ registeredItems)
    (hnot : f ∉ settingHandlers) (hstep : s.step (.request o buffer length) = some s') :
  s'.Ready
  := by
  obtain ⟨reply, hreply, rfl⟩ := Option.map_eq_some_iff.mp hstep
  have hdevice := congrArg Settings.gDevice (hrequest.settings h.registered hmem hnot hreply)
  refine ⟨processParamTable_registered h.registered hreply, ?_⟩
  refine ne_of_eq_of_ne ?_ h.mode
  exact congrArg (fun d => Block.load d Offset.readerWorkStatus) hdevice

/-- Any number of next pages can be asked for. -/
theorem asks (h : s.Ready) (k : ℕ) :
  Run.Along Pager.step AsksForPages
    (List.replicate k (.request .sourceFrom232 nextRequest 6)) s
  := by
  induction k generalizing s with
  | zero => trivial
  | succ k ih =>
    have hrequest : ListRequest 0xED .sourceFrom232 nextRequest 6 s.reader.toGlobals :=
      listRequest_requestBuffer h.registered
        (show ((0xED : UInt8), (⟨none, flagOTHR, 4, some .epc1g2GetIDList⟩ : SParamItem))
          ∈ registeredItems by decide)
        (by decide) h.mode (by decide) (by decide)
    refine ⟨hrequest, ?_⟩
    split
    · trivial
    · rename_i s' hstep
      exact ih (h.step (f := .epc1g2GetIDList) hrequest (by decide) (by decide) hstep)

end Pager.Ready

/-- Nine tags are given in two pages, and a third page is empty. -/
theorem pages_complete_nine :
  ∃ g s, InventoryTaken (listRequest.shift 3) (readerWithTags 9).toGlobals g
    ∧ Run.run Pager.step (.request .sourceFrom232 listRequest 8
        :: List.replicate 2 (.request .sourceFrom232 nextRequest 6)) ⟨readerWithTags 9, []⟩ = some s
    ∧ s.replies.length = 3 ∧ PagesComplete g.cardIndex 9 s.replies
  := by
  have hcall : (encodeR2000 0x80
      (inventoryRounds (listRequest.shift 3) (readerWithTags 9).toGlobals)
      (inventoryStart (listRequest.shift 3) (readerWithTags 9).toGlobals)).map
      (fun out => (out.1, out.2.r2000.load.take 14)) = some (0, tagReport 9) := by
    unfold readerWithTags
    rw [powerOn_eq]
    decide +kernel
  obtain ⟨g, hinventory, hpos, hrows⟩ := inventoryTaken_tags (by decide) (by decide) hcall
  obtain ⟨s₁, hfirst, hall⟩ :=
    pages_complete_iff (readerWithTags 9) .sourceFrom232 listRequest 8 g 9
    (readerWithTags_ready 9).registered (listRequest_ready 9) hinventory hpos (by decide) hrows
  have hready : s₁.Ready := Pager.Ready.step (f := .epc1g2ListMaskTagID)
    (readerWithTags_ready 9) (listRequest_ready 9) (by decide) (by decide) hfirst
  obtain ⟨s, hrun, hlength, hcomplete⟩ := hall _ (hready.asks 2)
  exact ⟨g, s, hinventory, (Run.run_cons_of_some hfirst).trans hrun, hlength,
    hcomplete.mpr (by decide)⟩

/-- The reply for 256 tags counts none. -/
theorem pages_of_256_tags :
  ∃ g s, InventoryTaken (listRequest.shift 3) (readerWithTags 256).toGlobals g
    ∧ g.cardPos = 256 ∧ (∀ k < 256, ((g.cardIndex k).load 0).toNat ≤ 15)
    ∧ Pager.step ⟨readerWithTags 256, []⟩ (.request .sourceFrom232 listRequest 8) = some s
    ∧ (s.replies.map fun reply => reply.2.head?) = [some 0]
    ∧ ¬ PagesComplete g.cardIndex 256 s.replies
  := by
  have hcall : (encodeR2000 0x80
      (inventoryRounds (listRequest.shift 3) (readerWithTags 256).toGlobals)
      (inventoryStart (listRequest.shift 3) (readerWithTags 256).toGlobals)).map
      (fun out => (out.1, out.2.r2000.load.take 14)) = some (0, tagReport 256) := by
    unfold readerWithTags
    rw [powerOn_eq]
    decide +kernel
  obtain ⟨g, hinventory, hpos, hrows⟩ := inventoryTaken_tags (by decide) (by decide) hcall
  obtain ⟨s, hstep, -, hreplies⟩ := step_firstPage (readerWithTags_ready 256).registered
    (listRequest_ready 256) hinventory hpos (by decide) hrows
  refine ⟨g, s, hinventory, hpos, hrows, hstep, ?_, ?_⟩
  · rw [hreplies]
    rfl
  · intro hcomplete
    rw [hreplies] at hcomplete
    exact absurd hcomplete.first_count (by decide)

end UhfReader
