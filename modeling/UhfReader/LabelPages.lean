import UhfReader.Labels
import UhfReader.Paging

/-!
# Inventories of ISO18000-6B tags by pages

The reply to `0xFE` or `0xFB` holds the first eight tags of an inventory, and `0xFD` asks for the
next ones.  `ListIDReport` counts as many tags as `EPC1G2_GetIDList` does for `0xED`, but copies
them from the first row of `CardIndex` on, where the tags of the first page are.
-/

open Memory Pages

namespace UhfReader

/-! ### Replies with rows -/

theorem Row.head?_tag (row : Row) :
  row.tag.head? = some (row.load 0)
  := by
  unfold Row.tag Mem.take
  rw [List.head?_map, List.head?_range, if_neg (Nat.succ_ne_zero _)]
  rfl

/-- Rows one after the other are told apart: each starts with its length. -/
theorem flatMap_tag_eq_iff (rows rows' : ℕ → Row) (ks : List ℕ) :
  (ks.flatMap fun k => (rows k).tag) = (ks.flatMap fun k => (rows' k).tag)
    ↔ ∀ k ∈ ks, (rows k).tag = (rows' k).tag
  := by
  induction ks with
  | nil => simp
  | cons k ks ih =>
    rw [List.flatMap_cons, List.flatMap_cons, List.forall_mem_cons, ← ih]
    constructor
    · intro h
      have hzero : (rows k).load 0 = (rows' k).load 0 := by
        have hhead := congrArg List.head? h
        rw [List.head?_append, List.head?_append, Row.head?_tag, Row.head?_tag, Option.some_or,
          Option.some_or] at hhead
        exact Option.some.inj hhead
      apply List.append_inj h
      rw [Row.length_tag, Row.length_tag, hzero]
    · rintro ⟨hk, hks⟩
      rw [hk, hks]

/-- The first rows give the records of the page `i` if and only if they have the same tags. -/
theorem records_zero_eq_iff (rows : ℕ → Row) (n i : ℕ) :
  records rows (min 8 (n - 8 * i)) 0 = records rows n i
    ↔ ∀ j < min 8 (n - 8 * i), (rows j).tag = (rows (8 * i + j)).tag
  := by
  unfold records
  rw [page_range, page_range, List.flatMap_map, List.flatMap_map, Nat.mul_zero, Nat.sub_zero,
    Nat.min_eq_right (Nat.min_le_left 8 (n - 8 * i)), flatMap_tag_eq_iff]
  simp only [List.mem_range, Nat.zero_add]

/-! ### The replies -/

/-- The count in the first reply: `0xFE` counts all tags, and `0xFB` those in the reply. -/
def firstCount (cmd : UInt8) (n : ℕ) : UInt8 :=
  if cmd = 0xFE then UInt8.ofNat n else UInt8.ofNat (min n 8)

/-- The reply to `cmd`, and those to the requests `0xFD` after it, for at most 255 tags. -/
def labelReply (cmd : UInt8) (rows : ℕ → Row) (n : ℕ) : ℕ → UInt8 × List UInt8
  | 0 => (cmdoorCheckOk, firstCount cmd n :: records rows n 0)
  | i + 1 =>
    let tmplen := min 8 (n - 8 * (i + 1))
    (cmdoorCheckOk, UInt8.ofNat tmplen :: records rows tmplen 0)

/-- The rows of the table that were not sent with the first reply come in the later ones: the
reply `i` counts those of the page `i` and holds their records, all replies together hold each
row once and in order, and after the last page the replies are empty. -/
structure LaterPages (rows : ℕ → Row) (n : ℕ) (replies : List (UInt8 × List UInt8)) : Prop where
  counted : ∀ i (h : i < replies.length), 0 < i → ∃ count : UInt8, count.toNat = min 8 (n - 8 * i)
    ∧ replies.get ⟨i, h⟩ = (cmdoorCheckOk, count :: records rows n i)
  complete : (n + 7) / 8 ≤ replies.length →
    replies.tail.flatMap (fun reply => reply.2.tail)
      = ((List.range n).drop 8).flatMap fun k => (rows k).tag
  ended : ∀ i (h : i < replies.length), (n + 7) / 8 ≤ i →
    replies.get ⟨i, h⟩ = (cmdoorCheckOk, [0])

/-- The rows of the first `k` pages repeat those of the first page. -/
def RowsRepeat (rows : ℕ → Row) (n k : ℕ) : Prop :=
  ∀ i < min n (8 * k), (rows i).tag = (rows (i % 8)).tag

/-- The replies give the later rows if and only if these repeat those of the first page. -/
theorem laterPages_iff (cmd : UInt8) (rows : ℕ → Row) {n k : ℕ} (hone : 1 ≤ n) :
  LaterPages rows n ((List.range k).map (labelReply cmd rows n)) ↔ RowsRepeat rows n k
  := by
  have hget : ∀ i (h : i < ((List.range k).map (labelReply cmd rows n)).length),
      ((List.range k).map (labelReply cmd rows n)).get ⟨i, h⟩ = labelReply cmd rows n i := by
    intro i h
    simp
  have hlength : ((List.range k).map (labelReply cmd rows n)).length = k := by simp
  constructor
  · intro h i hi
    obtain hzero | hpos := Nat.eq_zero_or_pos (i / 8)
    · rw [Nat.mod_eq_of_lt (by omega)]
    · -- the row is number `i % 8` of the page `i / 8`
      have hlt : i / 8 < ((List.range k).map (labelReply cmd rows n)).length := by
        rw [hlength]
        omega
      obtain ⟨count, -, hreply⟩ := h.counted (i / 8) hlt hpos
      rw [hget] at hreply
      obtain ⟨j, hj⟩ : ∃ j, i / 8 = j + 1 := ⟨i / 8 - 1, by omega⟩
      rw [hj] at hreply
      have hrecords := (List.cons.inj (Prod.mk.inj hreply).2).2
      have hsame := (records_zero_eq_iff rows n (j + 1)).mp hrecords (i % 8) (by omega)
      rw [hsame]
      congr 2
      omega
  · intro h
    have hpage : ∀ i, i + 1 < k →
        records rows (min 8 (n - 8 * (i + 1))) 0 = records rows n (i + 1) := by
      intro i hi
      rw [records_zero_eq_iff]
      intro j hj
      rw [h (8 * (i + 1) + j) (by omega)]
      congr 2
      omega
    refine ⟨?_, ?_, ?_⟩
    · intro i hi hpos
      obtain ⟨j, rfl⟩ : ∃ j, i = j + 1 := ⟨i - 1, by omega⟩
      rw [hlength] at hi
      refine ⟨UInt8.ofNat (min 8 (n - 8 * (j + 1))), ?_, ?_⟩
      · rw [UInt8.toNat_ofNat']
        omega
      · rw [hget, labelReply, hpage j hi]
    · intro hall
      rw [hlength] at hall
      obtain ⟨k, rfl⟩ : ∃ j, k = j + 1 := ⟨k - 1, by omega⟩
      have hmap : ((List.range (k + 1)).map (labelReply cmd rows n)).tail.flatMap
            (fun reply => reply.2.tail)
          = (List.range k).flatMap fun i => records rows n (i + 1) := by
        rw [List.range_succ_eq_map, List.map_cons, List.tail_cons, List.map_map, List.flatMap_map]
        apply List.flatMap_congr
        intro i hi
        exact hpage i (by rw [List.mem_range] at hi; omega)
      have hdrop : (fun i => records rows n (i + 1))
          = fun i => (page 8 ((List.range n).drop 8) i).flatMap fun k => (rows k).tag := by
        funext i
        unfold records page
        rw [List.drop_drop, Nat.mul_succ, Nat.add_comm]
      rw [hmap, hdrop]
      apply flatMap_page_all
      rw [List.length_drop, List.length_range]
      omega
    · intro i hi hlast
      obtain ⟨j, rfl⟩ : ∃ j, i = j + 1 := ⟨i - 1, by omega⟩
      have hzero : min 8 (n - 8 * (j + 1)) = 0 := by omega
      rw [hget, labelReply, hzero]
      rfl

/-! ### The handlers -/

/-- The globals when `ListSelectedID` sends `0xB0`. -/
def selectedStart (p : Mem) (g : Globals) : Globals :=
  { g with
    maskSel := p 0
    maskAddr6B := p 1
    mask6B := p 2
    maskData6B := fun i => p (3 + i.val)
    tagR2000Cmd91Number := 0
    tagR2000Cmd80Number := 0
    cardPos := 0 }

/-- The inventory that the command `0xFE` or `0xFB` carries out on the parameters `p` is taken:
`0xB0` has returned with the globals `g₂`, and not `0xFF`. -/
def LabelsTaken (cmd : UInt8) (p : Mem) (g g₂ : Globals) : Prop :=
  ∃ flagReturn, flagReturn ≠ 0xFF
    ∧ encodeR2000 0xB0 p (if cmd = 0xFE then labelStart g else selectedStart p g)
      = some (flagReturn, g₂)

section

variable {p : Mem} {g g₂ : Globals} {n : ℕ}

/-- The first rows in a reply, behind the byte `count`. -/
theorem listRows_lists {next : Paging} (hpaging : g.paging = next) {length : ℕ}
    (hlength : length ≤ 8) (hrows : ∀ k < length, ((next.cardIndex k).load 0).toNat ≤ 15)
    (count : UInt8) :
  ∃ m g', replyListing (listRows g (p.put 0 count) length (appendRow g)) g = some (m, g')
    ∧ Lists (count :: records next.cardIndex length 0) next m g'
    ∧ g'.gParamTable = g.gParamTable
  := by
  subst hpaging
  have hholds := holds_listRows (g := g) (n := length) (i := 0) hrows (p.put 0 count)
  rw [Mem.put_same] at hholds
  simp only [Nat.mul_zero, Nat.zero_add, Nat.sub_zero, Nat.min_eq_right hlength] at hholds
  exact ⟨_, _, rfl, ⟨hholds, rfl⟩, rfl⟩

/-- The paging of the first page. -/
theorem firstPage_paging (hpos : g.cardPos = n) (hn : n ≤ 255) :
  (firstPage g).paging = .sent g.cardIndex n 1
    ∧ (firstPage g).tagAllNumber = n ∧ (firstPage g).tagSendCount = UInt8.ofNat (min n 8)
  := by
  have hall : (firstPage g).tagAllNumber = n := by
    unfold firstPage
    dsimp only
    omega
  have hcount : (firstPage g).tagSendCount = UInt8.ofNat (min n 8) := by
    unfold firstPage
    dsimp only
    rw [hpos, Nat.mod_eq_of_lt (by omega)]
    split
    · rw [Nat.min_eq_right (by omega)]
      rfl
    · rw [Nat.min_eq_left (by omega)]
  refine ⟨?_, hall, hcount⟩
  rw [Globals.paging, hall, hcount]
  rfl

/-- The reply with the first page. -/
theorem firstRows_lists (hpos : g.cardPos = n) (hn : n ≤ 255)
    (hrows : ∀ k < n, ((g.cardIndex k).load 0).toNat ≤ 15) (count : UInt8) :
  ∃ m g', replyListing (listRows (firstPage g) (p.put 0 count) (firstPage g).tagSendCount.toNat
        (appendRow (firstPage g))) (firstPage g) = some (m, g')
    ∧ Lists (count :: records g.cardIndex n 0) (.sent g.cardIndex n 1) m g'
    ∧ g'.gParamTable = g.gParamTable
  := by
  obtain ⟨hpaging, -, hcount⟩ := firstPage_paging hpos hn
  have hlength : (firstPage g).tagSendCount.toNat = min 8 (n - 8 * 0) := by
    rw [hcount, UInt8.toNat_ofNat']
    omega
  have hfirst : records g.cardIndex (min 8 (n - 8 * 0)) 0 = records g.cardIndex n 0 := by
    rw [records_zero_eq_iff]
    intro j _
    rw [Nat.mul_zero, Nat.zero_add]
  rw [hlength, ← hfirst]
  exact listRows_lists hpaging (Nat.min_le_left _ _) (fun k hk => hrows k (by omega)) count

/-- The first page of an inventory, as `0xFE` and `0xFB` give it. -/
theorem firstLabels_lists {cmd : UInt8} {f : Handler}
    (hcmd : cmd = 0xFE ∧ f = .readLabelID ∨ cmd = 0xFB ∧ f = .listSelectedID) (before : UInt8)
    (htaken : LabelsTaken cmd p g g₂) (hpos : g₂.cardPos = n) (hn : n ≤ 255)
    (hrows : ∀ k < n, ((g₂.cardIndex k).load 0).toNat ≤ 15) :
  ∃ m g', runHandler before p f g = some (m, g')
    ∧ Lists (firstCount cmd n :: records g₂.cardIndex n 0) (.sent g₂.cardIndex n 1) m g'
  := by
  obtain ⟨flagReturn, hflag, hcall⟩ := htaken
  obtain ⟨-, hall, hcount⟩ := firstPage_paging hpos hn
  obtain ⟨m, g', hreply, hlists, -⟩ := firstRows_lists (p := p) hpos hn hrows (firstCount cmd n)
  refine ⟨m, g', ?_, hlists⟩
  obtain ⟨rfl, rfl⟩ | ⟨rfl, rfl⟩ := hcmd
  · rw [if_pos rfl] at hcall
    show readLabelID p g = _
    unfold readLabelID
    rw [Stateful.bind_modify]
    refine Eq.trans (inventory6B_eq hcall hflag) ?_
    rw [← hall] at hreply
    exact hreply
  · rw [if_neg (by decide)] at hcall
    show listSelectedID p g = _
    unfold listSelectedID
    rw [Stateful.bind_modify]
    refine Eq.trans (inventory6B_eq hcall hflag) ?_
    rw [firstCount, if_neg (by decide), ← hcount] at hreply
    exact hreply

/-- The next page, as `0xFD` gives it. -/
theorem listIDReport_lists {rows : ℕ → Row} {i : ℕ} (hn : n ≤ 255)
    (hrows : ∀ k < n, ((rows k).load 0).toNat ≤ 15) (h : g.paging = .sent rows n i) (p : Mem) :
  ∃ m g', listIDReport p g = some (m, g')
    ∧ Lists (UInt8.ofNat (min 8 (n - 8 * i)) :: records rows (min 8 (n - 8 * i)) 0)
        (.sent rows n (i + 1)) m g'
  := by
  obtain ⟨hlength, hnext⟩ := nextPage_sent hn h
  obtain ⟨m, g', hreply, hlists, -⟩ := listRows_lists (p := p) hnext
    (Nat.min_le_left 8 (n - 8 * i)) (fun k hk => hrows k (by omega))
    (UInt8.ofNat (min 8 (n - 8 * i)))
  rw [← hlength] at hreply
  exact ⟨m, g', hreply, hlists⟩

end

/-! ### Runs of requests -/

/-- The requests ask for the next labels, and nothing else touches the pages. -/
def AsksForLabels (s : Pager) : PagerEvent → Prop
  | .request o buffer length => ListRequest 0xFD o buffer length s.reader.toGlobals
  | .other f => (f s.reader).paging = s.reader.paging ∧ Registered (f s.reader).gParamTable

/-- The replies given are those to `cmd` and to the requests after it. -/
structure Pager.SentLabels (cmd : UInt8) (rows : ℕ → Row) (n : ℕ) (s : Pager) : Prop where
  registered : Registered s.reader.gParamTable
  paging : s.reader.paging = .sent rows n s.replies.length
  replies : s.replies = (List.range s.replies.length).map (labelReply cmd rows n)
  started : 0 < s.replies.length

theorem length_records_first_le {rows : ℕ → Row} {n : ℕ}
    (h : ∀ k < n, ((rows k).load 0).toNat ≤ 15) (i : ℕ) :
  (records rows (min 8 (n - 8 * i)) 0).length ≤ 248
  := length_records_le (fun k hk => h k (by omega)) 0

/-- The first reply. -/
theorem step_firstLabels {cmd : UInt8} {r : Reader} {o : CmdOrigin} {buffer : Mem} {length n : ℕ}
    {g : Globals} (hcmd : cmd = 0xFE ∨ cmd = 0xFB) (hreg : Registered r.gParamTable)
    (hrequest : ListRequest cmd o buffer length r.toGlobals)
    (htaken : LabelsTaken cmd (buffer.shift (paraOff o)) r.toGlobals g) (hpos : g.cardPos = n)
    (hn : n ≤ 255) (hrows : ∀ k < n, ((g.cardIndex k).load 0).toNat ≤ 15) :
  ∃ s, Pager.step ⟨r, []⟩ (.request o buffer length) = some s ∧ s.SentLabels cmd g.cardIndex n
    ∧ s.replies = [labelReply cmd g.cardIndex n 0]
  := by
  obtain ⟨f, hf, hmem⟩ : ∃ f : Handler,
      (cmd = 0xFE ∧ f = .readLabelID ∨ cmd = 0xFB ∧ f = .listSelectedID)
        ∧ (cmd, (⟨none, flagOTHR, 4, some f⟩ : SParamItem)) ∈ registeredItems := by
    obtain rfl | rfl := hcmd
    · exact ⟨.readLabelID, .inl ⟨rfl, rfl⟩, by decide⟩
    · exact ⟨.listSelectedID, .inr ⟨rfl, rfl⟩, by decide⟩
  obtain ⟨m, g', hrun, hlists⟩ := firstLabels_lists hf (buffer (paraOff o - 1)) htaken hpos hn hrows
  have hbound := length_records_le hrows 0
  obtain ⟨s, hstep, hregistered, hpaging, hreplies⟩ := hlists.step (s := ⟨r, []⟩) hreg hrequest hmem
    hrun (by rw [List.length_cons]; omega)
  rw [List.nil_append] at hreplies
  refine ⟨s, hstep, ⟨hregistered, ?_, ?_, ?_⟩, hreplies⟩
  · rw [hreplies]
    exact hpaging
  · rw [hreplies]
    rfl
  · rw [hreplies]
    exact Nat.one_pos

/-- A request for the next labels is answered with the next reply. -/
theorem Pager.SentLabels.step {cmd : UInt8} {rows : ℕ → Row} {n : ℕ} (hn : n ≤ 255)
    (hrows : ∀ k < n, ((rows k).load 0).toNat ≤ 15) {s : Pager} {e : PagerEvent}
    (h : s.SentLabels cmd rows n) (hasks : AsksForLabels s e) :
  ∃ s', s.step e = some s' ∧ s'.SentLabels cmd rows n
    ∧ s'.replies.length = s.replies.length + if e.isRequest then 1 else 0
  := by
  cases e with
  | request o buffer length =>
    obtain ⟨m, g', hrun, hlists⟩ :=
      listIDReport_lists hn hrows h.paging (buffer.shift (paraOff o))
    have hbound := length_records_first_le hrows s.replies.length
    obtain ⟨s', hstep, hregistered, hpaging, hreplies⟩ := hlists.step (f := .listIDReport)
      h.registered hasks (by decide) hrun (by rw [List.length_cons]; omega)
    have hlength : s'.replies.length = s.replies.length + 1 := by
      rw [hreplies, List.length_append, List.length_singleton]
    refine ⟨s', hstep, ⟨hregistered, ?_, ?_, ?_⟩, hlength⟩
    · rw [hlength]
      exact hpaging
    · rw [hlength, List.range_succ, List.map_append, ← h.replies, hreplies, List.map_singleton]
      obtain ⟨i, hi⟩ : ∃ i, s.replies.length = i + 1 :=
        ⟨_, (Nat.succ_pred_eq_of_pos h.started).symm⟩
      rw [hi]
      rfl
    · omega
  | other f => exact ⟨_, rfl, ⟨hasks.2, hasks.1.trans h.paging, h.replies, h.started⟩, rfl⟩

/-- A run of requests for labels is answered request by request. -/
theorem Pager.SentLabels.run {cmd : UInt8} {rows : ℕ → Row} {n : ℕ} (hn : n ≤ 255)
    (hrows : ∀ k < n, ((rows k).load 0).toNat ≤ 15) {es : List PagerEvent} {s : Pager}
    (h : s.SentLabels cmd rows n) (hasks : Run.Along Pager.step AsksForLabels es s) :
  ∃ s', Run.run Pager.step es s = some s' ∧ s'.SentLabels cmd rows n
    ∧ s'.replies.length = s.replies.length + es.countP PagerEvent.isRequest
  := by
  induction es generalizing s with
  | nil => exact ⟨s, rfl, h, rfl⟩
  | cons e es ih =>
    obtain ⟨t, hstep, ht, hlength⟩ := h.step hn hrows hasks.1
    obtain ⟨s', hrun, hs', hreplies⟩ := ih ht (hasks.tail hstep)
    refine ⟨s', (Run.run_cons_of_some hstep).trans hrun, hs', ?_⟩
    rw [hreplies, hlength, List.countP_cons]
    omega

/-- After `0xFE` or `0xFB` has given the first page of an inventory of 1 to 255 tags, the replies to
any number of requests `0xFD` give the other tags by pages if and only if the tags of the pages
asked for are again those of the first page. -/
theorem label_pages_iff (cmd : UInt8) (r : Reader) (o : CmdOrigin) (buffer : Mem) (length : ℕ)
    (g : Globals) (n : ℕ) (hcmd : cmd = 0xFE ∨ cmd = 0xFB) (hreg : Registered r.gParamTable)
    (hrequest : ListRequest cmd o buffer length r.toGlobals)
    (htaken : LabelsTaken cmd (buffer.shift (paraOff o)) r.toGlobals g) (hpos : g.cardPos = n)
    (hone : 1 ≤ n) (hn : n ≤ 255) (hrows : ∀ k < n, ((g.cardIndex k).load 0).toNat ≤ 15) :
  ∃ s₁, Pager.step ⟨r, []⟩ (.request o buffer length) = some s₁
    ∧ s₁.replies = [(cmdoorCheckOk, firstCount cmd n :: records g.cardIndex n 0)]
    ∧ ∀ es, Run.Along Pager.step AsksForLabels es s₁ →
      ∃ s, Run.run Pager.step es s₁ = some s
        ∧ s.replies.length = 1 + es.countP PagerEvent.isRequest
        ∧ (LaterPages g.cardIndex n s.replies
          ↔ RowsRepeat g.cardIndex n (1 + es.countP PagerEvent.isRequest))
  := by
  obtain ⟨s₁, hfirst, hsent, hreply⟩ := step_firstLabels hcmd hreg hrequest htaken hpos hn hrows
  refine ⟨s₁, hfirst, hreply, ?_⟩
  intro es hes
  obtain ⟨s, hrun, hs, hlength⟩ := hsent.run hn hrows hes
  rw [hreply, List.length_singleton] at hlength
  refine ⟨s, hrun, hlength, ?_⟩
  rw [hs.replies, hlength]
  exact laterPages_iff cmd g.cardIndex hone

/-! ### Some inventories -/

/-- The tags with the last bytes 1 to `n`. -/
def labels (n : ℕ) : List LabelAnswer := (List.range n).map fun i => label (UInt8.ofNat (i + 1))

/-- A new reader that was put into command mode, and the frames with which its R2000 will answer. -/
def readerInventories (frames : List (List UInt8)) : Reader :=
  { powerOn .blank with
    gDevice := (powerOn .blank).gDevice.put Offset.readerWorkStatus workCmd
    traffic := [polled (frames.map fun f => f.map .rx)] }

/-- A new reader that was put into command mode, and `n` tags that will answer it, after the frame
with their number. -/
def readerInLabels (n : ℕ) : Reader :=
  readerInventories (endFrame 1 0 n :: (labels n).map LabelAnswer.bytes)

theorem readerInventories_ready (frames : List (List UInt8)) :
  Pager.Ready ⟨readerInventories frames, []⟩
  := ⟨(readerWithTags_ready 0).registered, (readerWithTags_ready 0).mode⟩

/-- The request `0xFE`. -/
def labelRequest : Mem := requestBuffer .sourceFrom232 0xFE 0 [] fun _ => 0

/-- The request `0xFD`. -/
def moreLabels : Mem := requestBuffer .sourceFrom232 0xFD 0 [0, 0] fun _ => 0

theorem labelRequest_ready (frames : List (List UInt8)) :
  ListRequest 0xFE .sourceFrom232 labelRequest 4 (readerInventories frames).toGlobals
  := by
  have h := readerInventories_ready frames
  exact listRequest_requestBuffer h.registered
    (show ((0xFE : UInt8), (⟨none, flagOTHR, 4, some .readLabelID⟩ : SParamItem))
      ∈ registeredItems by decide)
    (by decide) h.mode (by decide) (by decide)

/-- The next labels can be asked for. -/
theorem Pager.Ready.asksForLabels {s : Pager} (h : s.Ready) :
  Run.Along Pager.step AsksForLabels [.request .sourceFrom232 moreLabels 6] s
  := by
  have hrequest : ListRequest 0xFD .sourceFrom232 moreLabels 6 s.reader.toGlobals :=
    listRequest_requestBuffer h.registered
      (show ((0xFD : UInt8), (⟨none, flagOTHR, 4, some .listIDReport⟩ : SParamItem))
        ∈ registeredItems by decide)
      (by decide) h.mode (by decide) (by decide)
  refine ⟨hrequest, ?_⟩
  split
  · trivial
  · trivial

/-- The tags are collected. -/
theorem labelsTaken_labels {frames : List (List UInt8)} {n : ℕ} {b : ℕ → UInt8}
    (hcall : (encodeR2000 0xB0 (labelRequest.shift 3)
        (labelStart (readerInventories frames).toGlobals)).map
        (fun out => (out.1, out.2.cardPos, (List.range n).map fun k => (out.2.cardIndex k).tag))
      = some (0, n, (List.range n).map fun k => 4 :: (label (b k)).uid)) :
  ∃ g, LabelsTaken 0xFE (labelRequest.shift 3) (readerInventories frames).toGlobals g
    ∧ g.cardPos = n ∧ ∀ k < n, (g.cardIndex k).tag = 4 :: (label (b k)).uid
  := by
  obtain ⟨⟨flag, g⟩, hcall, heq⟩ := Option.map_eq_some_iff.mp hcall
  simp only [Prod.mk.injEq] at heq
  obtain ⟨rfl, hpos, hrows⟩ := heq
  refine ⟨g, ⟨0, by decide, hcall⟩, hpos, ?_⟩
  intro k hk
  have hget := List.getElem_of_eq hrows (i := k) (by rwa [List.length_map, List.length_range])
  simp only [List.getElem_map, List.getElem_range] at hget
  exact hget

/-- The rows of these tags begin with their antenna and the number of words. -/
theorem labelRows_load {g : Globals} {n : ℕ} {b : ℕ → UInt8}
    (h : ∀ k < n, (g.cardIndex k).tag = 4 :: (label (b k)).uid) :
  ∀ k < n, ((g.cardIndex k).load 0).toNat ≤ 15
  := by
  intro k hk
  have hhead := (g.cardIndex k).head?_tag
  rw [h k hk, List.head?_cons, Option.some.injEq] at hhead
  rw [← hhead]
  decide

/-- A reader with nine tags, of which the ninth one has the identifier of the first one. -/
def readerRepeating : Reader :=
  readerInventories (endFrame 1 0 9 :: (labels 8 ++ labels 1).map LabelAnswer.bytes)

/-- Eight tags come with the first reply, and the ninth one with the second. -/
theorem label_pages_repeated :
  ∃ g s, LabelsTaken 0xFE (labelRequest.shift 3) readerRepeating.toGlobals g ∧ g.cardPos = 9
    ∧ Run.run Pager.step [.request .sourceFrom232 labelRequest 4,
        .request .sourceFrom232 moreLabels 6] ⟨readerRepeating, []⟩ = some s
    ∧ s.replies.length = 2 ∧ LaterPages g.cardIndex 9 s.replies
  := by
  have hcall : (encodeR2000 0xB0 (labelRequest.shift 3) (labelStart readerRepeating.toGlobals)).map
      (fun out => (out.1, out.2.cardPos, (List.range 9).map fun k => (out.2.cardIndex k).tag))
      = some (0, 9, (List.range 9).map fun k => 4 :: (label (UInt8.ofNat (k % 8 + 1))).uid) := by
    unfold readerRepeating readerInventories
    rw [powerOn_eq]
    decide +kernel
  obtain ⟨g, htaken, hpos, htags⟩ :=
    labelsTaken_labels (b := fun k => UInt8.ofNat (k % 8 + 1)) hcall
  have hready₀ : Pager.Ready ⟨readerRepeating, []⟩ := readerInventories_ready _
  have hrequest := labelRequest_ready
    (endFrame 1 0 9 :: (labels 8 ++ labels 1).map LabelAnswer.bytes)
  obtain ⟨s₁, hfirst, -, hall⟩ :=
    label_pages_iff 0xFE readerRepeating .sourceFrom232 labelRequest 4 g 9 (.inl rfl)
    hready₀.registered hrequest htaken hpos (by decide) (by decide) (labelRows_load htags)
  have hready : s₁.Ready :=
    Pager.Ready.step (f := .readLabelID) hready₀ hrequest (by decide) (by decide) hfirst
  obtain ⟨s, hrun, hlength, hpages⟩ := hall _ hready.asksForLabels
  refine ⟨g, s, htaken, hpos, (Run.run_cons_of_some hfirst).trans hrun, hlength, hpages.mpr ?_⟩
  -- the rows have the numbers of those eight places before
  intro i hi
  have hnine : i < 9 := by omega
  rw [htags i hnine, htags (i % 8) (by omega), Nat.mod_mod]

/-- Of nine tags the first one comes again in place of the ninth. -/
theorem ninth_label_lost :
  ∃ g s, LabelsTaken 0xFE (labelRequest.shift 3) (readerInLabels 9).toGlobals g ∧ g.cardPos = 9
    ∧ Run.run Pager.step [.request .sourceFrom232 labelRequest 4,
        .request .sourceFrom232 moreLabels 6] ⟨readerInLabels 9, []⟩ = some s
    ∧ s.replies.getLast? = some (cmdoorCheckOk, [1, 4, 0xE0, 0x04, 0, 0, 0, 0, 0, 1])
    ∧ ¬ LaterPages g.cardIndex 9 s.replies
  := by
  have hcall : (encodeR2000 0xB0 (labelRequest.shift 3)
      (labelStart (readerInLabels 9).toGlobals)).map
      (fun out => (out.1, out.2.cardPos, (List.range 9).map fun k => (out.2.cardIndex k).tag))
      = some (0, 9, (List.range 9).map fun k => 4 :: (label (UInt8.ofNat (k + 1))).uid) := by
    unfold readerInLabels readerInventories
    rw [powerOn_eq]
    decide +kernel
  obtain ⟨g, htaken, hpos, htags⟩ :=
    labelsTaken_labels (b := fun k => UInt8.ofNat (k + 1)) hcall
  have hready₀ : Pager.Ready ⟨readerInLabels 9, []⟩ := readerInventories_ready _
  have hrequest := labelRequest_ready (endFrame 1 0 9 :: (labels 9).map LabelAnswer.bytes)
  have hrows := labelRows_load htags
  obtain ⟨s₁, hfirst, hsent, hreply⟩ := step_firstLabels (.inl rfl)
    hready₀.registered hrequest htaken hpos (by decide) hrows
  have hready : s₁.Ready :=
    Pager.Ready.step (f := .readLabelID) hready₀ hrequest (by decide) (by decide) hfirst
  obtain ⟨s, hrun, hs, hlength⟩ := hsent.run (by decide) hrows hready.asksForLabels
  rw [hreply] at hlength
  have hreplies : s.replies = (List.range 2).map (labelReply 0xFE g.cardIndex 9) := by
    rw [hs.replies, hlength]
    rfl
  refine ⟨g, s, htaken, hpos, (Run.run_cons_of_some hfirst).trans hrun, ?_, ?_⟩
  · rw [hreplies]
    show some (cmdoorCheckOk, 1 :: ((g.cardIndex 0).tag ++ [])) = _
    rw [htags 0 (by decide)]
    rfl
  · rw [hreplies, laterPages_iff _ _ (by decide)]
    intro hrepeat
    have hsame := hrepeat 8 (by decide)
    rw [htags 8 (by decide), htags (8 % 8) (by decide)] at hsame
    exact absurd hsame (by decide)

end UhfReader
