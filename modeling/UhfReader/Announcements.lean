import UhfReader.Datagrams
import UhfReader.Lib.Run

/-!
# Announcements

In every pass of the main loop `Udp_BroadCast` looks at its timer, and when that has run out it
sends the address and the name of the reader to everybody.  It builds the datagram in `uip.rec_buf`,
which is also where `UDP_Receive` puts what comes in, and `UDP_Receive` is called in the Ethernet
interrupt: a datagram that comes while an announcement is built clears the buffer under its hands.

The accesses of `Udp_BroadCast` to the buffer are steps, between which interrupts fall.
-/

open Memory

namespace UhfReader

/-! ### What is announced -/

/-- The byte at `k` of an announcement, in front of its checksum: `g_device.workpara.ReaderIP1` and
the bytes behind it, and `g_device.ReaderID`. -/
def announcedByte (d : SDevice) (k : ℕ) : UInt8 :=
  if k = 0 then 0xF0
  else if k = 1 then 18
  else if k = 2 then 0
  else if k < 9 then d.load (Offset.readerIP1 + (k - 3))
  else d.load (Offset.readerID + (k - 9))

/-- The memory that holds an announcement. -/
def announcementMem (d : SDevice) : Mem :=
  Mem.put (announcedByte d) 19 (setChecksum (announcedByte d) 19)

/-- The announcement of a reader. -/
def announcement (d : SDevice) : List UInt8 := (announcementMem d).take 20

/-! ### The reader that announces itself -/

/-- Where `Udp_BroadCast` is. -/
inductive BroadcastPhase
  /-- it has returned -/
  | rests
  /-- the byte at `k` is stored next -/
  | stores (k : ℕ)
  /-- `uip.rec_buf.len` is set next -/
  | sets
  /-- `SetChecksum` has added `k` bytes -/
  | sums (k : ℕ) (sum : UInt8)
  /-- the checksum is stored next -/
  | closes (checksum : UInt8)
  /-- `UDP_sendData` is called next -/
  | calls
  /-- `memcpy` has copied `payload`, of `count` bytes -/
  | copies (count : ℕ) (payload : List UInt8)

/-- An announcement that was sent: the record when it was begun, whether a datagram came in between,
and the bytes. -/
structure Announced where
  about : SDevice
  disturbed : Bool
  bytes : List UInt8

/-- The reader with the record of the UDP module, and where `Udp_BroadCast` is.  `about` is the
record when the announcement under way was begun, and `disturbed` tells that a datagram has come
that its bytes were exposed to. -/
structure Announcer where
  uip : SUipTransData
  reader : Reader
  phase : BroadcastPhase
  about : SDevice
  disturbed : Bool
  announced : List Announced

namespace Announcer

/-- The reader when `timerStart(&uip.UIP_timer, 300)` has been called. -/
def start (r : Reader) : Announcer where
  uip := ⟨Block.zero 255, 0, 0, STimer.cleared.start 300⟩
  reader := r
  phase := .rests
  about := r.gDevice
  disturbed := false
  announced := []

/-- A byte of the announcement under way is in the buffer and has still to be read, or to be copied
from there. -/
def Exposed (s : Announcer) : Prop :=
  match s.phase with
  | .rests => False
  | .stores k => 0 < k
  | .sets | .sums _ _ | .closes _ | .calls => True
  | .copies count payload => ∃ i < count, payload.length ≤ i ∧ s.uip.load i ≠ 0

instance (s : Announcer) : Decidable s.Exposed :=
  match h : s.phase with
  | .rests => decidable_of_iff False (by simp only [Exposed, h])
  | .stores k => decidable_of_iff (0 < k) (by simp only [Exposed, h])
  | .sets | .sums _ _ | .closes _ | .calls => decidable_of_iff True (by simp only [Exposed, h])
  | .copies count payload =>
    decidable_of_iff (∃ i < count, payload.length ≤ i ∧ s.uip.load i ≠ 0)
      (by simp only [Exposed, h])

/-- The next access of `Udp_BroadCast`.  `alloc` tells for which lengths `pbuf_alloc` has memory. -/
def proceed (alloc : ℕ → Bool) (s : Announcer) : Announcer :=
  match s.phase with
  | .rests =>
    if s.uip.uipTimer.isOverflow ≠ 0 then
      { s with uip := { s.uip with uipTimer := s.uip.uipTimer.start 300 }, phase := .stores 0 }
    else s
  | .stores k =>
    { s with
      uip := { s.uip with buf := s.uip.buf.put k (announcedByte s.reader.gDevice k) }
      phase := if k < 18 then .stores (k + 1) else .sets
      about := if k = 0 then s.reader.gDevice else s.about
      disturbed := if k = 0 then false else s.disturbed }
  | .sets => { s with uip := { s.uip with len := 20 }, phase := .sums 0 0 }
  | .sums k sum =>
    { s with phase := if k < 19 then .sums (k + 1) (sum + s.uip.load k) else .closes (~~~sum + 1) }
  | .closes checksum =>
    { s with uip := { s.uip with buf := s.uip.buf.put 19 checksum }, phase := .calls }
  | .calls => { s with phase := if alloc s.uip.len then .copies s.uip.len [] else .rests }
  | .copies count payload =>
    if payload.length < count then
      { s with phase := .copies count (payload ++ [s.uip.load payload.length]) }
    else
      { s with phase := .rests, announced := s.announced ++ [⟨s.about, s.disturbed, payload⟩] }

end Announcer

/-- What happens to the reader. -/
inductive AnnouncerEvent
  /-- the main loop goes on in `Udp_BroadCast`, or calls it -/
  | proceeds
  /-- the main loop does something else -/
  | elsewhere (r : Reader)
  /-- `Time_Update` updates the timer -/
  | tick
  /-- the Ethernet interrupt calls `UDP_Receive` -/
  | datagram (chain : List (List UInt8))

namespace Announcer

/-- What an event makes of the reader. -/
def step (alloc : ℕ → Bool) (s : Announcer) : AnnouncerEvent → Option Announcer
  | .proceeds => some (s.proceed alloc)
  | .elsewhere r =>
    match s.phase with
    | .rests => some { s with reader := r }
    | _ => none
  | .tick => some { s with uip := { s.uip with uipTimer := s.uip.uipTimer.update } }
  | .datagram chain =>
    (udpReceive alloc s.uip s.reader chain).map fun out =>
      { s with
        uip := out.1
        reader := out.2.1
        disturbed := s.disturbed || (!chain.isEmpty && decide s.Exposed) }

end Announcer

/-! ### What is in the buffer -/

theorem SUipTransData.load_of_lt {u : SUipTransData} {i : ℕ} (h : i < 255) :
  u.load i = u.buf.load i
  := if_pos h

/-- A datagram that has been processed leaves the buffer cleared. -/
theorem udpReceive_cleared {alloc : ℕ → Bool} {u u' : SUipTransData} {r r' : Reader}
    {payload bytes : List UInt8} {chain : List (List UInt8)}
    (h : udpReceive alloc u r (payload :: chain) = some (u', r', bytes)) :
  u'.buf = Block.zero 255 ∧ u'.len = 0
  := by
  simp only [udpReceive] at h
  split at h
  · cases h
    exact ⟨rfl, rfl⟩
  · obtain ⟨out, -, heq⟩ := Option.map_eq_some_iff.mp h
    split at heq
    · cases heq
      exact ⟨rfl, rfl⟩
    · cases heq
      exact ⟨rfl, rfl⟩

theorem load_cleared {u : SUipTransData} (h : u.buf = Block.zero 255) {i : ℕ} (hi : i < 255) :
  u.load i = 0
  := by
  rw [SUipTransData.load_of_lt hi, h, Block.load_of_lt hi]
  rfl

/-- A byte of the buffer is replaced. -/
theorem load_store (u : SUipTransData) {k i : ℕ} (hk : k < 255) (hi : i < 255) (v : UInt8) :
  SUipTransData.load { u with buf := u.buf.put k v } i = if i = k then v else u.load i
  := by
  rw [SUipTransData.load_of_lt hi, SUipTransData.load_of_lt hi]
  exact Block.load_put hk

theorem announcementMem_of_lt (d : SDevice) {i : ℕ} (h : i < 19) :
  announcementMem d i = announcedByte d i
  := Mem.put_of_ne (by omega)

theorem head?_announcement (d : SDevice) :
  (announcement d).head? = some 0xF0
  := rfl

/-- The checksum makes the sum of an announcement `0`. -/
theorem byteSum_announcementMem (d : SDevice) :
  byteSum (announcementMem d) 20 = 0
  := byteSum_close _ _

/-- The first `n` bytes of the announcement are in the buffer, unless a datagram has come. -/
def Built (u : SUipTransData) (about : SDevice) (disturbed : Bool) (n : ℕ) : Prop :=
  if disturbed then u.load 0 = 0 else ∀ i < n, u.load i = announcementMem about i

/-- The bytes that will have been sent when no other datagram comes. -/
def planned (u : SUipTransData) (count : ℕ) (payload : List UInt8) : List UInt8 :=
  payload ++ (u.load.shift payload.length).take (count - payload.length)

/-- What is planned is the announcement, or a datagram has made something else of it. -/
def Planned (u : SUipTransData) (about : SDevice) (disturbed : Bool) (count : ℕ)
    (payload : List UInt8) : Prop :=
  if disturbed then
    planned u count payload ≠ announcement about
      ∧ ((planned u count payload).head? ≠ some 0xF0
        ∨ ∀ i < count, payload.length ≤ i → u.load i = 0)
  else planned u count payload = announcement about

variable {u u' : SUipTransData} {about : SDevice} {disturbed : Bool}

/-- A byte behind the first one is stored. -/
theorem Built.store {k : ℕ} (h : Built u about disturbed k) (hpos : 0 < k) (hk : k < 255)
    {v : UInt8} (hv : disturbed = false → v = announcementMem about k) :
  Built { u with buf := u.buf.put k v } about disturbed (k + 1)
  := by
  unfold Built at h ⊢
  cases disturbed with
  | true =>
    rw [if_pos rfl] at h ⊢
    rw [load_store _ hk (by omega), if_neg (by omega)]
    exact h
  | false =>
    rw [if_neg Bool.false_ne_true] at h ⊢
    intro i hi
    rw [load_store _ hk (by omega)]
    split
    · rename_i heq
      rw [heq]
      exact hv rfl
    · exact h i (by omega)

/-- The first byte is stored. -/
theorem Built.first (u : SUipTransData) (d : SDevice) :
  Built { u with buf := u.buf.put 0 (announcedByte d 0) } d false 1
  := by
  unfold Built
  rw [if_neg Bool.false_ne_true]
  intro i hi
  obtain rfl : i = 0 := by omega
  rw [load_store _ (by decide) (by decide), if_pos rfl]
  rfl

/-- The buffer is cleared. -/
theorem Built.clear (hu : u.buf = Block.zero 255) (about : SDevice) (n : ℕ) :
  Built u about true n
  := by
  unfold Built
  rw [if_pos rfl]
  exact load_cleared hu (by decide)

/-- Only the buffer matters. -/
theorem Built.congr {n : ℕ} (h : Built u about disturbed n) (hbuf : u'.buf = u.buf)
    (hn : n ≤ 255) :
  Built u' about disturbed n
  := by
  have hsame : ∀ i < 255, u'.load i = u.load i := by
    intro i hi
    rw [SUipTransData.load_of_lt hi, SUipTransData.load_of_lt hi, hbuf]
  unfold Built at h ⊢
  cases disturbed with
  | true => exact (hsame 0 (by decide)).trans h
  | false => exact fun i hi => (hsame i (by omega)).trans (h i hi)

/-- A byte that is copied was planned. -/
theorem planned_next {count : ℕ} {payload : List UInt8} (h : payload.length < count) :
  planned u count (payload ++ [u.load payload.length]) = planned u count payload
  := by
  unfold planned
  obtain ⟨n, rfl⟩ := Nat.exists_eq_add_of_lt h
  have hshift : (u.load.shift payload.length).shift 1 = u.load.shift (payload.length + 1) := by
    funext i
    exact congrArg u.load (Nat.add_assoc ..).symm
  rw [List.length_append, List.length_singleton, List.append_assoc,
    show payload.length + n + 1 - (payload.length + 1) = n by omega,
    show payload.length + n + 1 - payload.length = 1 + n by omega, Mem.take_add, hshift]
  rfl

/-- Nothing is planned behind the last byte. -/
theorem planned_last (u : SUipTransData) (payload : List UInt8) :
  planned u payload.length payload = payload
  := by
  unfold planned
  rw [Nat.sub_self]
  exact List.append_nil payload

/-- What is planned when `UDP_sendData` is called is in the buffer. -/
theorem planned_nil (u : SUipTransData) (count : ℕ) :
  planned u count [] = u.load.take count
  := congrArg (fun m => Mem.take m count) (funext fun i => congrArg u.load (Nat.zero_add i))

/-- The bytes of the rest of the buffer are planned where they are. -/
theorem getElem?_planned (u : SUipTransData) {count i : ℕ} {payload : List UInt8} (hi : i < count)
    (hle : payload.length ≤ i) :
  (planned u count payload)[i]? = some (u.load i)
  := by
  unfold planned
  have hlt : i - payload.length
      < ((u.load.shift payload.length).take (count - payload.length)).length := by
    rw [Mem.length_take]
    omega
  rw [List.getElem?_append_right hle, List.getElem?_eq_getElem hlt, Mem.getElem_take,
    Mem.shift_apply, Nat.add_sub_cancel' hle]

/-- What is planned is settled by what was copied and the rest of the buffer. -/
theorem planned_congr {count : ℕ} {payload : List UInt8}
    (h : ∀ i < count, payload.length ≤ i → u'.load i = u.load i) :
  planned u' count payload = planned u count payload
  := by
  unfold planned
  congr 1
  exact Mem.AgreeBelow.take_eq fun i hi => h _ (by omega) (Nat.le_add_right ..)

/-- The buffer is cleared when what has still to be copied was cleared before. -/
theorem Planned.clear {count : ℕ} {payload : List UInt8}
    (h : Planned u about disturbed count payload) (hbuf : u'.buf = Block.zero 255)
    (hcount : count ≤ 255) (hrest : ∀ i < count, payload.length ≤ i → u.load i = 0) :
  Planned u' about disturbed count payload
  := by
  have hzero : ∀ i < count, u'.load i = 0 := fun i hi => load_cleared hbuf (by omega)
  have hsame : planned u' count payload = planned u count payload :=
    planned_congr fun i hi hle => (hzero i hi).trans (hrest i hi hle).symm
  unfold Planned at h ⊢
  rw [hsame]
  cases disturbed with
  | true => exact ⟨h.1, .inr fun i hi _ => hzero i hi⟩
  | false => exact h

/-- The buffer is cleared before a byte of the announcement was copied. -/
theorem Planned.clear_exposed {count i : ℕ} {payload : List UInt8}
    (h : Planned u about disturbed count payload) (hbuf : u'.buf = Block.zero 255)
    (hcount : count ≤ 255) (hi : i < count) (hle : payload.length ≤ i) (hne : u.load i ≠ 0) :
  Planned u' about true count payload
  := by
  have hzero : ∀ i < count, u'.load i = 0 := fun i hi => load_cleared hbuf (by omega)
  unfold Planned at h ⊢
  rw [if_pos rfl]
  refine ⟨fun heq => ?_, .inr fun i hi _ => hzero i hi⟩
  cases disturbed with
  | false =>
    -- the byte at `i` belonged to the announcement and has got lost
    have hbyte := getElem?_planned u' hi hle
    rw [heq, ← show planned u count payload = announcement about from h,
      getElem?_planned u hi hle, hzero i hi] at hbyte
    exact hne (Option.some.inj hbyte)
  | true =>
    -- the first byte was lost before
    have hhead : (planned u count payload).head? ≠ some 0xF0 := by
      obtain hhead | hrest := h.2
      · exact hhead
      · exact absurd (hrest i hi hle) hne
    have hfirst := (congrArg List.head? heq).trans (head?_announcement about)
    cases payload with
    | nil =>
      rw [List.head?_eq_getElem?, getElem?_planned u' (by omega) (Nat.zero_le 0),
        hzero 0 (by omega)] at hfirst
      exact absurd (Option.some.inj hfirst) (by decide)
    | cons b bs => exact hhead hfirst

theorem Planned.congr {count : ℕ} {payload : List UInt8}
    (h : Planned u about disturbed count payload) (hbuf : u'.buf = u.buf) (hcount : count ≤ 255) :
  Planned u' about disturbed count payload
  := by
  have hsame : ∀ i < count, u'.load i = u.load i := by
    intro i hi
    rw [SUipTransData.load_of_lt (by omega), SUipTransData.load_of_lt (by omega), hbuf]
  have hplanned : planned u' count payload = planned u count payload :=
    planned_congr fun i hi _ => hsame i hi
  unfold Planned at h ⊢
  rw [hplanned]
  cases disturbed with
  | true =>
    refine ⟨h.1, h.2.imp_right fun hzero i hi hbehind => ?_⟩
    rw [hsame i hi]
    exact hzero i hi hbehind
  | false => exact h

theorem Planned.next {count : ℕ} {payload : List UInt8}
    (h : Planned u about disturbed count payload) (hlt : payload.length < count) :
  Planned u about disturbed count (payload ++ [u.load payload.length])
  := by
  unfold Planned at h ⊢
  rw [planned_next hlt]
  cases disturbed with
  | true =>
    rw [if_pos rfl] at h ⊢
    refine ⟨h.1, h.2.imp_right fun hzero i hi hle => hzero i hi ?_⟩
    rw [List.length_append] at hle
    omega
  | false => exact h

/-- The announcement that is in the buffer when `UDP_sendData` is called. -/
theorem Built.planned (h : Built u about disturbed 20) (hlen : disturbed = false → u.len = 20) :
  Planned u about disturbed u.len []
  := by
  unfold Built at h
  unfold Planned
  rw [planned_nil]
  cases disturbed with
  | true =>
    rw [if_pos rfl] at h ⊢
    have hhead : (u.load.take u.len).head? ≠ some 0xF0 := by
      cases u.len with
      | zero => exact nofun
      | succ n =>
        intro heq
        rw [Nat.add_comm, Mem.take_add] at heq
        have hzero : u.load 0 = 0xF0 := Option.some.inj heq
        rw [h] at hzero
        exact absurd hzero (by decide)
    refine ⟨fun heq => hhead ?_, .inl hhead⟩
    exact (congrArg List.head? heq).trans (head?_announcement about)
  | false =>
    rw [if_neg Bool.false_ne_true] at h ⊢
    rw [hlen rfl]
    exact Mem.AgreeBelow.take_eq h

namespace Announcer

/-- What is in the buffer while an announcement is under way. -/
def Underway (s : Announcer) : Prop :=
  match s.phase with
  | .rests => True
  | .stores k => k ≤ 18 ∧ (0 < k → Built s.uip s.about s.disturbed k
      ∧ (s.disturbed = false → s.about = s.reader.gDevice))
  | .sets => Built s.uip s.about s.disturbed 19
  | .sums k sum => k ≤ 19 ∧ Built s.uip s.about s.disturbed 19 ∧ s.uip.len ≤ 20
      ∧ (s.disturbed = false → s.uip.len = 20 ∧ sum = byteSum (announcedByte s.about) k)
  | .closes checksum => Built s.uip s.about s.disturbed 19 ∧ s.uip.len ≤ 20
      ∧ (s.disturbed = false →
        s.uip.len = 20 ∧ checksum = setChecksum (announcedByte s.about) 19)
  | .calls => Built s.uip s.about s.disturbed 20 ∧ s.uip.len ≤ 20
      ∧ (s.disturbed = false → s.uip.len = 20)
  | .copies count payload => payload.length ≤ count ∧ count ≤ 20
      ∧ Planned s.uip s.about s.disturbed count payload

/-- The announcements that were sent are what they should be, but for those that were disturbed, and
the one under way is on the way to be. -/
structure Announces (s : Announcer) : Prop where
  sent : ∀ a ∈ s.announced, a.bytes = announcement a.about ↔ a.disturbed = false
  underway : s.Underway

variable {alloc : ℕ → Bool} {s s' : Announcer}

/-- The next access of `Udp_BroadCast`. -/
theorem Announces.proceed (h : s.Announces) (alloc : ℕ → Bool) :
  (s.proceed alloc).Announces
  := by
  obtain ⟨uip, reader, phase, about, disturbed, announced⟩ := s
  obtain ⟨hsent, hunderway⟩ := h
  cases phase with
  | rests =>
    simp only [Announcer.proceed]
    split
    · exact ⟨hsent, Nat.zero_le 18, fun hpos => absurd hpos (Nat.lt_irrefl 0)⟩
    · exact ⟨hsent, trivial⟩
  | stores k =>
    obtain ⟨hk, hbuilt⟩ := hunderway
    refine ⟨hsent, ?_⟩
    have hnext : Built { uip with buf := uip.buf.put k (announcedByte reader.gDevice k) }
        (if k = 0 then reader.gDevice else about) (if k = 0 then false else disturbed) (k + 1)
        ∧ ((if k = 0 then false else disturbed) = false →
          (if k = 0 then reader.gDevice else about) = reader.gDevice) := by
      obtain rfl | hpos := Nat.eq_zero_or_pos k
      · exact ⟨.first uip reader.gDevice, fun _ => rfl⟩
      · obtain ⟨hbuilt, habout⟩ := hbuilt hpos
        rw [if_neg hpos.ne', if_neg hpos.ne']
        refine ⟨hbuilt.store hpos (by omega) fun hundisturbed => ?_, habout⟩
        rw [habout hundisturbed, announcementMem_of_lt _ (by omega)]
    simp only [Announcer.proceed]
    by_cases hlast : k < 18
    · rw [if_pos hlast]
      exact ⟨hlast, fun _ => hnext⟩
    · rw [if_neg hlast]
      obtain rfl : k = 18 := by omega
      exact hnext.1
  | sets =>
    have hbuilt : Built uip about disturbed 19 := hunderway
    exact ⟨hsent, Nat.zero_le 19, hbuilt.congr rfl (by decide), Nat.le_refl 20,
      fun _ => ⟨rfl, rfl⟩⟩
  | sums k sum =>
    obtain ⟨hk, hbuilt, hlen, hsum⟩ := hunderway
    simp only [Announcer.proceed]
    split
    · rename_i hlt
      refine ⟨hsent, hlt, hbuilt, hlen, fun hundisturbed => ⟨(hsum hundisturbed).1, ?_⟩⟩
      have hbytes : Built uip about disturbed 19 := hbuilt
      unfold Built at hbytes
      rw [show disturbed = false from hundisturbed, if_neg Bool.false_ne_true] at hbytes
      have hbyte := hbytes k hlt
      rw [announcementMem_of_lt _ hlt] at hbyte
      exact congrArg₂ (· + ·) (hsum hundisturbed).2 hbyte
    · obtain rfl : k = 19 := by omega
      refine ⟨hsent, hbuilt, hlen, fun hundisturbed => ⟨(hsum hundisturbed).1, ?_⟩⟩
      exact congrArg (fun x => ~~~x + 1) (hsum hundisturbed).2
  | closes checksum =>
    obtain ⟨hbuilt, hlen, hsum⟩ := hunderway
    refine ⟨hsent, hbuilt.store (by decide) (by decide) fun hundisturbed => ?_, hlen,
      fun hundisturbed => (hsum hundisturbed).1⟩
    exact (hsum hundisturbed).2.trans (Mem.put_same ..).symm
  | calls =>
    obtain ⟨hbuilt, hle, hlen⟩ := hunderway
    simp only [Announcer.proceed]
    split
    · exact ⟨hsent, Nat.zero_le _, hle, hbuilt.planned hlen⟩
    · exact ⟨hsent, trivial⟩
  | copies count payload =>
    obtain ⟨hle, hcount, hplanned⟩ := hunderway
    simp only [Announcer.proceed]
    split
    · rename_i hlt
      refine ⟨hsent, ?_, hcount, hplanned.next hlt⟩
      rw [List.length_append]
      exact hlt
    · obtain rfl : payload.length = count := by omega
      refine ⟨?_, trivial⟩
      intro a ha
      obtain ha | ha := List.mem_append.mp ha
      · exact hsent a ha
      · rw [List.mem_singleton.mp ha]
        change Planned uip about disturbed payload.length payload at hplanned
        unfold Planned at hplanned
        rw [planned_last] at hplanned
        cases disturbed with
        | true => exact ⟨fun heq => absurd heq hplanned.1, nofun⟩
        | false => exact ⟨fun _ => rfl, fun _ => hplanned⟩

/-- The timer is updated. -/
theorem Announces.tick (h : s.Announces) (t : STimer) :
  Announces { s with uip := { s.uip with uipTimer := t } }
  := by
  obtain ⟨uip, reader, phase, about, disturbed, announced⟩ := s
  obtain ⟨hsent, hunderway⟩ := h
  refine ⟨hsent, ?_⟩
  cases phase with
  | rests => trivial
  | stores k =>
    obtain ⟨hk, hbuilt⟩ := hunderway
    refine ⟨hk, fun hpos => ?_⟩
    obtain ⟨hbuilt, habout⟩ := hbuilt hpos
    exact ⟨hbuilt.congr rfl (Nat.le_trans hk (by decide)), habout⟩
  | sets =>
    have hbuilt : Built uip about disturbed 19 := hunderway
    exact hbuilt.congr rfl (by decide)
  | sums k sum =>
    obtain ⟨hk, hbuilt, hlen, hsum⟩ := hunderway
    exact ⟨hk, hbuilt.congr rfl (by decide), hlen, hsum⟩
  | closes checksum =>
    obtain ⟨hbuilt, hlen, hsum⟩ := hunderway
    exact ⟨hbuilt.congr rfl (by decide), hlen, hsum⟩
  | calls =>
    obtain ⟨hbuilt, hle, hlen⟩ := hunderway
    exact ⟨hbuilt.congr rfl (by decide), hle, hlen⟩
  | copies count payload =>
    obtain ⟨hle, hcount, hplanned⟩ := hunderway
    exact ⟨hle, hcount, hplanned.congr rfl (Nat.le_trans hcount (by decide))⟩

/-- A datagram is processed. -/
theorem Announces.datagram (h : s.Announces) {u : SUipTransData} (hbuf : u.buf = Block.zero 255)
    (hlen : u.len = 0) (r : Reader) :
  Announces { s with uip := u, reader := r, disturbed := s.disturbed || decide s.Exposed }
  := by
  obtain ⟨uip, reader, phase, about, disturbed, announced⟩ := s
  obtain ⟨hsent, hunderway⟩ := h
  refine ⟨hsent, ?_⟩
  have hle : u.len ≤ 20 := by omega
  by_cases hexposed : Exposed ⟨uip, reader, phase, about, disturbed, announced⟩
  · rw [decide_eq_true hexposed, Bool.or_true]
    cases phase with
    | rests => trivial
    | stores k => exact ⟨hunderway.1, fun _ => ⟨.clear hbuf about k, nofun⟩⟩
    | sets => exact .clear hbuf about 19
    | sums k sum => exact ⟨hunderway.1, .clear hbuf about 19, hle, nofun⟩
    | closes checksum => exact ⟨.clear hbuf about 19, hle, nofun⟩
    | calls => exact ⟨.clear hbuf about 20, hle, nofun⟩
    | copies count payload =>
      obtain ⟨hlength, hcount, hplanned⟩ := hunderway
      obtain ⟨i, hi, hbehind, hne⟩ := hexposed
      refine ⟨hlength, hcount, ?_⟩
      exact hplanned.clear_exposed hbuf (Nat.le_trans hcount (by decide)) hi hbehind hne
  · rw [decide_eq_false hexposed, Bool.or_false]
    cases phase with
    | rests => trivial
    | stores k => exact ⟨hunderway.1, fun hpos => absurd hpos hexposed⟩
    | sets | sums | closes | calls => exact absurd trivial hexposed
    | copies count payload =>
      obtain ⟨hlength, hcount, hplanned⟩ := hunderway
      refine ⟨hlength, hcount, hplanned.clear hbuf (Nat.le_trans hcount (by decide)) ?_⟩
      intro i hi hbehind
      by_contra hne
      exact hexposed ⟨i, hi, hbehind, hne⟩

/-- What one event preserves. -/
theorem Announces.step (h : s.Announces) {e : AnnouncerEvent} (hstep : s.step alloc e = some s') :
  s'.Announces
  := by
  cases e with
  | proceeds =>
    cases hstep
    exact h.proceed alloc
  | elsewhere r =>
    simp only [Announcer.step] at hstep
    split at hstep
    · rename_i hphase
      cases hstep
      refine ⟨h.sent, ?_⟩
      unfold Underway
      rw [hphase]
      trivial
    · cases hstep
  | tick =>
    cases hstep
    exact h.tick _
  | datagram chain =>
    obtain ⟨out, hout, rfl⟩ := Option.map_eq_some_iff.mp hstep
    cases chain with
    | nil =>
      cases hout
      rw [List.isEmpty_nil, Bool.not_true, Bool.false_and, Bool.or_false]
      exact h
    | cons payload chain =>
      obtain ⟨hbuf, hlen⟩ := udpReceive_cleared hout
      exact h.datagram hbuf hlen out.2.1

/-- What a whole run preserves. -/
theorem announces_of_run {r : Reader} {es : List AnnouncerEvent}
    (hrun : Run.run (Announcer.step alloc) es (.start r) = some s) :
  s.Announces
  := by
  have halong : Run.Along (Announcer.step alloc) (fun _ _ => True) es (.start r) :=
    .of_forall fun _ _ _ => trivial
  have hstart : (Announcer.start r).Announces :=
    ⟨fun _ ha => absurd ha List.not_mem_nil, trivial⟩
  exact halong.invariant (fun _ _ _ h _ hstep => h.step hstep) hstart hrun

end Announcer

/-- An announcement that was sent is that of the reader, with its checksum, if and only if no
datagram came while bytes of it were in the buffer. -/
theorem announcements_intact_iff {alloc : ℕ → Bool} {r : Reader} {es : List AnnouncerEvent}
    {s : Announcer} (hrun : Run.run (Announcer.step alloc) es (.start r) = some s) :
  ∀ a ∈ s.announced, a.bytes = announcement a.about ↔ a.disturbed = false
  := (Announcer.announces_of_run hrun).sent

/-- Of two announcements, the second one is disturbed by a datagram of one byte, which `UDP_Receive`
throws away. -/
theorem announcements_intact_iff_two :
  ∃ s, Run.run (Announcer.step fun _ => true)
      (List.replicate 300 .tick ++ List.replicate 64 .proceeds
        ++ List.replicate 300 .tick ++ List.replicate 30 .proceeds ++ [.datagram [[0]]]
        ++ List.replicate 34 .proceeds) (.start (powerOn .blank)) = some s
    ∧ s.announced.map (·.disturbed) = [false, true]
    ∧ ∀ a ∈ s.announced, a.bytes = announcement a.about ↔ a.disturbed = false
  := by
  obtain ⟨s, hrun, hsent⟩ := (Option.any_eq_true ..).mp (by decide +kernel :
    (Run.run (Announcer.step fun _ => true)
      (List.replicate 300 .tick ++ List.replicate 64 .proceeds
        ++ List.replicate 300 .tick ++ List.replicate 30 .proceeds ++ [.datagram [[0]]]
        ++ List.replicate 34 .proceeds) (.start (powerOn .blank))).any
      fun s => s.announced.map (·.disturbed) = [false, true])
  exact ⟨s, hrun, of_decide_eq_true hsent, announcements_intact_iff hrun⟩

end UhfReader
