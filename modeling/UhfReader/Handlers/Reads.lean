import UhfReader.Handlers.Frames
import UhfReader.Radio.Link

/-!
# What the handlers read of their parameters

A handler gets its parameters as memory without an end: behind the parameters of the request
stand its checksum and whatever was in the buffer before.  The results here say how much of it
each handler reads.  When two requests have the same parameters as far as the handler reads,
it does the same for both: it sends the same frames, ends in the same state and replies with
the same bytes.
-/

open Memory Stateful

namespace UhfReader

/-! ### Frames -/

namespace SR2000TransData

theorem memcpy_congr {src src' : Mem} (off : ℕ) {n : ℕ} (h : Mem.AgreeBelow n src src') :
  ∀ r : SR2000TransData, r.memcpy off src n = r.memcpy off src' n
  := by
  induction n with
  | zero =>
    intro r
    rfl
  | succ n ih =>
    intro r
    rw [memcpy, memcpy, ih (h.mono (Nat.le_succ n)), h n (Nat.lt_succ_self n)]

end SR2000TransData

/-- The bytes of a run inside the part agreed on. -/
theorem map_range_congr {p p' : Mem} {off n k : ℕ} (h : Mem.AgreeBelow n p p') (hk : off + k ≤ n) :
  (List.range k).map (fun i => p (off + i)) = (List.range k).map (fun i => p' (off + i))
  := by
  apply List.map_congr_left
  intro i hi
  apply h
  have := List.mem_range.mp hi
  omega

/-- The number of bytes of the identifier that the parameters start with: `p[0]` counts
words. -/
def idBytes (p : Mem) : ℕ := (p 0 * 2).toNat

theorem idBytes_congr {n : ℕ} {p p' : Mem} (h : Mem.AgreeBelow n p p') (hn : 0 < n) :
  idBytes p' = idBytes p
  := by
  rw [idBytes, idBytes, h 0 hn]

theorem toNat_idBytes_add_one (p : Mem) :
  (p 0 * 2 + 1).toNat = idBytes p + 1
  := by
  have := (p 0).toNat_lt
  simp only [idBytes, UInt8.toNat_add, UInt8.toNat_mul, UInt8.reduceToNat]
  omega

section Encode

variable {p p' : Mem}

/-- The commands whose frames carry no parameters of the request. -/
theorem encodeR2000_bare {cmd : UInt8} (h : cmd ∈ [0x72, 0x86, 0x91, 0xB0, 0xC5]) (p p' : Mem) :
  encodeR2000 cmd p = encodeR2000 cmd p'
  := by
  simp only [List.mem_cons, List.not_mem_nil, or_false] at h
  apply encodeR2000From_congr
  · rintro rfl
    exact absurd h (by decide)
  · intro antennas r
    obtain rfl | rfl | rfl | rfl | rfl := h
    · simp only [buildFrame]
    · simp only [buildFrame]
    · simp only [buildFrame]
    · simp only [buildFrame]
    · simp only [buildFrame]

/-- The commands whose frames carry the first parameter. -/
theorem encodeR2000_first {cmd : UInt8} (h : cmd ∈ [0x74, 0x76, 0x80])
    (hp : Mem.AgreeBelow 1 p p') :
  encodeR2000 cmd p = encodeR2000 cmd p'
  := by
  simp only [List.mem_cons, List.not_mem_nil, or_false] at h
  apply encodeR2000From_congr
  · rintro rfl
    exact absurd h (by decide)
  · intro antennas r
    obtain rfl | rfl | rfl := h
    · simp only [buildFrame, hp 0 Nat.one_pos]
    · simp only [buildFrame, hp 0 Nat.one_pos]
    · simp only [buildFrame, hp 0 Nat.one_pos]

/-- `0x78` carries the first six parameters at most. -/
theorem encodeR2000_frequency (hp : Mem.AgreeBelow 6 p p') :
  encodeR2000 0x78 p = encodeR2000 0x78 p'
  := by
  have hbuild : ∀ r : SR2000TransData, r.buildFrequency p = r.buildFrequency p' := by
    intro r
    unfold SR2000TransData.buildFrequency
    rw [hp 0 (by decide), hp 1 (by decide), hp 2 (by decide), hp 3 (by decide), hp 4 (by decide),
      hp 5 (by decide)]
  funext g
  have hsend : sendCmd 0x78 0 p g = sendCmd 0x78 0 p' g := by
    unfold sendCmd
    simp only [buildFrame, hbuild, hp 0 (by decide)]
  unfold encodeR2000 encodeR2000From
  rw [hsend]

/-- `0x85` carries the identifier. -/
theorem encodeR2000_select (hp : Mem.AgreeBelow (idBytes p + 1) p p') :
  encodeR2000 0x85 p = encodeR2000 0x85 p'
  := by
  apply encodeR2000From_congr (by decide)
  intro antennas r
  have hshift : Mem.AgreeBelow (idBytes p) (p.shift 1) (p'.shift 1) := by
    apply Mem.AgreeBelow.shift
    rwa [Nat.add_comm]
  simp only [buildFrame, ← hp 0 (Nat.succ_pos _)]
  exact SR2000TransData.memcpy_congr 6 hshift _

/-- `0x81` carries the seven bytes after the identifier. -/
theorem encodeR2000_read (hp : Mem.AgreeBelow (idBytes p + 8) p p') :
  encodeR2000 0x81 p = encodeR2000 0x81 p'
  := by
  apply encodeR2000From_congr (by decide)
  intro antennas r
  simp only [buildFrame, ← hp 0 (Nat.succ_pos _), toNat_idBytes_add_one]
  rw [map_range_congr hp (by omega)]

/-- `0x83` carries the six bytes after the identifier. -/
theorem encodeR2000_lock (hp : Mem.AgreeBelow (idBytes p + 7) p p') :
  encodeR2000 0x83 p = encodeR2000 0x83 p'
  := by
  apply encodeR2000From_congr (by decide)
  intro antennas r
  simp only [buildFrame, ← hp 0 (Nat.succ_pos _), toNat_idBytes_add_one]
  rw [map_range_congr hp (by omega), hp (idBytes p + 1) (by omega),
    hp (idBytes p + 1 + 1) (by omega)]

/-- `0x84` carries the four bytes after the identifier. -/
theorem encodeR2000_kill (hp : Mem.AgreeBelow (idBytes p + 5) p p') :
  encodeR2000 0x84 p = encodeR2000 0x84 p'
  := by
  apply encodeR2000From_congr (by decide)
  intro antennas r
  simp only [buildFrame, ← hp 0 (Nat.succ_pos _), toNat_idBytes_add_one]
  rw [map_range_congr hp (by omega)]

/-- `0xC2` carries the identifier and the four bytes after it. -/
theorem encodeR2000_writeEPC (hp : Mem.AgreeBelow (idBytes p + 5) p p') :
  encodeR2000 0xC2 p = encodeR2000 0xC2 p'
  := by
  apply encodeR2000From_congr (by decide)
  intro antennas r
  have hshift : Mem.AgreeBelow (idBytes p) (p.shift 1) (p'.shift 1) := by
    apply Mem.AgreeBelow.shift
    exact hp.mono (by omega)
  have hlist : (List.range 4).map (fun i => p (idBytes p + 1 + i))
      = (List.range 4).map (fun i => p' (idBytes p + 1 + i)) := map_range_congr hp (by omega)
  rw [idBytes] at hlist
  simp only [buildFrame, ← hp 0 (Nat.succ_pos _)]
  rw [hlist]
  exact SR2000TransData.memcpy_congr 13 hshift _

/-- `0xC1` carries the first three parameters. -/
theorem encodeR2000_readTID (hp : Mem.AgreeBelow 3 p p') :
  encodeR2000 0xC1 p = encodeR2000 0xC1 p'
  := by
  apply encodeR2000From_congr (by decide)
  intro antennas r
  simp only [buildFrame, hp 0 (by decide), hp 1 (by decide), hp 2 (by decide)]

theorem toNat_idBytes_add_three {p : Mem} (h : idBytes p < 253) :
  (p 0 * 2 + 3).toNat = idBytes p + 3
  := by
  have := (p 0).toNat_lt
  simp only [idBytes, UInt8.toNat_add, UInt8.toNat_mul, UInt8.reduceToNat] at h ⊢
  omega

/-- The number of bytes that `0xEB` writes. -/
def dataBytes (p : Mem) : ℕ := (p (idBytes p + 3)).toNat * 2

/-- `0x82` carries the seven bytes after the identifier and the bytes to write.  The byte before
the parameters is not read, since the place of the bank does not wrap around. -/
theorem encodeR2000From_write (before before' : UInt8) (hid : idBytes p < 253)
    (hp : Mem.AgreeBelow (idBytes p + dataBytes p + 8) p p') :
  encodeR2000From before 0x82 p = encodeR2000From before' 0x82 p'
  := by
  apply encodeR2000From_congr (by decide)
  intro antennas r
  have hshift : Mem.AgreeBelow (dataBytes p) (p.shift (idBytes p + 4))
      (p'.shift (idBytes p + 4)) := by
    apply Mem.AgreeBelow.shift
    exact hp.mono (by omega)
  have hlist : (List.range 4).map (fun k => p (idBytes p + 3 + dataBytes p + 1 + k))
      = (List.range 4).map (fun k => p' (idBytes p + 3 + dataBytes p + 1 + k)) :=
    map_range_congr hp (by omega)
  rw [dataBytes] at hshift hlist
  simp only [buildFrame, SR2000TransData.buildWrite, ← hp 0 (by omega),
    toNat_idBytes_add_three hid, ← hp (idBytes p + 3) (by omega)]
  rw [if_neg (show ¬ idBytes p + 3 = 1 by omega), if_neg (show ¬ idBytes p + 3 = 1 by omega), hlist,
    hp (idBytes p + 3 - 2) (by omega), hp (idBytes p + 3 - 1) (by omega)]
  split
  · exact SR2000TransData.memcpy_congr 13 hshift _
  · exact SR2000TransData.memcpy_congr 11 hshift _

/-- `0xB1` carries the first ten parameters. -/
theorem encodeR2000_read6B (hp : Mem.AgreeBelow 10 p p') :
  encodeR2000 0xB1 p = encodeR2000 0xB1 p'
  := by
  apply encodeR2000From_congr (by decide)
  intro antennas r
  exact SR2000TransData.memcpy_congr 4 hp _

/-- `0xB2` carries the first ten parameters and as many more as the tenth says. -/
theorem encodeR2000_write6B (hp : Mem.AgreeBelow (10 + (p 9).toNat) p p') :
  encodeR2000 0xB2 p = encodeR2000 0xB2 p'
  := by
  apply encodeR2000From_congr (by decide)
  intro antennas r
  simp only [buildFrame, SR2000TransData.build6B, ← hp 9 (by omega)]
  rw [SR2000TransData.memcpy_congr 4 (hp.mono (by omega)), SR2000TransData.memcpy_congr 14 hp.shift]

/-- `0xB3` and `0xB4` carry the first nine parameters. -/
theorem encodeR2000_protect6B {cmd : UInt8} (h : cmd ∈ [0xB3, 0xB4])
    (hp : Mem.AgreeBelow 9 p p') :
  encodeR2000 cmd p = encodeR2000 cmd p'
  := by
  simp only [List.mem_cons, List.not_mem_nil, or_false] at h
  apply encodeR2000From_congr
  · rintro rfl
    exact absurd h (by decide)
  · intro antennas r
    obtain rfl | rfl := h
    · exact SR2000TransData.memcpy_congr 4 hp _
    · exact SR2000TransData.memcpy_congr 4 hp _

end Encode

/-! ### Replies -/

/-- Two replies are the same: they agree on the bytes that are sent.  A reply of 250 bytes or
more is not looked at; it does not fit into both layouts. -/
def SameReply (g : Globals) (q q' : Mem) : Prop :=
  g.cmdTmpLen.toNat < 250 → Mem.AgreeBelow g.cmdTmpLen.toNat q q'

/-- Two replies of less than `limit` bytes are the same. -/
def SameBelow (limit : ℕ) (g : Globals) (q q' : Mem) : Prop :=
  g.cmdTmpLen.toNat < limit → Mem.AgreeBelow g.cmdTmpLen.toNat q q'

/-- Two handlers do the same: replies of 255 bytes stand for a failure. -/
abbrev Alike (m m' : M Mem) : Prop := Sim (SameBelow 255) m m'

/-- What handlers do the same, they do the same for shorter replies. -/
theorem Alike.at {m m' : M Mem} (h : Alike m m') {limit : ℕ} (hlimit : limit ≤ 255)
    (g : Globals) :
  SimAt (SameBelow limit) g m m'
  := (h g).mono fun _ _ _ hsame hlen => hsame (Nat.lt_of_lt_of_le hlen hlimit)

theorem alike_fail (p p' : Mem) :
  Alike (fail p) (fail p')
  := by
  intro g
  refine .inr ⟨p, p', { g with cmdTmpLen := 0xFF }, rfl, rfl, ?_⟩
  intro hlen
  exact absurd hlen (Nat.lt_irrefl 255)

theorem alike_reply {q q' : Mem} {n : UInt8} (h : Mem.AgreeBelow n.toNat q q') :
  Alike (reply q n) (reply q' n)
  := by
  intro g
  exact .inr ⟨q, q', { g with cmdTmpLen := n }, rfl, rfl, fun _ => h⟩

theorem alike_reply_zero (q q' : Mem) :
  Alike (reply q 0) (reply q' 0)
  := by
  apply alike_reply
  intro i hi
  exact absurd hi (Nat.not_lt_zero i)

/-- A reply that consists of one byte. -/
theorem alike_reply_one (p p' : Mem) (b : UInt8) :
  Alike (reply (p.put 0 b) 1) (reply (p'.put 0 b) 1)
  := by
  apply alike_reply
  intro i hi
  obtain rfl : i = 0 := Nat.lt_one_iff.mp hi
  rw [Mem.put_same, Mem.put_same]

/-- A reply that is copied from one place. -/
theorem alike_reply_copy {p p' src src' : Mem} {n : UInt8} (h : Mem.AgreeBelow n.toNat src src') :
  Alike (reply (p.copy 0 src n.toNat) n) (reply (p'.copy 0 src' n.toNat) n)
  := by
  apply alike_reply
  have hzero : Mem.AgreeBelow 0 p p' := fun i hi => absurd hi (Nat.not_lt_zero i)
  exact (hzero.copy_of_agree h (Nat.zero_le 0)).mono (by omega)

/-! ### Lists of tags -/

/-- Two replies under construction are the same. -/
structure Listing.Same (l l' : Listing) : Prop where
  lenth : l.lenth = l'.lenth
  bakrssi : l.bakrssi = l'.bakrssi
  agree : Mem.AgreeBelow l.lenth.toNat l.p l'.p

theorem toNat_add_le (a b : UInt8) :
  (a + b).toNat ≤ a.toNat + b.toNat
  := by
  rw [UInt8.toNat_add]
  exact Nat.mod_le _ _

theorem same_appendRow (g : Globals) {l l' : Listing} (h : l.Same l') (k : ℕ) :
  (appendRow g l k).Same (appendRow g l' k)
  := by
  unfold appendRow
  dsimp only
  refine ⟨?_, h.bakrssi, ?_⟩
  · dsimp only
    rw [h.lenth]
  · dsimp only
    rw [← h.lenth]
    apply (h.agree.copy _ _ _ (Nat.le_refl _)).mono
    have := toNat_add_le l.lenth ((g.cardIndex k).load 0 * 2 + 1)
    omega

theorem same_appendRssi (g : Globals) {l l' : Listing} (h : l.Same l') (k : ℕ) :
  (appendRssi g l k).Same (appendRssi g l' k)
  := by
  unfold appendRssi
  dsimp only
  rw [h.bakrssi]
  refine ⟨?_, rfl, ?_⟩
  · dsimp only
    rw [h.lenth]
  · dsimp only
    rw [← h.lenth]
    exact (h.agree.put_next _).mono (toNat_add_le l.lenth 1)

/-- Appending the same rows to two replies that start with the same byte. -/
theorem same_listRows (g : Globals) (p p' : Mem) (b : UInt8) (n : ℕ)
    {row : Listing → ℕ → Listing}
    (hrow : ∀ l l' k, Listing.Same l l' → Listing.Same (row l k) (row l' k)) :
  (listRows g (p.put 0 b) n row).Same (listRows g (p'.put 0 b) n row)
  := by
  have hfold : ∀ (ks : List ℕ) (l l' : Listing), l.Same l' →
      (ks.foldl row l).Same (ks.foldl row l') := by
    intro ks
    induction ks with
    | nil =>
      intro l l' h
      exact h
    | cons k ks ih =>
      intro l l' h
      exact ih _ _ (hrow l l' k h)
  apply hfold
  refine ⟨rfl, rfl, ?_⟩
  intro i hi
  obtain rfl : i = 0 := Nat.lt_one_iff.mp hi
  dsimp only
  rw [Mem.put_same, Mem.put_same]

theorem alike_replyListing {l l' : Listing} (h : l.Same l') :
  Alike (replyListing l) (replyListing l')
  := by
  intro g
  refine .inr ⟨l.p, l'.p, { g with cmdTmpLen := l.lenth, bakrssi := l.bakrssi }, rfl, ?_, ?_⟩
  · rw [h.lenth, h.bakrssi]
    rfl
  · intro _
    exact h.agree

/-! ### Handlers -/

section Handlers

variable {p p' : Mem}

theorem alike_beep_then {m m' : M Mem} (h : Alike m m') :
  Alike (do beep; m) (do beep; m')
  := Sim.bind beep fun _ => h

/-- After a command to the R2000, handlers go on alike. -/
theorem alike_encode {before before' cmd cmd' : UInt8} {q q' : Mem} {k k' : UInt8 → M Mem}
    (hq : encodeR2000From before cmd q = encodeR2000From before' cmd' q')
    (hk : ∀ flagReturn, Alike (k flagReturn) (k' flagReturn)) :
  Alike (do let flagReturn ← encodeR2000From before cmd q; k flagReturn)
    (do let flagReturn ← encodeR2000From before' cmd' q'; k' flagReturn)
  := by
  rw [← hq]
  exact Sim.bind _ hk

theorem alike_get {k k' : Globals → M Mem} (hk : ∀ g, Alike (k g) (k' g)) :
  Alike (do let g ← get; k g) (do let g ← get; k' g)
  := Sim.bind get hk

theorem alike_setOutputPower (hp : Mem.AgreeBelow 1 p p') :
  Alike (setOutputPower p) (setOutputPower p')
  := by
  have hfirst : p' 0 = p 0 := (hp 0 Nat.one_pos).symm
  unfold setOutputPower
  rw [hfirst]
  apply Sim.bind
  intro _
  apply alike_encode
  · exact encodeR2000_first (by decide) (hp.put 0 _)
  · intro flagReturn
    apply alike_get
    intro g
    apply Sim.ite _ (alike_fail _ _)
    intro g'
    refine .inr ⟨_, _, { g' with cmdTmpLen := 0, setFlag := 1 }, rfl, rfl, ?_⟩
    intro _ i hi
    exact absurd hi (Nat.not_lt_zero i)

theorem alike_setFrequency (hp : Mem.AgreeBelow 6 p p') :
  Alike (setFrequency p) (setFrequency p')
  := by
  have hcopy : ∀ d : SDevice, d.copy Offset.freqSelect p 6 = d.copy Offset.freqSelect p' 6 :=
    fun d => Block.copy_congr hp
  unfold setFrequency
  simp only [hcopy]
  intro g
  refine .inr ⟨p, p', _, rfl, rfl, ?_⟩
  intro _ i hi
  exact absurd hi (Nat.not_lt_zero i)

theorem alike_setAntenna (hp : Mem.AgreeBelow 1 p p') :
  Alike (setAntenna p) (setAntenna p')
  := by
  apply Sim.bind
  intro _
  apply alike_encode (encodeR2000_first (by decide) hp)
  intro flagReturn
  exact Sim.ite (alike_reply_zero p p') (alike_fail p p')

theorem alike_readR2000vertion (p p' : Mem) :
  Alike (readR2000vertion p) (readR2000vertion p')
  := by
  apply alike_encode (encodeR2000_bare (by decide) p p')
  intro flagReturn
  apply alike_get
  intro g
  exact Sim.ite (alike_reply_copy (n := 2) (Mem.AgreeBelow.refl _ _)) (alike_fail p p')

theorem alike_inventory6B {onTags onTags' : M Mem} (h : Alike onTags onTags') :
  Alike (inventory6B p onTags) (inventory6B p' onTags')
  := by
  apply Sim.bind
  intro _
  apply alike_encode (encodeR2000_bare (by decide) p p')
  intro flagReturn
  exact Sim.ite h (alike_fail p p')

theorem alike_detectTagNum (p p' : Mem) :
  Alike (detectTagNum p) (detectTagNum p')
  := by
  apply Sim.bind
  intro _
  apply alike_inventory6B
  apply alike_get
  intro g
  exact alike_reply_one p p' _

theorem alike_readLabelID (p p' : Mem) :
  Alike (readLabelID p) (readLabelID p')
  := by
  apply Sim.bind
  intro _
  apply alike_inventory6B
  apply Sim.bind
  intro _
  apply alike_get
  intro g
  apply alike_replyListing
  exact same_listRows g p p' _ _ fun l l' k h => same_appendRow g h k

theorem alike_listIDReport (p p' : Mem) :
  Alike (listIDReport p) (listIDReport p')
  := by
  apply Sim.bind
  intro tmplen
  apply alike_get
  intro g
  apply alike_replyListing
  exact same_listRows g p p' _ _ fun l l' k h => same_appendRow g h k

theorem alike_listSelectedID (hp : Mem.AgreeBelow 11 p p') :
  Alike (listSelectedID p) (listSelectedID p')
  := by
  have hmask : (fun i => p (3 + i.val) : Block 8) = fun i => p' (3 + i.val) := by
    funext i
    apply hp
    omega
  unfold listSelectedID
  rw [hp 0 (by decide), hp 1 (by decide), hp 2 (by decide), hmask]
  apply Sim.bind
  intro _
  apply alike_inventory6B
  apply Sim.bind
  intro _
  apply alike_get
  intro g
  apply alike_replyListing
  exact same_listRows g p p' _ _ fun l l' k h => same_appendRow g h k

theorem alike_command6B {cmd : UInt8} {onFrame onFrame' onShort onShort' : SR2000TransData → M Mem}
    (hp : encodeR2000 cmd p = encodeR2000 cmd p') (hframe : ∀ r, Alike (onFrame r) (onFrame' r))
    (hshort : ∀ r, Alike (onShort r) (onShort' r)) :
  Alike (command6B cmd p onFrame onShort) (command6B cmd p' onFrame' onShort')
  := by
  apply alike_encode hp
  intro flagReturn
  apply Sim.ite _ (alike_fail p p')
  apply alike_get
  intro g
  exact Sim.ite (alike_beep_then (hframe _)) (hshort _)

theorem alike_readByteBlock (hp : Mem.AgreeBelow 10 p p') :
  Alike (readByteBlock p) (readByteBlock p')
  := by
  apply alike_command6B (encodeR2000_read6B hp)
  · intro r
    exact alike_reply_copy (Mem.AgreeBelow.refl _ _)
  · intro r
    exact alike_fail p p'

theorem alike_writeByteBlock (hwrite : encodeR2000 0xB2 p = encodeR2000 0xB2 p')
    (hcount : p' 9 = p 9) (hdata : Mem.AgreeBelow (p 9).toNat (p.shift 10) (p'.shift 10)) :
  Alike (writeByteBlock p) (writeByteBlock p')
  := by
  apply alike_command6B hwrite
  · intro r
    rw [hcount]
    exact alike_reply_copy hdata
  · intro r
    exact alike_fail p p'

theorem alike_writeProtect (hp : Mem.AgreeBelow 9 p p') :
  Alike (writeProtect p) (writeProtect p')
  := by
  apply alike_command6B (encodeR2000_protect6B (by decide) hp)
  · intro r
    exact alike_reply_zero p p'
  · intro r
    exact alike_fail p p'

theorem alike_readWriteProtect (hp : Mem.AgreeBelow 9 p p') :
  Alike (readWriteProtect p) (readWriteProtect p')
  := by
  apply alike_command6B (encodeR2000_protect6B (by decide) hp)
  · intro r
    exact alike_reply_one p p' _
  · intro r
    exact alike_reply_one p p' _

theorem alike_nextRows {row : Globals → ℕ → Listing → ℕ → Listing}
    (hrow : ∀ g pos l l' k, Listing.Same l l' → Listing.Same (row g pos l k) (row g pos l' k)) :
  Alike (nextRows p row) (nextRows p' row)
  := by
  apply alike_get
  intro g
  apply Sim.bind
  intro tmplen
  apply alike_get
  intro g'
  apply alike_replyListing
  exact same_listRows g' p p' _ _ (hrow g' _)

/-- The R2000 confirms a command. -/
def Confirmed (cmd : UInt8) (p : Mem) (g : Globals) : Prop :=
  ∃ g', encodeR2000 cmd p g = some (0, g') ∧ g'.r2000.para 0 = commandSuccess

/-- After a command to the R2000 that is the same, handlers go on alike, when they do so after
it was confirmed. -/
theorem simAt_confirmed {cmd : UInt8} {limit : ℕ} (hlimit : limit ≤ 255) {g : Globals}
    (hq : encodeR2000 cmd p = encodeR2000 cmd p') {m m' : M Mem}
    (h : Confirmed cmd p g → Alike m m') :
  SimAt (SameBelow limit) g
    (do
      let flagReturn ← encodeR2000 cmd p
      let g ← get
      if flagReturn = 0 ∧ g.r2000.para 0 = commandSuccess then m else fail p)
    (do
      let flagReturn ← encodeR2000 cmd p'
      let g ← get
      if flagReturn = 0 ∧ g.r2000.para 0 = commandSuccess then m' else fail p')
  := by
  rw [← hq]
  apply SimAt.bind
  intro flagReturn g₁ hasked
  apply SimAt.bind
  rintro _ _ hget
  cases hget
  by_cases hconfirmed : flagReturn = 0 ∧ g₁.r2000.para 0 = commandSuccess
  · obtain ⟨rfl, hpara⟩ := hconfirmed
    rw [if_pos ⟨rfl, hpara⟩, if_pos ⟨rfl, hpara⟩]
    exact (h ⟨g₁, hasked, hpara⟩).at hlimit g₁
  · rw [if_neg hconfirmed, if_neg hconfirmed]
    exact (alike_fail p p').at hlimit g₁

/-- The globals in which `0xEF` asks the R2000 first. -/
def tidStart (g : Globals) : Globals := { g with cmdMasklen := 0, cardPos := 0 }

theorem simAt_epc1g2ListTagID {limit : ℕ} (hlimit : limit ≤ 255) {g : Globals}
    (hp : Confirmed 0xC5 p (tidStart g) → Mem.AgreeBelow 3 p p') :
  SimAt (SameBelow limit) g (epc1g2ListTagID p) (epc1g2ListTagID p')
  := by
  apply SimAt.bind
  rintro _ _ hstart
  cases hstart
  apply simAt_confirmed hlimit (encodeR2000_bare (by decide) p p')
  intro hconfirmed
  apply Sim.bind
  intro _
  apply alike_encode (encodeR2000_readTID (hp hconfirmed))
  intro flagReturn'
  apply alike_get
  intro g'
  exact Sim.ite (alike_beep_then (alike_reply_copy (Mem.AgreeBelow.refl _ _))) (alike_fail p p')

/-- An access to a tag, when it is the same after the tag was selected. -/
theorem simAt_selectTag {limit : ℕ} (hlimit : limit ≤ 255) {g : Globals}
    (hselect : encodeR2000 0x85 p = encodeR2000 0x85 p') {access access' : M Mem}
    (h : Confirmed 0x85 p g → Alike access access') :
  SimAt (SameBelow limit) g (selectTag p access) (selectTag p' access')
  := by
  apply simAt_confirmed hlimit hselect
  intro hconfirmed
  exact Sim.bind delayMs fun _ => h hconfirmed

theorem alike_selectTag (hselect : encodeR2000 0x85 p = encodeR2000 0x85 p')
    {access access' : M Mem} (h : Alike access access') :
  Alike (selectTag p access) (selectTag p' access')
  := fun _ => simAt_selectTag (Nat.le_refl 255) hselect fun _ => h

theorem alike_epc1g2Accessmatch (hp : Mem.AgreeBelow (idBytes p + 1) p p') :
  Alike (epc1g2Accessmatch p) (epc1g2Accessmatch p')
  := fun _ => simAt_confirmed (Nat.le_refl 255) (encodeR2000_select hp)
    fun _ => alike_beep_then (alike_reply_zero p p')

theorem alike_confirmAccess (flagReturn : UInt8) (p p' : Mem) :
  Alike (confirmAccess flagReturn p) (confirmAccess flagReturn p')
  := by
  apply alike_get
  intro g
  exact Sim.ite (alike_beep_then (alike_reply_zero p p')) (alike_fail p p')

theorem alike_epc1g2ReadWordBlock (hselect : encodeR2000 0x85 p = encodeR2000 0x85 p')
    (hread : encodeR2000 0x81 p = encodeR2000 0x81 p') :
  Alike (epc1g2ReadWordBlock p) (epc1g2ReadWordBlock p')
  := by
  apply alike_selectTag hselect
  apply alike_encode hread
  intro flagReturn
  apply alike_get
  intro g
  apply Sim.ite _ (alike_fail p p')
  apply alike_beep_then
  exact alike_reply_copy (Mem.AgreeBelow.refl _ _)

/-- A tag is selected by its identifier alone, and the rest is read when that was confirmed. -/
theorem simAt_epc1g2WriteWordBlock (before before' : UInt8) {limit : ℕ} (hlimit : limit ≤ 255)
    {g : Globals} (hselect : encodeR2000 0x85 p = encodeR2000 0x85 p')
    (hwrite : Confirmed 0x85 p g →
      encodeR2000From before 0x82 p = encodeR2000From before' 0x82 p') :
  SimAt (SameBelow limit) g (epc1g2WriteWordBlock before p) (epc1g2WriteWordBlock before' p')
  := by
  apply simAt_selectTag hlimit hselect
  intro hconfirmed
  apply alike_encode (hwrite hconfirmed)
  intro flagReturn
  exact alike_confirmAccess flagReturn p p'

theorem alike_epc1g2WriteSetBlock (hselect : encodeR2000 0x85 p = encodeR2000 0x85 p')
    (hlock : encodeR2000 0x83 p = encodeR2000 0x83 p') :
  Alike (epc1g2WriteSetBlock p) (epc1g2WriteSetBlock p')
  := by
  apply alike_selectTag hselect
  apply alike_encode hlock
  intro flagReturn
  exact alike_confirmAccess flagReturn p p'

theorem alike_destroyTag (hselect : encodeR2000 0x85 p = encodeR2000 0x85 p')
    (hkill : encodeR2000 0x84 p = encodeR2000 0x84 p') :
  Alike (destroyTag p) (destroyTag p')
  := by
  apply alike_selectTag hselect
  apply alike_encode hkill
  intro flagReturn
  exact alike_confirmAccess flagReturn p p'

/-- The copy that `EPC1G2_WriteEPC` keeps is of the identifier and the four bytes after it. -/
theorem tmpEpcdata_congr (hp : Mem.AgreeBelow (idBytes p + 5) p p') :
  tmpEpcdata p = tmpEpcdata p'
  := by
  have hle : (p 0 * 2 + 5).toNat ≤ idBytes p + 5 := toNat_add_le (p 0 * 2) 5
  unfold tmpEpcdata
  dsimp only
  rw [← hp 0 (by omega)]
  apply Mem.copy_congr
  apply hp.mono
  split
  · omega
  · exact hle

theorem alike_epc1g2WriteEPC (hcopy : tmpEpcdata p = tmpEpcdata p')
    (hwrite : encodeR2000 0xC2 p = encodeR2000 0xC2 p') :
  Alike (epc1g2WriteEPC p) (epc1g2WriteEPC p')
  := by
  unfold epc1g2WriteEPC
  rw [hcopy]
  apply alike_encode (encodeR2000_bare (by decide) p p')
  intro flagReturn
  apply alike_get
  intro g
  apply Sim.ite
  · apply alike_encode (encodeR2000_bare (by decide) _ _)
    intro flagReturn'
    apply alike_get
    intro g'
    apply Sim.ite _ (alike_fail _ _)
    apply Sim.bind
    intro flagReturn''
    exact alike_confirmAccess flagReturn'' _ _
  · apply Sim.ite _ (alike_fail p p')
    apply alike_encode hwrite
    intro flagReturn'
    exact alike_confirmAccess flagReturn' p p'

theorem alike_readEPCAndData (hp : Mem.AgreeBelow 3 p p') :
  Alike (readEPCAndData p) (readEPCAndData p')
  := by
  apply alike_encode (encodeR2000_bare (by decide) p p')
  intro flagReturn
  apply alike_get
  intro g
  apply Sim.ite _ (alike_fail p p')
  apply alike_encode (encodeR2000_readTID hp)
  intro flagReturn'
  apply alike_get
  intro g'
  by_cases hzero : flagReturn' = 0
  · subst hzero
    exact Sim.ite (alike_beep_then (alike_reply_zero _ _)) (alike_fail p p')
  · rw [if_neg (fun h => hzero h.1), if_neg (fun h => hzero h.1)]
    exact alike_fail p p'

theorem keeps_encodeR2000_cmdTmpLen {cmd : UInt8} (p : Mem) (hcmd : cmd ≠ 0x78) :
  Keeps (fun g => g.cmdTmpLen) (encodeR2000 cmd p)
  := (keeps_encodeR2000From_undriven p hcmd).comp Prod.snd

theorem keeps_delayMs_cmdTmpLen :
  Keeps (fun g => g.cmdTmpLen) delayMs
  := keeps_delayMs_undriven.comp Prod.snd

/-- An inventory up to the answer to `0x91`: whether it failed after a count was reported. -/
def inventoryCut (p : Mem) : M Bool := do
  modify fun g => { g with
    cmdMaskaddr := (p 1).toNat * 256 + (p 2).toNat
    cmdMasklen := 0
    cardPos := 0 }
  let g ← get
  let p := p.put 0 (if g.gDevice.load Offset.maxReadCardNum < 20 then 255 else 1)
  let flagReturn ← encodeR2000 0x80 p
  let g ← get
  if flagReturn = 0 ∧ g.r2000.frameLen > 4 then
    modify fun g => { g with
      tagR2000Cmd80Number := (g.r2000.para 1).toNat * 256 + (g.r2000.para 2).toNat }
    let g ← get
    if g.tagR2000Cmd80Number > 0 then
      delayMs
      modify fun g => { g with tagR2000Cmd91Number := 0 }
      let flagReturn ← encodeR2000 0x91 p
      return flagReturn ≠ 0
    else return false
  else return false

/-- The R2000 reports a count of tags and then fails to list them. -/
def CutOff (p : Mem) (g : Globals) : Prop := ∃ g', inventoryCut p g = some (true, g')

theorem inventoryCut_congr (hp : Mem.AgreeBelow 3 p p') :
  inventoryCut p = inventoryCut p'
  := by
  have hcount : ∀ n, encodeR2000 0x80 (p.put 0 n) = encodeR2000 0x80 (p'.put 0 n) :=
    fun n => encodeR2000_first (by decide) ((hp.put 0 n).mono (by decide))
  have hlist : ∀ n, encodeR2000 0x91 (p.put 0 n) = encodeR2000 0x91 (p'.put 0 n) :=
    fun n => encodeR2000_bare (by decide) _ _
  unfold inventoryCut
  simp only [hp 1 (by decide), hp 2 (by decide), hcount, hlist]

/-- An inventory that is cut off replies with its parameters, but for the first, and leaves the
length of the last reply. -/
theorem inventory6C_cutOff {g : Globals} (h : CutOff p g) (row : Globals → Listing → ℕ → Listing) :
  ∃ n g', inventory6C p row g = some (p.put 0 n, g') ∧ g'.cmdTmpLen = g.cmdTmpLen
  := by
  obtain ⟨g', h⟩ := h
  unfold inventoryCut at h
  unfold inventory6C
  simp only [bind_modify, bind_get] at h ⊢
  obtain ⟨flagReturn, g₁, hcount, h⟩ := bind_eq_some h
  have hlen := keeps_encodeR2000_cmdTmpLen _ (by decide) _ _ _ hcount
  simp only [bind_of_some hcount, bind_get] at h ⊢
  split at h
  · rename_i hcounted
    rw [if_pos hcounted]
    simp only [bind_modify, bind_get] at h ⊢
    split at h
    · rename_i hsome
      rw [if_pos hsome]
      obtain ⟨_, g₂, hdelay, h⟩ := bind_eq_some h
      have hlen₂ := keeps_delayMs_cmdTmpLen _ _ _ hdelay
      simp only [bind_of_some hdelay, bind_modify] at h ⊢
      obtain ⟨flagReturn', g₃, hlist, h⟩ := bind_eq_some h
      have hlen₃ := keeps_encodeR2000_cmdTmpLen _ (by decide) _ _ _ hlist
      have hfailed : ¬ flagReturn' = 0 := by
        have hflag : decide (flagReturn' ≠ 0) = true := congrArg Prod.fst (Option.some.inj h)
        exact of_decide_eq_true hflag
      rw [bind_of_some hlist, if_neg hfailed]
      exact ⟨_, g₃, rfl, hlen₃.trans (hlen₂.trans hlen)⟩
    · cases h
  · cases h

/-- An inventory that is cut off replies with as many bytes of the request as the last reply
had. -/
theorem simAt_inventory6C {n : ℕ} (hp : Mem.AgreeBelow n p p') (hn : 3 ≤ n)
    {row : Globals → Listing → ℕ → Listing}
    (hrow : ∀ g l l' k, Listing.Same l l' → Listing.Same (row g l k) (row g l' k)) {limit : ℕ}
    (hlimit : limit ≤ 255) {g : Globals}
    (hlast : CutOff p g → g.cmdTmpLen.toNat < limit → g.cmdTmpLen.toNat ≤ n) :
  SimAt (SameBelow limit) g (inventory6C p row) (inventory6C p' row)
  := by
  have hcut : ∀ g', inventoryCut p g = some (true, g') → g.cmdTmpLen.toNat < limit →
      g.cmdTmpLen.toNat ≤ n := fun g' h => hlast ⟨g', h⟩
  unfold inventory6C
  unfold inventoryCut at hcut
  rw [← hp 1 (by omega), ← hp 2 (by omega)]
  apply SimAt.bind
  rintro _ g₁ h₁
  cases h₁
  apply SimAt.bind
  rintro _ _ h₁
  cases h₁
  have hp' := hp.put 0 (if g.gDevice.load Offset.maxReadCardNum < 20 then 255 else 1)
  dsimp only
  simp only [bind_modify, bind_get] at hcut
  generalize p.put 0 (if g.gDevice.load Offset.maxReadCardNum < 20 then 255 else 1) = q
    at hp' hcut ⊢
  generalize p'.put 0 (if g.gDevice.load Offset.maxReadCardNum < 20 then 255 else 1) = q' at hp' ⊢
  rw [← encodeR2000_first (by decide) (hp'.mono (by omega))]
  apply SimAt.bind
  intro flagReturn g₂ h₂
  have hlen₂ := keeps_encodeR2000_cmdTmpLen _ (by decide) _ _ _ h₂
  simp only [bind_of_some h₂, bind_get] at hcut
  apply SimAt.bind
  rintro _ _ h₃
  cases h₃
  by_cases hcounted : flagReturn = 0 ∧ g₂.r2000.frameLen > 4
  · rw [if_pos hcounted, if_pos hcounted]
    rw [if_pos hcounted] at hcut
    apply SimAt.bind
    rintro _ g₃ h₃
    cases h₃
    apply SimAt.bind
    rintro _ _ h₃
    cases h₃
    simp only [bind_modify, bind_get] at hcut
    dsimp only
    split
    · rename_i hsome
      rw [if_pos hsome] at hcut
      apply SimAt.bind
      rintro _ g₄ h₄
      have hlen₄ := keeps_delayMs_cmdTmpLen _ _ _ h₄
      apply SimAt.bind
      rintro _ _ h₅
      cases h₅
      rw [← encodeR2000_bare (by decide) q q']
      apply SimAt.bind
      intro flagReturn' g₆ h₆
      have hlen₆ := keeps_encodeR2000_cmdTmpLen _ (by decide) _ _ _ h₆
      simp only [bind_of_some h₄, bind_modify, bind_of_some h₆] at hcut
      split
      · apply SimAt.bind
        rintro _ _ h₇
        apply SimAt.bind
        rintro g₈ _ h₈
        apply Alike.at _ hlimit
        apply alike_replyListing
        exact same_listRows g₈ q q' _ _ (hrow g₈)
      · rename_i hfailed
        apply SimAt.pure
        have hlen : g₆.cmdTmpLen = g.cmdTmpLen := hlen₆.trans (hlen₄.trans hlen₂)
        intro hshort
        rw [hlen] at hshort ⊢
        apply hp'.mono
        apply hcut g₆ _ hshort
        rw [decide_eq_true hfailed]
        rfl
    · exact (alike_fail q q').at hlimit _
  · rw [if_neg hcounted, if_neg hcounted]
    exact (alike_fail q q').at hlimit g₂

/-- The parameters that `SetFrequency1` sends: the first two are overwritten. -/
def frequencyArgs (g : Globals) (p : Mem) : Mem :=
  (p.put 0 (g.gDevice.load Offset.frequencyMin)).put 1 (g.gDevice.load Offset.frequencyMax)

theorem frequencyArgs_first (g : Globals) (p : Mem) :
  frequencyArgs g p 0 = g.gDevice.load Offset.frequencyMin
  := by
  rw [frequencyArgs, Mem.put_of_ne (by decide), Mem.put_same]

theorem setFrequency1_eq (p : Mem) (g : Globals) :
  setFrequency1 p g
    = (encodeR2000 0x78 (frequencyArgs g p) g).bind fun asked =>
        (if asked.1 = 0 ∧ asked.2.r2000.para 0 = commandSuccess then reply (frequencyArgs g p) 0
          else fail (frequencyArgs g p) : M Mem) asked.2
  := rfl

/-- `SetFrequency1` reads six parameters. -/
theorem simAt_setFrequency1 (hp : Mem.AgreeBelow 6 p p') (g : Globals) :
  SimAt (fun _ q q' => Mem.AgreeBelow 6 q q') g (setFrequency1 p) (setFrequency1 p')
  := by
  have hargs : Mem.AgreeBelow 6 (frequencyArgs g p) (frequencyArgs g p') := (hp.put 0 _).put 1 _
  unfold SimAt
  rw [setFrequency1_eq, setFrequency1_eq, ← encodeR2000_frequency hargs]
  cases encodeR2000 0x78 (frequencyArgs g p) g with
  | none => exact .inl ⟨rfl, rfl⟩
  | some asked =>
    right
    rw [Option.bind_some, Option.bind_some]
    split
    · exact ⟨_, _, _, rfl, rfl, hargs⟩
    · exact ⟨_, _, _, rfl, rfl, hargs⟩

/-- Neither the other parameters that `SetFrequency1` sends nor what the R2000 makes of them
decides whether it returns. -/
theorem setFrequency1_returns (p p' : Mem) (g : Globals) :
  (setFrequency1 p' g).isSome = (setFrequency1 p g).isSome
  := by
  have hask : ∀ p, (setFrequency1 p g).isSome
      = (encodeR2000 0x78 (frequencyArgs g p) g).isSome := by
    intro p
    rw [setFrequency1_eq]
    cases encodeR2000 0x78 (frequencyArgs g p) g with
    | none => rfl
    | some asked =>
      rw [Option.bind_some]
      split
      · rfl
      · rfl
  rw [hask, hask]
  apply encodeR2000_frequency_returns
  rw [frequencyArgs_first, frequencyArgs_first]

end Handlers

end UhfReader
