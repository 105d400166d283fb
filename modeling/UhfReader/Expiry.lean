import UhfReader.Judge

/-!
# Expiry

A row is kept for `keeptime` seconds after its tag was first seen.  `judgeTag` compares the hour,
the minute and the second of the row with those of the clock, so that a row does not expire as long
as the clock shows an earlier time of day than the row, or one that is later by `keeptime` seconds
at most, whatever the day is.
-/

open Memory

namespace UhfReader

/-! ### Times of day -/

/-- The hour, minute and second at `off` are those of the instant `T`, which counts the seconds
from some midnight on. -/
structure ShowsTime (m : Mem) (off T : ℕ) : Prop where
  hour : m off = UInt8.ofNat (T / 3600 % 24)
  minute : m (off + 1) = UInt8.ofNat (T / 60 % 60)
  second : m (off + 2) = UInt8.ofNat (T % 60)

/-- The registers of the clock hold the time of the instant `T`, as decimal digits. -/
structure ClockShows (regs : ℕ → UInt8) (T : ℕ) : Prop where
  hour : regs 0x84 = hex2bcd (UInt8.ofNat (T / 3600 % 24))
  minute : regs 0x82 = hex2bcd (UInt8.ofNat (T / 60 % 60))
  second : regs 0x80 = hex2bcd (UInt8.ofNat (T % 60))

/-- The time of day, in seconds. -/
theorem ShowsTime.seconds_eq {m : Mem} {off T : ℕ} (h : ShowsTime m off T) :
  seconds m off = T % 86400
  := by
  unfold seconds
  rw [h.hour, h.minute, h.second]
  simp only [UInt8.toNat_ofNat']
  omega

theorem bcd_hour :
  ∀ n < 24, bcd2hex (hex2bcd (UInt8.ofNat n) &&& 0x3f) = UInt8.ofNat n
  := by
  decide

theorem bcd_minute :
  ∀ n < 60, bcd2hex (hex2bcd (UInt8.ofNat n) &&& 0x7f) = UInt8.ofNat n
  := by
  decide

/-- The clock is read. -/
theorem showsTime_readClock {g : Globals} {T : ℕ} (h : ClockShows g.ds1302 T) :
  ShowsTime g.readClock.gDevice.load (Offset.readerTime + 3) T
  := by
  have hread : ∀ i < 6, g.readClock.gDevice.load (Offset.readerTime + i)
      = (getTime g.ds1302).getD i 0 := by
    intro i hi
    have hlt : Offset.readerTime + i < 210 := by
      simp only [Offset.readerTime]
      omega
    show Block.load (g.gDevice.copy Offset.readerTime (fun i => (getTime g.ds1302).getD i 0) 6)
      (Offset.readerTime + i) = _
    rw [Block.load_copy_inside hi hlt]
  constructor
  · rw [hread 3 (by decide)]
    show bcd2hex (g.ds1302 0x84 &&& 0x3f) = _
    rw [h.hour]
    exact bcd_hour _ (Nat.mod_lt _ (by decide))
  · rw [show Offset.readerTime + 3 + 1 = Offset.readerTime + 4 from rfl, hread 4 (by decide)]
    show bcd2hex (g.ds1302 0x82 &&& 0x7f) = _
    rw [h.minute]
    exact bcd_minute _ (Nat.mod_lt _ (by decide))
  · rw [show Offset.readerTime + 3 + 2 = Offset.readerTime + 5 from rfl, hread 5 (by decide)]
    show bcd2hex (g.ds1302 0x80 &&& 0x7f) = _
    rw [h.second]
    exact bcd_minute _ (Nat.mod_lt _ (by decide))

/-! ### Rows -/

namespace TagStore

/-- The row `k` is kept and has the tag. -/
def LiveAt (s : TagStore) (k : ℕ) (tag : List UInt8) : Prop :=
  k < s.tagSaveCount ∧ (s.tagSaveBuf k).load 0 ≠ 0 ∧ (s.tagSaveBuf k).tag = tag

/-- The call needs the row `k` for something else: a tag just read is put into it, or it lies
behind `TagHoldNum` and a tag just read finds no free row. -/
def Displaces (s : TagStore) (g : Globals) (k : ℕ) : Prop :=
  k ∈ Slots.places g.gDevice.tmpNum (tagsRead g)
      { s.unexpired g with cursor := (s.unexpired g).window }
    ∨ g.gDevice.tmpNum ≤ k ∧ s.newcomers g ≠ []

instance (s : TagStore) (g : Globals) (k : ℕ) : Decidable (s.Displaces g k) :=
  inferInstanceAs (Decidable (_ ∨ _))

theorem liveAt_iff (s : TagStore) (k : ℕ) (tag : List UInt8) :
  s.LiveAt k tag ↔ k < s.tagSaveCount ∧ s.slots.slot k = some tag
  := by
  unfold LiveAt slots Row.entry
  dsimp only
  by_cases hfree : (s.tagSaveBuf k).load 0 = 0
  · simp [hfree]
  · simp [hfree]

/-- When there is room for the tags just read, no row is needed for something else. -/
theorem not_displaces_of_rows {s : TagStore} {g : Globals} {k : ℕ} {tag : List UInt8}
    (hrows : RowsForNewcomers g.gDevice.tmpNum s g) (hk : k < s.tagSaveCount)
    (hslot : (s.unexpired g).slot k = some tag) (hbatch : tag ∉ tagsRead g) :
  ¬ s.Displaces g k
  := by
  have hroom : s.tagSaveCount + (s.newcomers g).length ≤ g.gDevice.tmpNum := hrows
  rintro (hmem | ⟨hle, -⟩)
  · exact Slots.not_mem_places_of_room
      (s := { s.unexpired g with cursor := (s.unexpired g).window }) hk le_rfl hroom hbatch hslot
      hmem
  · omega

end TagStore

/-- A row that has not expired stays unless the call needs it for something else. -/
theorem liveAt_judgeTag_iff {s : TagStore} {g : Globals} {k : ℕ} {tag : List UInt8}
    (htype : 2 ≤ g.gDevice.load Offset.callPCType) (hlive : s.LiveAt k tag)
    (hbatch : tag ∉ tagsRead g) :
  (judgeTag (g.withTagStore s)).2.tagStore.LiveAt k tag
    ↔ ¬ (g.withTagStore s).readClock.Expires k ∧ ¬ s.Displaces g k
  := by
  obtain ⟨hk, hslot⟩ := (s.liveAt_iff k tag).mp hlive
  obtain ⟨hafter, hcount⟩ := judgeTag_tagStore s htype
  have hwindow : (s.unexpired g).window = s.tagSaveCount := rfl
  rw [TagStore.liveAt_iff, hafter, hcount]
  have hslots : ((s.unexpired g).enterAll g.gDevice.tmpNum (tagsRead g)).slot
      = ((tagsRead g).foldl (Slots.enter g.gDevice.tmpNum)
        { s.unexpired g with cursor := (s.unexpired g).window }).slot := by
    unfold Slots.enterAll Slots.settle
    split
    · rfl
    · rfl
  rw [hslots, ← Nat.not_le, Slots.window_enterAll_le_iff (hk.trans_eq hwindow.symm)]
  have hunexpired := s.unexpired_slot g k
  by_cases hexpires : (g.withTagStore s).readClock.Expires k
  · rw [if_pos hexpires] at hunexpired
    constructor
    · rintro ⟨-, h⟩
      refine absurd h (Slots.slot_foldl_ne hbatch ?_)
      show (s.unexpired g).slot k ≠ some tag
      rw [hunexpired]
      exact Option.some_ne_none tag |>.symm
    · rintro ⟨h, -⟩
      exact absurd hexpires h
  · rw [if_neg hexpires, hslot] at hunexpired
    rw [Slots.slot_foldl_eq_iff (s := { s.unexpired g with cursor := (s.unexpired g).window })
      hbatch hunexpired]
    unfold TagStore.Displaces
    rw [not_or]
    exact ⟨fun h => ⟨hexpires, h.2, h.1⟩, fun h => ⟨h.2.2, h.2.1⟩⟩

/-- A row expires when the time of day has advanced by more than `keeptime` since that of the
row. -/
theorem expires_iff {s : TagStore} {g : Globals} {k T T' : ℕ} {tag : List UInt8}
    (hlive : s.LiveAt k tag) (hseen : ShowsTime (s.tagSaveBuf k).load tagIdLength T)
    (hclock : ClockShows g.ds1302 T') :
  (g.withTagStore s).readClock.Expires k ↔ T % 86400 + g.gDevice.keeptime < T' % 86400
  := by
  have hnow : seconds (g.withTagStore s).readClock.gDevice.load (Offset.readerTime + 3)
      = T' % 86400 := (showsTime_readClock (g := g.withTagStore s) hclock).seconds_eq
  have hkeep : (g.withTagStore s).readClock.gDevice.keeptime = g.gDevice.keeptime := by
    unfold SDevice.keeptime Globals.readClock
    rw [Block.load_copy_outside (by decide), Block.load_copy_outside (by decide)]
    rfl
  unfold Globals.Expires
  rw [hnow, hkeep]
  constructor
  · rintro ⟨-, -, hlt⟩
    rw [← hseen.seconds_eq]
    exact hlt
  · intro hlt
    refine ⟨hlive.1, hlive.2.1, ?_⟩
    rw [← hseen.seconds_eq] at hlt
    exact hlt

/-- A row first seen at the instant `T` stays as long as at most `keeptime` seconds have passed and
goes when more have, if and only if: when at most so many have passed, the call does not need it
for something else; and when more have, the call does or the time of day is later by more than
`keeptime` than that of the row. -/
theorem expiry_iff (s : TagStore) (g : Globals) (k T T' : ℕ) (tag : List UInt8)
    (htype : 2 ≤ g.gDevice.load Offset.callPCType) (hlive : s.LiveAt k tag)
    (hseen : ShowsTime (s.tagSaveBuf k).load tagIdLength T) (hclock : ClockShows g.ds1302 T')
    (hlater : T ≤ T') (hbatch : tag ∉ tagsRead g) :
  ((T' - T ≤ g.gDevice.keeptime → (judgeTag (g.withTagStore s)).2.tagStore.LiveAt k tag)
      ∧ (g.gDevice.keeptime < T' - T → ¬ (judgeTag (g.withTagStore s)).2.tagStore.LiveAt k tag))
    ↔ (T' - T ≤ g.gDevice.keeptime → ¬ s.Displaces g k)
      ∧ (g.gDevice.keeptime < T' - T →
        T % 86400 + g.gDevice.keeptime < T' % 86400 ∨ s.Displaces g k)
  := by
  rw [liveAt_judgeTag_iff htype hlive hbatch, expires_iff hlive hseen hclock]
  constructor
  · rintro ⟨hstays, hgoes⟩
    refine ⟨fun hle => (hstays hle).2, fun hlt => ?_⟩
    by_contra hnot
    obtain ⟨hexpires, hdisplaces⟩ := not_or.mp hnot
    exact hgoes hlt ⟨hexpires, hdisplaces⟩
  · rintro ⟨hstays, hgoes⟩
    constructor
    · intro hle
      -- the time of day cannot have advanced by more than has passed
      exact ⟨by omega, hstays hle⟩
    · rintro hlt ⟨hexpires, hdisplaces⟩
      obtain h | h := hgoes hlt
      · exact hexpires h
      · exact hdisplaces h

/-- A tag that was first seen at the instant `T`. -/
def seenRow (T : ℕ) : Row :=
  (((tagRow 1).put tagIdLength (UInt8.ofNat (T / 3600 % 24))).put (tagIdLength + 1)
    (UInt8.ofNat (T / 60 % 60))).put (tagIdLength + 2) (UInt8.ofNat (T % 60))

/-- The tag is kept in the first row. -/
def keptSince (T : ℕ) : TagStore := ⟨fun _ => seenRow T, 1⟩

/-- A reader that keeps tags for ten seconds and has read none, when the clock shows the instant
`T`. -/
def tenSeconds (T : ℕ) : Globals :=
  { afterReading 5 [] with
    gDevice := (afterReading 5 []).gDevice.put Offset.tagExisTimeL 10
    ds1302 := fun a =>
      if a = 0x84 then hex2bcd (UInt8.ofNat (T / 3600 % 24))
      else if a = 0x82 then hex2bcd (UInt8.ofNat (T / 60 % 60))
      else if a = 0x80 then hex2bcd (UInt8.ofNat (T % 60)) else 0 }

theorem clockShows_tenSeconds (T : ℕ) :
  ClockShows (tenSeconds T).ds1302 T
  := ⟨rfl, rfl, rfl⟩

theorem showsTime_seenRow (T : ℕ) :
  ShowsTime (seenRow T).load tagIdLength T
  := by
  unfold seenRow
  constructor
  · rw [Block.load_put (by decide), if_neg (by decide), Block.load_put (by decide),
      if_neg (by decide), Block.load_put (by decide), if_pos rfl]
  · rw [Block.load_put (by decide), if_neg (by decide), Block.load_put (by decide), if_pos rfl]
  · rw [Block.load_put (by decide), if_pos rfl]

theorem liveAt_keptSince (T : ℕ) :
  (keptSince T).LiveAt 0 (tagRow 1).tag
  := ⟨Nat.one_pos, (by decide : (1 : UInt8) ≠ 0), rfl⟩

/-- After twenty seconds of the same day the tag is gone. -/
theorem expired_same_day :
  ¬ (judgeTag ((tenSeconds 120).withTagStore (keptSince 100))).2.tagStore.LiveAt 0 (tagRow 1).tag
  := by
  have hexpiry := expiry_iff (keptSince 100) (tenSeconds 120) 0 100 120 (tagRow 1).tag (by decide)
    (liveAt_keptSince 100) (showsTime_seenRow 100) (clockShows_tenSeconds 120) (by decide)
    (by decide +kernel)
  apply (hexpiry.mpr ⟨fun h => absurd h (by decide), fun _ => .inl (by decide)⟩).2
  decide

/-- After twenty seconds that include midnight it is still there. -/
theorem kept_past_midnight :
  (tenSeconds 86410).gDevice.keeptime < 86410 - 86390
    ∧ (keptSince 86390).LiveAt 0 (tagRow 1).tag
    ∧ ShowsTime ((keptSince 86390).tagSaveBuf 0).load tagIdLength 86390
    ∧ ClockShows (tenSeconds 86410).ds1302 86410 ∧ (tagRow 1).tag ∉ tagsRead (tenSeconds 86410)
    ∧ (judgeTag ((tenSeconds 86410).withTagStore (keptSince 86390))).2.tagStore.LiveAt 0
      (tagRow 1).tag
  := by
  refine ⟨by decide, liveAt_keptSince _, showsTime_seenRow _, clockShows_tenSeconds _,
    by decide +kernel, ?_⟩
  rw [liveAt_judgeTag_iff (by decide) (liveAt_keptSince _) (by decide +kernel),
    expires_iff (liveAt_keptSince _) (showsTime_seenRow _) (clockShows_tenSeconds _)]
  exact ⟨by decide, by decide +kernel⟩

end UhfReader
