import UhfReader.Active
import UhfReader.Paging

/-!
# The bound of the tag table

`decodeR2000` stores each tag it accepts at `CardIndex[CardPos]`, advances `CardPos` and only then
keeps it at most `MAXNUM`.  `CardPos` can thus be `MAXNUM` when the next tag is stored, and the
row is then the one behind the table.

A run is a list of events: received bytes, system ticks, and pieces of the code that runs between
the interrupts.  That code leaves `CardPos` alone or sets it to `0` or `1`.  `collected` counts the
tags stored since then, so that `CardPos` is `min collected MAXNUM` in every state, and the table
overflows exactly when a tag is stored after `MAXNUM` others.

The second half of the module shows that these runs are what the driver does: sending a command,
waiting for its answer and a delay are runs whose interrupts are those of `traffic`.
-/

open Memory Stateful

namespace UhfReader

/-! ### Storing a tag -/

namespace Globals

/-- A tag is stored at `CardPos`, which advances. -/
structure Stored (g g' : Globals) : Prop where
  row : ∃ row, g'.cardIndex = Function.update g.cardIndex g.cardPos row
  pos : g'.cardPos = min (g.cardPos + 1) maxNum

/-- No tag is stored. -/
structure Unstored (g g' : Globals) : Prop where
  rows : g'.cardIndex = g.cardIndex
  pos : g'.cardPos = g.cardPos

/-- The answer to a read holds a TID of six words. -/
def HoldsRead (g : Globals) : Prop :=
  (g.r2000.frameLen.toNat : ℤ) > 4
    ∧ g.r2000.loadInt ((g.r2000.frameLen.toNat : ℤ) - 2) >>> 1 = 6

/-- The frame of a fast inventory holds a tag. -/
def HoldsFastInventory (g : Globals) : Prop :=
  g.r2000.frameLen ≠ 0x05 ∧ g.r2000.frameLen ≠ 0x0A ∧ g.r2000.frameLen > 4
    ∧ UInt8.ofNat ((g.r2000.frameLen.toNat + 512 - 7) / 2) ≤ 15

/-- The frame of an inventory holds a tag that passes the mask. -/
def HoldsInventory (g : Globals) : Prop :=
  g.r2000.frameLen > 4 ∧ (g.r2000.para 2 >>> 1) - 2 ≤ 15
    ∧ maskCheck g (g.r2000.para.shift 5) (2 * ((g.r2000.para 2 >>> 1) - 2).toNat)

/-- The frame of an ISO18000-6B inventory holds a tag that passes the mask. -/
def Holds6B (g : Globals) : Prop :=
  g.r2000.frameLen > 5 ∧ mask6BCheck g (g.r2000.para.shift 1)

/-- `decodeR2000` stores a row for the frame in the buffer. -/
def StoresRow (g : Globals) : Prop :=
  if g.r2000.frameCmd = 0x70 then False
  else if g.r2000.frameCmd = 0x81 then g.HoldsRead
  else if g.r2000.frameCmd = 0x8A then g.HoldsFastInventory
  else if g.r2000.frameCmd = 0x91 then g.HoldsInventory
  else if g.r2000.frameCmd = 0xB0 then g.Holds6B
  else False

instance (g : Globals) : Decidable g.StoresRow := by
  unfold StoresRow HoldsRead HoldsFastInventory HoldsInventory Holds6B
  infer_instance

/-- What is changed after a tag was stored does not matter. -/
theorem Stored.of_eq {g g' g'' : Globals} (h : Stored g g') (hrows : g''.cardIndex = g'.cardIndex)
    (hpos : g''.cardPos = g'.cardPos) :
  Stored g g''
  := by
  obtain ⟨⟨row, hrow⟩, hold⟩ := h
  use ⟨row, hrows.trans hrow⟩, hpos.trans hold

/-- A tag found: the row is stored and `CardPos` advances. -/
theorem stored_found (g : Globals) (b : UInt8) (row : Row → Row) {full : Globals → Globals}
    (hrows : ∀ g, (full g).cardIndex = g.cardIndex) (hpos : ∀ g, (full g).cardPos = g.cardPos) :
  Stored g (({ g with beepFlag := b }.storeRow row).advanceCardPos full)
  := by
  have hstore : ({ g with beepFlag := b }.storeRow row).cardIndex
      = Function.update g.cardIndex g.cardPos (row (g.cardIndex g.cardPos)) := by
    funext k
    unfold storeRow
    rw [Function.update_apply]
    dsimp only
    split
    · rename_i hk
      rw [hk]
    · rfl
  unfold advanceCardPos
  dsimp only
  split
  · rename_i hfull
    have hmax : maxNum < g.cardPos + 1 := hfull
    constructor
    · use row (g.cardIndex g.cardPos)
      rw [hrows]
      apply hstore
    · rw [hpos]
      change maxNum = min (g.cardPos + 1) maxNum
      omega
  · rename_i hroom
    have hmax : ¬ maxNum < g.cardPos + 1 := hroom
    constructor
    · exact ⟨_, hstore⟩
    · change g.cardPos + 1 = min (g.cardPos + 1) maxNum
      omega

theorem Stored.linkRelay {g g' : Globals} (h : Stored g g') :
  Stored g g'.linkRelay
  := by
  obtain ⟨flag, heq⟩ := g'.linkRelay_eq
  rw [heq]
  exact h.of_eq rfl rfl

theorem Unstored.refl (g : Globals) :
  Unstored g g
  := ⟨rfl, rfl⟩

end Globals

open Globals

theorem decodeRead_table (g : Globals) :
  (g.HoldsRead → Stored g (decodeRead g)) ∧ (¬ g.HoldsRead → Unstored g (decodeRead g))
  := by
  unfold decodeRead
  dsimp only
  constructor
  · intro h
    rw [if_pos (by exact h)]
    apply Stored.linkRelay
    exact stored_found g 1 _ (fun _ => rfl) (fun _ => rfl)
  · intro h
    rw [if_neg (by exact h)]
    apply Unstored.refl

theorem decodeFastInventory_table (g : Globals) :
  (g.HoldsFastInventory → Stored g (decodeFastInventory g))
    ∧ (¬ g.HoldsFastInventory → Unstored g (decodeFastInventory g))
  := by
  unfold decodeFastInventory
  dsimp only
  constructor
  · rintro ⟨hfive, hten, hheld⟩
    rw [if_neg hfive, if_neg hten, if_pos hheld]
    exact stored_found g _ _ (fun _ => rfl) (fun _ => rfl)
  · intro h
    split
    · apply Unstored.refl
    · rename_i hfive
      split
      · exact ⟨rfl, rfl⟩
      · rename_i hten
        rw [if_neg (fun hheld => h ⟨hfive, hten, hheld⟩)]
        apply Unstored.refl

theorem decodeInventory_table (g : Globals) :
  (g.HoldsInventory → Stored g (decodeInventory g))
    ∧ (¬ g.HoldsInventory → Unstored g (decodeInventory g))
  := by
  unfold decodeInventory
  dsimp only
  constructor
  · rintro ⟨hlen, hheld⟩
    rw [if_pos hlen, if_pos hheld]
    refine Stored.of_eq (Stored.linkRelay ?_) rfl rfl
    exact stored_found g _ _ (fun _ => rfl) (fun _ => rfl)
  · intro h
    split
    · rename_i hlen
      rw [if_neg (fun hheld => h ⟨hlen, hheld⟩)]
      exact ⟨rfl, rfl⟩
    · apply Unstored.refl

theorem decode6B_table (g : Globals) :
  (g.Holds6B → Stored g (decode6B g)) ∧ (¬ g.Holds6B → Unstored g (decode6B g))
  := by
  unfold decode6B
  dsimp only
  constructor
  · rintro ⟨hlen, hheld⟩
    rw [if_pos hlen, if_pos hheld]
    refine Stored.of_eq (Stored.linkRelay ?_) rfl rfl
    exact stored_found g _ _ (fun _ => rfl) (fun _ => rfl)
  · intro h
    split
    · rename_i hlen
      rw [if_neg (fun hheld => h ⟨hlen, hheld⟩)]
      exact ⟨rfl, rfl⟩
    · split
      · exact ⟨rfl, rfl⟩
      · split
        · exact ⟨rfl, rfl⟩
        · apply Unstored.refl

/-- `decodeR2000` stores one row, at `CardPos`, or none. -/
theorem decodeR2000_table (g : Globals) :
  (g.StoresRow → Stored g (decodeR2000 g)) ∧ (¬ g.StoresRow → Unstored g (decodeR2000 g))
  := by
  unfold decodeR2000 StoresRow
  split
  · exact ⟨False.elim, fun _ => ⟨rfl, rfl⟩⟩
  · split
    · apply decodeRead_table
    · split
      · apply decodeFastInventory_table
      · split
        · apply decodeInventory_table
        · split
          · apply decode6B_table
          · exact ⟨False.elim, fun _ => .refl g⟩

/-- A received byte completes a frame for which a row is stored. -/
def Globals.StoresTag (g : Globals) (b : UInt8) : Prop :=
  g.r2000.Completes b ∧ { g with r2000 := (g.r2000.receive b).1 }.StoresRow

instance (g : Globals) (b : UInt8) : Decidable (g.StoresTag b) :=
  inferInstanceAs (Decidable (_ ∧ _))

/-- A received byte stores one row, at `CardPos`, or none. -/
theorem uart4IRQHandler_table (g : Globals) (b : UInt8) :
  (g.StoresTag b → Stored g (uart4IRQHandler g b))
    ∧ (¬ g.StoresTag b → Unstored g (uart4IRQHandler g b))
  := by
  obtain ⟨hstored, hunstored⟩ := decodeR2000_table { g with r2000 := (g.r2000.receive b).1 }
  rw [uart4IRQHandler_eq]
  by_cases hcompl : g.r2000.Completes b
  · rw [if_pos hcompl]
    constructor
    · rintro ⟨-, h⟩
      obtain ⟨hrow, hpos⟩ := hstored h
      exact ⟨hrow, hpos⟩
    · intro h
      obtain ⟨hrows, hpos⟩ := hunstored (fun hrow => h ⟨hcompl, hrow⟩)
      exact ⟨hrows, hpos⟩
  · rw [if_neg hcompl]
    exact ⟨fun h => absurd h.1 hcompl, fun _ => ⟨rfl, rfl⟩⟩

/-- A system tick stores nothing. -/
theorem timeUpdate_table (g : Globals) :
  Unstored g (timeUpdate g)
  := by
  obtain ⟨-, h⟩ | ⟨-, _, _, _, _, _, _, h⟩ := timeUpdate_cases g
  · rw [h]
    exact ⟨rfl, rfl⟩
  · rw [h]
    exact ⟨rfl, rfl⟩

/-! ### Runs -/

/-- The globals, with the number of tags stored since `CardPos` was last set. -/
structure TagRun where
  globals : Globals
  collected : ℕ

/-- What happens to the reader. -/
inductive TagEvent where
  /-- a byte from the R2000 -/
  | rx (b : UInt8)
  /-- a system tick -/
  | tick
  /-- the code outside the interrupts goes on and leaves these globals -/
  | fore (g : Globals)

/-- A step of the reader. -/
def tagStep (s : TagRun) : TagEvent → Option TagRun
  | .rx b => some
    { globals := uart4IRQHandler s.globals b
      collected := if s.globals.StoresTag b then s.collected + 1 else s.collected }
  | .tick => some { s with globals := timeUpdate s.globals }
  | .fore g =>
    if Foreground s.globals g then
      some ⟨g, if g.cardPos = s.globals.cardPos then s.collected else g.cardPos⟩
    else none

/-- The reader when it is switched on. -/
def TagRun.start (e : Surroundings) : TagRun := ⟨(powerOn e).toGlobals, 0⟩

/-- A tag is stored inside the table only. -/
def StoresInside (s : TagRun) (e : TagEvent) : Prop :=
  ∀ b, e = .rx b → s.globals.StoresTag b → s.globals.cardPos < maxNum

/-- A tag is stored only when fewer than `MAXNUM` were stored since `CardPos` was last set. -/
def FewTags (s : TagRun) (e : TagEvent) : Prop :=
  ∀ b, e = .rx b → s.globals.StoresTag b → s.collected < maxNum

/-- `CardPos` counts the tags up to `MAXNUM`. -/
def TagRun.Counts (s : TagRun) : Prop := s.globals.cardPos = min s.collected maxNum

theorem counts_start (e : Surroundings) :
  (TagRun.start e).Counts
  := by
  have hpos : (powerOn e).cardPos = 0 := by
    rw [powerOn_eq]
    exact applyPara_frame Globals.cardPos _ fun _ _ _ _ _ _ => rfl
  unfold TagRun.Counts TagRun.start
  dsimp only
  rw [hpos]
  rfl

/-- Every step keeps the count. -/
theorem TagRun.Counts.step {s s' : TagRun} {e : TagEvent} (h : s.Counts)
    (hstep : tagStep s e = some s') :
  s'.Counts
  := by
  unfold TagRun.Counts at h ⊢
  cases e with
  | rx b =>
    obtain ⟨hstored, hunstored⟩ := uart4IRQHandler_table s.globals b
    rw [tagStep, Option.some.injEq] at hstep
    rw [← hstep]
    dsimp only
    by_cases hstores : s.globals.StoresTag b
    · rw [if_pos hstores, (hstored hstores).pos, h]
      omega
    · rw [if_neg hstores, (hunstored hstores).pos, h]
  | tick =>
    rw [tagStep, Option.some.injEq] at hstep
    rw [← hstep]
    dsimp only
    rw [(timeUpdate_table s.globals).pos, h]
  | fore g =>
    simp only [tagStep] at hstep
    split at hstep
    · rename_i hfore
      rw [Option.some.injEq] at hstep
      rw [← hstep]
      dsimp only
      split
      · rename_i hsame
        rw [hsame, h]
      · rename_i hset
        obtain hkept | hreset := hfore
        · exact absurd hkept hset
        · simp only [maxNum]
          omega
    · cases hstep

/-- The tag table overflows exactly when a tag is stored after `MAXNUM` others: in every run, of
any frames decoded and whatever the commands and the active mode do in between, every tag is
stored inside the table if and only if every tag is stored while fewer than `MAXNUM` were stored
since `CardPos` was last set. -/
theorem table_bound_iff (e : Surroundings) (es : List TagEvent) :
  Run.Along tagStep StoresInside es (TagRun.start e)
    ↔ Run.Along tagStep FewTags es (TagRun.start e)
  := by
  constructor
  · intro h
    refine Run.Along.of_invariant (I := TagRun.Counts) ?_ ?_ (counts_start e) h
    · intro s e s' hcounts _ hstep
      apply hcounts.step hstep
    · intro s e hcounts hinside b hrx hstores
      have hlt := hinside b hrx hstores
      unfold TagRun.Counts at hcounts
      omega
  · intro h
    refine Run.Along.of_invariant (I := TagRun.Counts) ?_ ?_ (counts_start e) h
    · intro s e s' hcounts _ hstep
      apply hcounts.step hstep
    · intro s e hcounts hfew b hrx hstores
      have hlt := hfew b hrx hstores
      unfold TagRun.Counts at hcounts
      omega

/-! ### What the driver does -/

/-- The run goes from `g` to `g'`, whatever was collected before. -/
def Passes (es : List TagEvent) (g g' : Globals) : Prop :=
  ∀ n, ∃ n', Run.run tagStep es ⟨g, n⟩ = some ⟨g', n'⟩

namespace Passes

variable {es es' : List TagEvent} {g g' g'' : Globals}

theorem nil (g : Globals) :
  Passes [] g g
  := by
  intro n
  use n
  rfl

/-- The first step of a run. -/
theorem cons {e : TagEvent} (hstep : ∀ n, ∃ n', tagStep ⟨g, n⟩ e = some ⟨g', n'⟩)
    (h : Passes es g' g'') :
  Passes (e :: es) g g''
  := by
  intro n
  obtain ⟨n', hn'⟩ := hstep n
  obtain ⟨n'', hrun⟩ := h n'
  use n''
  rw [Run.run_cons_of_some hn', hrun]

theorem rx {b : UInt8} (h : Passes es (uart4IRQHandler g b) g') :
  Passes (.rx b :: es) g g'
  := by
  apply cons _ h
  intro n
  exact ⟨_, rfl⟩

theorem tick (h : Passes es (timeUpdate g) g') :
  Passes (.tick :: es) g g'
  := by
  apply cons _ h
  intro n
  exact ⟨_, rfl⟩

theorem fore (hfore : Foreground g g') (h : Passes es g' g'') :
  Passes (.fore g' :: es) g g''
  := by
  apply cons _ h
  intro n
  exact ⟨_, if_pos hfore⟩

theorem append (h : Passes es g g') (h' : Passes es' g' g'') :
  Passes (es ++ es') g g''
  := by
  intro n
  obtain ⟨n', hrun⟩ := h n
  obtain ⟨n'', hrun'⟩ := h' n'
  use n''
  rw [Run.run_append hrun, hrun']

end Passes

/-- The interrupts of a run. -/
def interrupts : List TagEvent → List Event
  | [] => []
  | .rx b :: es => .rx b :: interrupts es
  | .tick :: es => .tick :: interrupts es
  | .fore _ :: es => interrupts es

/-- The interrupts during a wait. -/
def waitInterrupts : List Event → List Event
  | [] => []
  | .poll :: es => waitInterrupts es
  | e :: es => e :: waitInterrupts es

theorem interrupts_append (es es' : List TagEvent) :
  interrupts (es ++ es') = interrupts es ++ interrupts es'
  := by
  induction es with
  | nil => rfl
  | cons e es ih =>
    cases e with
    | rx b => exact congrArg (.rx b :: ·) ih
    | tick => exact congrArg (.tick :: ·) ih
    | fore g => exact ih

/-- `es` are the interrupts of waits that were taken off `t`, of each those before it was left, and
`t'` are the waits to come. -/
inductive Uses : List (List Event) → List Event → List (List Event) → Prop
  | nil (t : List (List Event)) : Uses t [] t
  | wait {es₁ es₂ es : List Event} {t t' : List (List Event)} (h : Uses t es t') :
    Uses ((es₁ ++ es₂) :: t) (waitInterrupts es₁ ++ es) t'

theorem Uses.trans {t t' t'' : List (List Event)} {es es' : List Event} (h : Uses t es t')
    (h' : Uses t' es' t'') :
  Uses t (es ++ es') t''
  := by
  induction h with
  | nil => exact h'
  | wait _ ih =>
    rw [List.append_assoc]
    apply Uses.wait (ih h')

theorem Uses.one (es₁ es₂ : List Event) (t : List (List Event)) :
  Uses ((es₁ ++ es₂) :: t) (waitInterrupts es₁) t
  := by
  rw [← List.append_nil (waitInterrupts es₁)]
  apply Uses.wait (Uses.nil t)

/-- The reader can go from `g` to `g'`, with interrupts as `traffic` has them. -/
def Goes (g g' : Globals) : Prop :=
  ∃ es, Passes es g g' ∧ Uses g.traffic (interrupts es) g'.traffic

/-- The reader can come from `g` to a wait, and go on through all of its events. -/
def Hangs (g : Globals) : Prop :=
  ∃ g', Goes g g' ∧ (g'.traffic = [] ∨ ∃ l rest es g'', g'.traffic = l :: rest
    ∧ Passes es g' g'' ∧ interrupts es = waitInterrupts l)

theorem tracing_goes :
  Tracing Goes Hangs
  := by
  constructor
  · intro g
    exact ⟨[], Passes.nil g, Uses.nil _⟩
  · rintro g g' g'' ⟨es, hpasses, huses⟩ ⟨es', hpasses', huses'⟩
    use es ++ es', hpasses.append hpasses'
    rw [interrupts_append]
    apply huses.trans huses'
  · rintro g g' ⟨es, hpasses, huses⟩ ⟨g'', ⟨es', hpasses', huses'⟩, hwait⟩
    refine ⟨g'', ⟨es ++ es', hpasses.append hpasses', ?_⟩, hwait⟩
    rw [interrupts_append]
    apply huses.trans huses'

/-- The code outside the interrupts goes on. -/
theorem Goes.fore {g g' : Globals} (hfore : Foreground g g') (htraffic : g'.traffic = g.traffic) :
  Goes g g'
  := by
  use [.fore g'], (Passes.nil g').fore hfore
  rw [htraffic]
  apply Uses.nil

/-- A waiting loop that touches nothing but the link in its rounds. -/
def OnlyLink (poll : Globals → Globals × Option UInt8) : Prop :=
  ∀ g, ∃ r, (poll g).1 = { g with r2000 := r }

/-- The rounds of a waiting loop are pieces of the code outside the interrupts. -/
def Rounds (poll : Globals → Globals × Option UInt8) : Prop :=
  ∀ g, Foreground g (poll g).1 ∧ (poll g).1.traffic = g.traffic

theorem OnlyLink.rounds {poll : Globals → Globals × Option UInt8} (h : OnlyLink poll) :
  Rounds poll
  := by
  intro g
  obtain ⟨r, hr⟩ := h g
  rw [hr]
  exact ⟨.inl rfl, rfl⟩

/-- A wait that is left goes through its events up to that point. -/
theorem waitLoop_returns {poll : Globals → Globals × Option UInt8} (hpoll : Rounds poll)
    {es : List Event} {g g' : Globals} {flag : UInt8} (h : waitLoop poll es g = some (flag, g')) :
  ∃ es₁ es₂ run, es = es₁ ++ es₂ ∧ Passes run g g' ∧ interrupts run = waitInterrupts es₁
    ∧ g'.traffic = g.traffic
  := by
  induction es generalizing g with
  | nil => cases h
  | cons e es ih =>
    cases e with
    | rx b =>
      obtain ⟨es₁, es₂, run, rfl, hpasses, hinterrupts, htraffic⟩ := ih h
      refine ⟨.rx b :: es₁, es₂, .rx b :: run, rfl, hpasses.rx, ?_, ?_⟩
      · exact congrArg (.rx b :: ·) hinterrupts
      · rw [htraffic, uart4IRQHandler_traffic]
    | tick =>
      obtain ⟨es₁, es₂, run, rfl, hpasses, hinterrupts, htraffic⟩ := ih h
      refine ⟨.tick :: es₁, es₂, .tick :: run, rfl, hpasses.tick, ?_, ?_⟩
      · exact congrArg (.tick :: ·) hinterrupts
      · rw [htraffic, timeUpdate_traffic]
    | poll =>
      simp only [waitLoop] at h
      obtain ⟨hfore, hsame⟩ := hpoll g
      generalize poll g = outcome at h hfore hsame
      obtain ⟨g₁, result⟩ := outcome
      cases result with
      | none =>
        obtain ⟨es₁, es₂, run, rfl, hpasses, hinterrupts, htraffic⟩ := ih h
        refine ⟨.poll :: es₁, es₂, _ :: run, rfl, hpasses.fore hfore, hinterrupts, ?_⟩
        exact htraffic.trans hsame
      | some flag' =>
        cases h
        exact ⟨[.poll], es, [_], rfl, (Passes.nil _).fore hfore, rfl, hsame⟩

/-- A wait that is not left goes through all of its events. -/
theorem waitLoop_hangs {poll : Globals → Globals × Option UInt8} (hpoll : Rounds poll)
    {es : List Event} {g : Globals} (h : waitLoop poll es g = none) :
  ∃ run g', Passes run g g' ∧ interrupts run = waitInterrupts es
  := by
  induction es generalizing g with
  | nil => exact ⟨[], g, Passes.nil g, rfl⟩
  | cons e es ih =>
    cases e with
    | rx b =>
      obtain ⟨run, g', hpasses, hinterrupts⟩ := ih h
      exact ⟨.rx b :: run, g', hpasses.rx, congrArg (Event.rx b :: ·) hinterrupts⟩
    | tick =>
      obtain ⟨run, g', hpasses, hinterrupts⟩ := ih h
      exact ⟨.tick :: run, g', hpasses.tick, congrArg (Event.tick :: ·) hinterrupts⟩
    | poll =>
      simp only [waitLoop] at h
      obtain ⟨hfore, -⟩ := hpoll g
      generalize poll g = outcome at h hfore
      obtain ⟨g₁, result⟩ := outcome
      cases result with
      | none =>
        obtain ⟨run, g', hpasses, hinterrupts⟩ := ih h
        exact ⟨_ :: run, g', hpasses.fore hfore, hinterrupts⟩
      | some flag' => cases h

/-- A frame is sent and the answer is waited for. -/
theorem traced_sendAndWait {send : Globals → Globals} {poll : Globals → Globals × Option UInt8}
    (hsend : ∀ g, (send g).cardPos = g.cardPos ∧ (send g).traffic = g.traffic)
    (hpoll : Rounds poll) :
  Traced Goes Hangs (sendAndWait send poll)
  := by
  have hgoes : ∀ g, Goes g (send g) := by
    intro g
    apply Goes.fore (.inl (hsend g).1) (hsend g).2
  constructor
  · intro g flag g' h
    unfold sendAndWait at h
    split at h
    · cases h
    · rename_i es rest htraffic
      obtain ⟨es₁, es₂, run, rfl, hpasses, hinterrupts, hrest⟩ := waitLoop_returns hpoll h
      have hfore : Foreground (send g) ((send g).setTraffic rest) := .inl rfl
      refine tracing_goes.trans (hgoes g) ⟨_, hpasses.fore hfore, ?_⟩
      have hrest' : g'.traffic = rest := hrest
      rw [htraffic, hrest', interrupts, hinterrupts]
      apply Uses.one
  · intro g h
    unfold sendAndWait at h
    split at h
    · rename_i htraffic
      exact ⟨send g, hgoes g, .inl htraffic⟩
    · rename_i es rest htraffic
      obtain ⟨run, g', hpasses, hinterrupts⟩ := waitLoop_hangs hpoll h
      have hfore : Foreground (send g) ((send g).setTraffic rest) := .inl rfl
      exact ⟨send g, hgoes g, .inr ⟨es, rest, _, g', htraffic, hpasses.fore hfore, hinterrupts⟩⟩

theorem sendCmd_cardPos (cmd before : UInt8) (p : Mem) (g : Globals) :
  (sendCmd cmd before p g).cardPos = g.cardPos
  := by
  unfold sendCmd uart4Send
  dsimp only
  split
  · rfl
  · rfl

/-- A command to the R2000 is a run. -/
theorem traced_encodeR2000From (before cmd : UInt8) (p : Mem) :
  Traced Goes Hangs (encodeR2000From before cmd p)
  := by
  by_cases hcmd : cmd ∈ knownCmds
  · rw [encodeR2000From_eq_sendAndWait before p hcmd]
    apply traced_sendAndWait
    · intro g
      exact ⟨sendCmd_cardPos cmd before p g, sendCmd_traffic cmd before p g⟩
    · exact OnlyLink.rounds (pollR2000_eq cmd)
  · unfold encodeR2000From
    apply Traced.of_some _ (fun g => if_neg hcmd)
    intro g
    exact Goes.fore (.inl rfl) rfl

theorem traced_encodeR2000 (cmd : UInt8) (p : Mem) :
  Traced Goes Hangs (encodeR2000 cmd p)
  := traced_encodeR2000From 0 cmd p

/-- The interrupts during a delay are a run. -/
theorem passes_interrupts (es : List Event) (g : Globals) :
  ∃ run, Passes run g (es.foldl Globals.interrupt g) ∧ interrupts run = waitInterrupts es
    ∧ (es.foldl Globals.interrupt g).traffic = g.traffic
  := by
  induction es generalizing g with
  | nil => exact ⟨[], Passes.nil g, rfl, rfl⟩
  | cons e es ih =>
    rw [List.foldl_cons]
    cases e with
    | rx b =>
      obtain ⟨run, hpasses, hinterrupts, htraffic⟩ := ih (uart4IRQHandler g b)
      refine ⟨.rx b :: run, hpasses.rx, congrArg (Event.rx b :: ·) hinterrupts, ?_⟩
      exact htraffic.trans (uart4IRQHandler_traffic g b)
    | tick =>
      obtain ⟨run, hpasses, hinterrupts, htraffic⟩ := ih (timeUpdate g)
      refine ⟨.tick :: run, hpasses.tick, congrArg (Event.tick :: ·) hinterrupts, ?_⟩
      exact htraffic.trans (timeUpdate_traffic g)
    | poll => exact ih g

/-- A delay is a run. -/
theorem traced_delayMs :
  Traced Goes Hangs delayMs
  := by
  constructor
  · intro g _ g' h
    unfold delayMs at h
    split at h
    · cases h
      apply tracing_goes.refl
    · rename_i es rest htraffic
      cases h
      obtain ⟨run, hpasses, hinterrupts, hrest⟩ := passes_interrupts es (g.setTraffic rest)
      have hfore : Foreground g (g.setTraffic rest) := .inl rfl
      refine ⟨_, hpasses.fore hfore, ?_⟩
      have hrest' : (es.foldl Globals.interrupt (g.setTraffic rest)).traffic = rest := hrest
      have huses := Uses.one es [] rest
      rw [List.append_nil] at huses
      rw [htraffic, hrest', interrupts, hinterrupts]
      exact huses
  · intro g h
    unfold delayMs at h
    split at h
    · cases h
    · cases h

/-! ### A table that overflows -/

/-- The events of a wait that goes on are a run. -/
theorem passes_waitStep {cmd : UInt8} {es : List Event} {g g' : Globals}
    (h : Run.run (waitStep cmd) es g = some g') :
  ∃ run, Passes run g g'
  := by
  induction es generalizing g with
  | nil =>
    cases h
    exact ⟨[], Passes.nil _⟩
  | cons e es ih =>
    obtain ⟨t, hstep, hrest⟩ := Run.run_cons_eq_some h
    obtain ⟨run, hpasses⟩ := ih hrest
    cases e with
    | rx b =>
      cases hstep
      exact ⟨.rx b :: run, hpasses.rx⟩
    | tick =>
      cases hstep
      exact ⟨.tick :: run, hpasses.tick⟩
    | poll =>
      have hfore : Foreground g t := by
        obtain ⟨-, rfl⟩ | ⟨-, _, -, -, rfl⟩ := waitStep_poll hstep
        · exact .inl rfl
        · exact .inl rfl
      exact ⟨.fore t :: run, hpasses.fore hfore⟩

/-- With the last byte of its frame, a tag is stored when there is no mask. -/
theorem storesTag_last {g : Globals} {a : TagAnswer} {n : ℕ} (hlt : n < a.bytes.length)
    (hlast : n + 1 = a.bytes.length) (h : g.r2000.Holds (Framing.progress a.bytes n))
    (hmask : g.cmdMasklen = 0) :
  g.StoresTag (a.bytes.get ⟨n, hlt⟩)
  := by
  obtain ⟨hholds, -, hdone⟩ := receive_progress a.linkFrame hlt h
  rw [hlast, Framing.progress_length] at hholds
  obtain ⟨hcmd, hlen, hepcLenth, hshort, hmasked⟩ :=
    tag_accepted (g := { g with r2000 := (g.r2000.receive (a.bytes.get ⟨n, hlt⟩)).1 }) hholds hmask
  use hdone.mpr hlast
  unfold Globals.StoresRow
  rw [if_neg (by rw [hcmd]; decide), if_neg (by rw [hcmd]; decide), if_neg (by rw [hcmd]; decide),
    if_pos hcmd]
  refine ⟨hlen, ?_, ?_⟩
  · rwa [hepcLenth]
  · rwa [hepcLenth]

/-- An inventory of 501 tags is taken for the request `0xEE` in command mode.  The last of them is
stored behind the table. -/
theorem table_overflows :
  ∃ es b s, Run.run tagStep es (TagRun.start .blank) = some s ∧ s.globals.StoresTag b
    ∧ s.globals.cardPos = maxNum
    ∧ ¬ Run.Along tagStep StoresInside (es ++ [.rx b]) (TagRun.start .blank)
  := by
  have hcall : (encodeR2000 0x80
      (inventoryRounds (listRequest.shift 3) (readerWithTags 501).toGlobals)
      (inventoryStart (listRequest.shift 3) (readerWithTags 501).toGlobals)).map
      (fun out => (out.1, out.2.r2000.load.take 14)) = some (0, tagReport 501) := by
    unfold readerWithTags
    rw [powerOn_eq]
    decide +kernel
  obtain ⟨g₁, hcall, hreport, -⟩ := tags_reported (by decide) hcall
  obtain ⟨hidle, hnone⟩ := collected_sent hcall hreport (show rxBytes [] = [] from rfl) []
  generalize hsent : sendCmd 0x91 0 (inventoryRounds (listRequest.shift 3)
    (readerWithTags 501).toGlobals) (retrievalStart [] [] g₁) = sent at hidle hnone
  -- 500 tags are collected, and the frame of the next arrives but for its last byte
  have htime : Run.Along (waitStep 0x91) InTime
      (polled (tagFrames 500) ++ (shortTag.bytes.take 16).map .rx) sent := by
    apply inTime_of_no_tick
    · intro e he
      obtain he | he := List.mem_append.mp he
      · exact polled_tagFrames_no_tick 500 e he
      · obtain ⟨b, -, rfl⟩ := List.mem_map.mp he
        exact Event.noConfusion
    · rw [← hsent]
      rfl
  have htags : (List.replicate 500 shortTag).length = 500 := List.length_replicate
  obtain ⟨g₂, hrun₂, hidle₂, hcollected⟩ := run_blocks (deliver_tagFrames 500)
    (by rw [htags]; decide) (by rw [htags]; decide) hidle hnone (Run.Along.of_append htime)
  have hzero : g₂.r2000.Holds (Framing.progress shortTag.bytes 0) := by
    rwa [Framing.progress_zero shortTag.isFrame]
  obtain ⟨g₃, hrun₃, hholds, hsame⟩ := run_gathers shortTag.linkFrame hzero
    (show shortTag.bytes.drop 0 = rxBytes ((shortTag.bytes.take 16).map .rx) ++ [0xF0] by decide)
    (List.cons_ne_nil _ _) ((Run.Along.append_iff hrun₂).mp htime).2
  have hmask : g₃.inventory.cmdMasklen = 0 := by
    rw [hsame]
    exact hcollected.unmasked
  have hpos : g₃.inventory.cardPos = maxNum := by
    rw [hsame]
    exact hcollected.rows.trans htags
  have hstores : g₃.StoresTag 0xF0 :=
    storesTag_last (n := 16) (by decide) (by decide) hholds hmask
  -- the pieces of the run
  obtain ⟨run₁, hpasses₁, -⟩ := (traced_encodeR2000 0x80 _).returns hcall
  obtain ⟨run₂, hpasses₂⟩ := passes_waitStep hrun₂
  obtain ⟨run₃, hpasses₃⟩ := passes_waitStep hrun₃
  have hready : Foreground (powerOn .blank).toGlobals (readerWithTags 501).toGlobals := by
    left
    unfold readerWithTags
    dsimp only
  have hstart : Foreground (readerWithTags 501).toGlobals
      (inventoryStart (listRequest.shift 3) (readerWithTags 501).toGlobals) := .inr (Nat.zero_le 1)
  have hretrieve : Foreground g₁ (retrievalStart [] [] g₁) := .inl rfl
  have hsend : Foreground (retrievalStart [] [] g₁) sent := by
    left
    rw [← hsent]
    apply sendCmd_cardPos
  have hpasses := (((hpasses₂.append hpasses₃).fore hsend).fore hretrieve)
  obtain ⟨n, hrun⟩ := (((hpasses₁.append hpasses).fore hstart).fore hready) 0
  refine ⟨_, 0xF0, _, hrun, hstores, hpos, ?_⟩
  intro hinside
  have hlt := ((Run.Along.append_iff hrun).mp hinside).2.1 0xF0 rfl hstores
  rw [show g₃.cardPos = maxNum from hpos] at hlt
  exact Nat.lt_irrefl _ hlt

end UhfReader
