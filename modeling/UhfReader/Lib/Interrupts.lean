import UhfReader.Lib.Stateful

/-!
# Programs that are interrupted while they wait

A program does not touch the state while it waits, but the handlers of interrupts do.  A `Machine`
says which events the waits of a program meet: interrupts, which have handlers, and rounds of the
waiting loop.

A value of `Code m R ρ p` says how the program `p` is made of acts, waits and delays, and that between
interrupts it changes the state only as `R` allows.  From this `watch` gets the same program on a
machine that also keeps a record: the handlers enter there what happens.  Without the record it is
`p` again (`Code.watch_state`), and what the acts and the handlers keep holds at its end
(`Invariant.watch`).
-/

open Stateful

namespace Interrupts

variable {σ ε γ ρ α : Type}

/-- What happens while a program waits. -/
structure Machine (σ ε : Type) where
  /-- The events of the next wait, and the state without them. -/
  next : σ → Option (List ε × σ)
  /-- The handler of an interrupt; the other events are rounds of a waiting loop. -/
  handler : ε → Option (σ → σ)

namespace Machine

variable (m : Machine σ ε)

/-- A waiting loop with the rounds `poll`, run over the events of one wait. -/
def loop (poll : σ → σ × Option ρ) : List ε → σ → Option (ρ × σ)
  | [], _ => none
  | e :: es, s =>
    match m.handler e with
    | some f => loop poll es (f s)
    | none =>
      match poll s with
      | (s, some r) => some (r, s)
      | (s, none) => loop poll es s

/-- The program waits until a round of its loop yields a result. -/
def wait (poll : σ → σ × Option ρ) : StateT σ Option ρ :=
  fun s =>
    match m.next s with
    | none => none
    | some (es, s) => m.loop poll es s

/-- What an event of a delay does. -/
def interrupt (s : σ) (e : ε) : σ :=
  match m.handler e with
  | some f => f s
  | none => s

/-- The program waits for some time. -/
def delay : StateT σ Option Unit :=
  fun s =>
    match m.next s with
    | none => some ((), s)
    | some (es, s) => some ((), es.foldl m.interrupt s)

/-- The machine that also keeps a record, in which `enter` enters what happens at an interrupt. -/
def record (enter : ε → σ → γ → γ) : Machine (σ × γ) ε where
  next := fun x => (m.next x.1).map fun out => (out.1, out.2, x.2)
  handler := fun e => (m.handler e).map fun f x => (f x.1, enter e x.1 x.2)

end Machine

/-- The program is made of acts, waits and delays, and its acts are as `R` allows.  The waits have
results in `ρ`. -/
inductive Code (m : Machine σ ε) (R : σ → σ → Prop) (ρ : Type) :
    {α : Type} → StateT σ Option α → Type 1
  | pure {α : Type} (a : α) : Code m R ρ (pure a)
  | act {α : Type} (u : σ → α × σ) (h : ∀ s, R s (u s).2) : Code m R ρ (modifyGet u)
  | wait (poll : σ → σ × Option ρ) (h : ∀ s, R s (poll s).1) : Code m R ρ (m.wait poll)
  | delay : Code m R ρ m.delay
  | bind {α β : Type} {p : StateT σ Option α} {k : α → StateT σ Option β} (c : Code m R ρ p)
    (d : ∀ a, Code m R ρ (k a)) : Code m R ρ (p >>= k)
  | ite {α : Type} {b : Prop} [Decidable b] {p q : StateT σ Option α} (c : Code m R ρ p)
    (d : Code m R ρ q) : Code m R ρ (if b then p else q)
  | congr {α : Type} {p q : StateT σ Option α} (h : p = q) (c : Code m R ρ p) : Code m R ρ q

variable {m : Machine σ ε} {R : σ → σ → Prop}

/-- The rounds of a waiting loop leave the record alone. -/
def unrecorded (poll : σ → σ × Option ρ) (x : σ × γ) : (σ × γ) × Option ρ :=
  (((poll x.1).1, x.2), (poll x.1).2)

namespace Code

/-- The program on the machine that keeps the record. -/
def watch (enter : ε → σ → γ → γ) {α : Type} {p : StateT σ Option α} :
    Code m R ρ p → StateT (σ × γ) Option α
  | .pure a => Pure.pure a
  | .act u _ => modifyGet fun x => ((u x.1).1, (u x.1).2, x.2)
  | .wait poll _ => (m.record enter).wait (unrecorded poll)
  | .delay => (m.record enter).delay
  | .bind c d => c.watch enter >>= fun a => (d a).watch enter
  | @ite _ _ _ _ _ _ b _ _ _ c d => if b then c.watch enter else d.watch enter
  | .congr _ c => c.watch enter

end Code

/-! ### Without the record -/

theorem loop_record (enter : ε → σ → γ → γ) (poll : σ → σ × Option ρ) (es : List ε) (x : σ × γ) :
  ((m.record enter).loop (unrecorded poll) es x).map (fun out => (out.1, out.2.1))
    = m.loop poll es x.1
  := by
  induction es generalizing x with
  | nil => rfl
  | cons e es ih =>
    simp only [Machine.loop, Machine.record]
    cases m.handler e with
    | some f => exact ih (f x.1, enter e x.1 x.2)
    | none =>
      simp only [Option.map_none, unrecorded]
      obtain ⟨s', outcome⟩ := poll x.1
      cases outcome with
      | some r => rfl
      | none => exact ih (s', x.2)

theorem foldl_record (enter : ε → σ → γ → γ) (es : List ε) (x : σ × γ) :
  (es.foldl (m.record enter).interrupt x).1 = es.foldl m.interrupt x.1
  := by
  induction es generalizing x with
  | nil => rfl
  | cons e es ih =>
    rw [List.foldl_cons, List.foldl_cons, ih]
    unfold Machine.interrupt Machine.record
    dsimp only
    cases m.handler e with
    | some f => rfl
    | none => rfl

/-- Without the record, the watched program is the program itself. -/
theorem Code.watch_state (enter : ε → σ → γ → γ) {p : StateT σ Option α} (c : Code m R ρ p)
    (x : σ × γ) :
  (c.watch enter x).map (fun out => (out.1, out.2.1)) = p x.1
  := by
  induction c generalizing x with
  | pure a => rfl
  | act u _ => rfl
  | wait poll _ =>
    simp only [watch, Machine.wait, Machine.record]
    cases m.next x.1 with
    | none => rfl
    | some out => exact loop_record enter poll out.1 (out.2, x.2)
  | delay =>
    simp only [watch, Machine.delay, Machine.record]
    cases m.next x.1 with
    | none => rfl
    | some out =>
      have hstate := foldl_record enter (m := m) out.1 (out.2, x.2)
      exact congrArg (fun s => some ((), s)) hstate
  | bind c d ihc ihd =>
    rename_i p k
    have hp := ihc x
    simp only [watch, Bind.bind, StateT.bind]
    cases hwatch : c.watch enter x with
    | none =>
      rw [hwatch] at hp
      rw [← hp]
      rfl
    | some out =>
      rw [hwatch] at hp
      rw [← hp]
      exact ihd out.1 out.2
  | ite c d ihc ihd =>
    simp only [watch]
    split
    · exact ihc x
    · exact ihd x
  | congr h c ih =>
    exact (ih x).trans (congrFun h x.1)

/-- A machine goes wherever a program does if it goes where the acts, the waits and the delays
do. -/
theorem Code.traced {goes : σ → σ → Prop} {hangs : σ → Prop} (t : Tracing goes hangs)
    (hact : ∀ s s', R s s' → goes s s')
    (hwait : ∀ poll : σ → σ × Option ρ, (∀ s, R s (poll s).1) → Traced goes hangs (m.wait poll))
    (hdelay : Traced goes hangs m.delay) {p : StateT σ Option α} (c : Code m R ρ p) :
  Traced goes hangs p
  := by
  induction c with
  | pure a => exact t.pure a
  | act u hu =>
    apply Traced.modifyGet
    intro s
    exact hact s (u s).2 (hu s)
  | wait poll hpoll => exact hwait poll hpoll
  | delay => exact hdelay
  | bind c d ihc ihd => exact t.bind ihc ihd
  | ite c d ihc ihd => exact Traced.ite ihc ihd
  | congr h c ih => exact h ▸ ih

/-! ### Invariants -/

/-- `I` holds of the state and the record whatever the program and the interrupts do. -/
structure Invariant (m : Machine σ ε) (R : σ → σ → Prop) (enter : ε → σ → γ → γ)
    (I : σ → γ → Prop) : Prop where
  act : ∀ {s s' x}, R s s' → I s x → I s' x
  next : ∀ {s es s' x}, m.next s = some (es, s') → I s x → I s' x
  handler : ∀ {e f s x}, m.handler e = some f → I s x → I (f s) (enter e s x)

namespace Invariant

variable {enter : ε → σ → γ → γ} {I : σ → γ → Prop}

theorem loop (inv : Invariant m R enter I) {poll : σ → σ × Option ρ}
    (hpoll : ∀ s, R s (poll s).1) (es : List ε) (x : σ × γ) {out : ρ × σ × γ}
    (h : (m.record enter).loop (unrecorded poll) es x = some out) (hx : I x.1 x.2) :
  I out.2.1 out.2.2
  := by
  induction es generalizing x with
  | nil => cases h
  | cons e es ih =>
    simp only [Machine.loop, Machine.record] at h
    cases he : m.handler e with
    | some f =>
      rw [he] at h
      exact ih _ h (inv.handler he hx)
    | none =>
      rw [he] at h
      have hact := inv.act (hpoll x.1) hx
      simp only [Option.map_none, unrecorded] at h
      generalize poll x.1 = round at h hact
      obtain ⟨s', outcome⟩ := round
      cases outcome with
      | some r =>
        cases h
        exact hact
      | none => exact ih _ h hact

theorem interrupts (inv : Invariant m R enter I) (es : List ε) {x : σ × γ} (hx : I x.1 x.2) :
  I (es.foldl (m.record enter).interrupt x).1 (es.foldl (m.record enter).interrupt x).2
  := by
  induction es generalizing x with
  | nil => exact hx
  | cons e es ih =>
    apply ih
    unfold Machine.interrupt Machine.record
    dsimp only
    cases he : m.handler e with
    | some f => exact inv.handler he hx
    | none => exact hx

/-- What the acts and the handlers keep holds at the end of the program. -/
theorem watch (inv : Invariant m R enter I) {p : StateT σ Option α} (c : Code m R ρ p) {x : σ × γ}
    {out : α × σ × γ} (h : c.watch enter x = some out) (hx : I x.1 x.2) :
  I out.2.1 out.2.2
  := by
  induction c generalizing x with
  | pure a =>
    cases h
    exact hx
  | act u hu =>
    cases h
    exact inv.act (hu x.1) hx
  | wait poll hpoll =>
    simp only [Code.watch, Machine.wait, Machine.record] at h
    cases hnext : m.next x.1 with
    | none =>
      rw [hnext] at h
      cases h
    | some waited =>
      rw [hnext] at h
      exact inv.loop hpoll waited.1 (waited.2, x.2) h (inv.next hnext hx)
  | delay =>
    simp only [Code.watch, Machine.delay, Machine.record] at h
    cases hnext : m.next x.1 with
    | none =>
      rw [hnext] at h
      cases h
      exact hx
    | some waited =>
      rw [hnext] at h
      cases h
      exact inv.interrupts waited.1 (x := (waited.2, x.2)) (inv.next hnext hx)
  | bind c d ihc ihd =>
    obtain ⟨a, x', hc, hd⟩ := bind_eq_some h
    exact ihd a hd (ihc hc hx)
  | ite c d ihc ihd =>
    simp only [Code.watch] at h
    split at h
    · exact ihc h hx
    · exact ihd h hx
  | congr _ c ih => exact ih h hx

end Invariant

end Interrupts
