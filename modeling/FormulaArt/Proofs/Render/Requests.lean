import FormulaArt.Proofs.Random.SplitMix
import FormulaArt.Proofs.Render.Answers

/-!
# Requests to the default generator

Whoever holds a generator can draw from it in four ways, build formulas with it and render pictures from
it.  All of these take raw words from the generator and do nothing else to it, so that the number of words
taken so far determines the generator, and with it the next word.  Requests that fail are no exception.

## Main definitions

* `Request`, `Reply` — what can be asked for, and what comes of it
* `Request.perform`, `Request.performAll` — one request, and one after the other
* `Metered` — the default generator and the number of raw words taken from it

## Main statements

* `Request.lockstep_performAll` — sources that draw alike reply alike
* `SplitMix.exists_performAll` — what requests do to the generator of a seed
* `SplitMix.scramble_bijective_and_word_injective` — no collisions

## Design notes

The default generator derives all its draws from raw words.  So does `Metered`, which shows that the same
requests take the same words and reply the same, and counts the words where they are taken.
-/

namespace FormulaArt

/-- What can be asked of a source. -/
inductive Request where
  | word
  | unit
  | index (size : Nat)
  | coin
  /-- A formula within a range of depths. -/
  | formula (range : DepthRange)
  /-- The formulas of the three channels. -/
  | formulas (range : DepthRange)
  | picture (machine : Machine) (width height : UInt32) (range : DepthRange)
      (options : RenderOptions)

/-- What comes of a request. -/
inductive Reply (α : Type) where
  | word (raw : UInt64)
  | unit (u : Float)
  | index (i : Nat)
  | coin (heads : Bool)
  | formula (outcome : Except (Fault α) Expr)
  | formulas (outcome : Except (Fault α) (Channels Expr))
  | picture (outcome : Except (Fault α) (Frame × RenderStats))

namespace Request

variable {α σ τ : Type} [Scalar α] [RandomSource σ] [RandomSource τ]

/-- Put a request to a source. -/
def perform : Request → StateM σ (Reply α)
  | word => Reply.word <$> RandomSource.next
  | unit => Reply.unit <$> RandomSource.unit
  | index size => Reply.index <$> RandomSource.index size
  | coin => Reply.coin <$> RandomSource.coin
  | formula range => Reply.formula <$> (Expr.build range).run
  | formulas range => Reply.formulas <$> (Channels.build range).run
  | picture machine width height range options =>
    Reply.picture <$> (renderRandom machine width height range options).run

/-- Put requests to a source, one after the other. -/
def performAll : List Request → StateM σ (List (Reply α))
  | [] => pure []
  | request :: requests => do
    let reply ← request.perform
    let replies ← performAll requests
    return reply :: replies

end Request

/-! ### Sources that draw alike -/

section Draws

variable {α σ τ : Type} [Scalar α] [RandomSource σ] [RandomSource τ]

/-- Two sources draw alike in every way, as long as their states are related. -/
structure RandomSource.DrawAlike (R : σ → τ → Prop) : Prop where
  next : Lockstep R (RandomSource.next : StateM σ UInt64) RandomSource.next
  unit : Lockstep R (RandomSource.unit : StateM σ Float) RandomSource.unit
  index (size : Nat) : Lockstep R (RandomSource.index size : StateM σ Nat) (RandomSource.index size)
  coin : Lockstep R (RandomSource.coin : StateM σ Bool) RandomSource.coin

variable {R : σ → τ → Prop}

theorem RandomSource.DrawAlike.alike (draws : RandomSource.DrawAlike R) : RandomSource.Alike R :=
  ⟨draws.index Operator.count, draws.coin⟩

theorem Request.lockstep_perform (draws : RandomSource.DrawAlike R) (request : Request) :
    Lockstep R (request.perform : StateM σ (Reply α)) request.perform := by
  cases request with
  | word => exact draws.next.map _
  | unit => exact draws.unit.map _
  | index size => exact (draws.index size).map _
  | coin => exact draws.coin.map _
  | formula range => exact (Expr.lockstep_build draws.alike range).map _
  | formulas range => exact (Channels.lockstep_build draws.alike range).map _
  | picture machine width height range options =>
      exact (lockstep_renderRandom draws.alike rfl rfl width height range options).map _

/-- Sources that draw alike reply alike to any sequence of requests. -/
theorem Request.lockstep_performAll (draws : RandomSource.DrawAlike R) (requests : List Request) :
    Lockstep R (performAll requests : StateM σ (List (Reply α))) (performAll requests) := by
  induction requests with
  | nil => exact .pure _
  | cons request requests ih =>
      exact (request.lockstep_perform draws).bind fun _ => ih.bind fun _ => .pure _

end Draws

/-! ### The default generator -/

/-- The default generator and the number of raw words taken from it. -/
structure Metered where
  generator : SplitMix
  taken : Nat
deriving Repr, DecidableEq

/-- Taking a word counts. -/
instance : RandomSource Metered where
  next := fun m =>
    let (raw, generator) := m.generator.next
    (raw, { generator, taken := m.taken + 1 })

namespace SplitMix

/-- A generator is the one of a seed after as many draws as a meter shows, which shows the same
generator. -/
def IsAfter (seed : UInt64) (g : SplitMix) (m : Metered) : Prop :=
  m.generator = g ∧ g = after seed m.taken

/-- The generator and its metered form draw alike.  All their draws are derived from raw words, and each
word counts. -/
theorem drawAlike (seed : UInt64) : RandomSource.DrawAlike (IsAfter seed) := by
  have next : Lockstep (IsAfter seed) (RandomSource.next : StateM SplitMix UInt64)
      (RandomSource.next : StateM Metered UInt64) := by
    rintro g ⟨h, n⟩ ⟨same, left⟩
    obtain rfl : h = after seed n := same.trans left
    obtain rfl : g = after seed n := left
    exact ⟨rfl, rfl, (after_succ seed n).symm⟩
  exact ⟨next, next.map _, fun _ => next.map _, (next.map _).map _⟩

/-- Whatever is asked of the generator of a seed, the number of raw words taken says which generator is
left. -/
theorem exists_performAll {α : Type} [Scalar α] (seed : UInt64) (requests : List Request) :
    ∃ (replies : List (Reply α)) (n : Nat),
      (Request.performAll requests : StateM SplitMix _) (ofSeed seed) = (replies, after seed n) ∧
      (Request.performAll requests : StateM Metered _) ⟨ofSeed seed, 0⟩
        = (replies, ⟨after seed n, n⟩) := by
  obtain ⟨same, generator, left⟩ :=
    Request.lockstep_performAll (α := α) (drawAlike seed) requests (ofSeed seed) ⟨ofSeed seed, 0⟩
      ⟨rfl, rfl⟩
  refine ⟨_, _, Prod.ext rfl left, Prod.ext same.symm ?_⟩
  rw [← left, ← generator]

/-- **The default generator never collides.**  Scrambling is a permutation of the words.  After any sequence
of requests to the generator of a seed, some of which may fail, the counter has advanced by one step for
each raw word that was taken, and the next word is the scrambled counter one step further on.  Hence
generators of different seeds give different words after the same number of others, and the first `2 ^ 64`
words from one seed are all different. -/
theorem scramble_bijective_and_word_injective {α : Type} [Scalar α] :
    Function.Bijective scramble ∧
    (∀ (seed : UInt64) (requests : List Request),
      ∃ (replies : List (Reply α)) (g : SplitMix) (n : Nat),
        (Request.performAll requests : StateM SplitMix _) (ofSeed seed) = (replies, g) ∧
        (Request.performAll requests : StateM Metered _) ⟨ofSeed seed, 0⟩ = (replies, ⟨g, n⟩) ∧
        g.state = seed + UInt64.ofNat n * increment ∧
        g.next.1 = scramble (seed + UInt64.ofNat (n + 1) * increment) ∧ g.next.1 = word seed n) ∧
    (∀ n, Function.Injective fun seed => word seed n) ∧
    ∀ seed, Function.Injective fun n : Fin UInt64.size => word seed n := by
  refine ⟨scramble_bijective, ?_, word_injective_seed, word_injective_index⟩
  intro seed requests
  obtain ⟨replies, n, run, metered⟩ := exists_performAll (α := α) seed requests
  exact ⟨replies, after seed n, n, run, metered, state_after seed n, word_eq seed n, rfl⟩

end SplitMix

end FormulaArt
