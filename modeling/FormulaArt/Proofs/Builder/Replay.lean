import FormulaArt.Proofs.Builder.Dialogue
import Mathlib.Data.List.Forall2

/-!
# Answers written on a tape

The derived draws read an answer from a raw word, be the question about an operator or about a coin.  A tape
with such words for a sequence of answers ahead of it gives these answers, and is left behind the last of
them.  There is a word for every answer.

## Main definitions

* `Answer.IsReadFrom` — a raw word is read as an answer
* `Answer.word` — a raw word that is read back as the answer
* `Tape.skip`, `Tape.ahead` — the tape further on, and the words in between

## Main statements

* `Operator.ofIndex_place` — every operator stands in the table
* `Dialogue.perform_of_ahead` — a tape with the right words ahead leads a dialogue to its result
* `Dialogue.exists_returns_ahead` — the words ahead of a tape are the right ones for some answers
* `Tape.ahead_ofArray` — the words that a tape was made of lie ahead of it
-/

namespace FormulaArt

/-! ### Words that are read back as answers -/

namespace Operator

theorem mem_all (op : Operator) : op ∈ all := by
  match op with
  | unary kind axis => cases kind <;> cases axis <;> decide
  | binary kind => cases kind <;> decide

/-- The place of an operator in the table. -/
def place (op : Operator) : Fin count :=
  ⟨all.idxOf op, List.idxOf_lt_length_of_mem op.mem_all⟩

/-- Every operator is the one at its place. -/
theorem ofIndex_place (op : Operator) : ofIndex op.place = op := by
  show all.get ⟨all.idxOf op, List.idxOf_lt_length_of_mem op.mem_all⟩ = op
  exact List.getElem_idxOf _

/-- The operator that a raw word is drawn as. -/
def ofWord (raw : UInt64) : Operator :=
  ofIndex ⟨Draw.index count raw, Draw.index_lt (by decide) raw⟩

end Operator

/-- A raw word is read as an answer. -/
def Answer.IsReadFrom (raw : UInt64) : Answer → Prop
  | .operator op => Operator.ofWord raw = op
  | .coin heads => Draw.coin (Draw.unit raw : Float) = heads

/-- A raw word that is read back as the answer. -/
def Answer.word : Answer → UInt64
  | .operator op => UInt64.ofNat (Draw.leastWord Operator.count op.place)
  | .coin heads => if heads then 9223372036854775808 else 0

/-- The word of an answer is read back as this answer. -/
theorem Answer.isReadFrom_word (answer : Answer) : answer.IsReadFrom answer.word := by
  cases answer with
  | operator op =>
      -- the word was chosen so that its share is the place of the operator
      have place : (⟨_, Draw.index_lt (by decide) _⟩ : Fin Operator.count) = op.place :=
        Fin.ext (Draw.index_leastWord op.place.isLt (by decide))
      exact (congrArg Operator.ofIndex place).trans op.ofIndex_place
  | coin heads =>
      show Draw.coin (Draw.unit (Answer.coin heads).word : Float) = heads
      cases heads with
      | false => decide
      | true => decide

/-! ### Tapes -/

namespace Tape

/-- The tape some words further on. -/
def skip (tape : Tape) (n : Nat) : Tape :=
  { tape with position := tape.position + n }

/-- The next words on a tape. -/
def ahead (tape : Tape) (n : Nat) : List UInt64 :=
  (List.range n).map fun i => tape.word (tape.position + i)

/-- The next words are the first of them and those ahead of the tape one word further on. -/
theorem ahead_succ (tape : Tape) (n : Nat) :
    tape.ahead (n + 1) = tape.word tape.position :: (tape.skip 1).ahead n := by
  rw [ahead, List.range_succ_eq_map, List.map_cons, List.map_map]
  refine congrArg (List.cons _) (List.map_congr_left fun i _ => ?_)
  show tape.word (tape.position + (i + 1)) = tape.word (tape.position + 1 + i)
  rw [Nat.add_assoc, Nat.add_comm 1]

theorem skip_skip (tape : Tape) (m n : Nat) : (tape.skip m).skip n = tape.skip (m + n) := by
  rw [skip, skip, skip, Nat.add_assoc]

/-- The words that a tape was made of lie ahead of it. -/
theorem ahead_ofArray (words : Array UInt64) : (ofArray words).ahead words.size = words.toList := by
  have length : ((ofArray words).ahead words.size).length = words.toList.length := by
    rw [ahead, List.length_map, List.length_range, Array.length_toList]
  refine List.ext_getElem length fun i _ h => ?_
  rw [Array.length_toList] at h
  simp only [ahead, List.getElem_map, List.getElem_range, Array.getElem_toList]
  show words.getD (min (0 + i) (words.size - 1)) 0 = _
  -- the last word is repeated only behind the words given
  have inside : min (0 + i) (words.size - 1) = i := by omega
  rw [inside, Array.getD_eq_getD_getElem?, Array.getElem?_eq_getElem h]
  rfl

/-- The next word on a tape decides which operator is drawn. -/
theorem drawOperator_of_isReadFrom {tape : Tape} {op : Operator}
    (next : (Answer.operator op).IsReadFrom (tape.word tape.position)) :
    (Expr.drawOperator : ExceptT StrayIndex (StateM Tape) Operator) tape
      = (.ok op, tape.skip 1) := by
  obtain rfl := next
  exact Expr.drawOperator_of_lt (tape.inTable tape .refl)

/-- The next word on a tape decides which side a coin shows. -/
theorem coin_of_isReadFrom {tape : Tape} {heads : Bool}
    (next : (Answer.coin heads).IsReadFrom (tape.word tape.position)) :
    (RandomSource.coin : StateM Tape Bool) tape = (heads, tape.skip 1) :=
  congrArg (fun side => (side, tape.skip 1)) next

end Tape

namespace Dialogue

variable {β : Type}

/-- A tape that has words for some answers ahead of it leads a dialogue where these answers do, and is left
behind the last of them. -/
theorem perform_of_ahead {d : Dialogue β} {answers : List Answer} {b : β}
    (h : d.Returns answers b) {tape : Tape}
    (ahead : List.Forall₂ Answer.IsReadFrom (tape.ahead answers.length) answers) :
    (d.perform : ExceptT StrayIndex (StateM Tape) β) tape = (.ok b, tape.skip answers.length) := by
  induction h generalizing tape with
  | done result => rfl
  | @operator _ _ answers _ _ ih =>
      rw [List.length_cons, Tape.ahead_succ] at ahead
      obtain ⟨first, rest⟩ := List.forall₂_cons.mp ahead
      rw [perform, run_bind_of_ok _ (Tape.drawOperator_of_isReadFrom first), ih rest, Tape.skip_skip,
        Nat.add_comm 1, List.length_cons]
  | @coin _ _ answers _ _ ih =>
      rw [List.length_cons, Tape.ahead_succ] at ahead
      obtain ⟨first, rest⟩ := List.forall₂_cons.mp ahead
      rw [perform, run_lift_bind, Tape.coin_of_isReadFrom first, ih rest, Tape.skip_skip,
        Nat.add_comm 1, List.length_cons]

/-- Whatever lies ahead of a tape, it starts with the words for some answers that lead a dialogue to its
end. -/
theorem exists_returns_ahead (d : Dialogue β) (tape : Tape) :
    ∃ answers b, d.Returns answers b ∧
      List.Forall₂ Answer.IsReadFrom (tape.ahead answers.length) answers := by
  induction d generalizing tape with
  | done result => exact ⟨[], result, .done result, .nil⟩
  | operator next ih =>
      obtain ⟨answers, b, h, rest⟩ := ih (Operator.ofWord (tape.word tape.position)) (tape.skip 1)
      refine ⟨_, b, .operator h, ?_⟩
      rw [List.length_cons, Tape.ahead_succ]
      exact .cons rfl rest
  | coin next ih =>
      obtain ⟨answers, b, h, rest⟩ :=
        ih (Draw.coin (Draw.unit (tape.word tape.position) : Float)) (tape.skip 1)
      refine ⟨_, b, .coin h, ?_⟩
      rw [List.length_cons, Tape.ahead_succ]
      exact .cons rfl rest

/-- A tape made of the words of some answers leads a dialogue where these answers do.  All of the words
are read, and nothing behind them. -/
theorem perform_ofArray {d : Dialogue β} {answers : List Answer} {b : β}
    (h : d.Returns answers b) :
    (d.perform : ExceptT StrayIndex (StateM Tape) β)
        (Tape.ofArray (answers.map Answer.word).toArray)
      = (.ok b, (Tape.ofArray (answers.map Answer.word).toArray).skip
          (answers.map Answer.word).toArray.size) := by
  have ahead := Tape.ahead_ofArray (answers.map Answer.word).toArray
  rw [List.size_toArray, List.length_map] at ahead ⊢
  refine perform_of_ahead h ?_
  rw [ahead]
  exact List.forall₂_map_left_iff.mpr (List.forall₂_same.mpr fun answer _ => answer.isReadFrom_word)

end Dialogue

end FormulaArt
