import Mathlib.Logic.Relation
import Reckoner.Proofs.Expr.Text

/-!
# The pieces of a text

A rendering goes from draft to draft.  A draft holds the pieces still pending, the next one first,
and the words written so far; a step takes the first piece off, and writes it or puts its parts in
its place.  Whatever is pending behind a piece, the piece comes to its words, and what is behind it
is left alone (`Draft.leadsTo_piece`).  So the pieces are written one after the other, each of them
once.

The words written and the words of the pending pieces, in order, are the words of the tree at every
draft.  That is the invariant of the loop (`Draft.Step.words_eq`).
-/

namespace Reckoner.Expr

open Relation

/-! ## Words -/

/-- The words of a tree's text, in order. -/
def words : Expr → List String
  | .leaf q => [q.text]
  | .negate e => "(-" :: (e.words ++ [")"])
  | .binary op l r => "(" :: (l.words ++ op.symbol :: (r.words ++ [")"]))

/-- The words of a piece. -/
def Piece.words : Piece → List String
  | .word s => [s]
  | .tree e => e.words

theorem join_words (e : Expr) : String.join e.words = e.text := by
  induction e with
  | leaf q => simp [words, text]
  | negate e ih => simp [words, text, ih, String.append_assoc]
  | binary op l r ihl ihr => simp [words, text, ihl, ihr, String.append_assoc]

/-! ## Drafts -/

/-- Where a rendering stands. -/
structure Draft where
  pending : List Piece
  written : List String

namespace Draft

/-- The draft at which the rendering of a tree begins. -/
def start (e : Expr) : Draft := ⟨[.tree e], []⟩

/-- The text that a rendering comes to from a draft on. -/
def run (c : Draft) : String := Piece.write c.pending (String.join c.written)

/-- The words written, and those that the pending pieces come to. -/
def words (c : Draft) : List String := c.written ++ c.pending.flatMap Piece.words

/-- The first piece is taken off: a word or a leaf is written, and an operator makes room for its
parts. -/
inductive Step : Draft → Draft → Prop where
  | word {s : String} {ps : List Piece} {out : List String} :
    Step ⟨.word s :: ps, out⟩ ⟨ps, out ++ [s]⟩
  | leaf {q : Quantity} {ps : List Piece} {out : List String} :
    Step ⟨.tree (.leaf q) :: ps, out⟩ ⟨ps, out ++ [q.text]⟩
  | negate {e : Expr} {ps : List Piece} {out : List String} :
    Step ⟨.tree (.negate e) :: ps, out⟩ ⟨.word "(-" :: .tree e :: .word ")" :: ps, out⟩
  | binary {op : Operator} {l r : Expr} {ps : List Piece} {out : List String} :
    Step ⟨.tree (.binary op l r) :: ps, out⟩
      ⟨.word "(" :: .tree l :: .word op.symbol :: .tree r :: .word ")" :: ps, out⟩

/-- Some steps lead from the first draft to the second. -/
abbrev LeadsTo : Draft → Draft → Prop := ReflTransGen Step

section

variable {c d : Draft}

/-- A step goes on as the loop does. -/
theorem Step.run_eq (h : Step c d) : d.run = c.run := by
  cases h <;> simp [run, Piece.write]

theorem LeadsTo.run_eq (h : LeadsTo c d) : d.run = c.run := by
  induction h with
  | refl => rfl
  | tail _ hstep ih => exact hstep.run_eq.trans ih

/-- No step changes what is written in the end. -/
theorem Step.words_eq (h : Step c d) : d.words = c.words := by
  cases h <;> simp [Draft.words, Piece.words, Expr.words]

theorem LeadsTo.words_eq (h : LeadsTo c d) : d.words = c.words := by
  induction h with
  | refl => rfl
  | tail _ hstep ih => exact hstep.words_eq.trans ih

/-- As long as a piece is pending there is one way to go on. -/
theorem existsUnique_step (h : c.pending ≠ []) : ∃! d, Step c d := by
  obtain ⟨ps, out⟩ := c
  match ps with
  | [] => exact absurd rfl h
  | .word _ :: _ => exact ⟨_, .word, fun _ h => by cases h; rfl⟩
  | .tree (.leaf _) :: _ => exact ⟨_, .leaf, fun _ h => by cases h; rfl⟩
  | .tree (.negate _) :: _ => exact ⟨_, .negate, fun _ h => by cases h; rfl⟩
  | .tree (.binary ..) :: _ => exact ⟨_, .binary, fun _ h => by cases h; rfl⟩

end

/-! ## Pieces one after the other -/

/-- A tree in front comes to its words, and the pieces behind it are left alone. -/
theorem leadsTo_tree (e : Expr) (ps : List Piece) (out : List String) :
    LeadsTo ⟨.tree e :: ps, out⟩ ⟨ps, out ++ e.words⟩ := by
  induction e generalizing ps out with
  | leaf q => exact .single .leaf
  | negate e ih =>
    have hwords : out ++ (Expr.negate e).words = out ++ ["(-"] ++ e.words ++ [")"] := by
      simp [Expr.words]
    rw [hwords]
    have hopen : LeadsTo ⟨.tree (.negate e) :: ps, out⟩
        ⟨.tree e :: .word ")" :: ps, out ++ ["(-"]⟩ := .tail (.single .negate) .word
    exact (hopen.trans (ih ..)).tail .word
  | binary op l r ihl ihr =>
    have hwords : out ++ (Expr.binary op l r).words =
        out ++ ["("] ++ l.words ++ [op.symbol] ++ r.words ++ [")"] := by
      simp [Expr.words]
    rw [hwords]
    have hopen : LeadsTo ⟨.tree (.binary op l r) :: ps, out⟩
        ⟨.tree l :: .word op.symbol :: .tree r :: .word ")" :: ps, out ++ ["("]⟩ :=
      .tail (.single .binary) .word
    have hleft : LeadsTo ⟨.tree (.binary op l r) :: ps, out⟩
        ⟨.tree r :: .word ")" :: ps, out ++ ["("] ++ l.words ++ [op.symbol]⟩ :=
      (hopen.trans (ihl ..)).tail .word
    exact (hleft.trans (ihr ..)).tail .word

theorem leadsTo_piece (p : Piece) (ps : List Piece) (out : List String) :
    LeadsTo ⟨p :: ps, out⟩ ⟨ps, out ++ p.words⟩ := by
  cases p with
  | word s => exact .single .word
  | tree e => exact leadsTo_tree e ps out

/-- The pieces in front are written, in order, and those behind them are left alone. -/
theorem leadsTo_append (before after : List Piece) (out : List String) :
    LeadsTo ⟨before ++ after, out⟩ ⟨after, out ++ before.flatMap Piece.words⟩ := by
  induction before generalizing out with
  | nil => simpa using ReflTransGen.refl
  | cons p ps ih =>
    have hpiece := leadsTo_piece p (ps ++ after) out
    simpa using hpiece.trans (ih (out ++ p.words))

end Draft

/-- The text of a tree, written with a stack of pieces, is the one that the recursion over the tree
gives, with a pair of parentheses around every operator and its operands.  The loop ends with the
words of the tree.  At every draft the words written and those of the pending pieces, in order, are
the words of the tree, the text to come is the same, and there is one way to go on unless nothing is
pending.  Whichever piece is pending comes in front when those before it have been written; then its
words are written, and the pieces behind it are left as they are. -/
theorem render_by_pieces (e : Expr) :
    e.render = e.text ∧ String.join e.words = e.text ∧
    Draft.LeadsTo (.start e) ⟨[], e.words⟩ ∧
    ∀ c, Draft.LeadsTo (.start e) c →
      c.written ++ c.pending.flatMap Piece.words = e.words ∧
      c.run = e.render ∧ Draft.LeadsTo c ⟨[], e.words⟩ ∧
      (c.pending = [] ∨ ∃! d, Draft.Step c d) ∧
      ∀ before p after, c.pending = before ++ p :: after →
        let out := c.written ++ before.flatMap Piece.words
        Draft.LeadsTo c ⟨p :: after, out⟩ ∧
          Draft.LeadsTo ⟨p :: after, out⟩ ⟨after, out ++ p.words⟩ := by
  refine ⟨render_eq_text e, join_words e, Draft.leadsTo_tree e [] [], fun c h => ?_⟩
  have hwords : c.words = e.words := by
    rw [h.words_eq]
    simp [Draft.words, Draft.start, Piece.words]
  refine ⟨hwords, h.run_eq, ?_, or_iff_not_imp_left.2 Draft.existsUnique_step, ?_⟩
  · have hrest := Draft.leadsTo_append c.pending [] c.written
    rwa [List.append_nil, ← Draft.words, hwords] at hrest
  · rintro before p after hpending out
    obtain ⟨ps, written⟩ := c
    cases hpending
    exact ⟨Draft.leadsTo_append before (p :: after) written, Draft.leadsTo_piece p after _⟩

/-- Minus four feet, in metres. -/
def minusFourFeet : Expr :=
  .binary .convert (.negate (.leaf ⟨.whole 4, some (.fixed .foot)⟩))
    (.leaf (.oneOf (.fixed .metre)))

/-- Where four feet are about to be written. -/
def fourFeetDue : Draft :=
  ⟨[.tree (.leaf ⟨.whole 4, some (.fixed .foot)⟩), .word ")", .word " to ",
    .tree (.leaf (.oneOf (.fixed .metre))), .word ")"], ["(", "(-"]⟩

/-- Four feet are written, then what stands between them and the metre, which is left pending. -/
theorem minusFourFeet_by_pieces :
    minusFourFeet.render = "((-4') to 1m)" ∧
    Draft.LeadsTo (.start minusFourFeet) fourFeetDue ∧ fourFeetDue.run = "((-4') to 1m)" ∧
    Draft.LeadsTo fourFeetDue ⟨[.tree (.leaf (.oneOf (.fixed .metre))), .word ")"],
      ["(", "(-", "4'", ")", " to "]⟩ := by
  obtain ⟨hrender, -, -, hdrafts⟩ := render_by_pieces minusFourFeet
  have htext : minusFourFeet.render = "((-4') to 1m)" := by
    rw [hrender]
    decide
  have hdue : Draft.LeadsTo (.start minusFourFeet) fourFeetDue :=
    .head .binary (.head .word (.head .negate (.single .word)))
  obtain ⟨-, hrun, -, -, hpending⟩ := hdrafts _ hdue
  obtain ⟨hmetre, -⟩ := hpending [.tree (.leaf ⟨.whole 4, some (.fixed .foot)⟩), .word ")",
    .word " to "] (.tree (.leaf (.oneOf (.fixed .metre)))) [.word ")"] rfl
  exact ⟨htext, hdue, hrun.trans htext, hmetre⟩

end Reckoner.Expr
