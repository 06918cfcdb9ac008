import Mathlib.Data.List.Chain
import TagText.Proofs.Template.OneCharacter
import TagText.Proofs.Template.Run

/-!
# Where delimiters may be escaped

The scanner builds a text aside and finishes it as a node only when a tag or the end of the template
comes. So between two passes the finished nodes never end with a text (`Scan.State.Settled`), and
the rule that a delimiter is escaped only where the last finished node is a text or there is none
says more than it seems to:

> `scan_settled`: an escaped delimiter is taken iff no tag was read before it, whatever text was
> read since the last tag; else it is where the template fails. And trees are tidy (`Tree.Tidy`) all
> the way, so that pruning the last one takes nothing away.

`Scan.State.Settled` is kept by every pass (`settled_of_pieceStep`). Whether a tag was read is
asked of the states that the scan has gone through (`Scan.State.OpensTag`), not of its nodes.
-/

namespace TagText

open Scan

/-! ## Tidy trees -/

/-- No text of the tree is empty, no two texts stand side by side, and every tag has a path. -/
structure Tree.Tidy (tree : Tree) : Prop where
  text_ne_empty : ∀ content, .text content ∈ tree → content ≠ ""
  apart : tree.IsChain fun a b => ¬(a.isText = true ∧ b.isText = true)
  path_ne_nil : ∀ t, .tag t ∈ tree → t.path ≠ []

namespace Tree

theorem tidy_nil : Tidy [] where
  text_ne_empty _ h := absurd h List.not_mem_nil
  apart := List.IsChain.nil
  path_ne_nil _ h := absurd h List.not_mem_nil

theorem tidy_singleton_text {content : String} (h : content ≠ "") : Tidy [.text content] where
  text_ne_empty c hc := by
    injection List.mem_singleton.mp hc with hc
    exact hc ▸ h
  apart := List.IsChain.singleton _
  path_ne_nil t ht := absurd (List.mem_singleton.mp ht) (by simp)

theorem tidy_singleton_tag {t : Tag} (h : t.path ≠ []) : Tidy [.tag t] where
  text_ne_empty _ hc := absurd (List.mem_singleton.mp hc) (by simp)
  apart := List.IsChain.singleton _
  path_ne_nil u hu := by
    injection List.mem_singleton.mp hu with hu
    exact hu ▸ h

/-- Tidy trees stay tidy one behind the other if no two texts meet. -/
theorem Tidy.append {a b : Tree} (ha : Tidy a) (hb : Tidy b)
    (hmeet : ∀ x, current? a = some x → ∀ y, b.head? = some y →
      ¬(x.isText = true ∧ y.isText = true)) : Tidy (a ++ b) where
  text_ne_empty content h := by
    rcases List.mem_append.mp h with h | h
    · exact ha.text_ne_empty content h
    · exact hb.text_ne_empty content h
  apart := List.isChain_append.mpr ⟨ha.apart, hb.apart, hmeet⟩
  path_ne_nil t h := by
    rcases List.mem_append.mp h with h | h
    · exact ha.path_ne_nil t h
    · exact hb.path_ne_nil t h

/-- Nothing of a tidy tree is pruned. -/
theorem Tidy.prune_eq {tree : Tree} (h : Tidy tree) : prune tree = tree := by
  rw [prune, List.filter_eq_self]
  intro node hnode
  cases node with
  | text content =>
    have hne := h.text_ne_empty content hnode
    simpa [Node.isEmpty] using hne
  | tag t => rfl

end Tree

/-! ## Finished nodes -/

variable {l : Literals} {blank : List Char → Nat} {template : List Char} {passed : List State}
  {s t : State}

/-- Of the nodes finished before a pass, which are a tidy tree, the last one is a tag. -/
structure Scan.State.Settled (s : State) : Prop where
  tidy : Tree.Tidy s.nodes.reverse
  current : ∀ node, Tree.current? s.nodes.reverse = some node → node.isText = false

namespace Scan.State

theorem settled_start (ahead : List Char) : (start ahead).Settled :=
  ⟨Tree.tidy_nil, fun node h => absurd h (by simp [start, Tree.current?])⟩

/-- The place of an escaped delimiter is checked against the last finished node, but this is never a
text. -/
theorem Settled.inText_iff (h : s.Settled) : s.inText = true ↔ s.nodes = [] := by
  obtain ⟨nodes, pending, escaping, ahead⟩ := s
  cases nodes with
  | nil => simp [inText]
  | cons node nodes =>
    have hlast : Tree.current? (node :: nodes).reverse = some node := by simp [Tree.current?]
    have hnode := h.current node hlast
    simp [inText, hnode]

/-- Finishing the text that is being built leaves a tidy tree. -/
theorem Settled.tidy_flush (h : s.Settled) : Tree.Tidy s.flush.reverse := by
  rw [flush_reverse]
  cases hpending : s.pending.reverse with
  | nil =>
    rw [Piece.joinText_nil, List.append_nil]
    exact h.tidy
  | cons c text =>
    have htext : String.ofList (c :: text) ≠ "" := by simp
    refine h.tidy.append (Tree.tidy_singleton_text htext) ?_
    intro x hx y _ htexts
    exact absurd htexts.1 (by simp [h.current x hx])

/-- The next pass is over a tag. -/
def OpensTag (l : Literals) (s : State) : Prop :=
  s.escaping = false ∧ literalAt l s.ahead = some .tagOpen

end Scan.State

/-- A pass leaves the finished nodes as they are or adds a text, if there is one, and then a tag. -/
theorem settled_of_pieceStep (hs : s.Settled) (h : PieceStep l blank s (some t)) : t.Settled := by
  cases h with
  | char => exact ⟨hs.tidy, hs.current⟩
  | escape => exact ⟨hs.tidy, hs.current⟩
  | escaped => exact ⟨hs.tidy, hs.current⟩
  | @tag tag rest _ hliteral htag =>
    obtain ⟨w, hw, rfl, -⟩ := (readTag_eq_ok_iff (starts_of_literalAt hliteral)).mp htag
    refine ⟨?_, ?_⟩
    · rw [List.reverse_cons]
      refine hs.tidy_flush.append (Tree.tidy_singleton_tag hw.path_ne_nil) ?_
      intro x _ y hy htexts
      injection hy with hy
      subst hy
      exact absurd htexts.2 (by simp [Node.isText])
    · intro node hnode
      rw [List.reverse_cons, Tree.current?, List.getLast?_concat] at hnode
      injection hnode with hnode
      exact hnode ▸ rfl

namespace Scan.Run

theorem settled (h : Run l blank template passed s) : s.Settled := by
  induction h with
  | start => exact State.settled_start template
  | pass _ hpass ih => exact settled_of_pieceStep ih (pieceStep_of_piecePass hpass)

/-- There are finished nodes as soon as a tag was read. -/
theorem nodes_eq_nil_iff (h : Run l blank template passed s) :
    s.nodes = [] ↔ ¬∃ u ∈ passed, u.OpensTag l := by
  induction h with
  | start => simp [State.start]
  | @pass passed s t _ hpass ih =>
    -- Whichever pass it was, the state before it opens a tag iff the pass adds nodes.
    rw [List.exists_mem_cons_iff, not_or, ← ih]
    cases pieceStep_of_piecePass hpass with
    | char _ _ hliteral => simp [State.OpensTag, hliteral]
    | escape _ hliteral => simp [State.OpensTag, hliteral]
    | escaped hescaping => simp [State.OpensTag, State.takeLiteral, hescaping]
    | tag hescaping hliteral => simp [State.OpensTag, hescaping, hliteral]

/-- Delimiters can be escaped until a tag was read. -/
theorem inText_iff (h : Run l blank template passed s) :
    s.inText = true ↔ ¬∃ u ∈ passed, u.OpensTag l :=
  h.settled.inText_iff.trans h.nodes_eq_nil_iff

end Scan.Run

/-- A delimiter behind an escape literal becomes text iff its place is before the first tag. -/
theorem piecePass_delimiter_iff {role : Role} (hescaping : s.escaping = true)
    (hliteral : literalAt l s.ahead = some role) (hrole : role ≠ .escape) :
    piecePass l blank s = .ok (some (s.takeLiteral l role)) ↔ s.inText = true := by
  cases hin : s.inText with
  | true =>
    simp only [iff_true]
    exact piecePass_of_pieceStep (.escaped hescaping hliteral (Or.inr hin))
  | false =>
    have hfail : piecePass l blank s =
        .error ⟨.delimiterEscapedOutsideString role, s.ahead⟩ :=
      piecePass_of_pieceFault (.delimiter hescaping hliteral hrole hin)
    simp [hfail]

/-- The tree that is read is tidy. -/
theorem tidy_of_readTemplate {tree : Tree} (h : readTemplate l blank template = .ok tree) :
    tree.Tidy := by
  obtain ⟨passed, s, hrun, -, -, rfl⟩ := exists_run_of_readTemplate_eq_ok h
  exact hrun.settled.tidy_flush

/-- So is every tree of pieces that are read as they are spelled. -/
theorem tidy_of_spelled {ps : List Piece} (h : Spelled l blank false ps) :
    Tree.Tidy (Piece.assemble l ps) :=
  tidy_of_readTemplate (readTemplate_eq_ok_iff.mpr ⟨ps, h, rfl, rfl⟩)

/-- **Delimiters are escaped before the first tag only.** At every moment between two passes the
finished nodes are a tidy tree that is empty or ends with a tag. So an escaped delimiter is taken
iff no tag was read before it, and otherwise the template fails there, also when text was read
since. The tree that is read at the end is tidy, and pruning takes nothing away from it. -/
theorem scan_settled {tokens : Tokens} (hne : ∀ role, tokens.get role ≠ "")
    (blank : List Char → Nat) (template : String) :
    (∀ passed s, Run (tokens.literals hne) blank template.toList passed s →
      Tree.Tidy s.nodes.reverse ∧
      (∀ node, Tree.current? s.nodes.reverse = some node → node.isText = false) ∧
      ∀ role, role = .tagOpen ∨ role = .tagClose → s.escaping = true →
        literalAt (tokens.literals hne) s.ahead = some role →
        (piecePass (tokens.literals hne) blank s =
            .ok (some (s.takeLiteral (tokens.literals hne) role)) ↔
          ¬∃ u ∈ passed, u.OpensTag (tokens.literals hne)) ∧
        ((∃ u ∈ passed, u.OpensTag (tokens.literals hne)) → parseWith tokens blank template =
          .error ⟨.delimiterEscapedOutsideString role, template.length - s.ahead.length,
            template⟩)) ∧
    (∀ tree, readTemplate (tokens.literals hne) blank template.toList = .ok tree →
      tree.prune = tree) ∧
    ∀ tree, parseWith tokens blank template = .ok tree → tree.Tidy := by
  refine ⟨fun passed s hrun => ⟨hrun.settled.tidy, hrun.settled.current, ?_⟩,
    fun tree h => (tidy_of_readTemplate h).prune_eq, fun tree h => ?_⟩
  · intro role hdelimiter hescaping hliteral
    have hrole : role ≠ .escape := by
      rintro rfl
      exact absurd hdelimiter (by decide)
    refine ⟨(piecePass_delimiter_iff hescaping hliteral hrole).trans hrun.inText_iff, ?_⟩
    intro htag
    have hplace : s.inText = false := by
      rw [← Bool.not_eq_true, hrun.inText_iff]
      exact not_not_intro htag
    exact hrun.parseWith_eq_error hne
      (piecePass_of_pieceFault (.delimiter hescaping hliteral hrole hplace))
  · exact tidy_of_readTemplate ((parseWith_eq_ok_iff_readTemplate hne).mp h)

theorem scan_settled_default :
    ∃ passed, Run (Tokens.default.literals oneCharacter_default.get_ne_empty)
        Pattern.blanks.prefixLength "\x7ba\x7db\\\x7d".toList passed
        ⟨[.tag ⟨["a"], []⟩], ['b'], true, ['\x7d']⟩ ∧
      parseWith .default Pattern.blanks.prefixLength "\x7ba\x7db\\\x7d" =
        .error ⟨.delimiterEscapedOutsideString .tagClose, 5, "\x7ba\x7db\\\x7d"⟩ := by
  let l := Tokens.default.literals oneCharacter_default.get_ne_empty
  let tag : Node := .tag ⟨["a"], []⟩
  -- Over the tag, the text behind it, and the escape literal.
  have hrun : Run l Pattern.blanks.prefixLength "\x7ba\x7db\\\x7d".toList
      [⟨[tag], ['b'], false, ['\\', '\x7d']⟩, ⟨[tag], [], false, ['b', '\\', '\x7d']⟩,
        .start "\x7ba\x7db\\\x7d".toList] ⟨[tag], ['b'], true, ['\x7d']⟩ :=
    ((Run.start.pass (by decide +kernel)).pass (by decide +kernel)).pass (by decide +kernel)
  obtain ⟨-, -, hplace⟩ := (scan_settled oneCharacter_default.get_ne_empty
    Pattern.blanks.prefixLength "\x7ba\x7db\\\x7d").1 _ _ hrun
  obtain ⟨-, hfail⟩ := hplace .tagClose (Or.inr rfl) rfl (by decide +kernel)
  exact ⟨_, hrun, hfail ⟨_, List.mem_of_getLast? rfl, rfl, by decide +kernel⟩⟩

end TagText
