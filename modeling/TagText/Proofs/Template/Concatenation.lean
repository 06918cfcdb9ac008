import Mathlib.Data.Nat.Find
import TagText.Proofs.Rendering.Walk
import TagText.Proofs.Template.Fault

/-!
# One template behind another

Two templates that parse, written one behind the other, are the pieces of both. They parse to both
trees with the texts at the seam joined (`Tree.join`), unless a tag of the first comes before an
escaped delimiter of the second, for which there is no place behind a tag:

> `parse_append`: if the first template has no tag, or the second no escaped delimiter outside its
> tags, both together parse to the joined trees, which render to one text behind the other; else
> they fail at the first such delimiter.

That the pieces of the second template may stand behind a tag just as well is a question of their
delimiters alone (`derivation_of_not_mem`).
-/

namespace TagText

open Scan

variable {tokens : Tokens} {mark : Role → Char}

/-- One tree behind another. A text at the end of the first and one at the front of the second make
one node. -/
def Tree.join : Tree → Tree → Tree
  | [], b => b
  | [.text x], .text y :: b => .text (x ++ y) :: b
  | node :: a, b => node :: join a b

/-! ## Joined trees -/

theorem join_cons_cons (node node' : Node) (a b : Tree) :
    Tree.join (node :: node' :: a) b = node :: Tree.join (node' :: a) b := by
  rw [Tree.join]
  simp

theorem join_tag_cons (t : Tag) (a b : Tree) :
    Tree.join (.tag t :: a) b = .tag t :: Tree.join a b := by
  rw [Tree.join]
  simp

/-- Text in front of the first tree is text in front of both. -/
theorem joinText_join (s : List Char) (a b : Tree) :
    Piece.joinText s (Tree.join a b) = Tree.join (Piece.joinText s a) b := by
  cases s with
  | nil => rw [Piece.joinText_nil, Piece.joinText_nil]
  | cons c s =>
    cases a with
    | nil =>
      cases b with
      | nil => rfl
      | cons node b => cases node <;> simp [Tree.join, Piece.joinText, String.append_assoc]
    | cons node a =>
      cases node with
      | tag t => rw [join_tag_cons]; rfl
      | text x =>
        cases a with
        | cons node a => rw [join_cons_cons]; rfl
        | nil =>
          -- Both texts and the one in front are one node, in whatever order they are joined.
          cases b with
          | nil => rfl
          | cons node b => cases node <;> simp [Tree.join, Piece.joinText, String.append_assoc]

theorem assemble_append (l : Literals) (ps qs : List Piece) :
    Piece.assemble l (ps ++ qs) = Tree.join (Piece.assemble l ps) (Piece.assemble l qs) := by
  induction ps with
  | nil => rfl
  | cons p ps ih =>
    cases p with
    | char c => rw [List.cons_append, Piece.assemble, Piece.assemble, ih, joinText_join]
    | escaped role => rw [List.cons_append, Piece.assemble, Piece.assemble, ih, joinText_join]
    | tag t => rw [List.cons_append, Piece.assemble, Piece.assemble, ih, join_tag_cons]

section
variable {objects : Objects} {r : Renderer} {store : Store} {processor : Option Processor}

/-- It makes no difference to the output whether two texts are one node. -/
theorem renderOnto_join (output : String) (a b : Tree) :
    r.renderOnto objects store processor output (Tree.join a b) =
      r.renderOnto objects store processor output (a ++ b) := by
  induction a generalizing output with
  | nil => rfl
  | cons node a ih =>
    cases a with
    | cons node' a =>
      rw [join_cons_cons, List.cons_append, Renderer.renderOnto, Renderer.renderOnto]
      cases r.renderNode objects store processor node with
      | error e => rfl
      | ok text => exact ih (output ++ text)
    | nil =>
      cases node with
      | tag t => rw [join_tag_cons]; rfl
      | text x =>
        cases b with
        | nil => rfl
        | cons node b =>
          cases node with
          | tag t => rfl
          | text y =>
            show r.renderOnto objects store processor output (.text (x ++ y) :: b) =
              r.renderOnto objects store processor output (.text x :: .text y :: b)
            simp only [Renderer.renderOnto_text, String.append_assoc]

/-- Joined trees render to one text behind the other, or fail as the first tree that fails. -/
theorem render_join (a b : Tree) (extra : Entries) :
    r.render objects (Tree.join a b) extra processor =
      (r.render objects a extra processor).bind fun text =>
        (r.render objects b extra processor).map (text ++ ·) := by
  simp only [Renderer.render_eq_renderOnto, renderOnto_join, Renderer.renderOnto_append]
  congr 1
  funext text
  exact Renderer.renderOnto_output text b

end

/-! ## Delimiters behind a tag -/

/-- Pieces without escaped delimiters may stand behind a tag. -/
theorem derivation_of_not_mem {afterTag : Bool} {ps : List Piece} (h : Derivation mark afterTag ps)
    (hnone : ∀ role, role = .tagOpen ∨ role = .tagClose → .escaped role ∉ ps) :
    Derivation mark true ps := by
  induction h with
  | done => exact .done
  | text hc _ ih =>
    exact .text hc (ih fun role hrole hmem => hnone role hrole (List.mem_cons_of_mem _ hmem))
  | escape _ ih =>
    exact .escape (ih fun role hrole hmem => hnone role hrole (List.mem_cons_of_mem _ hmem))
  | delimiter hrole => exact absurd List.mem_cons_self (hnone _ hrole)
  | tag ht hps => exact .tag ht hps

/-- At the place `n` of the template stands the literal of an escaped delimiter, outside of tags. -/
def EscapesAt (mark : Role → Char) (template : String) (n : Nat) (role : Role) : Prop :=
  ∃ before after, Derivation mark false (before ++ .escaped role :: after) ∧
    Piece.writeAll (.single mark) (before ++ .escaped role :: after) = template.toList ∧
    (role = .tagOpen ∨ role = .tagClose) ∧
    n = (Piece.writeAll (.single mark) before).length + 1

/-- Of a derivation of the template the escaped delimiters stand at its places. -/
theorem escapesAt_of_mem {ps : List Piece} {template : String} {role : Role}
    (hps : Derivation mark false ps)
    (htext : Piece.writeAll (.single mark) ps = template.toList)
    (hrole : role = .tagOpen ∨ role = .tagClose) (hmem : .escaped role ∈ ps) :
    ∃ n, EscapesAt mark template n role := by
  obtain ⟨before, after, rfl⟩ := List.append_of_mem hmem
  exact ⟨_, before, after, hps, htext, hrole, rfl⟩

/-- Of the places with an escaped delimiter there is a first one, and in front of it are only pieces
that may stand behind a tag. -/
theorem exists_first_escape {template : String} (h : ∃ n role, EscapesAt mark template n role) :
    ∃ n role, EscapesAt mark template n role ∧
      (∀ m other, EscapesAt mark template m other → n ≤ m) ∧
      ∃ before after, Derivation mark true before ∧
        template.toList = Piece.writeAll (.single mark) before ++ [mark .escape] ++
          (mark role :: after) ∧
        (role = .tagOpen ∨ role = .tagClose) ∧
        n = (Piece.writeAll (.single mark) before ++ [mark .escape]).length := by
  classical
  obtain ⟨role, before, after, hps, htext, hrole, hn⟩ := Nat.find_spec h
  have hleast : ∀ m other, EscapesAt mark template m other → Nat.find h ≤ m :=
    fun m other hm => Nat.find_min' h ⟨other, hm⟩
  refine ⟨Nat.find h, role, ⟨before, after, hps, htext, hrole, hn⟩, hleast,
    before, Piece.writeAll (.single mark) after, ?_, ?_, hrole, ?_⟩
  · refine derivation_of_not_mem (derivation_append_iff.mp hps).1 fun role' hrole' hmem => ?_
    -- A delimiter among these pieces would stand at an earlier place.
    obtain ⟨front, back, rfl⟩ := List.append_of_mem hmem
    have hearlier : EscapesAt mark template
        ((Piece.writeAll (.single mark) front).length + 1) role' :=
      ⟨front, back ++ .escaped role :: after, by simpa using hps, by simpa using htext, hrole', rfl⟩
    have hle := hleast _ _ hearlier
    have htwo : (Piece.write (.single mark) (.escaped role')).length = 2 := rfl
    rw [hn, writeAll_append, List.length_append, Piece.writeAll_cons, List.length_append] at hle
    omega
  · rw [← htext, writeAll_append, Piece.writeAll_cons, Piece.write]
    simp [Literals.single]
  · rw [hn, List.length_append, List.length_singleton]

theorem hasTag_eq_false_iff (l : Literals) (ps : List Piece) :
    Piece.hasTag ps = false ↔ Tree.tags (Piece.assemble l ps) = [] := by
  rw [tags_assemble, List.filterMap_eq_nil_iff, Piece.hasTag, List.any_eq_false]
  simp

/-! ## Templates -/

/-- **The concatenation law.** Templates that parse, one behind the other, parse to their trees
joined at the seam, which render as the first and then the second, if the first has no tag or the
second no escaped delimiter outside its tags. Else they fail at the first such delimiter. -/
theorem parse_append (hm : tokens.OneCharacter mark) {s t : String} {a b : Tree}
    (hs : (Parser.mk tokens .blanks).parse s = .ok a)
    (ht : (Parser.mk tokens .blanks).parse t = .ok b) :
    ((Tree.tags a = [] ∨ ¬∃ n role, EscapesAt mark t n role) →
      (Parser.mk tokens .blanks).parse (s ++ t) = .ok (Tree.join a b) ∧
        ∀ (objects : Objects) (r : Renderer) (extra : Entries) (processor : Option Processor),
          r.render objects (Tree.join a b) extra processor =
            (r.render objects a extra processor).bind fun text =>
              (r.render objects b extra processor).map (text ++ ·)) ∧
    ((Tree.tags a ≠ [] ∧ ∃ n role, EscapesAt mark t n role) →
      ∃ n role, EscapesAt mark t n role ∧ (∀ m other, EscapesAt mark t m other → n ≤ m) ∧
        (Parser.mk tokens .blanks).parse (s ++ t) =
          .error ⟨.delimiterEscapedOutsideString role, s.length + n, s ++ t⟩) := by
  obtain ⟨ps, hps, hpsText, rfl⟩ := (parse_eq_ok_iff hm).mp hs
  obtain ⟨qs, hqs, hqsText, rfl⟩ := (parse_eq_ok_iff hm).mp ht
  rw [← hasTag_eq_false_iff, Ne, ← hasTag_eq_false_iff, Bool.not_eq_false]
  constructor
  · intro hfree
    refine ⟨(parse_eq_ok_iff hm).mpr ⟨ps ++ qs, derivation_append_iff.mpr ⟨hps, ?_⟩, ?_,
      assemble_append _ ps qs⟩, fun objects r extra processor => render_join _ _ extra⟩
    · cases htag : Piece.hasTag ps with
      | false => exact hqs
      | true =>
        have hnone := hfree.resolve_left (by simp [htag])
        exact derivation_of_not_mem hqs fun role hrole hmem =>
          hnone ((escapesAt_of_mem hqs hqsText hrole hmem).imp fun n hn => ⟨role, hn⟩)
    · rw [writeAll_append, hpsText, hqsText, String.toList_append]
  · rintro ⟨htag, hsome⟩
    obtain ⟨n, role, hn, hfirst, before, after, hbefore, htext, hrole, hplace⟩ :=
      exists_first_escape hsome
    refine ⟨n, role, hn, hfirst, (parse_eq_error_iff hm).mpr
      ⟨rfl, ps ++ before, [mark .escape], mark role :: after, ?_, ?_, ?_, ?_⟩⟩
    · exact derivation_append_iff.mpr ⟨hps, by rwa [htag]⟩
    · rw [hasTag_append, htag, Bool.true_or]
      exact .delimiter hrole
    · rw [String.toList_append, htext, ← hpsText, writeAll_append]
      simp only [List.append_assoc]
    · rw [writeAll_append, hpsText, List.append_assoc, List.length_append, String.length_toList,
        hplace]

theorem parse_append_delimiter :
    Parser.default.parse ("x\\\x7b" ++ "y\\\x7d") = .ok [.text "x\x7by\x7d"] ∧
      ∃ n role, EscapesAt Role.mark "y\\\x7d" n role ∧
        Parser.default.parse ("\x7ba\x7d" ++ "y\\\x7d") =
          .error ⟨.delimiterEscapedOutsideString role, 3 + n, "\x7ba\x7d" ++ "y\\\x7d"⟩ := by
  have htext : Parser.default.parse "x\\\x7b" = .ok [.text "x\x7b"] := by decide +kernel
  have htag : Parser.default.parse "\x7ba\x7d" = .ok [.tag ⟨["a"], []⟩] := by decide +kernel
  have hdelimiter : Parser.default.parse "y\\\x7d" = .ok [.text "y\x7d"] := by decide +kernel
  have hescaped : EscapesAt Role.mark "y\\\x7d" 2 .tagClose :=
    ⟨[.char 'y'], [], .text (by decide) (.delimiter (Or.inr rfl) .done), by decide, Or.inr rfl, rfl⟩
  obtain ⟨hjoined, -⟩ := (parse_append oneCharacter_default htext hdelimiter).1 (Or.inl rfl)
  obtain ⟨n, role, hn, -, hfail⟩ := (parse_append oneCharacter_default htag hdelimiter).2
    ⟨by decide, 2, .tagClose, hescaped⟩
  exact ⟨hjoined, n, role, hn, hfail⟩

end TagText
