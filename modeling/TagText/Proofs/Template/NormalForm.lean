import TagText.Proofs.Template.Grammar
import TagText.Proofs.Template.PieceTags
import TagText.Proofs.Template.Placement
import TagText.Proofs.Template.TextPieces

/-!
# Which trees are parsed

With literals of one character and the default blanks, the trees of templates are those in a normal
form (`Tree.Normal`): texts are not empty and never stand side by side, the names in tags have the
form of names, and no text behind a tag has one of the two delimiters in it. The last is the price
of the rule that delimiters are escaped only before the first tag.

> `exists_parse_iff_normal`: a tree is parsed from some template iff it is normal, and then the
> template that `Tree.unparse` writes is one.

That parsed trees are tidy is true of any literals (`tidy_of_spelled`); that they are normal is then
an induction over derivations. The other direction derives the written template: its pieces are
those of the texts of the tree, between tags without blanks (`derivation_pieces`), and they stand
for the tree itself (`assemble_pieces`).
-/

namespace TagText

open Scan

/-- A node as a template of literals of one character: in text the escape character stands before
every escape, opening and closing one, and a tag has no blanks. -/
def Node.unparse (mark : Role → Char) : Node → List Char
  | .text content => content.toList.flatMap fun c =>
      if c = mark .escape ∨ c = mark .tagOpen ∨ c = mark .tagClose then [mark .escape, c] else [c]
  | .tag t => [mark .tagOpen] ++ [mark .tagPathSeparator].intercalate (t.path.map String.toList) ++
      t.modifiers.flatMap (fun name => mark .tagModifier :: name.toList) ++ [mark .tagClose]

/-- A tree as a template of literals of one character. -/
def Tree.unparse (mark : Role → Char) (tree : Tree) : String :=
  String.ofList (tree.flatMap (Node.unparse mark))

/-- No text of the tree has a delimiter in it. -/
def Tree.Undelimited (mark : Role → Char) (tree : Tree) : Prop :=
  ∀ content, .text content ∈ tree →
    ∀ c ∈ content.toList, c ≠ mark .tagOpen ∧ c ≠ mark .tagClose

/-- The form of a parsed tree. -/
structure Tree.Normal (mark : Role → Char) (tree : Tree) : Prop where
  text_ne_empty : ∀ content, .text content ∈ tree → content ≠ ""
  apart : tree.IsChain fun a b => ¬(a.isText = true ∧ b.isText = true)
  path_ne_nil : ∀ t, .tag t ∈ tree → t.path ≠ []
  segment : ∀ t, .tag t ∈ tree → ∀ s ∈ t.path, IsSegment s.toList
  modifier : ∀ t, .tag t ∈ tree → ∀ s ∈ t.modifiers, IsModifierName s.toList
  undelimited : ∀ before t after, tree = before ++ .tag t :: after → Tree.Undelimited mark after

variable {tokens : Tokens} {mark : Role → Char} {l : Literals}

/-! ## Parsed trees are normal -/

/-- Every tag of the tree was derived as a tag. -/
theorem exists_tagDerivation (hm : tokens.OneCharacter mark) {afterTag : Bool} {ps : List Piece}
    (h : Derivation mark afterTag ps) {t : Tag} (ht : .tag t ∈ Piece.assemble (.single mark) ps) :
    ∃ w : WrittenTag, TagDerivation w ∧ w.toTag = t := by
  obtain ⟨w, rest, hw, htag⟩ := exists_tagSpelled_of_mem_tags
    ((spelled_iff_derivation hm).mpr h) (Tree.mem_tags_of_mem ht)
  exact ⟨w, tagDerivation_of_tagSpelled hw, htag⟩

/-- Text without delimiters in front of a tree without them leaves none. -/
theorem undelimited_joinText {s : List Char} {tree : Tree}
    (hs : ∀ c ∈ s, c ≠ mark .tagOpen ∧ c ≠ mark .tagClose) (h : tree.Undelimited mark) :
    Tree.Undelimited mark (Piece.joinText s tree) := by
  intro content hcontent c hc
  cases s with
  | nil =>
    rw [Piece.joinText_nil] at hcontent
    exact h content hcontent c hc
  | cons a s =>
    cases tree with
    | nil =>
      obtain rfl : content = String.ofList (a :: s) := by simpa [Piece.joinText] using hcontent
      exact hs c (by simpa using hc)
    | cons node tree =>
      cases node with
      | tag t =>
        rcases List.mem_cons.mp hcontent with heq | hcontent
        · obtain rfl := Node.text.inj heq
          exact hs c (by simpa using hc)
        · exact h content hcontent c hc
      | text first =>
        rcases List.mem_cons.mp hcontent with heq | hcontent
        · obtain rfl := Node.text.inj heq
          rw [String.toList_ofList] at hc
          rcases List.mem_append.mp hc with hc | hc
          · exact hs c hc
          · exact h first List.mem_cons_self c hc
        · exact h content (List.mem_cons_of_mem _ hcontent) c hc

/-- Behind a tag nothing is derived that has a delimiter in a text. -/
theorem undelimited_assemble (hm : tokens.OneCharacter mark) {afterTag : Bool} {ps : List Piece}
    (h : Derivation mark afterTag ps) (hafter : afterTag = true) :
    Tree.Undelimited mark (Piece.assemble (.single mark) ps) := by
  induction h with
  | done => exact fun content hcontent => absurd hcontent List.not_mem_nil
  | text hc _ ih =>
    refine undelimited_joinText (fun d hd => ?_) (ih hafter)
    rw [List.mem_singleton.mp hd]
    exact hc.2
  | escape _ ih =>
    -- What an escape makes text here is the escape character, and that is neither delimiter.
    refine undelimited_joinText (fun d hd => ?_) (ih hafter)
    rw [List.mem_singleton.mp hd]
    exact ⟨hm.mark_ne (by decide), hm.mark_ne (by decide)⟩
  | delimiter => exact absurd hafter (by decide)
  | tag _ _ ih =>
    intro content hcontent
    rcases List.mem_cons.mp hcontent with heq | hcontent
    · exact absurd heq (by simp)
    · exact ih rfl content hcontent

/-- A tag in a tree with text in front was in the tree, with the same nodes behind it. -/
theorem eq_append_of_joinText {s : List Char} {tree before after : Tree} {t : Tag}
    (h : Piece.joinText s tree = before ++ .tag t :: after) :
    ∃ before', tree = before' ++ .tag t :: after := by
  cases s with
  | nil => exact ⟨before, (Piece.joinText_nil tree).symm.trans h⟩
  | cons c s =>
    -- The first node is text now, so the tag stands behind it.
    cases before with
    | nil =>
      cases tree with
      | nil => exact absurd (List.cons.inj h).1 (by simp)
      | cons node tree => cases node <;> exact absurd (List.cons.inj h).1 (by simp)
    | cons node before =>
      cases tree with
      | nil => exact absurd (List.cons.inj h).2 (by simp)
      | cons first tree =>
        cases first with
        | tag t' => exact ⟨before, (List.cons.inj h).2⟩
        | text content => exact ⟨.text content :: before, congrArg _ (List.cons.inj h).2⟩

theorem undelimited_behind_tag (hm : tokens.OneCharacter mark) {afterTag : Bool} {ps : List Piece}
    (h : Derivation mark afterTag ps) {before after : Tree} {t : Tag}
    (hsplit : Piece.assemble (.single mark) ps = before ++ .tag t :: after) :
    after.Undelimited mark := by
  induction h generalizing before with
  | done => exact absurd hsplit (by simp [Piece.assemble])
  | text _ _ ih => exact ih (eq_append_of_joinText hsplit).choose_spec
  | escape _ ih => exact ih (eq_append_of_joinText hsplit).choose_spec
  | delimiter _ _ ih => exact ih (eq_append_of_joinText hsplit).choose_spec
  | tag _ hps ih =>
    cases before with
    | nil =>
      rw [← (List.cons.inj hsplit).2]
      exact undelimited_assemble hm hps rfl
    | cons node before => exact ih (List.cons.inj hsplit).2

/-- The tree of a derivation is normal. -/
theorem normal_assemble (hm : tokens.OneCharacter mark) {ps : List Piece}
    (h : Derivation mark false ps) : Tree.Normal mark (Piece.assemble (.single mark) ps) := by
  have htidy := tidy_of_spelled ((spelled_iff_derivation hm).mpr h)
  exact {
    text_ne_empty := htidy.text_ne_empty
    apart := htidy.apart
    path_ne_nil := htidy.path_ne_nil
    segment := by
      intro t ht
      obtain ⟨w, hw, rfl⟩ := exists_tagDerivation hm h ht
      exact hw.path
    modifier := by
      intro t ht s hs
      obtain ⟨w, hw, rfl⟩ := exists_tagDerivation hm h ht
      obtain ⟨m, hmem, rfl⟩ := List.mem_map.mp hs
      exact hw.name m hmem
    undelimited := fun before t after hsplit => undelimited_behind_tag hm h hsplit }

/-! ## Normal trees are parsed -/

/-- A tree without its first node is normal. -/
theorem Tree.Normal.tail {node : Node} {tree : Tree} (h : Tree.Normal mark (node :: tree)) :
    Tree.Normal mark tree where
  text_ne_empty := fun content hcontent =>
    h.text_ne_empty content (List.mem_cons_of_mem node hcontent)
  apart := by
    cases tree with
    | nil => exact List.IsChain.nil
    | cons next tree => exact (List.isChain_cons_cons.mp h.apart).2
  path_ne_nil := fun t ht => h.path_ne_nil t (List.mem_cons_of_mem node ht)
  segment := fun t ht => h.segment t (List.mem_cons_of_mem node ht)
  modifier := fun t ht => h.modifier t (List.mem_cons_of_mem node ht)
  undelimited := fun before t after hsplit =>
    h.undelimited (node :: before) t after (by rw [hsplit, List.cons_append])

/-- The pieces of a normal tree stand for it. -/
theorem assemble_pieces (l : Literals) {tree : Tree} (h : Tree.Normal mark tree) :
    Piece.assemble l (Tree.pieces l tree) = tree := by
  induction tree with
  | nil => rfl
  | cons node tree ih =>
    have htree := ih h.tail
    rw [Tree.pieces] at htree
    rw [Tree.pieces, List.flatMap_cons]
    cases node with
    | tag t =>
      rw [Node.pieces, List.singleton_append, Piece.assemble, htree, WrittenTag.toTag_ofTag]
    | text content =>
      rw [Node.pieces, assemble_ofText_append, htree]
      have hne := mt String.toList_eq_nil_iff.mp (h.text_ne_empty content List.mem_cons_self)
      obtain ⟨c, s, hs⟩ := List.exists_cons_of_ne_nil hne
      have hcontent : String.ofList (c :: s) = content := by rw [← hs, String.ofList_toList]
      rw [hs]
      -- The text is joined to nothing, since what follows it is the end or a tag.
      cases tree with
      | nil => exact congrArg (Node.text · :: []) hcontent
      | cons next tree =>
        cases next with
        | tag t => exact congrArg (Node.text · :: .tag t :: tree) hcontent
        | text next =>
          exact absurd (List.isChain_cons_cons.mp h.apart).1 (by simp [Node.isText])

/-- A text is derived in front of what follows it, behind a tag only if it has no delimiters. -/
theorem derivation_ofText_append {afterTag : Bool} {ps : List Piece}
    (hps : Derivation mark afterTag ps) {s : List Char}
    (hs : afterTag = true → ∀ c ∈ s, c ≠ mark .tagOpen ∧ c ≠ mark .tagClose) :
    Derivation mark afterTag (Piece.ofText (.single mark) s ++ ps) := by
  induction s using text_induction (.single mark) with
  | nil => exact hps
  | char c s hliteral ih =>
    rw [ofText_cons _ hliteral]
    exact .text ((literalAt_single_eq_none_iff c s).mp hliteral)
      (ih fun hafter d hd => hs hafter d (List.mem_cons_of_mem c hd))
  | literal role s hliteral ih =>
    rw [ofText_append _ hliteral]
    have hrest := ih fun hafter d hd => hs hafter d (List.mem_append_right _ hd)
    have hmem : mark role ∈ (Literals.single mark).of role ++ s := List.mem_cons_self
    -- Behind a tag no delimiter can be derived, but then there is none in the text either.
    rcases literalAt_eq_some_iff.mp hliteral with ⟨rfl, -⟩ | ⟨rfl, -⟩ | ⟨rfl, -⟩
    · exact .escape hrest
    · cases afterTag with
      | false => exact .delimiter (Or.inl rfl) hrest
      | true => exact absurd rfl (hs rfl _ hmem).1
    · cases afterTag with
      | false => exact .delimiter (Or.inr rfl) hrest
      | true => exact absurd rfl (hs rfl _ hmem).2

/-- A tag with a path and names is derived when it is written without blanks. -/
theorem tagDerivation_ofTag {t : Tag} (hne : t.path ≠ [])
    (hpath : ∀ s ∈ t.path, IsSegment s.toList)
    (hmodifiers : ∀ s ∈ t.modifiers, IsModifierName s.toList) :
    TagDerivation (WrittenTag.ofTag t) where
  afterOpen := fun c hc => absurd hc List.not_mem_nil
  path_ne_nil := hne
  path := hpath
  afterPath := fun c hc => absurd hc List.not_mem_nil
  before := by
    intro m hm c hc
    obtain ⟨name, -, rfl⟩ := List.mem_map.mp hm
    exact absurd hc List.not_mem_nil
  name := by
    intro m hm
    obtain ⟨name, hname, rfl⟩ := List.mem_map.mp hm
    exact hmodifiers name hname
  after := by
    intro m hm c hc
    obtain ⟨name, -, rfl⟩ := List.mem_map.mp hm
    exact absurd hc List.not_mem_nil
  beforeClose := rfl

/-- The pieces of a normal tree are a derivation, behind a tag if no text has a delimiter. -/
theorem derivation_pieces {tree : Tree} (h : tree.Normal mark) {afterTag : Bool}
    (hafter : afterTag = true → tree.Undelimited mark) :
    Derivation mark afterTag (Tree.pieces (.single mark) tree) := by
  induction tree generalizing afterTag with
  | nil => exact .done
  | cons node tree ih =>
    rw [Tree.pieces, List.flatMap_cons]
    cases node with
    | text content =>
      refine derivation_ofText_append (ih h.tail fun htrue => ?_) fun htrue => ?_
      · exact fun other hother => hafter htrue other (List.mem_cons_of_mem _ hother)
      · exact hafter htrue content List.mem_cons_self
    | tag t =>
      refine .tag (tagDerivation_ofTag ?_ ?_ ?_) (ih h.tail fun _ => ?_)
      · exact h.path_ne_nil t List.mem_cons_self
      · exact h.segment t List.mem_cons_self
      · exact h.modifier t List.mem_cons_self
      · exact h.undelimited [] t tree rfl

/-- Texts are escaped character by character. -/
theorem writeAll_ofText_single (mark : Role → Char) (s : List Char) :
    Piece.writeAll (.single mark) (Piece.ofText (.single mark) s) =
      s.flatMap fun c =>
        if c = mark .escape ∨ c = mark .tagOpen ∨ c = mark .tagClose then [mark .escape, c]
        else [c] := by
  induction s using text_induction (.single mark) with
  | nil => rfl
  | char c s hliteral ih =>
    obtain ⟨he, ho, hc⟩ := (literalAt_single_eq_none_iff c s).mp hliteral
    rw [ofText_cons _ hliteral, Piece.writeAll_cons, ih, List.flatMap_cons, if_neg (by tauto)]
    rfl
  | literal role s hliteral ih =>
    have hmark : mark role = mark .escape ∨ mark role = mark .tagOpen ∨
        mark role = mark .tagClose := by
      rcases literalAt_eq_some_iff.mp hliteral with ⟨rfl, -⟩ | ⟨rfl, -⟩ | ⟨rfl, -⟩ <;> simp
    rw [ofText_append _ hliteral, Piece.writeAll_cons, ih]
    show _ = (mark role :: s).flatMap _
    rw [List.flatMap_cons, if_pos hmark]
    rfl

theorem writeAll_pieces_single (mark : Role → Char) (node : Node) :
    Piece.writeAll (.single mark) (node.pieces (.single mark)) = node.unparse mark := by
  cases node with
  | text content => exact writeAll_ofText_single mark content.toList
  | tag t =>
    simp [Node.pieces, Node.unparse, Piece.write, WrittenTag.write, WrittenTag.ofTag,
      WrittenModifier.write, Literals.single, List.flatMap_map]

/-- With literals of one character, a tree is printed node by node and character by character. -/
theorem print_single (mark : Role → Char) (tree : Tree) :
    Tree.print (.single mark) tree = tree.unparse mark := by
  rw [Tree.print, Tree.unparse, Tree.pieces, Piece.writeAll, List.flatMap_assoc]
  exact congrArg (fun write => String.ofList (tree.flatMap write))
    (funext (writeAll_pieces_single mark))

/-- **The image of the parser.** With literals of one character and the default blanks, the trees of
templates are the normal ones, and each of them is parsed back from the template written for it. -/
theorem exists_parse_iff_normal (h : tokens.OneCharacter mark) (tree : Tree) :
    ((∃ template, (Parser.mk tokens .blanks).parse template = .ok tree) ↔ tree.Normal mark) ∧
      (tree.Normal mark → (Parser.mk tokens .blanks).parse (tree.unparse mark) = .ok tree) := by
  have hunparse : tree.Normal mark →
      (Parser.mk tokens .blanks).parse (tree.unparse mark) = .ok tree := by
    intro hnormal
    refine (parse_eq_ok_iff h).mpr ⟨Tree.pieces (.single mark) tree, ?_, ?_, ?_⟩
    · exact derivation_pieces hnormal fun hfalse => absurd hfalse (by decide)
    · rw [← print_single, Tree.print, String.toList_ofList]
    · exact assemble_pieces _ hnormal
  refine ⟨⟨?_, fun hnormal => ⟨_, hunparse hnormal⟩⟩, hunparse⟩
  rintro ⟨template, hparse⟩
  obtain ⟨ps, hps, -, rfl⟩ := (parse_eq_ok_iff h).mp hparse
  exact normal_assemble h hps

theorem exists_parse_iff_normal_default :
    Tokens.default.OneCharacter Role.mark ∧
      Tree.Normal Role.mark [.text "a\x7b\\", .tag ⟨["a", "b"], ["up"]⟩, .text "c\\"] ∧
      Tree.unparse Role.mark [.text "a\x7b\\", .tag ⟨["a", "b"], ["up"]⟩, .text "c\\"] =
        "a\\\x7b\\\\\x7ba.b|up\x7dc\\\\" ∧
      (Parser.mk .default .blanks).parse
        (Tree.unparse Role.mark [.text "a\x7b\\", .tag ⟨["a", "b"], ["up"]⟩, .text "c\\"]) =
        .ok [.text "a\x7b\\", .tag ⟨["a", "b"], ["up"]⟩, .text "c\\"] := by
  obtain ⟨himage, hunparse⟩ := exists_parse_iff_normal oneCharacter_default
    [.text "a\x7b\\", .tag ⟨["a", "b"], ["up"]⟩, .text "c\\"]
  have hnormal := himage.mp ⟨"a\\\x7b\\\\\x7b a.b. | up\x7dc\\\\", by decide +kernel⟩
  exact ⟨oneCharacter_default, hnormal, by decide +kernel, hunparse hnormal⟩

end TagText
