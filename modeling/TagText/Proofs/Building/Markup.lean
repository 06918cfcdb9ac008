import TagText.Proofs.Building.Readiness
import TagText.Proofs.Encoding.Entities

/-!
# No value brings markup into HTML

Escaping writes every character by itself (`encodeHtml_eq_flatMap`), so what is inserted for a tag is
`Inert`: it has no angle bracket and no quote, and every ampersand in it begins an entity. Text nodes
are put out as they stand, hence:

> `markup_of_buildHtml`: two HTML texts of one template have the same brackets and quotes, in the
> same order, which are those of the text in the template, whatever the values, the modifiers, the
> formatter and the objects are.
-/

namespace TagText

/-! ## Markup -/

/-- The angle brackets and the two quotes. -/
def isMarkup (c : Char) : Bool := c == '<' || c == '>' || c == '"' || c == '\''

/-- The brackets and quotes of a text, in their order. -/
def markup (text : String) : List Char := text.toList.filter isMarkup

/-- What may stand for the ampersand and for the characters of markup. -/
def entities : List (List Char) :=
  ["&amp;".toList, "&lt;".toList, "&gt;".toList, "&quot;".toList, "&apos;".toList]

/-- No character of markup is in the text, and each ampersand begins an entity. -/
structure Inert (s : List Char) : Prop where
  isMarkup_eq : ∀ c ∈ s, isMarkup c = false
  entity : ∀ before after, s = before ++ '&' :: after → ∃ e ∈ entities, e <+: '&' :: after

namespace Inert

variable {s t : List Char} {c : Char}

theorem nil : Inert [] where
  isMarkup_eq _ hc := absurd hc List.not_mem_nil
  entity before after h := absurd h.symm (by simp)

theorem append (hs : Inert s) (ht : Inert t) : Inert (s ++ t) where
  isMarkup_eq c hc := (List.mem_append.mp hc).elim (hs.isMarkup_eq c) (ht.isMarkup_eq c)
  entity before after h := by
    rcases List.append_eq_append_iff.mp h with ⟨back, rfl, hback⟩ | ⟨front, rfl, hfront⟩
    · exact ht.entity back after hback
    · cases front with
      | nil => exact ht.entity [] after hfront.symm
      | cons d front =>
        obtain ⟨rfl, rfl⟩ := List.cons.inj hfront
        obtain ⟨e, he, hleading⟩ := hs.entity before front rfl
        exact ⟨e, he, hleading.trans (List.prefix_append _ t)⟩

theorem flatMap {f : Char → List Char} (h : ∀ c, Inert (f c)) (s : List Char) :
    Inert (s.flatMap f) := by
  induction s with
  | nil => exact nil
  | cons c s ih => exact (h c).append ih

/-- A character that is no ampersand and no markup stands for itself. -/
theorem singleton (hc : isMarkup c = false) (hamp : c ≠ '&') : Inert [c] where
  isMarkup_eq d hd := List.mem_singleton.mp hd ▸ hc
  entity before after h := by
    have hmem : '&' ∈ [c] := h ▸ List.mem_append_right before List.mem_cons_self
    exact absurd (List.mem_singleton.mp hmem).symm hamp

/-- The only ampersand of an entity is the one at its front. -/
theorem of_mem_entities (hs : s ∈ entities) : Inert s := by
  have hform : ∀ e ∈ entities, e.head? = some '&' ∧ '&' ∉ e.tail ∧ e.all (!isMarkup ·) = true := by
    decide
  obtain ⟨-, htail, hmarkup⟩ := hform s hs
  refine ⟨fun c hc => by simpa using List.all_eq_true.mp hmarkup c hc, ?_⟩
  rintro before after rfl
  cases before with
  | nil => exact ⟨_, hs, List.prefix_rfl⟩
  | cons c before => exact absurd (List.mem_append_right before List.mem_cons_self) htail

end Inert

/-! ## Escaped text -/

namespace Encoding

theorem inert_htmlForm (c : Char) : Inert (htmlForm c) := by
  unfold htmlForm
  split_ifs with hamp hlt hgt hquot hapos
  case neg => exact .singleton (by simp [isMarkup, hlt, hgt, hquot, hapos]) hamp
  all_goals exact .of_mem_entities (by decide)

theorem inert_encode_html (text : String) : Inert (encode .html text).toList := by
  rw [encode, String.toList_ofList, encodeHtml_eq_flatMap]
  exact Inert.flatMap inert_htmlForm text.toList

end Encoding

/-! ## The parts of an HTML text -/

/-- What a node puts into an HTML text: text puts in itself, and a tag something inert. -/
inductive Node.HtmlPart : Node → String → Prop where
  | text (content : String) : HtmlPart (.text content) content
  | tag (tag : Tag) {part : String} (hinert : Inert part.toList) : HtmlPart (.tag tag) part

/-- The text in a tree, without what stands for its tags. -/
def Tree.plainText (tree : Tree) : String := String.join (tree.filterMap Node.text?)

theorem Tree.plainText_text (content : String) (tree : Tree) :
    Tree.plainText (.text content :: tree) = content ++ Tree.plainText tree :=
  String.join_cons

theorem markup_append (s t : String) : markup (s ++ t) = markup s ++ markup t := by
  rw [markup, String.toList_append, List.filter_append]
  rfl

theorem markup_eq_nil_of_inert {part : String} (h : Inert part.toList) : markup part = [] :=
  List.filter_eq_nil_iff.mpr fun c hc => by simp [h.isMarkup_eq c hc]

/-- Parts that stand for the nodes of a tree have the markup of its text. -/
theorem markup_join_of_htmlParts {tree : Tree} {parts : List String}
    (h : List.Forall₂ Node.HtmlPart tree parts) :
    markup (String.join parts) = markup (Tree.plainText tree) := by
  induction h with
  | nil => rfl
  | @cons node part tree parts hpart _ ih =>
    rw [String.join_cons, markup_append, ih]
    cases hpart with
    | text => rw [Tree.plainText_text, markup_append]
    | tag tag hinert => rw [markup_eq_nil_of_inert hinert]; rfl

variable {objects : Objects}

theorem Renderer.htmlPart_of_renderNode {r : Renderer} {store : Store} {node : Node} {part : String}
    (h : r.renderNode objects store (some Encoding.html.encode) node = .ok part) :
    node.HtmlPart part := by
  cases node with
  | text content => exact Except.ok.inj h ▸ .text content
  | tag tag =>
    obtain ⟨text, -, rfl⟩ := renderNode_tag_eq_ok_iff.mp h
    exact .tag tag (Encoding.inert_encode_html text)

/-- An HTML text is that of the template with something inert for every tag. -/
theorem Builder.exists_htmlParts {b : Builder} {template : String} {extra : Entries} {text : String}
    (h : b.buildHtml objects template extra = .ok text) :
    ∃ tree, b.parser.parse template = .ok tree ∧
      ∃ parts, List.Forall₂ Node.HtmlPart tree parts ∧ text = String.join parts := by
  change b.build objects template extra (some Encoding.html.encode) = .ok text at h
  cases hparse : b.parser.parse template with
  | error fault =>
    rw [build_of_parse_error hparse] at h
    exact absurd h (by simp)
  | ok tree =>
    obtain ⟨parts, hparts, rfl⟩ :=
      Renderer.renderOnto_eq_ok_iff.mp ((build_eq_ok_iff hparse).mp h)
    refine ⟨tree, rfl, parts, ?_, String.empty_append⟩
    exact hparts.imp fun node part => Renderer.htmlPart_of_renderNode

/-- **No value brings markup into HTML.** Two HTML texts of one template have the same brackets and
quotes in the same order, those of the text in the template. Each of them is the text nodes in their
order with one inert text for every tag. The two may be built with different values, modifiers,
formatters and objects. -/
theorem markup_of_buildHtml {objects objects' : Objects} {b b' : Builder}
    (hparser : b'.parser = b.parser) {template : String} {extra extra' : Entries}
    {text text' : String} (h : b.buildHtml objects template extra = .ok text)
    (h' : b'.buildHtml objects' template extra' = .ok text') :
    ∃ tree, b.parser.parse template = .ok tree ∧
      markup text' = markup text ∧ markup text = markup (Tree.plainText tree) ∧
      (∃ parts, List.Forall₂ Node.HtmlPart tree parts ∧ text = String.join parts) ∧
      ∃ parts, List.Forall₂ Node.HtmlPart tree parts ∧ text' = String.join parts := by
  obtain ⟨tree, hparse, parts, hparts, rfl⟩ := Builder.exists_htmlParts h
  obtain ⟨tree', hparse', parts', hparts', rfl⟩ := Builder.exists_htmlParts h'
  rw [hparser, hparse] at hparse'
  obtain rfl := Except.ok.inj hparse'
  have hmarkup := markup_join_of_htmlParts hparts
  exact ⟨tree, hparse, (markup_join_of_htmlParts hparts').trans hmarkup.symm, hmarkup,
    ⟨parts, hparts, rfl⟩, parts', hparts', rfl⟩

/-- A value that is itself HTML, and the same template with a list, which is written as JSON. -/
theorem markup_of_buildHtml_script :
    Builder.default.buildHtml .none "<p title=\"\x7b\x7b a \x7d\x7d\">" [("a", .string "\"><b>&lt;")] =
        .ok "<p title=\"&quot;&gt;&lt;b&gt;&amp;lt;\">" ∧
      Builder.default.buildHtml .none "<p title=\"\x7b\x7b a \x7d\x7d\">" [("a", .list [.string "'"])] =
        .ok "<p title=\"[&quot;&apos;&quot;]\">" ∧
      markup "<p title=\"&quot;&gt;&lt;b&gt;&amp;lt;\">" =
        markup "<p title=\"[&quot;&apos;&quot;]\">" := by
  have hstring : Builder.default.buildHtml .none "<p title=\"\x7b\x7b a \x7d\x7d\">"
      [("a", .string "\"><b>&lt;")] = .ok "<p title=\"&quot;&gt;&lt;b&gt;&amp;lt;\">" := by
    decide +kernel
  have hlist : Builder.default.buildHtml .none "<p title=\"\x7b\x7b a \x7d\x7d\">"
      [("a", .list [.string "'"])] = .ok "<p title=\"[&quot;&apos;&quot;]\">" := by
    decide +kernel
  obtain ⟨tree, -, hsame, -⟩ := markup_of_buildHtml rfl hlist hstring
  exact ⟨hstring, hlist, hsame⟩

end TagText
