import TagText.Proofs.Template.OneCharacter
import TagText.Proofs.Template.PieceTags

/-!
# The grammar of templates

With literals of one character and the default blanks a template can be read off a grammar that
mentions neither the scanner nor longest matches:

    template := (text | escape | tag)*
    text     := any character but the escape, opening and closing ones
    escape   := ESC ESC, or before the first tag also ESC OPEN and ESC CLOSE
    tag      := OPEN ws segment (SEP segment)* SEP? ws (MOD ws modifier ws)* CLOSE

A derivation is a list of pieces (`Derivation`), whose text is the template and whose tree is
`Piece.assemble`.

> `parse_eq_ok_iff_derives`: a template parses to a tree iff it derives that tree, and a template
> that derives none is an error.

The grammar looks at each part by itself, while the scanner takes the longest name and all blanks at
a place. That the two agree (`spelled_iff_derivation`) is a question of what may stand behind a
part: behind a name in a tag only a blank or one of three literals (`endsName_of_pathTail`), behind
blanks only a name, the closing literal or the mark of a modifier.
-/

namespace TagText

open Scan

/-- `ws modifier ws`, for what is written behind the mark of a modifier. -/
def WrittenModifier.Formed (m : WrittenModifier) : Prop :=
  (∀ c ∈ m.before, isBlank c = true) ∧ IsModifierName m.name.toList ∧
    ∀ c ∈ m.after, isBlank c = true

/-- `tag := OPEN ws segment (SEP segment)* SEP? ws (MOD ws modifier ws)* CLOSE`, for the parts of a
tag that has been written. The blanks behind the path or the last modifier are all there are before
the closing literal. -/
structure TagDerivation (t : WrittenTag) : Prop where
  afterOpen : ∀ c ∈ t.afterOpen, isBlank c = true
  path_ne_nil : t.path ≠ []
  path : ∀ s ∈ t.path, IsSegment s.toList
  afterPath : ∀ c ∈ t.afterPath, isBlank c = true
  before : ∀ m ∈ t.modifiers, ∀ c ∈ m.before, isBlank c = true
  name : ∀ m ∈ t.modifiers, IsModifierName m.name.toList
  after : ∀ m ∈ t.modifiers, ∀ c ∈ m.after, isBlank c = true
  beforeClose : t.beforeClose = []

theorem TagDerivation.formed {t : WrittenTag} (ht : TagDerivation t) :
    ∀ m ∈ t.modifiers, m.Formed :=
  fun m hm => ⟨ht.before m hm, ht.name m hm, ht.after m hm⟩

/-- A tag is derived by its path and its modifiers. -/
theorem TagDerivation.of_formed {t : WrittenTag} (hafterOpen : ∀ c ∈ t.afterOpen, isBlank c = true)
    (hne : t.path ≠ []) (hpath : ∀ s ∈ t.path, IsSegment s.toList)
    (hafterPath : ∀ c ∈ t.afterPath, isBlank c = true) (hms : ∀ m ∈ t.modifiers, m.Formed)
    (hclose : t.beforeClose = []) : TagDerivation t where
  afterOpen := hafterOpen
  path_ne_nil := hne
  path := hpath
  afterPath := hafterPath
  before m hm := (hms m hm).1
  name m hm := (hms m hm).2.1
  after m hm := (hms m hm).2.2
  beforeClose := hclose

/-- `template := (text | escape | tag)*`, for what is left of a template before (`false`) or behind
(`true`) its first tag. -/
inductive Derivation (mark : Role → Char) : (afterTag : Bool) → List Piece → Prop where
  | done {afterTag : Bool} : Derivation mark afterTag []
  | text {afterTag : Bool} {c : Char} {ps : List Piece}
      (hc : c ≠ mark .escape ∧ c ≠ mark .tagOpen ∧ c ≠ mark .tagClose)
      (hps : Derivation mark afterTag ps) : Derivation mark afterTag (.char c :: ps)
  | escape {afterTag : Bool} {ps : List Piece} (hps : Derivation mark afterTag ps) :
      Derivation mark afterTag (.escaped .escape :: ps)
  | delimiter {role : Role} {ps : List Piece} (hrole : role = .tagOpen ∨ role = .tagClose)
      (hps : Derivation mark false ps) : Derivation mark false (.escaped role :: ps)
  | tag {afterTag : Bool} {t : WrittenTag} {ps : List Piece} (htag : TagDerivation t)
      (hps : Derivation mark true ps) : Derivation mark afterTag (.tag t :: ps)

/-- A template is the text of a derivation, and the tree is the derivation's. -/
def Derives (mark : Role → Char) (template : String) (tree : Tree) : Prop :=
  ∃ ps, Derivation mark false ps ∧ Piece.writeAll (.single mark) ps = template.toList ∧
    Piece.assemble (.single mark) ps = tree

variable {tokens : Tokens} {mark : Role → Char} {rest : List Char}

/-! ## What is spelled is derived -/

theorem isSegment_of_tailSpelled {l : Literals} {path : List String} {trailing : Bool}
    (h : TailSpelled l rest path trailing) : ∀ s ∈ path, IsSegment s.toList := by
  induction h with
  | stop => exact fun s hs => absurd hs List.not_mem_nil
  | trailing => exact fun s hs => absurd hs List.not_mem_nil
  | segment hname _ ih =>
    intro s hs
    rcases List.mem_cons.mp hs with rfl | hs
    · exact Identifier.readsNames_segment.isName hname
    · exact ih s hs

theorem isSegment_of_pathSpelled {l : Literals} {path : List String} {trailing : Bool}
    (h : PathSpelled l rest path trailing) : path ≠ [] ∧ ∀ s ∈ path, IsSegment s.toList := by
  cases h with
  | @mk first path trailing hname htail =>
    refine ⟨List.cons_ne_nil first path, ?_⟩
    intro s hs
    rcases List.mem_cons.mp hs with rfl | hs
    · exact Identifier.readsNames_segment.isName hname
    · exact isSegment_of_tailSpelled htail s hs

/-- Whatever the literals and blanks are, the keys in the tags of a parsed template are segments. -/
theorem isSegment_of_parseWith {tokens : Tokens} {blank : List Char → Nat} {template : String}
    {tree : Tree} (h : parseWith tokens blank template = .ok tree) {tag : Tag}
    (htag : tag ∈ Tree.tags tree) : ∀ key ∈ tag.path, IsSegment key.toList := by
  obtain ⟨l, w, rest, hw, rfl⟩ := exists_tagSpelled_of_parseWith h htag
  exact (isSegment_of_pathSpelled hw.path).2

/-- Spelled modifiers have names, with blanks around them. -/
theorem forms_of_modifiersSpelled {l : Literals} {ms : List WrittenModifier}
    (h : ModifiersSpelled l Pattern.blanks.prefixLength rest ms) : ∀ m ∈ ms, m.Formed := by
  induction h with
  | stop => exact fun m hm => absurd hm List.not_mem_nil
  | modifier hbefore hname hafter _ ih =>
    intro m hm
    rcases List.mem_cons.mp hm with rfl | hm
    · exact ⟨(passes_blanks_iff.mp hbefore).1, Identifier.readsNames_modifier.isName hname,
        (passes_blanks_iff.mp hafter).1⟩
    · exact ih m hm

/-- The last modifier takes all blanks behind it. -/
theorem head_not_blank_of_modifiersSpelled {l : Literals} {ms : List WrittenModifier}
    (h : ModifiersSpelled l Pattern.blanks.prefixLength rest ms) (hne : ms ≠ []) {c : Char}
    (hc : rest.head? = some c) : isBlank c = false := by
  induction h with
  | stop => exact absurd rfl hne
  | @modifier m ms _ _ hafter _ ih =>
    cases ms with
    | nil => exact (passes_blanks_iff.mp hafter).2 c hc
    | cons m' ms => exact ih (List.cons_ne_nil m' ms)

/-- Behind a path and modifiers no blank is left. -/
theorem head_not_blank_behind_parts {l : Literals} {blanks : List Char} {ms : List WrittenModifier}
    (hblanks : Passes Pattern.blanks.prefixLength blanks
      (ms.flatMap (WrittenModifier.write l) ++ rest))
    (hms : ModifiersSpelled l Pattern.blanks.prefixLength rest ms) {c : Char}
    (hc : rest.head? = some c) : isBlank c = false := by
  cases ms with
  | nil => exact (passes_blanks_iff.mp hblanks).2 c hc
  | cons m ms => exact head_not_blank_of_modifiersSpelled hms (List.cons_ne_nil m ms) hc

theorem tagDerivation_of_tagSpelled {l : Literals} {t : WrittenTag}
    (h : TagSpelled l Pattern.blanks.prefixLength t rest) : TagDerivation t := by
  obtain ⟨hne, hpath⟩ := isSegment_of_pathSpelled h.path
  refine .of_formed (passes_blanks_iff.mp h.afterOpen).1 hne hpath
    (passes_blanks_iff.mp h.afterPath).1 (forms_of_modifiersSpelled h.modifiers) ?_
  cases hclose : t.beforeClose with
  | nil => rfl
  | cons c blanks =>
    -- A blank here would have been taken behind the path or behind the last modifier.
    have hblank : isBlank c = true := (passes_blanks_iff.mp h.beforeClose).1 c (by simp [hclose])
    have hhead : (t.fromClose l rest).head? = some c := by simp [WrittenTag.fromClose, hclose]
    have hnot := head_not_blank_behind_parts h.afterPath h.modifiers hhead
    rw [hblank] at hnot
    exact absurd hnot (by decide)

/-! ## What is derived is spelled -/

/-- The first character of two texts is one of the first text or, behind an empty one, the first of
the second. -/
theorem mem_or_head_of_append {w : List Char} {c : Char} (h : (w ++ rest).head? = some c) :
    c ∈ w ∨ rest.head? = some c := by
  cases w with
  | nil => exact Or.inr h
  | cons d w => exact Or.inl (Option.some.inj h ▸ List.mem_cons_self)

/-- Modifiers begin with their mark or are none. -/
theorem head_of_modifiers (ms : List WrittenModifier) {c : Char}
    (h : (ms.flatMap (WrittenModifier.write (.single mark)) ++ rest).head? = some c) :
    c = mark .tagModifier ∨ rest.head? = some c := by
  cases ms with
  | nil => exact Or.inr h
  | cons m ms => exact Or.inl (Option.some.inj h).symm

/-- What is left of a path begins with a separator or is empty. -/
theorem head_of_pathTail (path : List String) (trailing : Bool) {c : Char}
    (h : (pathTail (.single mark) path trailing ++ rest).head? = some c) :
    c = mark .tagPathSeparator ∨ rest.head? = some c := by
  cases path with
  | nil =>
    cases trailing with
    | false => exact Or.inr h
    | true => exact Or.inl (Option.some.inj h).symm
  | cons s path => exact Or.inl (Option.some.inj h).symm

theorem endsName_of_pathTail (h : tokens.OneCharacter mark) {path : List String} {trailing : Bool}
    (hrest : ∀ c, rest.head? = some c → EndsName c ∧ c ≠ mark .tagPathSeparator) {c : Char}
    (hc : (pathTail (.single mark) path trailing ++ rest).head? = some c) : EndsName c := by
  rcases head_of_pathTail path trailing hc with rfl | hc
  · exact h.endsName (by simp)
  · exact (hrest c hc).1

theorem not_blank_of_isName {x : Char → Bool} {w : List Char} (hw : IsName x w) {c : Char}
    (h : (w ++ rest).head? = some c) : isBlank c = false := by
  obtain ⟨a, r, rfl, ha⟩ := hw.exists_cons
  exact Option.some.inj h ▸ isBlank_of_isLower ha

theorem EndsName.of_modifier {c : Char} (h : EndsName c) :
    (c.isLower || c.isDigit) = false ∧ c ≠ '_' := by
  refine ⟨?_, h.2⟩
  have halnum := h.1
  rw [Identifier.isAlphanum_eq, Bool.or_eq_false_iff, Bool.or_eq_false_iff] at halnum
  rw [halnum.1.2, halnum.2, Bool.or_false]

/-- Behind a path stands what ends a name, is no blank and separates no segments. -/
theorem head_of_fromModifiers (h : tokens.OneCharacter mark) {t : WrittenTag}
    (hclose : t.beforeClose = []) {c : Char}
    (hc : (t.fromModifiers (.single mark) rest).head? = some c) :
    EndsName c ∧ isBlank c = false ∧ c ≠ mark .tagPathSeparator := by
  rw [WrittenTag.fromModifiers, WrittenTag.fromClose, hclose] at hc
  rcases head_of_modifiers t.modifiers hc with rfl | hc
  · exact ⟨h.endsName (by simp), h.not_blank (by simp), h.mark_ne (by decide)⟩
  · obtain rfl := Option.some.inj hc
    exact ⟨h.endsName (by simp), h.not_blank (by simp), h.mark_ne (by decide)⟩

/-- Of modifiers in front of what ends a name and is no blank, each ends where the next one or that
begins. -/
theorem head_behind_modifiers (h : tokens.OneCharacter mark) (ms : List WrittenModifier)
    (hrest : ∀ c, rest.head? = some c → EndsName c ∧ isBlank c = false) {c : Char}
    (hc : (ms.flatMap (WrittenModifier.write (.single mark)) ++ rest).head? = some c) :
    EndsName c ∧ isBlank c = false := by
  rcases head_of_modifiers ms hc with rfl | hc
  · exact ⟨h.endsName (by simp), h.not_blank (by simp)⟩
  · exact hrest c hc

/-- A modifier is taken whole in front of what ends a name and is no blank. -/
theorem taken_of_formed {m : WrittenModifier} (hm : m.Formed)
    (hrest : ∀ c, rest.head? = some c → EndsName c ∧ isBlank c = false) :
    Passes Pattern.blanks.prefixLength m.before (m.name.toList ++ (m.after ++ rest)) ∧
      Identifier.modifier.Takes m.name.toList (m.after ++ rest) ∧
      Passes Pattern.blanks.prefixLength m.after rest := by
  obtain ⟨hbefore, hname, hafter⟩ := hm
  refine ⟨?_, ?_, ?_⟩
  · exact passes_blanks_iff.mpr ⟨hbefore, fun c hc => not_blank_of_isName hname hc⟩
  · refine Identifier.readsNames_modifier.takes hname fun c hc => EndsName.of_modifier ?_
    rcases mem_or_head_of_append hc with hc | hc
    · exact endsName_of_isBlank (hafter c hc)
    · exact (hrest c hc).1
  · exact passes_blanks_iff.mpr ⟨hafter, fun c hc => (hrest c hc).2⟩

theorem modifiersSpelled_of_forms (h : tokens.OneCharacter mark) {ms : List WrittenModifier}
    (hforms : ∀ m ∈ ms, m.Formed) :
    ModifiersSpelled (.single mark) Pattern.blanks.prefixLength (mark .tagClose :: rest) ms := by
  have hclose : ∀ c, (mark .tagClose :: rest).head? = some c → EndsName c ∧ isBlank c = false :=
    fun c hc => Option.some.inj hc ▸ ⟨h.endsName (by simp), h.not_blank (by simp)⟩
  induction ms with
  | nil =>
    refine .stop (starts_single_eq_false fun c hc => ?_)
    rw [← Option.some.inj hc]
    exact h.mark_ne (by decide)
  | cons m ms ih =>
    obtain ⟨hm, hms⟩ := List.forall_mem_cons.mp hforms
    obtain ⟨hbefore, hname, hafter⟩ :=
      taken_of_formed hm fun c hc => head_behind_modifiers h ms hclose hc
    exact .modifier hbefore hname hafter (ih hms)

/-- Segments with separators between them are a path in front of what neither goes on a name nor
separates. -/
theorem tailSpelled_of_segments (h : tokens.OneCharacter mark) {path : List String}
    (hpath : ∀ s ∈ path, IsSegment s.toList) (trailing : Bool)
    (hrest : ∀ c, rest.head? = some c → EndsName c ∧ c ≠ mark .tagPathSeparator) :
    TailSpelled (.single mark) rest path trailing := by
  have hsep : (Literals.single mark).starts .tagPathSeparator rest = false :=
    starts_single_eq_false fun c hc => (hrest c hc).2
  induction path with
  | nil =>
    cases trailing with
    | false => exact .stop hsep
    | true =>
      refine .trailing ?_ hsep
      cases rest with
      | nil => exact Identifier.readsNames_segment.eq_zero_nil
      | cons c rest =>
        have hmodifier := (hrest c rfl).1.of_modifier.1
        exact Identifier.readsNames_segment.eq_zero_cons (Bool.or_eq_false_iff.mp hmodifier).1
  | cons s path ih =>
    refine .segment ?_ (ih fun s' hs' => hpath s' (List.mem_cons_of_mem s hs'))
    exact Identifier.readsNames_segment.takes (hpath s List.mem_cons_self) fun c hc =>
      endsName_of_pathTail h hrest hc

theorem pathSpelled_of_segments (h : tokens.OneCharacter mark) {path : List String}
    (hne : path ≠ []) (hpath : ∀ s ∈ path, IsSegment s.toList) (trailing : Bool)
    (hrest : ∀ c, rest.head? = some c → EndsName c ∧ c ≠ mark .tagPathSeparator) :
    PathSpelled (.single mark) rest path trailing := by
  obtain ⟨s, path, rfl⟩ := List.exists_cons_of_ne_nil hne
  obtain ⟨hs, hpath⟩ := List.forall_mem_cons.mp hpath
  refine .mk ?_ (tailSpelled_of_segments h hpath trailing hrest)
  exact Identifier.readsNames_segment.takes hs fun c hc => endsName_of_pathTail h hrest hc

/-- A path does not begin with a blank. -/
theorem head_of_pathText {path : List String} (hne : path ≠ [])
    (hpath : ∀ s ∈ path, IsSegment s.toList) {trailing : Bool} {c : Char}
    (hc : (pathText (.single mark) path trailing ++ rest).head? = some c) : isBlank c = false := by
  obtain ⟨s, path, rfl⟩ := List.exists_cons_of_ne_nil hne
  rw [pathText_cons, List.append_assoc] at hc
  exact not_blank_of_isName (hpath s List.mem_cons_self) hc

/-- Blanks behind a path end its last name too. -/
theorem head_behind_blanks (h : tokens.OneCharacter mark) {blanks : List Char}
    (hblanks : ∀ c ∈ blanks, isBlank c = true)
    (hrest : ∀ c, rest.head? = some c → EndsName c ∧ c ≠ mark .tagPathSeparator) {c : Char}
    (hc : (blanks ++ rest).head? = some c) : EndsName c ∧ c ≠ mark .tagPathSeparator := by
  rcases mem_or_head_of_append hc with hc | hc
  · have hblank := hblanks c hc
    refine ⟨endsName_of_isBlank hblank, ?_⟩
    rintro rfl
    rw [h.not_blank (by simp)] at hblank
    exact absurd hblank (by decide)
  · exact hrest c hc

theorem tagSpelled_of_tagDerivation (h : tokens.OneCharacter mark) {t : WrittenTag}
    (ht : TagDerivation t) : TagSpelled (.single mark) Pattern.blanks.prefixLength t rest where
  afterOpen := passes_blanks_iff.mpr
    ⟨ht.afterOpen, fun _ hc => head_of_pathText ht.path_ne_nil ht.path hc⟩
  path := by
    refine pathSpelled_of_segments h ht.path_ne_nil ht.path _ fun c hc => ?_
    refine head_behind_blanks h ht.afterPath (fun c hc => ?_) hc
    obtain ⟨hends, -, hsep⟩ := head_of_fromModifiers h ht.beforeClose hc
    exact ⟨hends, hsep⟩
  afterPath := passes_blanks_iff.mpr
    ⟨ht.afterPath, fun _ hc => (head_of_fromModifiers h ht.beforeClose hc).2.1⟩
  modifiers := by
    rw [WrittenTag.fromClose, ht.beforeClose]
    exact modifiersSpelled_of_forms h ht.formed
  beforeClose := by
    rw [ht.beforeClose]
    refine passes_blanks_iff.mpr ⟨fun c hc => absurd hc List.not_mem_nil, fun c hc => ?_⟩
    rw [← Option.some.inj hc]
    exact h.not_blank (by simp)

/-- With literals of one character and the default blanks, the pieces that are read as they are
spelled are the derivations. -/
theorem spelled_iff_derivation (h : tokens.OneCharacter mark) {afterTag : Bool} {ps : List Piece} :
    Spelled (.single mark) Pattern.blanks.prefixLength afterTag ps ↔
      Derivation mark afterTag ps := by
  constructor
  · intro hps
    induction hps with
    | done => exact .done
    | char hliteral _ ih => exact .text ((literalAt_single_eq_none_iff _ _).mp hliteral) ih
    | @escaped afterTag role ps hliteral hplace _ ih =>
      -- `hplace` leaves the delimiters only where no tag stands before.
      rcases literalAt_eq_some_iff.mp hliteral with ⟨rfl, -⟩ | ⟨rfl, -⟩ | ⟨rfl, -⟩
      · exact .escape ih
      · obtain rfl := hplace.resolve_left (by decide)
        exact .delimiter (Or.inl rfl) ih
      · obtain rfl := hplace.resolve_left (by decide)
        exact .delimiter (Or.inr rfl) ih
    | tag _ htag _ ih => exact .tag (tagDerivation_of_tagSpelled htag) ih
  · intro hps
    induction hps with
    | done => exact .done
    | text hc _ ih => exact .char ((literalAt_single_eq_none_iff _ _).mpr hc) ih
    | escape _ ih => exact .escaped (literalAt_single_mark h _ _ (by simp)) (Or.inl rfl) ih
    | delimiter hrole _ ih =>
      exact .escaped (literalAt_single_mark h _ _ (Or.inr hrole)) (Or.inr rfl) ih
    | tag htag _ ih =>
      exact .tag (literalAt_single_mark h .tagOpen _ (by simp)) (tagSpelled_of_tagDerivation h htag)
        ih

/-- What a parser with such tokens gives is what the grammar derives. -/
theorem parse_eq_ok_iff (h : tokens.OneCharacter mark) {template : String} {tree : Tree} :
    (Parser.mk tokens .blanks).parse template = .ok tree ↔ Derives mark template tree := by
  rw [Parser.parse, Matcher.prefixLength_blanks, parseWith_eq_ok_iff h.get_ne_empty, h.literals_eq]
  simp only [spelled_iff_derivation h, Derives]

/-- **The parser accepts its grammar.** With literals of one character and the default blanks, a
template parses to a tree iff it derives that tree, and every other template is an error. -/
theorem parse_eq_ok_iff_derives (h : tokens.OneCharacter mark) (template : String) :
    (∀ tree, (Parser.mk tokens .blanks).parse template = .ok tree ↔ Derives mark template tree) ∧
      ((¬∃ tree, Derives mark template tree) →
        ∃ e, (Parser.mk tokens .blanks).parse template = .error e) := by
  refine ⟨fun tree => parse_eq_ok_iff h, ?_⟩
  intro hnone
  cases hparse : (Parser.mk tokens .blanks).parse template with
  | error e => exact ⟨e, rfl⟩
  | ok tree => exact absurd ⟨tree, (parse_eq_ok_iff h).mp hparse⟩ hnone

theorem parse_eq_ok_iff_derives_default :
    Tokens.default.OneCharacter Role.mark ∧
      Parser.default.parse "x\\\x7b\x7b a.b. |up | trim\x7d\\\\" =
        .ok [.text "x\x7b", .tag ⟨["a", "b"], ["up", "trim"]⟩, .text "\\"] ∧
      Derives Role.mark "x\\\x7b\x7b a.b. |up | trim\x7d\\\\"
        [.text "x\x7b", .tag ⟨["a", "b"], ["up", "trim"]⟩, .text "\\"] := by
  have hparse : Parser.default.parse "x\\\x7b\x7b a.b. |up | trim\x7d\\\\" =
      .ok [.text "x\x7b", .tag ⟨["a", "b"], ["up", "trim"]⟩, .text "\\"] := by
    decide +kernel
  exact ⟨oneCharacter_default, hparse,
    ((parse_eq_ok_iff_derives oneCharacter_default _).1 _).mp hparse⟩

end TagText
