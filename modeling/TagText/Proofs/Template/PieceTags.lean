import TagText.Proofs.Template.TemplateReading

/-!
# The tags of a template are those of its pieces

Text never hides a tag or adds one, so the tags of the tree of pieces are the tags that the pieces
mean, in their order (`tags_assemble`). With literals of any form and any matcher of blanks, every
tag of a parsed template was therefore written and read as one:

> `exists_tagSpelled_of_parseWith`: each tag of the tree is what some tag spelled in the template
> means, so it has a path (`path_ne_nil_of_parseWith`).
-/

namespace TagText

open Scan

/-- The tag that a piece means, if it is one. -/
def Piece.tag? : Piece → Option Tag
  | .char _ => none
  | .escaped _ => none
  | .tag t => some t.toTag

/-- Text in front of a tree adds no tag. -/
theorem tags_joinText (s : List Char) (tree : Tree) :
    Tree.tags (Piece.joinText s tree) = Tree.tags tree := by
  cases s with
  | nil => rw [Piece.joinText_nil]
  | cons c s =>
    cases tree with
    | nil => rfl
    | cons node tree => cases node <;> rfl

theorem tags_assemble (l : Literals) (ps : List Piece) :
    Tree.tags (Piece.assemble l ps) = ps.filterMap Piece.tag? := by
  induction ps with
  | nil => rfl
  | cons p ps ih =>
    cases p with
    | char c => rw [Piece.assemble, tags_joinText, ih]; rfl
    | escaped role => rw [Piece.assemble, tags_joinText, ih]; rfl
    | tag t =>
      show t.toTag :: Tree.tags (Piece.assemble l ps) = t.toTag :: ps.filterMap Piece.tag?
      rw [ih]

variable {l : Literals} {blank : List Char → Nat}

/-- A tag among spelled pieces is spelled in front of the text behind it. -/
theorem exists_tagSpelled {afterTag : Bool} {ps : List Piece} (h : Spelled l blank afterTag ps)
    {w : WrittenTag} (hw : .tag w ∈ ps) : ∃ rest, TagSpelled l blank w rest := by
  induction h with
  | done => exact absurd hw List.not_mem_nil
  | char _ _ ih => exact ih ((List.mem_cons.mp hw).resolve_left (by simp))
  | escaped _ _ _ ih => exact ih ((List.mem_cons.mp hw).resolve_left (by simp))
  | tag _ htag _ ih =>
    rcases List.mem_cons.mp hw with heq | hw
    · exact Piece.tag.inj heq ▸ ⟨_, htag⟩
    · exact ih hw

/-- So is every tag of their tree. -/
theorem exists_tagSpelled_of_mem_tags {afterTag : Bool} {ps : List Piece}
    (h : Spelled l blank afterTag ps) {t : Tag} (ht : t ∈ Tree.tags (Piece.assemble l ps)) :
    ∃ w rest, TagSpelled l blank w rest ∧ w.toTag = t := by
  rw [tags_assemble, List.mem_filterMap] at ht
  obtain ⟨p, hp, hpt⟩ := ht
  cases p with
  | char c => exact absurd hpt (by simp [Piece.tag?])
  | escaped role => exact absurd hpt (by simp [Piece.tag?])
  | tag w =>
    obtain ⟨rest, hw⟩ := exists_tagSpelled h hp
    exact ⟨w, rest, hw, Option.some.inj hpt⟩

/-- A template is parsed only with literals that are not empty. -/
theorem get_ne_empty_of_parseWith {tokens : Tokens} {template : String} {tree : Tree}
    (h : parseWith tokens blank template = .ok tree) : ∀ role, tokens.get role ≠ "" := by
  apply Tokens.firstEmpty?_eq_none_iff.mp
  cases hfirst : tokens.firstEmpty? with
  | none => rfl
  | some role =>
    rw [parseWith_of_firstEmpty? hfirst] at h
    exact absurd h (by simp)

/-- Every tag of a parsed template is spelled there. -/
theorem exists_tagSpelled_of_parseWith {tokens : Tokens} {template : String} {tree : Tree}
    (h : parseWith tokens blank template = .ok tree) {t : Tag} (ht : t ∈ Tree.tags tree) :
    ∃ l w rest, TagSpelled l blank w rest ∧ w.toTag = t := by
  have hne := get_ne_empty_of_parseWith h
  obtain ⟨ps, hps, -, rfl⟩ := (parseWith_eq_ok_iff hne).mp h
  exact ⟨_, exists_tagSpelled_of_mem_tags hps ht⟩

/-- Every tag of a parsed template has a path. -/
theorem path_ne_nil_of_parseWith {tokens : Tokens} {template : String} {tree : Tree}
    (h : parseWith tokens blank template = .ok tree) {t : Tag} (ht : t ∈ Tree.tags tree) :
    t.path ≠ [] := by
  obtain ⟨l, w, rest, hw, rfl⟩ := exists_tagSpelled_of_parseWith h ht
  exact hw.path_ne_nil

end TagText
