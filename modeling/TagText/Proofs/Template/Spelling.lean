import TagText.Proofs.Template.Identifier
import TagText.Template.Piece

/-!
# How pieces are spelled

A list of pieces has a text (`Piece.writeAll`), but the scanner does not read every such text back
as the same pieces: literals may overlap, a name may go on into what follows it, and blanks are
whatever the matcher of blanks says they are at their place. `Spelled` tells when it does. It is a
judgment over the pieces that looks at the whole text behind each of them, and knows nothing of the
scanner's states:

- a character that stands for itself has none of the escape, opening and closing literals at its
  place (`literalAt`);
- an escaped literal is the first of the three at its place, and a delimiter is escaped only before
  the first tag;
- the parts of a tag are what the two name patterns and the matcher of blanks take there.

The parts of a tag are judged by `PathSpelled`, `ModifiersSpelled` and `TagSpelled`. All of them
are about literals of any length.
-/

namespace TagText

open Scan

/-! ## Literals at a place -/

section
variable (l : Literals) (role : Role) (rest : List Char)

theorem starts_append : l.starts role (l.of role ++ rest) = true :=
  List.isPrefixOf_iff_prefix.mpr (List.prefix_append _ _)

theorem skip_append : l.skip role (l.of role ++ rest) = rest := by
  simp [Literals.skip]

theorem starts_nil : l.starts role [] = false := by
  cases h : l.of role with
  | nil => exact absurd h (l.of_ne_nil role)
  | cons c s => simp [Literals.starts, h]

end

theorem starts_eq_true_iff {l : Literals} {role : Role} {s : List Char} :
    l.starts role s = true ↔ ∃ rest, s = l.of role ++ rest := by
  rw [Literals.starts, List.isPrefixOf_iff_prefix]
  exact ⟨fun ⟨rest, h⟩ => ⟨rest, h.symm⟩, fun ⟨rest, h⟩ => ⟨rest, h.symm⟩⟩

theorem prefix_iff_starts {l : Literals} {role : Role} {s : List Char} :
    l.of role <+: s ↔ l.starts role s = true :=
  List.isPrefixOf_iff_prefix.symm

theorem not_prefix_iff_starts {l : Literals} {role : Role} {s : List Char} :
    ¬l.of role <+: s ↔ l.starts role s = false := by
  rw [prefix_iff_starts, Bool.not_eq_true]

/-- Which of the three literals that mean something outside a tag stands at the front of `s`: of
several the escape literal, else the opening one. -/
def literalAt (l : Literals) (s : List Char) : Option Role :=
  [Role.escape, .tagOpen, .tagClose].find? (l.starts · s)

theorem literalAt_eq_none_iff {l : Literals} {s : List Char} :
    literalAt l s = none ↔ l.starts .escape s = false ∧ l.starts .tagOpen s = false ∧
      l.starts .tagClose s = false := by
  simp [literalAt]

theorem literalAt_eq_none_iff_forall {l : Literals} {s : List Char} :
    literalAt l s = none ↔
      ∀ role, role = .escape ∨ role = .tagOpen ∨ role = .tagClose → ¬l.of role <+: s := by
  simp only [literalAt_eq_none_iff, not_prefix_iff_starts]
  constructor
  · rintro ⟨hescape, hopen, hclose⟩ role (rfl | rfl | rfl)
    · exact hescape
    · exact hopen
    · exact hclose
  · exact fun h => ⟨h _ (by simp), h _ (by simp), h _ (by simp)⟩

theorem literalAt_eq_some_iff {l : Literals} {s : List Char} {role : Role} :
    literalAt l s = some role ↔
      role = .escape ∧ l.starts .escape s = true ∨
      role = .tagOpen ∧ l.starts .escape s = false ∧ l.starts .tagOpen s = true ∨
      role = .tagClose ∧ l.starts .escape s = false ∧ l.starts .tagOpen s = false ∧
        l.starts .tagClose s = true := by
  simp only [literalAt, List.find?_cons, List.find?_nil]
  cases l.starts .escape s <;> cases l.starts .tagOpen s <;> cases l.starts .tagClose s <;>
    simp [eq_comm]

theorem starts_of_literalAt {l : Literals} {s : List Char} {role : Role}
    (h : literalAt l s = some role) : l.starts role s = true :=
  List.find?_some (p := (l.starts · s)) h

/-- No literal stands at the end of a text. -/
theorem ne_nil_of_literalAt {l : Literals} {s : List Char} {role : Role}
    (h : literalAt l s = some role) : s ≠ [] := by
  rintro rfl
  have hstarts := starts_of_literalAt h
  rw [starts_nil] at hstarts
  exact absurd hstarts (by decide)

/-! ## Blanks -/

/-- `w` is what `blank` passes over in front of `w ++ rest`. -/
def Passes (blank : List Char → Nat) (w rest : List Char) : Prop :=
  (w ++ rest).take (blank (w ++ rest)) = w

theorem skipBlank_of_passes {blank : List Char → Nat} {w rest : List Char}
    (h : Passes blank w rest) : skipBlank blank (w ++ rest) = rest := by
  have hsplit := List.take_append_drop (blank (w ++ rest)) (w ++ rest)
  rw [show (w ++ rest).take (blank (w ++ rest)) = w from h] at hsplit
  exact List.append_cancel_left hsplit

theorem skipBlank_suffix (blank : List Char → Nat) (s : List Char) : skipBlank blank s <:+ s :=
  List.drop_suffix _ _

/-- Whatever is ahead, it is the blanks that are passed over and the rest. -/
theorem exists_passes (blank : List Char → Nat) (ahead : List Char) :
    ∃ w, ahead = w ++ skipBlank blank ahead ∧ Passes blank w (skipBlank blank ahead) := by
  have hsplit : ahead.take (blank ahead) ++ skipBlank blank ahead = ahead :=
    List.take_append_drop _ _
  refine ⟨ahead.take (blank ahead), hsplit.symm, ?_⟩
  rw [Passes, hsplit]

/-! ## Paths -/

/-- The text of a path. -/
def pathText (l : Literals) (path : List String) (trailing : Bool) : List Char :=
  (l.of .tagPathSeparator).intercalate (path.map String.toList) ++
    if trailing then l.of .tagPathSeparator else []

/-- What stands behind the first segment of a path. -/
def pathTail (l : Literals) (path : List String) (trailing : Bool) : List Char :=
  path.flatMap (fun s => l.of .tagPathSeparator ++ s.toList) ++
    if trailing then l.of .tagPathSeparator else []

theorem pathText_cons (l : Literals) (s : String) (path : List String) (trailing : Bool) :
    pathText l (s :: path) trailing = s.toList ++ pathTail l path trailing := by
  rw [pathText, pathTail, ← List.append_assoc]
  congr 1
  induction path generalizing s with
  | nil => simp
  | cons s' path ih =>
    rw [List.map_cons, List.map_cons, List.intercalate_cons_cons, ← List.map_cons, ih]
    simp only [List.flatMap_cons, List.append_assoc]

/-- The segments that follow the first one, in front of `rest`. After the last of them, or after
the separator that closes the path, the scanner finds nothing more of a path. -/
inductive TailSpelled (l : Literals) (rest : List Char) : List String → Bool → Prop where
  | stop (hsep : l.starts .tagPathSeparator rest = false) : TailSpelled l rest [] false
  | trailing (hname : Identifier.segment.prefixLength rest = 0)
      (hsep : l.starts .tagPathSeparator rest = false) : TailSpelled l rest [] true
  | segment {s : String} {path : List String} {trailing : Bool}
      (hname : Identifier.segment.Takes s.toList (pathTail l path trailing ++ rest))
      (htail : TailSpelled l rest path trailing) : TailSpelled l rest (s :: path) trailing

/-- The segments of a whole path, of which there is at least one. -/
inductive PathSpelled (l : Literals) (rest : List Char) : List String → Bool → Prop where
  | mk {s : String} {path : List String} {trailing : Bool}
      (hname : Identifier.segment.Takes s.toList (pathTail l path trailing ++ rest))
      (htail : TailSpelled l rest path trailing) : PathSpelled l rest (s :: path) trailing

/-! ## Modifiers -/

/-- The modifiers of a tag in front of `rest`, each with the blanks around its name. -/
inductive ModifiersSpelled (l : Literals) (blank : List Char → Nat) (rest : List Char) :
    List WrittenModifier → Prop where
  | stop (hmark : l.starts .tagModifier rest = false) : ModifiersSpelled l blank rest []
  | modifier {m : WrittenModifier} {ms : List WrittenModifier}
      (hbefore : Passes blank m.before
        (m.name.toList ++ (m.after ++ (ms.flatMap (WrittenModifier.write l) ++ rest))))
      (hname : Identifier.modifier.Takes m.name.toList
        (m.after ++ (ms.flatMap (WrittenModifier.write l) ++ rest)))
      (hafter : Passes blank m.after (ms.flatMap (WrittenModifier.write l) ++ rest))
      (hrest : ModifiersSpelled l blank rest ms) : ModifiersSpelled l blank rest (m :: ms)

/-! ## Tags -/

namespace WrittenTag

variable (l : Literals) (t : WrittenTag) (rest : List Char)

/-- The text from the blanks before the closing literal on. -/
def fromClose : List Char := t.beforeClose ++ (l.of .tagClose ++ rest)

/-- The text from the modifiers on. -/
def fromModifiers : List Char :=
  t.modifiers.flatMap (WrittenModifier.write l) ++ t.fromClose l rest

/-- The text from the path on. -/
def fromPath : List Char := pathText l t.path t.trailing ++ (t.afterPath ++ t.fromModifiers l rest)

theorem write_append :
    t.write l ++ rest = l.of .tagOpen ++ (t.afterOpen ++ t.fromPath l rest) := by
  simp only [write, fromPath, fromModifiers, fromClose, pathText, List.append_assoc]

end WrittenTag

/-- A tag whose parts are what the scanner takes for them, in front of `rest`. -/
structure TagSpelled (l : Literals) (blank : List Char → Nat) (t : WrittenTag)
    (rest : List Char) : Prop where
  afterOpen : Passes blank t.afterOpen (t.fromPath l rest)
  path : PathSpelled l (t.afterPath ++ t.fromModifiers l rest) t.path t.trailing
  afterPath : Passes blank t.afterPath (t.fromModifiers l rest)
  modifiers : ModifiersSpelled l blank (t.fromClose l rest) t.modifiers
  beforeClose : Passes blank t.beforeClose (l.of .tagClose ++ rest)

theorem TagSpelled.path_ne_nil {l : Literals} {blank : List Char → Nat} {t : WrittenTag}
    {rest : List Char} (h : TagSpelled l blank t rest) : t.path ≠ [] := by
  obtain ⟨afterOpen, path, trailing, afterPath, modifiers, beforeClose⟩ := t
  cases h.path with
  | mk => exact List.cons_ne_nil _ _

/-! ## Templates -/

/-- The pieces of a template, or of what is left of it behind a tag (`afterTag`), as the scanner
reads them. -/
inductive Spelled (l : Literals) (blank : List Char → Nat) : (afterTag : Bool) → List Piece → Prop
    where
  | done {afterTag : Bool} : Spelled l blank afterTag []
  | char {afterTag : Bool} {c : Char} {ps : List Piece}
      (hliteral : literalAt l (c :: Piece.writeAll l ps) = none)
      (hps : Spelled l blank afterTag ps) : Spelled l blank afterTag (.char c :: ps)
  | escaped {afterTag : Bool} {role : Role} {ps : List Piece}
      (hliteral : literalAt l (l.of role ++ Piece.writeAll l ps) = some role)
      (hplace : role = .escape ∨ afterTag = false)
      (hps : Spelled l blank afterTag ps) : Spelled l blank afterTag (.escaped role :: ps)
  | tag {afterTag : Bool} {t : WrittenTag} {ps : List Piece}
      (hliteral : literalAt l (t.write l ++ Piece.writeAll l ps) = some .tagOpen)
      (htag : TagSpelled l blank t (Piece.writeAll l ps))
      (hps : Spelled l blank true ps) : Spelled l blank afterTag (.tag t :: ps)

/-! ## Texts and trees of pieces -/

namespace Piece

variable (l : Literals)

@[simp] theorem writeAll_nil : writeAll l [] = [] := rfl

@[simp] theorem writeAll_cons (p : Piece) (ps : List Piece) :
    writeAll l (p :: ps) = p.write l ++ writeAll l ps := rfl

theorem joinText_nil (tree : Tree) : joinText [] tree = tree := by
  cases tree <;> rfl

/-- Text joined in two steps is text joined at once. -/
theorem joinText_joinText (s t : List Char) (tree : Tree) :
    joinText s (joinText t tree) = joinText (s ++ t) tree := by
  cases s with
  | nil => rw [joinText_nil, List.nil_append]
  | cons a s =>
    cases t with
    | nil => rw [joinText_nil, List.append_nil]
    | cons b t =>
      cases tree with
      | nil => simp [joinText]
      | cons node tree => cases node <;> simp [joinText]

/-- A tag ends the text before it. -/
theorem joinText_tag (s : List Char) (t : Tag) (tree : Tree) :
    joinText s (.tag t :: tree) = joinText s [] ++ .tag t :: tree := by
  cases s <;> rfl

/-- Joining text that is not empty to a tree without empty nodes gives such a tree. -/
theorem isEmpty_of_mem_joinText {s : List Char} {tree : Tree} (hs : s ≠ [])
    (htree : ∀ node ∈ tree, node.isEmpty = false) : ∀ node ∈ joinText s tree,
      node.isEmpty = false := by
  intro node hnode
  obtain ⟨a, s, rfl⟩ := List.exists_cons_of_ne_nil hs
  cases tree with
  | nil =>
    rw [List.mem_singleton.mp hnode]
    simp [Node.isEmpty]
  | cons first tree =>
    cases first with
    | text content =>
      rcases List.mem_cons.mp hnode with rfl | hnode
      · simp [Node.isEmpty]
      · exact htree node (List.mem_cons_of_mem _ hnode)
    | tag t =>
      rcases List.mem_cons.mp hnode with rfl | hnode
      · simp [Node.isEmpty]
      · exact htree node hnode

/-- Pieces leave no empty node. -/
theorem isEmpty_of_mem_assemble {ps : List Piece} :
    ∀ node ∈ assemble l ps, node.isEmpty = false := by
  induction ps with
  | nil => exact fun node hnode => absurd hnode List.not_mem_nil
  | cons p ps ih =>
    cases p with
    | char c => exact isEmpty_of_mem_joinText (List.cons_ne_nil c []) ih
    | escaped role => exact isEmpty_of_mem_joinText (l.of_ne_nil role) ih
    | tag t =>
      intro node hnode
      rcases List.mem_cons.mp hnode with rfl | hnode
      · rfl
      · exact ih node hnode

theorem prune_assemble (ps : List Piece) : Tree.prune (assemble l ps) = assemble l ps := by
  rw [Tree.prune, List.filter_eq_self]
  intro node hnode
  rw [isEmpty_of_mem_assemble l node hnode]
  rfl

end Piece

end TagText
