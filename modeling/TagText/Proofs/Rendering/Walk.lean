import Mathlib.Data.List.Forall2
import TagText.Renderer

/-!
# Rendering is a walk over the tags

Text nodes never fail, so whether a tree can be rendered, and how it fails, is a question of its
tags in their order:

> `renderOnto_eq_error_iff`: rendering fails with an error iff some tag gives that error and all
> tags before it give texts.

> `exists_renderOnto_iff`: rendering gives a text iff every tag does, and this text is what the nodes
> add, one behind the other (`renderOnto_eq_ok_iff`).

Neither the processor nor what was put out before has a part in this. What was put out before is in
front of what follows (`renderOnto_output`), and the nodes of two trees are rendered one tree after
the other (`renderOnto_append`).

The order of the first failure is told by `FirstAfter`, which other walks share.
-/

namespace TagText

/-! ## The first of its kind -/

section
variable {α : Type} {p q : α → Prop}

/-- Some element of `xs` has `q`, and all the elements before it have `p`. -/
def FirstAfter (p q : α → Prop) (xs : List α) : Prop :=
  ∃ before x after, xs = before ++ x :: after ∧ (∀ y ∈ before, p y) ∧ q x

theorem not_firstAfter_nil : ¬FirstAfter p q [] := by
  rintro ⟨before, x, after, hsplit, -⟩
  cases before <;> cases hsplit

theorem firstAfter_cons {x : α} {xs : List α} :
    FirstAfter p q (x :: xs) ↔ q x ∨ p x ∧ FirstAfter p q xs := by
  constructor
  · rintro ⟨before, y, after, hsplit, hbefore, hy⟩
    cases before with
    | nil =>
      obtain ⟨rfl, rfl⟩ := List.cons.inj hsplit
      exact Or.inl hy
    | cons z before =>
      obtain ⟨rfl, rfl⟩ := List.cons.inj hsplit
      obtain ⟨hz, hbefore⟩ := List.forall_mem_cons.mp hbefore
      exact Or.inr ⟨hz, before, y, after, rfl, hbefore, hy⟩
  · rintro (hx | ⟨hx, before, y, after, rfl, hbefore, hy⟩)
    · exact ⟨[], x, xs, rfl, fun y hy => absurd hy List.not_mem_nil, hx⟩
    · exact ⟨x :: before, y, after, rfl, List.forall_mem_cons.mpr ⟨hx, hbefore⟩, hy⟩

theorem FirstAfter.imp {p' q' : α → Prop} {xs : List α} (h : FirstAfter p q xs)
    (hp : ∀ x, p x → p' x) (hq : ∀ x, q x → q' x) : FirstAfter p' q' xs := by
  obtain ⟨before, x, after, hsplit, hbefore, hx⟩ := h
  exact ⟨before, x, after, hsplit, fun y hy => hp y (hbefore y hy), hq x hx⟩

theorem FirstAfter.append {xs : List α} (h : FirstAfter p q xs) (ys : List α) :
    FirstAfter p q (xs ++ ys) := by
  obtain ⟨before, x, after, rfl, hbefore, hx⟩ := h
  exact ⟨before, x, after ++ ys, by rw [List.append_assoc, List.cons_append], hbefore, hx⟩

theorem FirstAfter.exists_mem {xs : List α} (h : FirstAfter p q xs) : ∃ x ∈ xs, q x := by
  obtain ⟨before, x, after, rfl, -, hx⟩ := h
  exact ⟨x, List.mem_append_right before List.mem_cons_self, hx⟩

/-- Either all elements have `p`, or there is a first one that has not. -/
theorem forall_or_firstAfter (p : α → Prop) (xs : List α) :
    (∀ x ∈ xs, p x) ∨ FirstAfter p (fun x => ¬p x) xs := by
  induction xs with
  | nil => exact Or.inl fun x hx => absurd hx List.not_mem_nil
  | cons x xs ih =>
    rw [firstAfter_cons, List.forall_mem_cons]
    by_cases hx : p x
    · exact ih.imp (fun hall => ⟨hx, hall⟩) fun hfirst => Or.inr ⟨hx, hfirst⟩
    · exact Or.inr (Or.inl hx)

end

/-! ## One tag -/

/-- An error of a tag whose path led to a value: of a modifier that is not there or made the value
null, or of the formatter. -/
def RenderError.AfterLookup (e : RenderError) : Prop :=
  (∃ name, e = .modifier (.undefined name)) ∨ (∃ name, e = .modifier (.emptyResult name)) ∨
    ∃ f, e = .format f

namespace Renderer

variable {objects : Objects} {r : Renderer} {store : Store} {processor : Option Processor}

/-- A tag gives a text iff its path leads to a value, its modifiers can be applied to that, and
what they give has a text. -/
theorem renderTag_eq_ok_iff {tag : Tag} {text : String} :
    r.renderTag objects store tag = .ok text ↔
      ∃ v w, store.get objects tag.path = .ok v ∧ r.modifiers.apply v tag.modifiers = .ok w ∧
        r.formatter w = .ok text := by
  unfold renderTag
  cases hget : store.get objects tag.path with
  | error e => simp
  | ok v =>
    cases hmodified : r.modifiers.apply v tag.modifiers with
    | error e => simp [hmodified]
    | ok w => cases hformat : r.formatter w <;> simp [hmodified, hformat]

/-- The error of a path is the error of its tag. -/
theorem renderTag_of_get_error {tag : Tag} {e : ValueError}
    (h : store.get objects tag.path = .error e) :
    r.renderTag objects store tag = .error (.value e) := by
  unfold renderTag
  rw [h]

/-- A tag whose path leads to a value fails only after that. -/
theorem afterLookup_of_renderTag {tag : Tag} {v : Value} {e : RenderError}
    (hget : store.get objects tag.path = .ok v) (h : r.renderTag objects store tag = .error e) :
    e.AfterLookup := by
  unfold renderTag at h
  rw [hget] at h
  dsimp only at h
  split at h
  next failure hmodified =>
    injection h with h
    cases failure with
    | undefined name => exact Or.inl ⟨name, h.symm⟩
    | emptyResult name => exact Or.inr (Or.inl ⟨name, h.symm⟩)
  next w hmodified =>
    split at h
    next failure hformat =>
      injection h with h
      exact Or.inr (Or.inr ⟨failure, h.symm⟩)
    next => exact absurd h (by simp)

/-- A tag adds the text that it gives, as the processor leaves it. -/
theorem renderNode_tag_eq_ok_iff {tag : Tag} {part : String} :
    r.renderNode objects store processor (.tag tag) = .ok part ↔
      ∃ text, r.renderTag objects store tag = .ok text ∧ processor.elim text (· text) = part := by
  rw [renderNode]
  cases r.renderTag objects store tag with
  | error e => simp
  | ok text => cases processor <;> simp

/-- Of tags whose paths lead to values, either all give texts, or a first one fails after that. -/
theorem gives_or_afterLookup {tags : List Tag}
    (h : ∀ tag ∈ tags, ∃ v, store.get objects tag.path = .ok v) :
    (∀ tag ∈ tags, ∃ text, r.renderTag objects store tag = .ok text) ∨
      ∃ e : RenderError, e.AfterLookup ∧
        FirstAfter (fun tag => ∃ text, r.renderTag objects store tag = .ok text)
          (fun tag => r.renderTag objects store tag = .error e) tags := by
  refine (forall_or_firstAfter _ tags).imp_right ?_
  rintro ⟨before, tag, after, rfl, hbefore, htag⟩
  obtain ⟨v, hv⟩ := h tag (List.mem_append_right before List.mem_cons_self)
  cases hfail : r.renderTag objects store tag with
  | ok text => exact absurd ⟨text, hfail⟩ htag
  | error e => exact ⟨e, afterLookup_of_renderTag hv hfail, before, tag, after, rfl, hbefore, hfail⟩

/-! ## All nodes -/

theorem renderOnto_text (output content : String) (tree : Tree) :
    r.renderOnto objects store processor output (.text content :: tree) =
      r.renderOnto objects store processor (output ++ content) tree :=
  rfl

theorem renderOnto_tag_error {output : String} {tag : Tag} {tree : Tree} {e : RenderError}
    (h : r.renderTag objects store tag = .error e) :
    r.renderOnto objects store processor output (.tag tag :: tree) = .error e := by
  simp only [renderOnto, renderNode, h]

/-- A tag that gives a text adds the processed text to the output. -/
theorem renderOnto_tag_ok {output text : String} {tag : Tag} {tree : Tree}
    (h : r.renderTag objects store tag = .ok text) :
    r.renderOnto objects store processor output (.tag tag :: tree) =
      r.renderOnto objects store processor (output ++ processor.elim text (· text)) tree := by
  cases processor <;> simp only [renderOnto, renderNode, h, Option.elim]

/-- Rendering fails with an error iff some tag gives that error and all tags before it give
texts. -/
theorem renderOnto_eq_error_iff (processor : Option Processor) (output : String) {tree : Tree}
    {e : RenderError} :
    r.renderOnto objects store processor output tree = .error e ↔
      FirstAfter (fun tag => ∃ text, r.renderTag objects store tag = .ok text)
        (fun tag => r.renderTag objects store tag = .error e) (Tree.tags tree) := by
  induction tree generalizing output with
  | nil => exact ⟨fun h => absurd h (by simp [renderOnto]), fun h => absurd h not_firstAfter_nil⟩
  | cons node tree ih =>
    cases node with
    | text content => rw [renderOnto_text, ih]; rfl
    | tag tag =>
      rw [show Tree.tags (.tag tag :: tree) = tag :: Tree.tags tree from rfl, firstAfter_cons]
      cases htag : r.renderTag objects store tag with
      | error e' => simp [renderOnto_tag_error htag]
      | ok text => simp [renderOnto_tag_ok htag, ih]

/-- Rendering gives a text iff every tag does. -/
theorem exists_renderOnto_iff (processor : Option Processor) (output : String) {tree : Tree} :
    (∃ text, r.renderOnto objects store processor output tree = .ok text) ↔
      ∀ tag ∈ Tree.tags tree, ∃ text, r.renderTag objects store tag = .ok text := by
  induction tree generalizing output with
  | nil => exact ⟨fun _ tag htag => absurd htag List.not_mem_nil, fun _ => ⟨output, rfl⟩⟩
  | cons node tree ih =>
    cases node with
    | text content => rw [renderOnto_text, ih]; rfl
    | tag tag =>
      rw [show Tree.tags (.tag tag :: tree) = tag :: Tree.tags tree from rfl,
        List.forall_mem_cons]
      cases htag : r.renderTag objects store tag with
      | error e => simp [renderOnto_tag_error htag]
      | ok text => simp [renderOnto_tag_ok htag, ih]

/-- Two renderers that do the same with every node of a tree do the same with the tree. -/
theorem renderOnto_congr {r' : Renderer} {store' : Store} {processor' : Option Processor}
    {tree : Tree} (h : ∀ node ∈ tree, r.renderNode objects store processor node =
      r'.renderNode objects store' processor' node) (output : String) :
    r.renderOnto objects store processor output tree =
      r'.renderOnto objects store' processor' output tree := by
  induction tree generalizing output with
  | nil => rfl
  | cons node tree ih =>
    obtain ⟨hnode, htree⟩ := List.forall_mem_cons.mp h
    rw [renderOnto, renderOnto, hnode]
    cases r'.renderNode objects store' processor' node with
    | error e => rfl
    | ok part => exact ih htree (output ++ part)

/-- What is put out is what the nodes add, one behind the other. -/
theorem renderOnto_eq_ok_iff {output text : String} {tree : Tree} :
    r.renderOnto objects store processor output tree = .ok text ↔
      ∃ parts, List.Forall₂ (fun node part => r.renderNode objects store processor node = .ok part)
        tree parts ∧ text = output ++ String.join parts := by
  induction tree generalizing output with
  | nil => simp [renderOnto, eq_comm]
  | cons node tree ih =>
    rw [renderOnto]
    cases hnode : r.renderNode objects store processor node with
    | error e => simp [hnode, List.forall₂_cons_left_iff]
    | ok part =>
      dsimp only
      rw [ih]
      constructor
      · rintro ⟨parts, hparts, rfl⟩
        exact ⟨part :: parts, .cons hnode hparts, by rw [String.join_cons, String.append_assoc]⟩
      · rintro ⟨all, hall, rfl⟩
        obtain ⟨part', parts, hpart, hparts, rfl⟩ := List.forall₂_cons_left_iff.mp hall
        obtain rfl := Except.ok.inj (hnode.symm.trans hpart)
        exact ⟨parts, hparts, by rw [String.join_cons, String.append_assoc]⟩

/-- What was put out before stands in front of what follows. -/
theorem renderOnto_output (output : String) (tree : Tree) :
    r.renderOnto objects store processor output tree =
      (r.renderOnto objects store processor "" tree).map (output ++ ·) := by
  induction tree generalizing output with
  | nil => simp [renderOnto, Except.map]
  | cons node tree ih =>
    simp only [renderOnto]
    cases r.renderNode objects store processor node with
    | error e => rfl
    | ok text =>
      dsimp only
      rw [ih (output ++ text), ih ("" ++ text)]
      cases r.renderOnto objects store processor "" tree with
      | error e => rfl
      | ok rest => simp [Except.map, String.append_assoc]

/-- The nodes of two trees are rendered one tree after the other. -/
theorem renderOnto_append (output : String) (front back : Tree) :
    r.renderOnto objects store processor output (front ++ back) =
      (r.renderOnto objects store processor output front).bind fun text =>
        r.renderOnto objects store processor text back := by
  induction front generalizing output with
  | nil => rfl
  | cons node front ih =>
    simp only [List.cons_append, renderOnto]
    cases r.renderNode objects store processor node with
    | error e => rfl
    | ok text => exact ih (output ++ text)

/-! ## The values of a call -/

/-- The values of a call stand over those of the store, also when there are none. -/
theorem render_eq_renderOnto (tree : Tree) (extra : Entries) :
    r.render objects tree extra processor =
      r.renderOnto objects (r.store.add extra) processor "" tree := by
  cases extra with
  | nil => rfl
  | cons entry extra => rfl

end Renderer

end TagText
