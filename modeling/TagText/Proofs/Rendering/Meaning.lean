import TagText.Builder
import TagText.Proofs.Rendering.Walk

/-!
# What a tree means

A renderer looks a path up, runs a loop over the names of modifiers, calls the formatter, and has
shorter ways where a call brings no values or no processor. What comes out is told here without any
of that. `Modifiers.Carries` says what modifiers make of a value, `Renderer.TagMeans` what a tag
stands for, a text or one of four errors, and `Renderer.NodeMeans` what a node adds:

> `render_eq_meaning`: a tree gives the texts that its nodes add, in their order, if every tag has a
> text, and otherwise the error of the first tag that has none.

So nothing is left of the shorter ways: values for one call do what values added for good do, and
leaving out the processor, as the plain encoding does, is passing one that changes nothing.
-/

namespace TagText

/-! ## Modifiers in a row -/

namespace Modifiers

/-- Applied from left to right, the modifiers of these names carry the first value to the second.
Each of them is registered, and none gives null. -/
inductive Carries (modifiers : Modifiers) : Value → List String → Value → Prop where
  | nil (v : Value) : Carries modifiers v [] v
  | cons {v w : Value} {name : String} {names : List String} {modifier : Modifier}
      (hname : Named.get? modifiers name = some modifier) (hnull : (modifier v).isNull = false)
      (hrest : Carries modifiers (modifier v) names w) : Carries modifiers v (name :: names) w

/-- Some name stops the modifiers: those before it carry the value to where this one is not
registered, or gives null. -/
inductive Stops (modifiers : Modifiers) (v : Value) (names : List String) : ModifierError → Prop
    where
  | undefined {front back : List String} {name : String} {u : Value}
      (hnames : names = front ++ name :: back) (hfront : modifiers.Carries v front u)
      (hname : Named.get? modifiers name = none) : Stops modifiers v names (.undefined name)
  | emptyResult {front back : List String} {name : String} {u : Value} {modifier : Modifier}
      (hnames : names = front ++ name :: back) (hfront : modifiers.Carries v front u)
      (hname : Named.get? modifiers name = some modifier) (hnull : (modifier u).isNull = true) :
      Stops modifiers v names (.emptyResult name)

variable {modifiers : Modifiers} {u v w : Value} {name : String} {names : List String}
  {modifier : Modifier} {e : ModifierError}

theorem apply_cons_of_none (hname : Named.get? modifiers name = none) :
    modifiers.apply v (name :: names) = .error (.undefined name) := by
  rw [apply, hname]

theorem apply_cons_of_null (hname : Named.get? modifiers name = some modifier)
    (hnull : (modifier v).isNull = true) :
    modifiers.apply v (name :: names) = .error (.emptyResult name) := by
  rw [apply, hname]
  exact if_pos hnull

theorem apply_cons_of_some (hname : Named.get? modifiers name = some modifier)
    (hnull : (modifier v).isNull = false) :
    modifiers.apply v (name :: names) = modifiers.apply (modifier v) names := by
  rw [apply, hname]
  exact if_neg (by simp [hnull])

/-- Modifiers that carry a value leave the rest of the row to what they carry it to. -/
theorem Carries.apply_append (h : modifiers.Carries v names u) (rest : List String) :
    modifiers.apply v (names ++ rest) = modifiers.apply u rest := by
  induction h with
  | nil v => rfl
  | cons hname hnull _ ih => rw [List.cons_append, apply_cons_of_some hname hnull, ih]

theorem apply_eq_ok_iff : modifiers.apply v names = .ok w ↔ modifiers.Carries v names w := by
  constructor
  · intro h
    induction names generalizing v with
    | nil => exact Except.ok.inj h ▸ .nil v
    | cons name names ih =>
      cases hname : Named.get? modifiers name with
      | none => exact absurd (apply_cons_of_none hname ▸ h) (by simp)
      | some modifier =>
        cases hnull : (modifier v).isNull with
        | true => exact absurd (apply_cons_of_null hname hnull ▸ h) (by simp)
        | false => exact .cons hname hnull (ih (apply_cons_of_some hname hnull ▸ h))
  · intro h
    rw [← List.append_nil names, h.apply_append]
    rfl

/-- A name that stops the modifiers still does so behind one that carries the value on. -/
theorem Stops.cons (hname : Named.get? modifiers name = some modifier)
    (hnull : (modifier v).isNull = false) (h : modifiers.Stops (modifier v) names e) :
    modifiers.Stops v (name :: names) e := by
  cases h with
  | undefined hnames hfront hstop =>
    have hlonger := congrArg (name :: ·) hnames
    exact .undefined hlonger (.cons hname hnull hfront) hstop
  | emptyResult hnames hfront hstop hempty =>
    have hlonger := congrArg (name :: ·) hnames
    exact .emptyResult hlonger (.cons hname hnull hfront) hstop hempty

theorem apply_eq_error_iff : modifiers.apply v names = .error e ↔ modifiers.Stops v names e := by
  constructor
  · intro h
    induction names generalizing v with
    | nil => exact absurd h (by simp [apply])
    | cons name names ih =>
      cases hname : Named.get? modifiers name with
      | none =>
        rw [apply_cons_of_none hname] at h
        exact Except.error.inj h ▸ .undefined (List.nil_append _).symm (.nil v) hname
      | some modifier =>
        cases hnull : (modifier v).isNull with
        | true =>
          rw [apply_cons_of_null hname hnull] at h
          exact Except.error.inj h ▸ .emptyResult (List.nil_append _).symm (.nil v) hname hnull
        | false =>
          rw [apply_cons_of_some hname hnull] at h
          exact (ih h).cons hname hnull
  · rintro (⟨rfl, hfront, hname⟩ | ⟨rfl, hfront, hname, hnull⟩)
    · rw [hfront.apply_append, apply_cons_of_none hname]
    · rw [hfront.apply_append, apply_cons_of_null hname hnull]

end Modifiers

/-! ## Tags and nodes -/

namespace Renderer

/-- What a tag stands for with the values of `store`: the text of the value that its path leads to
and its modifiers carry on, or the error of the first of these three that fails. -/
inductive TagMeans (objects : Objects) (r : Renderer) (store : Store) (tag : Tag) :
    Except RenderError String → Prop where
  | text {v w : Value} {text : String} (hget : store.get objects tag.path = .ok v)
      (hcarries : r.modifiers.Carries v tag.modifiers w) (hformat : r.formatter w = .ok text) :
      TagMeans objects r store tag (.ok text)
  | noValue {e : ValueError} (hget : store.get objects tag.path = .error e) :
      TagMeans objects r store tag (.error (.value e))
  | noResult {v : Value} {e : ModifierError} (hget : store.get objects tag.path = .ok v)
      (hstops : r.modifiers.Stops v tag.modifiers e) :
      TagMeans objects r store tag (.error (.modifier e))
  | noText {v w : Value} {e : FormatError} (hget : store.get objects tag.path = .ok v)
      (hcarries : r.modifiers.Carries v tag.modifiers w) (hformat : r.formatter w = .error e) :
      TagMeans objects r store tag (.error (.format e))

/-- What a node adds to the output: text adds itself, and a tag its text as the processor leaves
it. -/
inductive NodeMeans (objects : Objects) (r : Renderer) (store : Store)
    (processor : Option Processor) : Node → String → Prop where
  | text (content : String) : NodeMeans objects r store processor (.text content) content
  | tag {tag : Tag} {text : String} (htag : TagMeans objects r store tag (.ok text)) :
      NodeMeans objects r store processor (.tag tag) (processor.elim text (· text))

variable {objects : Objects} {r : Renderer} {store : Store} {processor : Option Processor}

theorem renderTag_eq_iff {tag : Tag} {answer : Except RenderError String} :
    r.renderTag objects store tag = answer ↔ TagMeans objects r store tag answer := by
  constructor
  · rintro rfl
    unfold renderTag
    split
    next e hget => exact .noValue hget
    next v hget =>
      split
      next e hstops => exact .noResult hget (Modifiers.apply_eq_error_iff.mp hstops)
      next w hcarries =>
        split
        next e hformat => exact .noText hget (Modifiers.apply_eq_ok_iff.mp hcarries) hformat
        next text hformat => exact .text hget (Modifiers.apply_eq_ok_iff.mp hcarries) hformat
  · intro h
    unfold renderTag
    cases h with
    | text hget hcarries hformat =>
      simp only [hget, Modifiers.apply_eq_ok_iff.mpr hcarries, hformat]
    | noValue hget => simp only [hget]
    | noResult hget hstops => simp only [hget, Modifiers.apply_eq_error_iff.mpr hstops]
    | noText hget hcarries hformat =>
      simp only [hget, Modifiers.apply_eq_ok_iff.mpr hcarries, hformat]

theorem renderNode_eq_ok_iff {node : Node} {part : String} :
    r.renderNode objects store processor node = .ok part ↔
      NodeMeans objects r store processor node part := by
  cases node with
  | text content =>
    constructor
    · intro h
      exact Except.ok.inj h ▸ .text content
    · rintro ⟨⟩
      rfl
  | tag tag =>
    rw [renderNode_tag_eq_ok_iff]
    constructor
    · rintro ⟨text, htag, rfl⟩
      exact .tag (renderTag_eq_iff.mp htag)
    · rintro (_ | htag)
      exact ⟨_, renderTag_eq_iff.mpr htag, rfl⟩

/-! ## The shorter ways -/

/-- Values for one call are values added for good: nothing but the store tells the two renderers
apart, and no node asks a renderer for its store. -/
theorem render_addValues (tree : Tree) (extra : Entries) :
    (r.addValues extra).render objects tree [] processor =
      r.render objects tree extra processor := by
  rw [render_eq_renderOnto, render_eq_renderOnto]
  refine renderOnto_congr (fun node _ => ?_) ""
  cases node <;> rfl

/-- Rendering without a processor is rendering with one that changes nothing. -/
theorem render_none (tree : Tree) (extra : Entries) :
    r.render objects tree extra none = r.render objects tree extra (some id) := by
  rw [render_eq_renderOnto, render_eq_renderOnto]
  refine renderOnto_congr (fun node _ => ?_) ""
  cases node <;> rfl

end Renderer

/-- The plain encoding passes no processor, which is the same as passing its own. -/
theorem Builder.buildEncoded_plain (objects : Objects) (b : Builder) (template : String)
    (extra : Entries) : b.buildEncoded objects template extra .plain =
      b.build objects template extra (some Encoding.plain.encode) := by
  show b.build objects template extra none = b.build objects template extra (some id)
  unfold build
  cases b.parser.parse template with
  | error e => rfl
  | ok tree => simp only [Renderer.render_none]

/-- **A tree gives what its nodes mean, in their order.** Rendering gives a text iff every node adds
one, and it is these texts one behind the other; it gives an error iff this is what some tag means
and all tags before it have texts. Values for one call do the same as values added for good, no
processor the same as one that changes nothing, and building without an encoding the same as in the
plain one. -/
theorem render_eq_meaning (objects : Objects) (r : Renderer) (tree : Tree) (extra : Entries)
    (processor : Option Processor) :
    (∀ text, r.render objects tree extra processor = .ok text ↔
      ∃ parts, List.Forall₂ (r.NodeMeans objects (r.store.add extra) processor) tree parts ∧
        text = String.join parts) ∧
    (∀ e, r.render objects tree extra processor = .error e ↔
      FirstAfter (fun tag => ∃ text, r.TagMeans objects (r.store.add extra) tag (.ok text))
        (fun tag => r.TagMeans objects (r.store.add extra) tag (.error e)) (Tree.tags tree)) ∧
    (r.addValues extra).render objects tree [] processor =
      r.render objects tree extra processor ∧
    r.render objects tree extra none = r.render objects tree extra (some id) ∧
    ∀ (b : Builder) (template : String), b.buildEncoded objects template extra .plain =
      b.build objects template extra (some Encoding.plain.encode) := by
  refine ⟨fun text => ?_, fun e => ?_, Renderer.render_addValues tree extra,
    Renderer.render_none tree extra,
    fun b template => Builder.buildEncoded_plain objects b template extra⟩
  · rw [Renderer.render_eq_renderOnto, Renderer.renderOnto_eq_ok_iff]
    simp only [Renderer.renderNode_eq_ok_iff, String.empty_append]
  · rw [Renderer.render_eq_renderOnto, Renderer.renderOnto_eq_error_iff]
    simp only [Renderer.renderTag_eq_iff]

end TagText
