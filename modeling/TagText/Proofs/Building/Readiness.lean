import TagText.Builder
import TagText.Proofs.Rendering.Walk
import TagText.Proofs.Template.PieceTags
import TagText.Proofs.Value.Following

/-!
# What can be built

`canBuild` and `build` go over the tags of a template one by one. The first only asks the store and
stops at a tag without a value; the second also changes and formats each value, and stops at the
first failure of any kind. Still the answer of the one tells what the other does:

> `canBuild_predicts_build`: both refuse the same templates with the same fault; what is built can
> be built; and of a template that cannot, `build` stops at the first tag without a value
> (`StopsAt`), unless a modifier or the formatter fails at a tag before it.

Both walks are described by `FirstAfter`: for `build` by `renderOnto_eq_error_iff`, for `canBuild`
by `allResolve_eq_iff`. What is left is to compare two ways of stopping at a first tag of the same
list (`stopsAt_of_first`). That a path may be empty, which is an error of its own kind, is ruled out
by the template: every tag of a parsed template has a path.
-/

namespace TagText

variable {objects : Objects}

/-! ## Errors of stores -/

/-- A path that is not empty fails only where something keeps it from going on. -/
theorem exists_obstacle_of_get {s : Store} {path : List String} {e : ValueError} (hne : path ≠ [])
    (h : s.get objects path = .error e) : ∃ obstacle at', e = .blocked obstacle at' := by
  obtain ⟨key, keys, rfl⟩ := List.exists_cons_of_ne_nil hne
  rw [Store.get_cons, Value.resolve_eq_error_iff (s.isNull_root key) hne] at h
  obtain ⟨taken, obstacle, -, rfl⟩ := h
  exact ⟨obstacle, _, rfl⟩

/-- An error that does not mean absence is the failure of an accessor. -/
theorem exists_accessorFailure {e : ValueError} (h : ∃ obstacle path, e = .blocked obstacle path)
    (hpresent : e.isAbsence = false) :
    ∃ message path, e = .blocked (.accessorFailure message) path := by
  obtain ⟨obstacle, path, rfl⟩ := h
  cases obstacle with
  | accessorFailure message => exact ⟨message, path, rfl⟩
  | nullContainer | undefinedKey | noProperty | scalar typeName =>
    exact absurd hpresent (by simp [ValueError.isAbsence, Obstacle.isAbsence])

namespace Builder

variable {b : Builder} {template : String} {extra : Entries} {processor : Option Processor}
  {tree : Tree}

/-! ## The walk of `canBuild` -/

theorem allResolve_eq_true_iff {store : Store} {tags : List Tag} :
    allResolve objects store tags = .ok true ↔
      ∀ tag ∈ tags, ∃ v, store.get objects tag.path = .ok v := by
  simp only [← Store.has_eq_true_iff]
  induction tags with
  | nil => exact ⟨fun _ tag htag => absurd htag List.not_mem_nil, fun _ => rfl⟩
  | cons tag tags ih =>
    rw [List.forall_mem_cons, allResolve]
    split
    next e he => simp [he]
    next hfalse => simp [hfalse]
    next htrue => simp [htrue, ih]

/-- Every other answer is that for some tag, when all tags before it lead to values. -/
theorem allResolve_eq_iff {store : Store} {tags : List Tag} {answer : Except ValueError Bool}
    (hanswer : answer ≠ .ok true) :
    allResolve objects store tags = answer ↔
      FirstAfter (fun tag => ∃ v, store.get objects tag.path = .ok v)
        (fun tag => store.has objects tag.path = answer) tags := by
  simp only [← Store.has_eq_true_iff]
  induction tags with
  | nil => exact ⟨fun h => absurd h.symm hanswer, fun h => absurd h not_firstAfter_nil⟩
  | cons tag tags ih =>
    rw [firstAfter_cons, allResolve]
    split
    next e he => simp [he]
    next hfalse => simp [hfalse]
    next htrue => simp [htrue, ih, hanswer.symm]

/-! ## What both do with a parsed template -/

theorem canBuild_of_parse (h : b.parser.parse template = .ok tree) :
    b.canBuild objects template extra =
      (allResolve objects (b.renderer.store.add extra) (Tree.tags tree)).mapError .value := by
  unfold canBuild
  rw [h]
  dsimp only
  cases allResolve objects (b.renderer.store.add extra) (Tree.tags tree) <;> rfl

theorem build_of_parse (h : b.parser.parse template = .ok tree) :
    b.build objects template extra processor =
      (b.renderer.renderOnto objects (b.renderer.store.add extra) processor "" tree).mapError
        .render := by
  unfold build
  rw [h, ← Renderer.render_eq_renderOnto]
  dsimp only
  cases b.renderer.render objects tree extra processor <;> rfl

/-- What is built of a parsed template is what rendering its tree puts out. -/
theorem build_eq_ok_iff (h : b.parser.parse template = .ok tree) {text : String} :
    b.build objects template extra processor = .ok text ↔
      b.renderer.renderOnto objects (b.renderer.store.add extra) processor "" tree =
        .ok text := by
  rw [build_of_parse h]
  cases b.renderer.renderOnto objects (b.renderer.store.add extra) processor "" tree <;>
    simp [Except.mapError]

/-- A parsed template is built iff every tag gives a text. -/
theorem exists_build_iff (h : b.parser.parse template = .ok tree) :
    (∃ text, b.build objects template extra processor = .ok text) ↔
      ∀ tag ∈ Tree.tags tree,
        ∃ text, b.renderer.renderTag objects (b.renderer.store.add extra) tag = .ok text := by
  rw [build_of_parse h, ← Renderer.exists_renderOnto_iff processor ""]
  cases b.renderer.renderOnto objects (b.renderer.store.add extra) processor "" tree <;>
    simp [Except.mapError]

/-- The error of a parsed template is that of the first tag that gives no text. -/
theorem build_eq_error_iff (h : b.parser.parse template = .ok tree) {failure : RenderError} :
    b.build objects template extra processor = .error (.render failure) ↔
      FirstAfter
        (fun tag => ∃ text,
          b.renderer.renderTag objects (b.renderer.store.add extra) tag = .ok text)
        (fun tag => b.renderer.renderTag objects (b.renderer.store.add extra) tag = .error failure)
        (Tree.tags tree) := by
  rw [build_of_parse h, ← Renderer.renderOnto_eq_error_iff processor ""]
  cases b.renderer.renderOnto objects (b.renderer.store.add extra) processor "" tree <;>
    simp [Except.mapError]

/-- Whether every tag leads to a value: each text needs one. -/
theorem resolves_of_renderTag {r : Renderer} {store : Store} {tag : Tag}
    (h : ∃ text, r.renderTag objects store tag = .ok text) :
    ∃ v, store.get objects tag.path = .ok v := by
  obtain ⟨text, htext⟩ := h
  obtain ⟨v, -, hv, -⟩ := Renderer.renderTag_eq_ok_iff.mp htext
  exact ⟨v, hv⟩

/-! ## Stopping at a tag without a value -/

/-- Building stops at the first tag whose path leads to no value, with the error `e` of this path,
or at one of the tags before it, with an error that it raises once its value is found. -/
def StopsAt (objects : Objects) (b : Builder) (template : String) (extra : Entries)
    (processor : Option Processor) (e : ValueError) : Prop :=
  ∃ tree before tag after, b.parser.parse template = .ok tree ∧
    Tree.tags tree = before ++ tag :: after ∧
    (∀ t ∈ before, ∃ v, (b.renderer.store.add extra).get objects t.path = .ok v) ∧
    (b.renderer.store.add extra).get objects tag.path = .error e ∧
    (b.build objects template extra processor = .error (.render (.value e)) ∨
      ∃ t ∈ before, ∃ failure : RenderError, failure.AfterLookup ∧
        b.renderer.renderTag objects (b.renderer.store.add extra) t = .error failure ∧
        b.build objects template extra processor = .error (.render failure))

theorem stopsAt_of_first (h : b.parser.parse template = .ok tree) {e : ValueError}
    (hfirst : FirstAfter (fun tag => ∃ v, (b.renderer.store.add extra).get objects tag.path = .ok v)
      (fun tag => (b.renderer.store.add extra).get objects tag.path = .error e)
      (Tree.tags tree)) : b.StopsAt objects template extra processor e := by
  obtain ⟨before, tag, after, hsplit, hbefore, htag⟩ := hfirst
  refine ⟨tree, before, tag, after, h, hsplit, hbefore, htag, ?_⟩
  -- The tags in front all give texts, or the first of them that does not ends it all.
  rcases Renderer.gives_or_afterLookup (r := b.renderer) hbefore with
    hgives | ⟨failure, hlate, hfail⟩
  · refine Or.inl ((build_eq_error_iff h).mpr ⟨before, tag, after, hsplit, hgives, ?_⟩)
    exact Renderer.renderTag_of_get_error htag
  · obtain ⟨t, ht, hraised⟩ := hfail.exists_mem
    refine Or.inr ⟨t, ht, failure, hlate, hraised, (build_eq_error_iff h).mpr ?_⟩
    exact hsplit ▸ hfail.append (tag :: after)

/-- When every tag leads to a value, building gives a text or fails with no error of a path. -/
theorem build_of_resolves (h : b.parser.parse template = .ok tree)
    (hall : ∀ tag ∈ Tree.tags tree,
      ∃ v, (b.renderer.store.add extra).get objects tag.path = .ok v) :
    (∃ text, b.build objects template extra processor = .ok text) ∨
      ∃ failure : RenderError, failure.AfterLookup ∧
        b.build objects template extra processor = .error (.render failure) := by
  refine (Renderer.gives_or_afterLookup (r := b.renderer) hall).imp (exists_build_iff h).mpr ?_
  exact fun ⟨failure, hlate, hfail⟩ => ⟨failure, hlate, (build_eq_error_iff h).mpr hfail⟩

/-! ## The two walks together -/

theorem canBuild_of_parse_error {fault : ParseError} (h : b.parser.parse template = .error fault) :
    b.canBuild objects template extra = .error (.parse fault) := by
  unfold canBuild
  rw [h]

theorem build_of_parse_error {fault : ParseError} (h : b.parser.parse template = .error fault) :
    b.build objects template extra processor = .error (.parse fault) := by
  unfold build
  rw [h]

theorem canBuild_eq_parse_error_iff {fault : ParseError} :
    b.canBuild objects template extra = .error (.parse fault) ↔
      b.parser.parse template = .error fault := by
  cases hparse : b.parser.parse template with
  | error fault' => simp [canBuild_of_parse_error hparse]
  | ok tree =>
    rw [canBuild_of_parse hparse]
    cases allResolve objects (b.renderer.store.add extra) (Tree.tags tree) <;>
      simp [Except.mapError]

theorem build_eq_parse_error_iff {fault : ParseError} :
    b.build objects template extra processor = .error (.parse fault) ↔
      b.parser.parse template = .error fault := by
  cases hparse : b.parser.parse template with
  | error fault' => simp [build_of_parse_error hparse]
  | ok tree =>
    rw [build_of_parse hparse]
    cases b.renderer.renderOnto objects (b.renderer.store.add extra) processor "" tree <;>
      simp [Except.mapError]

/-- What `canBuild` says of a parsed template is the answer of its walk. -/
theorem exists_walk_of_canBuild (answer : Except ValueError Bool)
    (h : b.canBuild objects template extra = answer.mapError .value) :
    ∃ tree, b.parser.parse template = .ok tree ∧
      allResolve objects (b.renderer.store.add extra) (Tree.tags tree) = answer := by
  cases hparse : b.parser.parse template with
  | error fault =>
    rw [canBuild_of_parse_error hparse] at h
    cases answer <;> exact absurd h (by simp [Except.mapError])
  | ok tree =>
    rw [canBuild_of_parse hparse] at h
    refine ⟨tree, rfl, ?_⟩
    cases hwalk : allResolve objects (b.renderer.store.add extra) (Tree.tags tree) <;>
      cases answer <;> simp_all [Except.mapError]

/-- What is built can be built. -/
theorem canBuild_of_build {text : String}
    (h : b.build objects template extra processor = .ok text) :
    b.canBuild objects template extra = .ok true := by
  cases hparse : b.parser.parse template with
  | error fault =>
    rw [build_of_parse_error hparse] at h
    exact absurd h (by simp)
  | ok tree =>
    have hgives := (exists_build_iff hparse).mp ⟨text, h⟩
    have hwalk := allResolve_eq_true_iff.mpr fun tag htag => resolves_of_renderTag (hgives tag htag)
    rw [canBuild_of_parse hparse, hwalk]
    rfl

/-- **What can be built is built, up to modifiers and formats.** The two refuse the same templates
with the same fault, and what is built can be built. What can be built is built, or a modifier or
the formatter fails. If it cannot, building stops at the first tag without a value or, because of a
modifier or the formatter, before it; and `canBuild` has no other error than the failure of an
accessor. -/
theorem canBuild_predicts_build (objects : Objects) (b : Builder) (template : String)
    (extra : Entries) (processor : Option Processor) :
    (∀ fault, b.canBuild objects template extra = .error (.parse fault) ↔
      b.build objects template extra processor = .error (.parse fault)) ∧
    (∀ text, b.build objects template extra processor = .ok text →
      b.canBuild objects template extra = .ok true) ∧
    (b.canBuild objects template extra = .ok true →
      (∃ text, b.build objects template extra processor = .ok text) ∨
        ∃ failure : RenderError, failure.AfterLookup ∧
          b.build objects template extra processor = .error (.render failure)) ∧
    (b.canBuild objects template extra = .ok false →
      ∃ e : ValueError, e.isAbsence = true ∧ b.StopsAt objects template extra processor e) ∧
    (∀ e : ValueError, b.canBuild objects template extra = .error (.value e) →
      (∃ message path, e = .blocked (.accessorFailure message) path) ∧
        b.StopsAt objects template extra processor e) ∧
    ∀ failure, b.canBuild objects template extra ≠ .error (.render failure) := by
  refine ⟨fun fault => ?_, fun text => canBuild_of_build, fun h => ?_, fun h => ?_, fun e h => ?_,
    fun failure h => ?_⟩
  · exact canBuild_eq_parse_error_iff.trans build_eq_parse_error_iff.symm
  · obtain ⟨tree, hparse, hwalk⟩ := exists_walk_of_canBuild (.ok true) h
    exact build_of_resolves hparse (allResolve_eq_true_iff.mp hwalk)
  · obtain ⟨tree, hparse, hwalk⟩ := exists_walk_of_canBuild (.ok false) h
    obtain ⟨before, tag, after, hsplit, hbefore, htag⟩ :=
      (allResolve_eq_iff (by simp)).mp hwalk
    obtain ⟨e, hget, habsent⟩ := Store.has_eq_false_iff.mp htag
    exact ⟨e, habsent, stopsAt_of_first hparse ⟨before, tag, after, hsplit, hbefore, hget⟩⟩
  · obtain ⟨tree, hparse, hwalk⟩ := exists_walk_of_canBuild (.error e) h
    obtain ⟨before, tag, after, hsplit, hbefore, htag⟩ :=
      (allResolve_eq_iff (by simp)).mp hwalk
    obtain ⟨hget, hpresent⟩ := Store.has_eq_error_iff.mp htag
    have hpath : tag.path ≠ [] := path_ne_nil_of_parseWith hparse (by simp [hsplit])
    exact ⟨exists_accessorFailure (exists_obstacle_of_get hpath hget) hpresent,
      stopsAt_of_first hparse ⟨before, tag, after, hsplit, hbefore, hget⟩⟩
  · cases hparse : b.parser.parse template with
    | error fault =>
      rw [canBuild_of_parse_error hparse] at h
      exact absurd h (by simp)
    | ok tree =>
      rw [canBuild_of_parse hparse] at h
      cases hwalk : allResolve objects (b.renderer.store.add extra) (Tree.tags tree) <;>
        simp_all [Except.mapError]

/-- Of a template with two faults `build` tells the first, where `canBuild` sees the second only. -/
theorem canBuild_predicts_build_unregistered :
    Builder.default.canBuild .none "\x7b\x7b a|up \x7d\x7d\x7b\x7b b \x7d\x7d"
        [("a", .string "x")] = .ok false ∧
      Builder.default.build .none "\x7b\x7b a|up \x7d\x7d\x7b\x7b b \x7d\x7d"
        [("a", .string "x")] none = .error (.render (.modifier (.undefined "up"))) ∧
      ∃ e : ValueError, e.isAbsence = true ∧
        Builder.default.StopsAt .none "\x7b\x7b a|up \x7d\x7d\x7b\x7b b \x7d\x7d"
          [("a", .string "x")] none e := by
  have hmissing : Builder.default.canBuild .none
      "\x7b\x7b a|up \x7d\x7d\x7b\x7b b \x7d\x7d" [("a", .string "x")] = .ok false := by
    decide +kernel
  obtain ⟨-, -, -, habsent, -⟩ := canBuild_predicts_build .none .default
    "\x7b\x7b a|up \x7d\x7d\x7b\x7b b \x7d\x7d" [("a", .string "x")] none
  exact ⟨hmissing, by decide +kernel, habsent hmissing⟩

end Builder

end TagText
