import TagText.Proofs.Named.Lookup
import TagText.Proofs.Rendering.Walk

/-!
# A text depends on what its tags name

Of the values of a renderer a tree can only see those under the first keys of its tags
(`Tree.keys`), and of the modifiers those that its tags name (`Tree.modifierNames`). Two renderers
that agree on these, have the same formatter and fall back on the same object cannot be told apart
by rendering the tree:

> `render_eq_of_agree`: they give the same text or the same error, with any values of the call, and
> their stores have the same paths of tags. So values and modifiers that no tag names may be added,
> replaced, removed and put elsewhere.

Values are reached through `Named.get?` alone, so the frame is that of things under names
(`get?_extend_congr`, `get?_extend_of_not_mem`, `get?_filter`); from there agreement goes up through
stores and rows of modifiers to tags.
-/

namespace TagText

/-! ## What a tree names -/

namespace Tree

/-- The first keys of the paths of the tags. -/
def keys (tree : Tree) : List String := (tags tree).filterMap (·.path.head?)

/-- The names of modifiers in the tags. -/
def modifierNames (tree : Tree) : List String := (tags tree).flatMap Tag.modifiers

variable {tree : Tree} {tag : Tag}

theorem mem_keys (htag : tag ∈ tags tree) {key : String} (hkey : tag.path.head? = some key) :
    key ∈ keys tree :=
  List.mem_filterMap.mpr ⟨tag, htag, hkey⟩

theorem mem_modifierNames (htag : tag ∈ tags tree) {name : String} (hname : name ∈ tag.modifiers) :
    name ∈ modifierNames tree :=
  List.mem_flatMap.mpr ⟨tag, htag, hname⟩

end Tree

/-! ## Stores and modifiers -/

variable {objects : Objects}

/-- A store is asked for its object and for the first key of a path only. -/
theorem Store.get_congr {s s' : Store} {path : List String} (hbound : s.bound = s'.bound)
    (hkey : ∀ key, path.head? = some key → Named.get? s.entries key = Named.get? s'.entries key) :
    s.get objects path = s'.get objects path := by
  cases path with
  | nil => rfl
  | cons key keys => simp only [get, hbound, hkey key rfl]

theorem Store.has_congr {s s' : Store} {path : List String} (hbound : s.bound = s'.bound)
    (hkey : ∀ key, path.head? = some key → Named.get? s.entries key = Named.get? s'.entries key) :
    s.has objects path = s'.has objects path := by
  rw [has, has, get_congr hbound hkey]

theorem Modifiers.apply_congr {ms ms' : Modifiers} {names : List String}
    (h : ∀ name ∈ names, Named.get? ms name = Named.get? ms' name) (v : Value) :
    ms.apply v names = ms'.apply v names := by
  induction names generalizing v with
  | nil => rfl
  | cons name names ih =>
    obtain ⟨hname, hnames⟩ := List.forall_mem_cons.mp h
    rw [apply, apply, hname]
    cases Named.get? ms' name with
    | none => rfl
    | some modifier => simp only [ih hnames]

/-! ## Renderers -/

namespace Renderer

/-- The renderers have the same formatter and the same object behind their values, and the same
values and modifiers under all that a tree names. -/
structure Agree (tree : Tree) (r r' : Renderer) : Prop where
  formatter_eq : r.formatter = r'.formatter
  bound_eq : r.store.bound = r'.store.bound
  value_eq : ∀ key ∈ Tree.keys tree,
    Named.get? r.store.entries key = Named.get? r'.store.entries key
  modifier_eq : ∀ name ∈ Tree.modifierNames tree,
    Named.get? r.modifiers name = Named.get? r'.modifiers name

variable {tree : Tree} {r r' : Renderer} {tag : Tag}

/-- The values of a call leave agreeing renderers with agreeing stores. -/
theorem Agree.value_eq_add (h : Agree tree r r') (extra : Entries) (htag : tag ∈ Tree.tags tree)
    (key : String) (hkey : tag.path.head? = some key) :
    Named.get? (r.store.add extra).entries key = Named.get? (r'.store.add extra).entries key :=
  Named.get?_extend_congr (h.value_eq key (Tree.mem_keys htag hkey)) extra

theorem Agree.renderTag_eq (h : Agree tree r r') (extra : Entries)
    (htag : tag ∈ Tree.tags tree) :
    r.renderTag objects (r.store.add extra) tag =
      r'.renderTag objects (r'.store.add extra) tag := by
  have hget : (r.store.add extra).get objects tag.path =
      (r'.store.add extra).get objects tag.path :=
    Store.get_congr h.bound_eq (h.value_eq_add extra htag)
  have happly : ∀ v, r.modifiers.apply v tag.modifiers = r'.modifiers.apply v tag.modifiers :=
    Modifiers.apply_congr fun name hname => h.modifier_eq name (Tree.mem_modifierNames htag hname)
  simp only [renderTag, hget, happly, h.formatter_eq]

theorem Agree.render_eq (h : Agree tree r r') (extra : Entries) (processor : Option Processor) :
    r.render objects tree extra processor = r'.render objects tree extra processor := by
  rw [render_eq_renderOnto, render_eq_renderOnto]
  refine renderOnto_congr (fun node hnode => ?_) ""
  cases node with
  | text content => rfl
  | tag tag => simp only [renderNode, h.renderTag_eq extra (Tree.mem_tags_of_mem hnode)]

theorem addModifiers_eq (r : Renderer) (ms : List (String × Modifier)) :
    r.addModifiers ms = { r with modifiers := Named.extend r.modifiers ms } := by
  unfold addModifiers
  induction ms generalizing r with
  | nil => rfl
  | cons m ms ih => exact ih (r.addModifier m.1 m.2)

/-- Values and modifiers that the tree does not name may be added or replaced. -/
theorem agree_add {values : Entries} {ms : List (String × Modifier)}
    (hvalues : ∀ key ∈ Tree.keys tree, key ∉ values.map Prod.fst)
    (hmodifiers : ∀ name ∈ Tree.modifierNames tree, name ∉ ms.map Prod.fst) :
    Agree tree r ((r.addValues values).addModifiers ms) := by
  rw [addModifiers_eq]
  exact {
    formatter_eq := rfl
    bound_eq := rfl
    value_eq := fun key hkey => (Named.get?_extend_of_not_mem (hvalues key hkey)).symm
    modifier_eq := fun name hname => (Named.get?_extend_of_not_mem (hmodifiers name hname)).symm }

/-- The values and modifiers that the tree does not name may be any others, in any places, if those
that it names stay as they are. -/
theorem agree_of_filter_eq {entries : Entries} {ms : Modifiers}
    (hentries : entries.filter (·.1 ∈ Tree.keys tree) =
      r.store.entries.filter (·.1 ∈ Tree.keys tree))
    (hms : ms.filter (·.1 ∈ Tree.modifierNames tree) =
      r.modifiers.filter (·.1 ∈ Tree.modifierNames tree)) :
    Agree tree r { r with store := { r.store with entries }, modifiers := ms } where
  formatter_eq := rfl
  bound_eq := rfl
  value_eq _ hkey := Named.get?_eq_of_filter_eq hkey hentries.symm
  modifier_eq _ hname := Named.get?_eq_of_filter_eq hname hms.symm

end Renderer

/-- **A text depends on what its tags name.** Two renderers with the same formatter and object that
agree on the first keys of the tags and on the modifiers that these name give the same answer, text
or error, with any values of the call and any processor, and their stores have the same paths of
tags. So a renderer answers as before when values and modifiers that no tag names are added to it
or replaced, and also when they are removed or put elsewhere in their order. -/
theorem render_eq_of_agree (objects : Objects) {tree : Tree} {r r' : Renderer}
    (h : r.Agree tree r') :
    (∀ extra processor, r'.render objects tree extra processor =
      r.render objects tree extra processor) ∧
    (∀ tag ∈ Tree.tags tree, r'.store.has objects tag.path = r.store.has objects tag.path) ∧
    (∀ values ms, (∀ key ∈ Tree.keys tree, key ∉ values.map Prod.fst) →
      (∀ name ∈ Tree.modifierNames tree, name ∉ ms.map Prod.fst) → ∀ extra processor,
        ((r.addValues values).addModifiers ms).render objects tree extra processor =
          r.render objects tree extra processor) ∧
    ∀ entries ms,
      entries.filter (·.1 ∈ Tree.keys tree) = r.store.entries.filter (·.1 ∈ Tree.keys tree) →
      ms.filter (·.1 ∈ Tree.modifierNames tree) =
        r.modifiers.filter (·.1 ∈ Tree.modifierNames tree) → ∀ extra processor,
        ({ r with store := { r.store with entries }, modifiers := ms } : Renderer).render objects
          tree extra processor = r.render objects tree extra processor := by
  refine ⟨fun extra processor => (h.render_eq extra processor).symm, fun tag htag => ?_, ?_, ?_⟩
  · refine (Store.has_congr h.bound_eq fun key hkey => ?_).symm
    exact h.value_eq key (Tree.mem_keys htag hkey)
  · intro values ms hvalues hms extra processor
    exact ((Renderer.agree_add hvalues hms).render_eq extra processor).symm
  · intro entries ms hentries hms extra processor
    exact ((Renderer.agree_of_filter_eq hentries hms).render_eq extra processor).symm

/-- One renderer has all standard modifiers, the other only the one that the tag names, and a value
more in front. -/
theorem render_eq_of_agree_upper :
    (Renderer.standard.addValue "a" (.string "x")).Agree [.tag ⟨["a"], ["upper"]⟩]
        ((Renderer.empty.addValues [("b", .null), ("a", .string "x")]).addModifier "upper"
          (.ofText Casing.upper)) ∧
      (Renderer.standard.addValue "a" (.string "x")).render .none [.tag ⟨["a"], ["upper"]⟩] []
        none = .ok "X" ∧
      ((Renderer.empty.addValues [("b", .null), ("a", .string "x")]).addModifier "upper"
        (.ofText Casing.upper)).render .none [.tag ⟨["a"], ["upper"]⟩] [] none = .ok "X" := by
  have hagree : (Renderer.standard.addValue "a" (.string "x")).Agree [.tag ⟨["a"], ["upper"]⟩]
      ((Renderer.empty.addValues [("b", .null), ("a", .string "x")]).addModifier "upper"
        (.ofText Casing.upper)) := {
    formatter_eq := rfl
    bound_eq := rfl
    value_eq := by
      intro key hkey
      obtain rfl := List.mem_singleton.mp hkey
      rfl
    modifier_eq := by
      intro name hname
      obtain rfl := List.mem_singleton.mp hname
      rfl }
  have htext : (Renderer.standard.addValue "a" (.string "x")).render .none
      [.tag ⟨["a"], ["upper"]⟩] [] none = .ok "X" := by
    decide +kernel
  exact ⟨hagree, htext, ((render_eq_of_agree .none hagree).1 [] none).trans htext⟩

end TagText
