import TagText.Proofs.Building.Readiness
import TagText.Proofs.Template.Grammar

/-!
# Dotted paths

A path is written with dots between its keys and taken apart at the dots. Taking apart is splitting a
list at one element (`Path.splitDots_eq_splitOn`), so the two undo each other on all texts and on all
keys without dots. No segment of a template has a dot, however the template separates segments, so a
tag can be told by its dotted path alone:

> `dotted_path_unambiguous`: the dotted path of a tag stands for the path of the tag, and what a
> store has there is what the tag is rendered with.
-/

namespace TagText

namespace Path

/-! ## Writing a path and taking it apart -/

theorem splitDots_eq_splitOn (s : List Char) : splitDots s = s.splitOn '.' := by
  induction s with
  | nil => exact (List.splitOn_nil '.').symm
  | cons c s ih =>
    rw [splitDots, ih, List.splitOn_eq_splitOnP, List.splitOn_eq_splitOnP,
      List.splitOnP_cons_eq_if_modifyHead]
    by_cases hc : c = '.'
    · rw [if_pos hc, if_pos (beq_iff_eq.mpr hc)]
    · rw [if_neg hc, if_neg (mt beq_iff_eq.mp hc)]
      obtain ⟨part, parts, hparts⟩ := List.exists_cons_of_ne_nil (List.splitOnP_ne_nil (· == '.') s)
      rw [hparts]
      rfl

/-- The keys of a text with the dots between them again are the text. -/
theorem intercalate_ofDotted (dotted : String) : ".".intercalate (ofDotted dotted) = dotted := by
  have hkeys : (ofDotted dotted).map String.toList = dotted.toList.splitOn '.' := by
    rw [ofDotted, List.map_map, ← splitDots_eq_splitOn]
    exact List.map_id'' (fun _ => String.toList_ofList) _
  rw [← String.toList_inj, String.toList_intercalate, hkeys]
  exact List.intercalate_splitOn '.'

/-- Keys without dots are found again in the text that has dots between them. -/
theorem ofDotted_intercalate {keys : List String} (hne : keys ≠ [])
    (hkeys : ∀ key ∈ keys, '.' ∉ key.toList) : ofDotted (".".intercalate keys) = keys := by
  have hparts : splitDots (".".intercalate keys).toList = keys.map String.toList := by
    rw [splitDots_eq_splitOn, String.toList_intercalate]
    exact List.splitOn_intercalate '.' (List.forall_mem_map.mpr hkeys) (by simpa using hne)
  rw [ofDotted, hparts, List.map_map]
  exact List.map_id'' (fun _ => String.ofList_toList) keys

end Path

/-! ## The tags of templates -/

theorem dot_not_mem_of_isSegment {s : List Char} (h : IsSegment s) : '.' ∉ s := by
  have hletter : ¬('.' : Char).isLower = true := by decide
  have hinner : ¬(('.' : Char).isAlphanum = true ∨ '.' = '_') := by decide
  intro hdot
  cases h with
  | one hfirst => exact hletter (List.mem_singleton.mp hdot ▸ hfirst)
  | more hfirst hmiddle hlast =>
    rcases List.mem_cons.mp hdot with rfl | hdot
    · exact hletter hfirst
    · rcases List.mem_append.mp hdot with hdot | hdot
      · exact hinner (hmiddle '.' hdot)
      · exact hinner (Or.inl (List.mem_singleton.mp hdot ▸ hlast))

variable {tokens : Tokens} {blank : List Char → Nat} {template : String} {tree : Tree} {tag : Tag}

/-- The dotted path of a tag stands for its path, however the template separates segments. -/
theorem ofDotted_dottedPath (h : parseWith tokens blank template = .ok tree)
    (htag : tag ∈ Tree.tags tree) : Path.ofDotted tag.dottedPath = tag.path :=
  Path.ofDotted_intercalate (path_ne_nil_of_parseWith h htag) fun key hkey =>
    dot_not_mem_of_isSegment (isSegment_of_parseWith h htag key hkey)

/-- The error of a tag that is one of following a path is what the path of the tag fails with. -/
theorem Renderer.renderTag_eq_value_error_iff {objects : Objects} {r : Renderer} {store : Store}
    {e : ValueError} :
    r.renderTag objects store tag = .error (.value e) ↔ store.get objects tag.path = .error e := by
  refine ⟨fun h => ?_, renderTag_of_get_error⟩
  cases hget : store.get objects tag.path with
  | ok v => rcases afterLookup_of_renderTag hget h with ⟨_, he⟩ | ⟨_, he⟩ | ⟨_, he⟩ <;> cases he
  | error e' =>
    rw [renderTag_of_get_error hget] at h
    injection h with h
    injection h with h
    rw [h]

/-- **Dotted paths are unambiguous.** A text is what its keys give with dots between them, and keys
without dots are those of what they give in this way. In a template that parses, with any literals
and any blanks, the dotted path of a tag stands for its path. So what a store answers under the dotted
path is what the tag is rendered with: its value goes through the modifiers and the formatter, its
error is that of the tag, and only if it has something there is the tree rendered. -/
theorem dotted_path_unambiguous :
    (∀ dotted : String, ".".intercalate (Path.ofDotted dotted) = dotted) ∧
    (∀ keys : List String, keys ≠ [] → (∀ key ∈ keys, '.' ∉ key.toList) →
      Path.ofDotted (".".intercalate keys) = keys) ∧
    ∀ tokens blank template tree, parseWith tokens blank template = .ok tree →
      ∀ tag ∈ Tree.tags tree, Path.ofDotted tag.dottedPath = tag.path ∧
        ∀ (objects : Objects) (r : Renderer),
          (∀ store text, r.renderTag objects store tag = .ok text ↔
            ∃ v w, store.get objects (Path.ofDotted tag.dottedPath) = .ok v ∧
              r.modifiers.apply v tag.modifiers = .ok w ∧ r.formatter w = .ok text) ∧
          (∀ store e, r.renderTag objects store tag = .error (.value e) ↔
            store.get objects (Path.ofDotted tag.dottedPath) = .error e) ∧
          ∀ extra processor text, r.render objects tree extra processor = .ok text →
            (r.store.add extra).has objects (Path.ofDotted tag.dottedPath) = .ok true := by
  refine ⟨Path.intercalate_ofDotted, fun keys hne hkeys => Path.ofDotted_intercalate hne hkeys, ?_⟩
  intro tokens blank template tree h tag htag
  have hpath : Path.ofDotted tag.dottedPath = tag.path := ofDotted_dottedPath h htag
  refine ⟨hpath, fun objects r => ?_⟩
  rw [hpath]
  refine ⟨fun store text => Renderer.renderTag_eq_ok_iff,
    fun store e => Renderer.renderTag_eq_value_error_iff, ?_⟩
  intro extra processor text hrender
  rw [Renderer.render_eq_renderOnto] at hrender
  have hgives := (Renderer.exists_renderOnto_iff processor "").mp ⟨text, hrender⟩ tag htag
  exact Store.has_eq_true_iff.mpr (Builder.resolves_of_renderTag hgives)

/-- Segments that are parted by two dots are told with one between them. -/
theorem dotted_path_unambiguous_doubled :
    Path.ofDotted (".".intercalate ["", "a b", ""]) = ["", "a b", ""] ∧
    parseWith ⟨"\\", "<", ">", "|", ".."⟩ Pattern.blanks.prefixLength "<a..b>" =
      .ok [.tag ⟨["a", "b"], []⟩] ∧
    Path.ofDotted (Tag.dottedPath ⟨["a", "b"], []⟩) = ["a", "b"] ∧
    (Store.ofEntries [("a", .map [("b", .null)])]).has .none
      (Path.ofDotted (Tag.dottedPath ⟨["a", "b"], []⟩)) = .ok true := by
  have hparse : parseWith ⟨"\\", "<", ">", "|", ".."⟩ Pattern.blanks.prefixLength "<a..b>" =
      .ok [.tag ⟨["a", "b"], []⟩] := by
    decide +kernel
  let r : Renderer := { Renderer.empty with store := .ofEntries [("a", .map [("b", .null)])] }
  have hrender : ∃ text, r.render .none [.tag ⟨["a", "b"], []⟩] [] none = .ok text := ⟨_, rfl⟩
  obtain ⟨text, htext⟩ := hrender
  obtain ⟨-, hkeys, htags⟩ := dotted_path_unambiguous
  obtain ⟨hpath, hstore⟩ := htags _ _ _ _ hparse ⟨["a", "b"], []⟩ List.mem_cons_self
  exact ⟨hkeys ["", "a b", ""] (by decide) (by decide), hparse, hpath,
    (hstore .none r).2.2 [] none text htext⟩

end TagText
