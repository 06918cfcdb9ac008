import TagText.Proofs.Building.Readiness
import TagText.Proofs.Template.Grammar
import TagText.Proofs.Value.Descent

/-!
# No tag leads into a list

The items of a list are reached by keys that are numbers, and a path may have such keys. But every
segment that a template can write begins with a small letter, whatever its literals and blanks are,
so it is no number (`index?_eq_none_of_isLower`), and a list ends every path that has a key left:

> `list_ends_path`: where the path of a tag comes to a list before its last key, the store has no
> value there, the error tells the path up to the key behind the list, and nothing is rendered.
-/

namespace TagText

variable {objects : Objects}

/-! ## Keys that are no numbers -/

/-- No digit is a small letter. -/
theorem isAsciiDigit_eq_false_of_isLower {c : Char} (h : c.isLower = true) :
    isAsciiDigit c = false := by
  change (decide ('a' ≤ c) && decide (c ≤ 'z')) = true at h
  have hletter : 'a' ≤ c := of_decide_eq_true (Bool.and_eq_true_iff.mp h).1
  have hdigit : ¬c ≤ '9' := fun hle => absurd (Char.le_trans hletter hle) (by decide)
  rw [isAsciiDigit, decide_eq_false hdigit, Bool.and_false]

/-- A key that begins with a small letter is the number of no item. -/
theorem index?_eq_none_of_isLower {key : String} {c : Char} {s : List Char}
    (hkey : key.toList = c :: s) (hc : c.isLower = true) : Path.index? key = none := by
  have hdigits : Path.unsignedDigits (c :: s) = c :: s := by
    unfold Path.unsignedDigits
    split
    next heq =>
      rw [(List.cons.inj heq).1] at hc
      exact absurd hc (by decide)
    next => rfl
  have hpush : Path.pushDigit? 0 c = none := by
    rw [Path.pushDigit?, isAsciiDigit_eq_false_of_isLower hc]
    rfl
  unfold Path.index?
  rw [hkey, hdigits]
  show (c :: s).foldlM Path.pushDigit? 0 = none
  rw [List.foldlM_cons, hpush]
  rfl

/-- A list has nothing under a key that is no number. -/
theorem Store.get_of_list {s : Store} {before after : List String} {key : String}
    {items : List Value} (h : s.get objects before = .ok (.list items))
    (hkey : Path.index? key = none) :
    s.get objects (before ++ key :: after) =
      .error (.blocked .undefinedKey (Path.told (before ++ [key]))) := by
  have hmember : (Value.list items).member objects key = .error .undefinedKey := by
    rw [Value.member, hkey]
    rfl
  rw [get_append_cons h, hmember]

/-- A tag without a value keeps its tree from being rendered. -/
theorem Renderer.exists_render_error {r : Renderer} {extra : Entries} {tree : Tree} {tag : Tag}
    (htag : tag ∈ Tree.tags tree) {e : ValueError}
    (hget : (r.store.add extra).get objects tag.path = .error e) (processor : Option Processor) :
    ∃ failure, r.render objects tree extra processor = .error failure := by
  cases hrender : r.render objects tree extra processor with
  | error failure => exact ⟨failure, rfl⟩
  | ok text =>
    rw [render_eq_renderOnto] at hrender
    have hgives := (exists_renderOnto_iff processor "").mp ⟨text, hrender⟩ tag htag
    obtain ⟨v, hv⟩ := Builder.resolves_of_renderTag hgives
    exact absurd (hget.symm.trans hv) (by simp)

/-! ## The paths of tags -/

/-- **No tag leads into a list.** Every segment in a template that parses begins with a small letter
and is the number of no item. So if the path of a tag comes to a list with keys left, it leads to no
value: the error is that of an undefined key and tells the path, with its dots, up to the key behind
the list. `has` denies the path, and rendering the template with these values fails. -/
theorem list_ends_path {tokens : Tokens} {blank : List Char → Nat} {template : String} {tree : Tree}
    (h : parseWith tokens blank template = .ok tree) {tag : Tag} (htag : tag ∈ Tree.tags tree) :
    (∀ key ∈ tag.path, (∃ c s, key.toList = c :: s ∧ c.isLower = true) ∧
      Path.index? key = none) ∧
    ∀ (objects : Objects) (store : Store) (before after : List String) (key : String)
      (items : List Value), tag.path = before ++ key :: after →
      store.get objects before = .ok (.list items) →
        store.get objects tag.path =
          .error (.blocked .undefinedKey (".".intercalate (before ++ [key]))) ∧
        store.has objects tag.path = .ok false ∧
        ∀ (r : Renderer) (extra : Entries) (processor : Option Processor),
          r.store.add extra = store →
          ∃ e, r.render objects tree extra processor = .error e := by
  have hletters : ∀ key ∈ tag.path, (∃ c s, key.toList = c :: s ∧ c.isLower = true) ∧
      Path.index? key = none := by
    intro key hkey
    obtain ⟨c, s, hcs, hc⟩ := (isSegment_of_parseWith h htag key hkey).exists_cons
    exact ⟨⟨c, s, hcs, hc⟩, index?_eq_none_of_isLower hcs hc⟩
  refine ⟨hletters, ?_⟩
  intro objects store before after key items hpath hlist
  have hkey : key ∈ tag.path := hpath ▸ List.mem_append_right before List.mem_cons_self
  have htold : Path.told (before ++ [key]) = ".".intercalate (before ++ [key]) := by
    have hleading : before ++ [key] <+: tag.path := ⟨after, by simp [hpath]⟩
    refine Path.told_eq_intercalate fun segment hsegment => ?_
    obtain ⟨⟨c, s, hcs, -⟩, -⟩ := hletters segment (hleading.subset hsegment)
    rintro rfl
    exact absurd hcs (by simp)
  have hget : store.get objects tag.path =
      .error (.blocked .undefinedKey (".".intercalate (before ++ [key]))) := by
    rw [hpath, Store.get_of_list hlist (hletters key hkey).2, htold]
  refine ⟨hget, Store.has_eq_false_iff.mpr ⟨_, hget, rfl⟩, ?_⟩
  rintro r extra processor rfl
  exact Renderer.exists_render_error htag hget processor

/-- Where the separator looks like the number of an item, it is still no key. -/
theorem list_ends_path_brackets :
    parseWith ⟨"\\", "<", ">", "|", "[0]."⟩ Pattern.blanks.prefixLength "<a[0].b>" =
        .ok [.tag ⟨["a", "b"], []⟩] ∧
      (Store.ofEntries [("a", .list [.string "x"])]).get .none ["a", "b"] =
        .error (.blocked .undefinedKey "a.b") := by
  have hparse : parseWith ⟨"\\", "<", ">", "|", "[0]."⟩ Pattern.blanks.prefixLength "<a[0].b>" =
      .ok [.tag ⟨["a", "b"], []⟩] := by
    decide +kernel
  have htag : (⟨["a", "b"], []⟩ : Tag) ∈ Tree.tags [.tag ⟨["a", "b"], []⟩] := List.mem_cons_self
  obtain ⟨-, hends⟩ := list_ends_path hparse htag
  exact ⟨hparse, (hends .none (.ofEntries [("a", .list [.string "x"])]) ["a"] [] "b"
    [.string "x"] rfl rfl).1⟩

end TagText
