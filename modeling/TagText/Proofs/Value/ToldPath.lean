import TagText.Proofs.Value.Following
import TagText.Template.Node

/-!
# The path that an error tells

Following keys fails at the first of them that cannot be taken, and the error tells the path up to
there. A key gets its dot if something is told before it, so the empty keys at the front of a path
leave no trace (`Path.told_eq`); this is the path with its dots unless there is such a key and another
behind it (`Path.told_eq_intercalate_iff`).

> `error_tells_path`: whatever the path, some key is the first that fails, the error is one of absence
> or of an accessor, and it tells the keys up to that one from the first that is not empty.
-/

namespace TagText

/-! ## Told paths and dotted paths -/

namespace Path

theorem told_empty_cons (keys : List String) : told ("" :: keys) = told keys :=
  rfl

/-- Nothing is told of the empty keys at the front. -/
theorem told_eq (keys : List String) : told keys = ".".intercalate (keys.dropWhile (· = "")) := by
  induction keys with
  | nil => rfl
  | cons key keys ih =>
    by_cases hkey : key = ""
    · subst hkey
      rw [told_empty_cons, ih, List.dropWhile_cons_of_pos (by simp)]
    · rw [told_cons_eq_intercalate hkey, List.dropWhile_cons_of_neg (by simpa using hkey)]

theorem length_told_le (keys : List String) :
    (told keys).length ≤ (".".intercalate keys).length := by
  induction keys with
  | nil => exact Nat.le_refl _
  | cons key keys ih =>
    by_cases hkey : key = ""
    · subst hkey
      cases keys with
      | nil => exact Nat.le_refl _
      | cons key' keys =>
        rw [told_empty_cons, String.intercalate_cons_cons, String.length_append]
        omega
    · exact Nat.le_of_eq (congrArg String.length (told_cons_eq_intercalate hkey keys))

theorem told_eq_intercalate_iff (keys : List String) :
    told keys = ".".intercalate keys ↔ keys.length ≤ 1 ∨ keys.head? ≠ some "" := by
  match keys with
  | [] => simp [told]
  | [key] => simp [told, extend]
  | key :: key' :: keys =>
    by_cases hkey : key = ""
    · subst hkey
      -- The dot between the two keys is not told, so what is told is shorter.
      have hlt : (told (key' :: keys)).length <
          (".".intercalate ("" :: key' :: keys)).length := by
        have hle := length_told_le (key' :: keys)
        rw [String.intercalate_cons_cons, String.length_append, String.length_append]
        change _ < 0 + 1 + _
        omega
      rw [told_empty_cons]
      simp only [List.length_cons, List.head?_cons, ne_eq, not_true_eq_false, or_false]
      constructor
      · intro heq
        rw [heq] at hlt
        exact absurd hlt (Nat.lt_irrefl _)
      · intro hlen
        omega
    · simp [told_cons_eq_intercalate hkey, hkey]

end Path

/-! ## The first key that fails -/

/-- Following `keys` by `follow` comes as far as the `k`th key: those before it lead to a value, and
up to it the error is `e` already. -/
structure FailsAt (follow : List String → Except ValueError Value) (keys : List String)
    (e : ValueError) (k : Nat) : Prop where
  pos : 0 < k
  le_length : k ≤ keys.length
  before : 1 < k → ∃ v, follow (keys.take (k - 1)) = .ok v
  fails : follow (keys.take k) = .error e

/-- The error is one of absence or of an accessor, and it tells the first `k` keys, from the first
that is not empty. This is their dotted path just in case no empty key at the front has another
behind it. -/
structure TellsPath (keys : List String) (e : ValueError) (k : Nat) : Prop where
  kind : e.kind = .inaccessible ∨ e.kind = .accessor
  path : e.path? = some (".".intercalate ((keys.take k).dropWhile (· = "")))
  dotted_iff : e.path? = some (Tag.dottedPath ⟨keys.take k, []⟩) ↔ k = 1 ∨ keys.head? ≠ some ""

theorem tellsPath_told {taken : List String} (hne : taken ≠ []) (back : List String)
    (obstacle : Obstacle) :
    TellsPath (taken ++ back) (.blocked obstacle (Path.told taken)) taken.length where
  kind := by cases h : obstacle.isAbsence <;> simp [ValueError.kind, h]
  path := by
    rw [List.take_left, ← Path.told_eq]
    rfl
  dotted_iff := by
    obtain ⟨key, keys, rfl⟩ := List.exists_cons_of_ne_nil hne
    rw [List.take_left]
    change some (Path.told _) = some (".".intercalate _) ↔ _
    rw [Option.some.injEq, Path.told_eq_intercalate_iff]
    simp

namespace Value

variable {objects : Objects} {v : Value} {keys taken : List String} {obstacle : Obstacle}

namespace Blocks

theorem ne_nil (h : Blocks objects v keys taken obstacle) : taken ≠ [] := by
  cases h <;> exact List.cons_ne_nil _ _

theorem isPrefix (h : Blocks objects v keys taken obstacle) : taken <+: keys := by
  induction h with
  | here _ keys => exact ⟨keys, rfl⟩
  | later _ _ ih => exact List.cons_prefix_cons.mpr ⟨rfl, ih⟩

/-- The keys behind the obstacle do not matter. -/
theorem taken_self (h : Blocks objects v keys taken obstacle) :
    Blocks objects v taken taken obstacle := by
  induction h with
  | here hmember _ => exact .here hmember []
  | later hmember _ ih => exact .later hmember ih

/-- The keys before the last one taken lead to a value. -/
theorem exists_leads_dropLast (h : Blocks objects v keys taken obstacle) :
    ∃ w, Leads objects v taken.dropLast w := by
  induction h with
  | here _ _ => exact ⟨_, .nil _⟩
  | later hmember hrest ih =>
    obtain ⟨w, hleads⟩ := ih
    rw [List.dropLast_cons_of_ne_nil hrest.ne_nil]
    exact ⟨w, .cons hmember hleads⟩

end Blocks

theorem exists_failsAt_of_resolve (hv : v.isNull = false) (hkeys : keys ≠ []) {e : ValueError}
    (h : v.resolve objects keys = .error e) :
    ∃ k, FailsAt (v.resolve objects) keys e k ∧ TellsPath keys e k := by
  obtain ⟨taken, obstacle, hblocks, rfl⟩ := (resolve_eq_error_iff hv hkeys).mp h
  obtain ⟨back, rfl⟩ := hblocks.isPrefix
  refine ⟨taken.length, ⟨List.length_pos_iff.mpr hblocks.ne_nil, by simp, fun hlt => ?_, ?_⟩,
    tellsPath_told hblocks.ne_nil back obstacle⟩
  · obtain ⟨w, hleads⟩ := hblocks.exists_leads_dropLast
    have hfront : taken.dropLast ≠ [] := by
      rw [← List.length_pos_iff, List.length_dropLast]
      omega
    rw [List.take_append_of_le_length (Nat.sub_le _ 1), ← List.dropLast_eq_take]
    exact ⟨w, (resolve_eq_ok_iff hfront).mpr hleads⟩
  · rw [List.take_left, resolve_eq_error_iff hv hblocks.ne_nil]
    exact ⟨taken, obstacle, hblocks.taken_self, rfl⟩

end Value

/-- A store fails at the key at which the value it follows the path from does. -/
theorem Store.exists_failsAt_of_get {objects : Objects} {s : Store} {keys : List String}
    (hkeys : keys ≠ []) {e : ValueError} (h : s.get objects keys = .error e) :
    ∃ k, FailsAt (s.get objects) keys e k ∧ TellsPath keys e k := by
  obtain ⟨key, keys, rfl⟩ := List.exists_cons_of_ne_nil hkeys
  -- All fronts of the path begin with the same key, so they are followed from the same value.
  have hfront {n : Nat} (hn : 0 < n) : s.get objects ((key :: keys).take n) =
      (s.root key).resolve objects ((key :: keys).take n) := by
    obtain ⟨m, rfl⟩ := Nat.exists_eq_add_one.mpr hn
    exact s.get_cons key (keys.take m)
  rw [get_cons] at h
  obtain ⟨k, hfails, htells⟩ := Value.exists_failsAt_of_resolve (s.isNull_root key) hkeys h
  refine ⟨k, ⟨hfails.pos, hfails.le_length, fun hlt => ?_, ?_⟩, htells⟩
  · rw [hfront (by omega)]
    exact hfails.before hlt
  · rw [hfront hfails.pos]
    exact hfails.fails

/-- **An error tells the path up to the key that failed**, from its first key that is not empty. From
a value that is not null as from a store, the keys before that one lead to a value, and following the
path up to it gives the same error. The error is one of absence or of an accessor. -/
theorem error_tells_path (objects : Objects) {keys : List String} (hkeys : keys ≠ []) :
    (∀ v e, Value.isNull v = false → v.resolve objects keys = .error e →
      ∃ k, FailsAt (v.resolve objects) keys e k ∧ TellsPath keys e k) ∧
    ∀ s e, Store.get objects s keys = .error e →
      ∃ k, FailsAt (s.get objects) keys e k ∧ TellsPath keys e k :=
  ⟨fun _ _ hv h => Value.exists_failsAt_of_resolve hv hkeys h,
    fun _ _ h => Store.exists_failsAt_of_get hkeys h⟩

/-- From a list, an item that is null does not go on, and in a store two empty keys lead to null, of
which nothing is told. -/
theorem error_tells_path_null :
    ((Value.list [.null]).resolve .none ["0", "x"] = .error (.blocked (.scalar "null") "0.x") ∧
      ∃ k, FailsAt ((Value.list [.null]).resolve .none) ["0", "x"]
          (.blocked (.scalar "null") "0.x") k ∧
        TellsPath ["0", "x"] (.blocked (.scalar "null") "0.x") k) ∧
      (Store.ofEntries [("", .map [("", .null)])]).get .none ["", "", "x", "y"] =
        .error (.blocked (.scalar "null") "x") ∧
      ∃ k, FailsAt ((Store.ofEntries [("", .map [("", .null)])]).get .none) ["", "", "x", "y"]
          (.blocked (.scalar "null") "x") k ∧
        TellsPath ["", "", "x", "y"] (.blocked (.scalar "null") "x") k := by
  have hresolve : (Value.list [.null]).resolve .none ["0", "x"] =
      .error (.blocked (.scalar "null") "0.x") := rfl
  have hget : (Store.ofEntries [("", .map [("", .null)])]).get .none ["", "", "x", "y"] =
      .error (.blocked (.scalar "null") "x") := rfl
  exact ⟨⟨hresolve, (error_tells_path .none (List.cons_ne_nil _ _)).1 _ _ rfl hresolve⟩,
    hget, (error_tells_path .none (List.cons_ne_nil _ _)).2 _ _ hget⟩

/-- The path `.a` is told as `a`, which is the dotted path of no front of it. -/
theorem told_without_leading_dot :
    Path.ofDotted ".a" = ["", "a"] ∧
      (Value.map [("", .map [])]).resolve .none ["", "a"] = .error (.blocked .undefinedKey "a") ∧
      ∀ k ∈ [1, 2], Tag.dottedPath ⟨["", "a"].take k, []⟩ ≠ "a" :=
  ⟨by decide, rfl, by decide⟩

end TagText
