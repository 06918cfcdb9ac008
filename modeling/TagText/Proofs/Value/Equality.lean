import Mathlib
import TagText.Proofs.Named.Distinct
import TagText.Proofs.Value.Parts

/-!
# Equality of values

Two maps are compared by counting their entries and looking up those of the first in the second,
which treats the two sides differently. When names are distinct this comes down to a relation that
does not: `Value.Alike` compares lists place by place and maps name by name (`beq_iff_alike`). There
symmetry and transitivity are plain, and so is that the order of maps does not matter:

> `beq_partial_equivalence`: equality is symmetric and transitive, and a value is equal to itself
> unless a NaN stands in it.
-/

namespace TagText

namespace Value

/-! ## Likeness -/

/-- The values are of the same kind and have the same contents: lists at every place, maps under
every name. -/
inductive Alike : Value → Value → Prop where
  | null : Alike .null .null
  | bool (b : Bool) : Alike (.bool b) (.bool b)
  | int (n : Int64) : Alike (.int n) (.int n)
  | float {x y : Float} (h : (x == y) = true) : Alike (.float x) (.float y)
  | string (s : String) : Alike (.string s) (.string s)
  | list {as bs : List Value} (hlength : as.length = bs.length)
      (hitems : ∀ (i : Nat) a b, as[i]? = some a → bs[i]? = some b → Alike a b) :
      Alike (.list as) (.list bs)
  | map {as bs : List (String × Value)}
      (hnames : ∀ name, name ∈ Named.names as ↔ name ∈ Named.names bs)
      (hentries : ∀ name a b, Named.get? as name = some a → Named.get? bs name = some b →
        Alike a b) :
      Alike (.map as) (.map bs)
  | object {a b : ObjectFace Value} (h : a.id = b.id) : Alike (.object a) (.object b)

variable {a b c : Value}

theorem Alike.symm (h : Alike a b) : Alike b a := by
  induction h with
  | null => exact .null
  | bool b => exact .bool b
  | int n => exact .int n
  | float h => exact .float (PartialEquivBEq.symm h)
  | string s => exact .string s
  | list hlength _ ih => exact .list hlength.symm fun i b a hb ha => ih i a b ha hb
  | map hnames _ ih =>
    exact .map (fun name => (hnames name).symm) fun name b a hb ha => ih name a b ha hb
  | object h => exact .object h.symm

theorem Alike.trans (hab : Alike a b) (hbc : Alike b c) : Alike a c := by
  induction hab generalizing c with
  | null | bool b | int n | string s => exact hbc
  | float h =>
    cases hbc with
    | float h' => exact .float (PartialEquivBEq.trans h h')
  | @list as bs hlength _ ih =>
    cases hbc with
    | @list _ cs hlength' hitems =>
      refine .list (hlength.trans hlength') fun i a c ha hc => ?_
      -- Between the two items stands the one at the same place of the list between.
      have hi : i < bs.length := hlength ▸ (List.getElem?_eq_some_iff.mp ha).1
      have hb : bs[i]? = some bs[i] := List.getElem?_eq_getElem hi
      exact ih i a bs[i] ha hb (hitems i bs[i] c hb hc)
  | @map as bs hnames _ ih =>
    cases hbc with
    | @map _ cs hnames' hentries =>
      refine .map (fun name => (hnames name).trans (hnames' name)) fun name a c ha hc => ?_
      have hname : name ∈ Named.names bs :=
        (hnames name).mp (List.mem_map.mpr ⟨_, Named.mem_of_get? ha, rfl⟩)
      obtain ⟨b, hb⟩ := Option.isSome_iff_exists.mp (Named.contains_iff_mem_names.mpr hname)
      exact ih name a b ha hb (hentries name b c hb hc)
  | object h =>
    cases hbc with
    | object h' => exact .object (h.trans h')

/-! ## Distinct names -/

/-- In all maps that stand in the value names are distinct. -/
def DistinctNames (v : Value) : Prop :=
  ∀ entries, Reaches held v (.map entries) → (Named.names entries).Nodup

theorem distinctNames_iff {v : Value} :
    v.DistinctNames ↔
      (∀ entries, v = .map entries → (Named.names entries).Nodup) ∧
        ∀ u ∈ v.held, u.DistinctNames := by
  constructor
  · intro h
    exact ⟨fun entries heq => h entries (heq ▸ Reaches.refl held v),
      fun u hu entries hentries => h entries (Reaches.of_part hu hentries)⟩
  · rintro ⟨hmap, hheld⟩ entries hentries
    rcases reaches_iff.mp hentries with rfl | ⟨u, hu, hentries⟩
    · exact hmap entries rfl
    · exact hheld u hu entries hentries

theorem distinctNames_list_iff {items : List Value} :
    DistinctNames (.list items) ↔ ∀ v ∈ items, v.DistinctNames := by
  rw [distinctNames_iff]
  simp [held]

theorem distinctNames_map_iff {entries : List (String × Value)} :
    DistinctNames (.map entries) ↔
      (Named.names entries).Nodup ∧ ∀ p ∈ entries, p.2.DistinctNames := by
  rw [distinctNames_iff]
  simp only [held, map.injEq, forall_eq', List.forall_mem_map]

theorem distinctNames_of_held_eq_nil {v : Value} (hv : ∀ entries, v ≠ .map entries)
    (hheld : v.held = []) : v.DistinctNames :=
  distinctNames_iff.mpr ⟨fun entries heq => absurd heq (hv entries), by simp [hheld]⟩

theorem DistinctNames.names {entries : List (String × Value)} (h : DistinctNames (.map entries)) :
    (Named.names entries).Nodup :=
  (distinctNames_map_iff.mp h).1

theorem DistinctNames.entry {entries : List (String × Value)} (h : DistinctNames (.map entries))
    {name : String} {v : Value} (hv : (name, v) ∈ entries) : v.DistinctNames :=
  (distinctNames_map_iff.mp h).2 _ hv

theorem DistinctNames.item {items : List Value} (h : DistinctNames (.list items)) {v : Value}
    (hv : v ∈ items) : v.DistinctNames :=
  distinctNames_list_iff.mp h v hv

/-! ## Equality is likeness -/

theorem beqItems_iff {as bs : List Value} :
    beqItems as bs = true ↔ as.length = bs.length ∧
      ∀ (i : Nat) a b, as[i]? = some a → bs[i]? = some b → beq a b = true := by
  induction as generalizing bs with
  | nil => cases bs <;> simp [beqItems]
  | cons a as ih =>
    cases bs with
    | nil => simp [beqItems]
    | cons b bs =>
      rw [beqItems, Bool.and_eq_true, ih]
      constructor
      · rintro ⟨hab, hlength, hitems⟩
        refine ⟨congrArg (· + 1) hlength, fun i a' b' ha hb => ?_⟩
        cases i with
        | zero => exact Option.some.inj ha ▸ Option.some.inj hb ▸ hab
        | succ i => exact hitems i a' b' ha hb
      · rintro ⟨hlength, hitems⟩
        exact ⟨hitems 0 a b rfl rfl, Nat.succ.inj hlength, fun i => hitems (i + 1)⟩

theorem beqEntries_iff {as bs : List (String × Value)} :
    beqEntries as bs = true ↔
      ∀ p ∈ as, ∃ b, Named.get? bs p.1 = some b ∧ beq p.2 b = true := by
  induction as with
  | nil => simp [beqEntries]
  | cons p as ih =>
    rw [beqEntries, List.forall_mem_cons, ← ih]
    cases Named.get? bs p.1 <;> simp

/-- Counting the entries of maps tells what the second has and the first has not. -/
theorem beq_map_iff {as bs : List (String × Value)} (has : (Named.names as).Nodup)
    (hbs : (Named.names bs).Nodup) :
    beq (.map as) (.map bs) = true ↔
      (∀ name, name ∈ Named.names as ↔ name ∈ Named.names bs) ∧
        ∀ name a b, Named.get? as name = some a → Named.get? bs name = some b →
          beq a b = true := by
  rw [beq, Bool.and_eq_true, beq_iff_eq, beqEntries_iff]
  constructor
  · rintro ⟨hlength, hentries⟩
    have hsubset : Named.names as ⊆ Named.names bs := by
      intro name hname
      obtain ⟨p, hp, rfl⟩ := List.mem_map.mp hname
      obtain ⟨b, hb, -⟩ := hentries p hp
      exact List.mem_map.mpr ⟨_, Named.mem_of_get? hb, rfl⟩
    have hperm : (Named.names as).Perm (Named.names bs) :=
      (has.subperm hsubset).perm_of_length_le (by simp [Named.names, hlength])
    refine ⟨fun name => hperm.mem_iff, fun name a b ha hb => ?_⟩
    obtain ⟨b', hb', hab⟩ := hentries (name, a) (Named.mem_of_get? ha)
    exact Option.some.inj (hb.symm.trans hb') ▸ hab
  · rintro ⟨hnames, hentries⟩
    have hperm : (Named.names as).Perm (Named.names bs) :=
      (List.perm_ext_iff_of_nodup has hbs).mpr hnames
    refine ⟨by simpa [Named.names] using hperm.length_eq, fun p hp => ?_⟩
    have hname : p.1 ∈ Named.names bs := (hnames p.1).mp (List.mem_map.mpr ⟨p, hp, rfl⟩)
    obtain ⟨b, hb⟩ := Option.isSome_iff_exists.mp (Named.contains_iff_mem_names.mpr hname)
    exact ⟨b, hb, hentries p.1 p.2 b ((Named.get?_eq_some_iff has).mpr hp) hb⟩

theorem alike_of_beq (ha : a.DistinctNames) (hb : b.DistinctNames) (h : beq a b = true) :
    Alike a b := by
  induction a using deepInduction generalizing b with
  | null =>
    cases b with
    | null => exact .null
    | _ => exact absurd h Bool.false_ne_true
  | bool x =>
    cases b with
    | bool y => exact eq_of_beq h ▸ .bool x
    | _ => exact absurd h Bool.false_ne_true
  | int n =>
    cases b with
    | int m => exact eq_of_beq h ▸ .int n
    | _ => exact absurd h Bool.false_ne_true
  | float x =>
    cases b with
    | float y => exact .float h
    | _ => exact absurd h Bool.false_ne_true
  | string s =>
    cases b with
    | string t => exact eq_of_beq h ▸ .string s
    | _ => exact absurd h Bool.false_ne_true
  | list as ih =>
    cases b with
    | list bs =>
      obtain ⟨hlength, hitems⟩ := beqItems_iff.mp h
      refine .list hlength fun i v w hv hw => ?_
      have hmem : v ∈ as := List.mem_of_getElem? hv
      exact ih v hmem (ha.item hmem) (hb.item (List.mem_of_getElem? hw)) (hitems i v w hv hw)
    | _ => exact absurd h Bool.false_ne_true
  | map as ih =>
    cases b with
    | map bs =>
      obtain ⟨hnames, hentries⟩ := (beq_map_iff ha.names hb.names).mp h
      refine .map hnames fun name v w hv hw => ?_
      have hmem := Named.mem_of_get? hv
      exact ih _ hmem (ha.entry hmem) (hb.entry (Named.mem_of_get? hw))
        (hentries name v w hv hw)
    | _ => exact absurd h Bool.false_ne_true
  | object face =>
    cases b with
    | object other => exact .object (eq_of_beq h)
    | _ => exact absurd h Bool.false_ne_true

theorem beq_of_alike (ha : a.DistinctNames) (hb : b.DistinctNames) (h : Alike a b) :
    beq a b = true := by
  induction h with
  | null => rfl
  | bool x => exact beq_self_eq_true x
  | int n => exact beq_self_eq_true n
  | float h => exact h
  | string s => exact beq_self_eq_true s
  | list hlength _ ih =>
    refine beqItems_iff.mpr ⟨hlength, fun i v w hv hw => ?_⟩
    exact ih i v w hv hw (ha.item (List.mem_of_getElem? hv)) (hb.item (List.mem_of_getElem? hw))
  | map hnames _ ih =>
    refine (beq_map_iff ha.names hb.names).mpr ⟨hnames, fun name v w hv hw => ?_⟩
    exact ih name v w hv hw (ha.entry (Named.mem_of_get? hv)) (hb.entry (Named.mem_of_get? hw))
  | object h => exact beq_iff_eq.mpr h

theorem beq_iff_alike (ha : a.DistinctNames) (hb : b.DistinctNames) :
    (a == b) = true ↔ Alike a b :=
  ⟨alike_of_beq ha hb, beq_of_alike ha hb⟩

/-! ## When a value is like itself -/

/-- Somewhere in the value, in no matter how many lists and maps, a NaN stands. -/
def HasNaN (v : Value) : Prop :=
  ∃ x : Float, Reaches held v (.float x) ∧ x.isNaN = true

theorem hasNaN_float_iff {x : Float} : (float x).HasNaN ↔ x.isNaN = true := by
  constructor
  · rintro ⟨y, hreaches, hy⟩
    rcases reaches_iff.mp hreaches with heq | ⟨u, hu, -⟩
    · injection heq with heq
      exact heq ▸ hy
    · exact absurd hu List.not_mem_nil
  · intro hx
    exact ⟨x, Reaches.refl held _, hx⟩

theorem hasNaN_iff_held (hv : ∀ x, a ≠ .float x) : a.HasNaN ↔ ∃ v ∈ a.held, v.HasNaN := by
  constructor
  · rintro ⟨x, hreaches, hx⟩
    rcases reaches_iff.mp hreaches with rfl | ⟨v, hmem, hreaches⟩
    · exact absurd rfl (hv x)
    · exact ⟨v, hmem, x, hreaches, hx⟩
  · rintro ⟨v, hmem, x, hreaches, hx⟩
    exact ⟨x, Reaches.of_part hmem hreaches, hx⟩

theorem not_hasNaN_of_held_eq_nil (hv : ∀ x, a ≠ .float x) (hheld : a.held = []) : ¬a.HasNaN := by
  simp [hasNaN_iff_held hv, hheld]

theorem alike_list_self_iff {items : List Value} :
    Alike (.list items) (.list items) ↔ ∀ v ∈ items, Alike v v := by
  constructor
  · rintro (_ | _ | _ | _ | _ | ⟨-, hitems⟩) v hv
    obtain ⟨i, hi⟩ := List.mem_iff_getElem?.mp hv
    exact hitems i v v hi hi
  · intro h
    refine .list rfl fun i v w hv hw => ?_
    exact Option.some.inj (hv.symm.trans hw) ▸ h v (List.mem_of_getElem? hv)

theorem alike_map_self_iff {entries : List (String × Value)}
    (hnames : (Named.names entries).Nodup) :
    Alike (.map entries) (.map entries) ↔ ∀ p ∈ entries, Alike p.2 p.2 := by
  constructor
  · rintro (_ | _ | _ | _ | _ | _ | ⟨-, hentries⟩) p hp
    have hget := (Named.get?_eq_some_iff hnames).mpr hp
    exact hentries p.1 p.2 p.2 hget hget
  · intro h
    refine .map (fun name => Iff.rfl) fun name v w hv hw => ?_
    exact Option.some.inj (hv.symm.trans hw) ▸ h _ (Named.mem_of_get? hv)

theorem alike_self_iff (ha : a.DistinctNames) : Alike a a ↔ ¬a.HasNaN := by
  induction a using deepInduction with
  | null => exact iff_of_true .null (not_hasNaN_of_held_eq_nil (by simp) rfl)
  | bool b => exact iff_of_true (.bool b) (not_hasNaN_of_held_eq_nil (by simp) rfl)
  | int n => exact iff_of_true (.int n) (not_hasNaN_of_held_eq_nil (by simp) rfl)
  | string s => exact iff_of_true (.string s) (not_hasNaN_of_held_eq_nil (by simp) rfl)
  | object face => exact iff_of_true (.object rfl) (not_hasNaN_of_held_eq_nil (by simp) rfl)
  | float x =>
    rw [hasNaN_float_iff, Bool.not_eq_true, Float.isNaN_eq_decide_eq_nan, decide_eq_false_iff_not,
      ← ne_eq, ← Float.beq_self_iff]
    exact ⟨fun | .float h => h, .float⟩
  | list items ih =>
    rw [alike_list_self_iff, hasNaN_iff_held (by simp)]
    simp only [held, not_exists, not_and]
    exact forall₂_congr fun v hv => ih v hv (ha.item hv)
  | map entries ih =>
    rw [alike_map_self_iff ha.names, hasNaN_iff_held (by simp)]
    simp only [held, List.mem_map, not_exists, not_and, forall_exists_index, and_imp,
      forall_apply_eq_imp_iff₂]
    exact forall₂_congr fun p hp => ih p hp (ha.entry hp)

/-! ## The order of maps -/

theorem beq_map_map_of_perm {as as' bs bs' : List (String × Value)}
    (has : (Named.names as).Nodup) (hbs : (Named.names bs).Nodup) (hperm : as.Perm as')
    (hperm' : bs.Perm bs') : (map as == map bs) = (map as' == map bs') := by
  have has' := (hperm.map Prod.fst).nodup_iff.mp has
  have hbs' := (hperm'.map Prod.fst).nodup_iff.mp hbs
  refine Bool.eq_iff_iff.mpr ((beq_map_iff has hbs).trans ?_)
  refine Iff.trans ?_ (beq_map_iff has' hbs').symm
  simp only [Named.names, (hperm.map Prod.fst).mem_iff, (hperm'.map Prod.fst).mem_iff,
    Named.get?_of_perm has hperm, Named.get?_of_perm hbs hperm']

theorem beq_map_of_perm {entries entries' : List (String × Value)}
    (hentries : (Named.names entries).Nodup) (hb : b.DistinctNames)
    (hperm : entries.Perm entries') :
    (map entries == b) = (map entries' == b) ∧ (b == map entries) = (b == map entries') := by
  cases b with
  | map bs =>
    exact ⟨beq_map_map_of_perm hentries hb.names hperm (.refl bs),
      beq_map_map_of_perm hb.names hentries (.refl bs) hperm⟩
  | _ => exact ⟨rfl, rfl⟩

end Value

/-- **Equality of values is a partial equivalence.** Among values in whose maps names are distinct
it is symmetric and transitive, and a value is equal to itself iff no NaN stands in it, in no matter
how many lists and maps. The entries of a map may stand in any order, on either side. -/
theorem beq_partial_equivalence {a b c : Value} (ha : a.DistinctNames) (hb : b.DistinctNames)
    (hc : c.DistinctNames) :
    ((a == b) = true → (b == a) = true) ∧
    ((a == b) = true → (b == c) = true → (a == c) = true) ∧
    ((a == a) = true ↔ ¬a.HasNaN) ∧
    ∀ entries entries', a = .map entries → entries.Perm entries' →
      (a == b) = (Value.map entries' == b) ∧ (b == a) = (b == Value.map entries') := by
  refine ⟨fun hab => ?_, fun hab hbc => ?_, ?_, ?_⟩
  · have hlike := (Value.beq_iff_alike ha hb).mp hab
    exact (Value.beq_iff_alike hb ha).mpr hlike.symm
  · have hlike := (Value.beq_iff_alike ha hb).mp hab
    have hlike' := (Value.beq_iff_alike hb hc).mp hbc
    exact (Value.beq_iff_alike ha hc).mpr (hlike.trans hlike')
  · rw [Value.beq_iff_alike ha ha, Value.alike_self_iff ha]
  · rintro entries entries' rfl hperm
    exact Value.beq_map_of_perm ha.names hb hperm

/-- An object in a list under a name, with another name in front of it. -/
def Value.front : Value :=
  .map [("x", .int 1), ("y", .list [.string "a", .object (ObjectParts.face default 0)])]

/-- The same, with the other name behind it. -/
def Value.back : Value :=
  .map [("y", .list [.string "a", .object (ObjectParts.face default 0)]), ("x", .int 1)]

/-- A NaN under a name in a list. -/
def Value.noNumber : Value := .list [.map [("a", .float (0 / 0))]]

/-- The order of the two names is not seen, from either side, and the NaN is. -/
theorem beq_partial_equivalence_orders :
    (Value.front.DistinctNames ∧ Value.back.DistinctNames ∧ Value.noNumber.DistinctNames) ∧
      (Value.front == Value.back) = true ∧ (Value.back == Value.front) = true ∧
      (Value.front == Value.front) = true ∧ ¬(Value.noNumber == Value.noNumber) = true := by
  have hint : (Value.int 1).DistinctNames := Value.distinctNames_of_held_eq_nil (by simp) rfl
  have hlist : (Value.list [.string "a", .object (ObjectParts.face default 0)]).DistinctNames := by
    have hstring : (Value.string "a").DistinctNames :=
      Value.distinctNames_of_held_eq_nil (by simp) rfl
    have hobject : (Value.object (ObjectParts.face default 0)).DistinctNames :=
      Value.distinctNames_of_held_eq_nil (by simp) rfl
    simp [Value.distinctNames_list_iff, hstring, hobject]
  have hfront : Value.front.DistinctNames :=
    Value.distinctNames_map_iff.mpr ⟨by decide, by simp [hlist, hint]⟩
  have hback : Value.back.DistinctNames :=
    Value.distinctNames_map_iff.mpr ⟨by decide, by simp [hlist, hint]⟩
  have hnoNumber : Value.noNumber.DistinctNames := by
    have hfloat : (Value.float (0 / 0)).DistinctNames :=
      Value.distinctNames_of_held_eq_nil (by simp) rfl
    have hmap : (Value.map [("a", .float (0 / 0))]).DistinctNames :=
      Value.distinctNames_map_iff.mpr ⟨by decide, by simp [hfloat]⟩
    exact Value.distinctNames_list_iff.mpr (by simp [hmap])
  have hnan : Value.noNumber.HasNaN := by
    refine ⟨0 / 0, ?_, by decide⟩
    have hmap : Value.Reaches Value.held (.map [("a", .float (0 / 0))]) (.float (0 / 0)) :=
      .of_part (List.mem_singleton.mpr rfl) (.refl _ _)
    exact .of_part (List.mem_singleton.mpr rfl) hmap
  have heq : (Value.front == Value.back) = true := by decide
  have hlaws := beq_partial_equivalence hfront hback hfront
  exact ⟨⟨hfront, hback, hnoNumber⟩, heq, hlaws.1 heq, hlaws.2.1 heq (hlaws.1 heq),
    fun h => (beq_partial_equivalence hnoNumber hback hfront).2.2.1.mp h hnan⟩

end TagText
