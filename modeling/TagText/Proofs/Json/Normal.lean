import TagText.Json.Writer
import TagText.Proofs.Value.Equality

/-!
# What JSON text tells of a value

JSON knows no objects and no numbers that are not finite: an object is written as the map of what it
lists, and NaN and the infinities as `null`. `Value.norm` does this to a value, so that its text
stays what it is (`write_norm`).

If no finite float stands in a value, its `norm` is made of nulls, booleans, integers, strings,
lists and maps only. Of these values (`Value.Normal`) all is told by their text except the order of
maps: what is read comes in the order of the names. That is `Value.sorted`, and it is equal to the
value (`Value.Normal.sorted_beq`).
-/

namespace TagText

namespace Value

/-! ## The normal form -/

mutual

/-- The value with every object replaced by the map of the properties that it lists, and every float
that is not finite by null. -/
def norm : Value → Value
  | .null => .null
  | .bool b => .bool b
  | .int n => .int n
  | .float x => if x.isFinite then .float x else .null
  | .string s => .string s
  | .list items => .list (normItems items)
  | .map entries => .map (normEntries entries)
  | .object ⟨_, _, _, listed⟩ => .map (normEntries listed)

/-- The items one by one. -/
def normItems : List Value → List Value
  | [] => []
  | v :: vs => norm v :: normItems vs

/-- The entries one by one, each under its name. -/
def normEntries : List (String × Value) → List (String × Value)
  | [] => []
  | (name, v) :: rest => (name, norm v) :: normEntries rest

end

mutual

/-- The value with the entries of every map in the order of their names. -/
def sorted : Value → Value
  | .list items => .list (sortedItems items)
  | .map entries => .map (Named.sort (sortedEntries entries))
  | v => v

/-- The items one by one. -/
def sortedItems : List Value → List Value
  | [] => []
  | v :: vs => sorted v :: sortedItems vs

/-- The entries one by one, each under its name. -/
def sortedEntries : List (String × Value) → List (String × Value)
  | [] => []
  | (name, v) :: rest => (name, sorted v) :: sortedEntries rest

end

mutual

/-- How many lists and maps stand in one another. -/
def depth : Value → Nat
  | .list items => depthItems items + 1
  | .map entries => depthEntries entries + 1
  | _ => 0

/-- The greatest depth among the items. -/
def depthItems : List Value → Nat
  | [] => 0
  | v :: vs => max (depth v) (depthItems vs)

/-- The greatest depth among the values of the entries. -/
def depthEntries : List (String × Value) → Nat
  | [] => 0
  | (_, v) :: rest => max (depth v) (depthEntries rest)

end

theorem normItems_eq_map (items : List Value) : normItems items = items.map norm := by
  induction items with
  | nil => rfl
  | cons v items ih => rw [normItems, ih, List.map_cons]

theorem normEntries_eq_map (entries : List (String × Value)) :
    normEntries entries = entries.map fun p => (p.1, norm p.2) := by
  induction entries with
  | nil => rfl
  | cons p entries ih => rw [normEntries, ih, List.map_cons]

theorem sortedItems_eq_map (items : List Value) : sortedItems items = items.map sorted := by
  induction items with
  | nil => rfl
  | cons v items ih => rw [sortedItems, ih, List.map_cons]

theorem sortedEntries_eq_map (entries : List (String × Value)) :
    sortedEntries entries = entries.map fun p => (p.1, sorted p.2) := by
  induction entries with
  | nil => rfl
  | cons p entries ih => rw [sortedEntries, ih, List.map_cons]

theorem depthItems_le_iff {items : List Value} {n : Nat} :
    depthItems items ≤ n ↔ ∀ v ∈ items, v.depth ≤ n := by
  induction items with
  | nil => simp [depthItems]
  | cons v items ih => rw [depthItems, Nat.max_le, ih, List.forall_mem_cons]

theorem depthEntries_le_iff {entries : List (String × Value)} {n : Nat} :
    depthEntries entries ≤ n ↔ ∀ p ∈ entries, p.2.depth ≤ n := by
  induction entries with
  | nil => simp [depthEntries]
  | cons p entries ih => rw [depthEntries, Nat.max_le, ih, List.forall_mem_cons]

/-! ## Normal values -/

/-- The value is made of nulls, booleans, integers, strings, lists, and maps with distinct names. -/
inductive Normal : Value → Prop where
  | null : Normal .null
  | bool (b : Bool) : Normal (.bool b)
  | int (n : Int64) : Normal (.int n)
  | string (s : String) : Normal (.string s)
  | list {items : List Value} (hitems : ∀ v ∈ items, Normal v) : Normal (.list items)
  | map {entries : List (String × Value)} (hnames : (Named.names entries).Nodup)
      (hentries : ∀ p ∈ entries, Normal p.2) : Normal (.map entries)

/-- The entries of a map, and the properties that an object lists. -/
def fields : Value → List (String × Value)
  | .map entries => entries
  | .object face => face.listed
  | _ => []

/-- No finite float stands in the value, or is shown by an object in it. -/
def NoFiniteFloat (v : Value) : Prop :=
  ∀ x, Reaches shown v (.float x) → x.isFinite = false

/-- In all maps that stand in the value, and in what objects in it list, names are distinct. -/
def DistinctFields (v : Value) : Prop :=
  ∀ w, Reaches shown v w → (Named.names w.fields).Nodup

variable {u v : Value}

theorem noFiniteFloat_iff : v.NoFiniteFloat ↔
    (∀ x, v = .float x → x.isFinite = false) ∧ ∀ u ∈ v.shown, u.NoFiniteFloat := by
  constructor
  · intro h
    exact ⟨fun x hx => h x (hx ▸ .refl shown v), fun u hu x hx => h x (.of_part hu hx)⟩
  · rintro ⟨hself, hshown⟩ x hx
    rcases reaches_iff.mp hx with heq | ⟨u, hu, hx⟩
    · exact hself x heq
    · exact hshown u hu x hx

theorem distinctFields_iff : v.DistinctFields ↔
    (Named.names v.fields).Nodup ∧ ∀ u ∈ v.shown, u.DistinctFields := by
  constructor
  · intro h
    exact ⟨h v (.refl shown v), fun u hu w hw => h w (.of_part hu hw)⟩
  · rintro ⟨hself, hshown⟩ w hw
    rcases reaches_iff.mp hw with rfl | ⟨u, hu, hw⟩
    · exact hself
    · exact hshown u hu w hw

theorem NoFiniteFloat.part (h : v.NoFiniteFloat) (hu : u ∈ v.shown) : u.NoFiniteFloat :=
  (noFiniteFloat_iff.mp h).2 u hu

theorem DistinctFields.part (h : v.DistinctFields) (hu : u ∈ v.shown) : u.DistinctFields :=
  (distinctFields_iff.mp h).2 u hu

theorem normal_map_norm {entries : List (String × Value)} (hnames : (Named.names entries).Nodup)
    (h : ∀ p ∈ entries, p.2.norm.Normal) : (Value.map (normEntries entries)).Normal := by
  rw [normEntries_eq_map]
  refine .map ?_ (List.forall_mem_map.mpr h)
  rw [Named.names_map]
  exact hnames

theorem normal_norm (hfloat : v.NoFiniteFloat) (hnames : v.DistinctFields) : v.norm.Normal := by
  induction v using deepInduction with
  | null => exact .null
  | bool b => exact .bool b
  | int n => exact .int n
  | string s => exact .string s
  | float x =>
    rw [norm, hfloat x (.refl shown _)]
    exact .null
  | list items ih =>
    rw [norm, normItems_eq_map]
    exact .list (List.forall_mem_map.mpr fun v hv => ih v hv (hfloat.part hv) (hnames.part hv))
  | map entries ih =>
    refine normal_map_norm (hnames _ (.refl shown _)) fun p hp => ?_
    have hpart : p.2 ∈ shown (.map entries) := List.mem_map_of_mem hp
    exact ih p hp (hfloat.part hpart) (hnames.part hpart)
  | object face ih =>
    refine normal_map_norm (hnames _ (.refl shown _)) fun p hp => ?_
    have hpart : p.2 ∈ shown (.object face) := List.mem_map_of_mem hp
    exact ih p hp (hfloat.part hpart) (hnames.part hpart)

/-! ## The order of names -/

theorem Normal.distinctNames (h : v.Normal) : v.DistinctNames := by
  induction h with
  | null | bool b | int n | string s => exact distinctNames_of_held_eq_nil (by simp) rfl
  | list _ ih => exact distinctNames_list_iff.mpr ih
  | map hnames _ ih => exact distinctNames_map_iff.mpr ⟨hnames, ih⟩

theorem Normal.normal_sorted (h : v.Normal) : v.sorted.Normal := by
  induction h with
  | null => exact .null
  | bool b => exact .bool b
  | int n => exact .int n
  | string s => exact .string s
  | list _ ih =>
    rw [sorted, sortedItems_eq_map]
    exact .list (List.forall_mem_map.mpr ih)
  | map hnames _ ih =>
    rw [sorted, sortedEntries_eq_map]
    refine .map (Named.nodup_names_sort ?_) fun p hp => ?_
    · rw [Named.names_map]
      exact hnames
    · obtain ⟨q, hq, rfl⟩ := List.mem_map.mp ((Named.sort_perm _).mem_iff.mp hp)
      exact ih q hq

/-- Sorting does not show when things are looked up by their names. -/
theorem Normal.alike_sorted (h : v.Normal) : Alike v.sorted v := by
  induction h with
  | null => exact .null
  | bool b => exact .bool b
  | int n => exact .int n
  | string s => exact .string s
  | @list items _ ih =>
    rw [sorted, sortedItems_eq_map]
    refine .list (by simp) fun i a b ha hb => ?_
    rw [List.getElem?_map, hb] at ha
    exact Option.some.inj ha ▸ ih b (List.mem_of_getElem? hb)
  | @map entries hnames _ ih =>
    rw [sorted, sortedEntries_eq_map]
    have hnames' : (Named.names (entries.map fun p => (p.1, sorted p.2))).Nodup := by
      rw [Named.names_map]
      exact hnames
    refine .map (fun name => ?_) fun name a b ha hb => ?_
    · rw [← Named.names_map sorted entries]
      exact ((Named.sort_perm _).map Prod.fst).mem_iff
    · rw [← Named.get?_of_perm hnames' (Named.sort_perm _).symm, Named.get?_map, hb] at ha
      exact Option.some.inj ha ▸ ih _ (Named.mem_of_get? hb)

theorem Normal.sorted_beq (h : v.Normal) : (v.sorted == v) = true :=
  (beq_iff_alike h.normal_sorted.distinctNames h.distinctNames).mpr h.alike_sorted

end Value

/-! ## The text of the normal form -/

namespace Json

open Float.Model in
/-- In the bits of a float that is not finite the exponent is the greatest there is. -/
theorem biased_of_not_finite {x : Float} (h : x.isFinite = false) :
    x.toBits.toNat / Double.fractions % Double.exponents = 2047 := by
  have hexponent :
      @UnpackedFloat.unpackExponent Format.binary64 x.toBits.toBitVec = -1#11 := by
    refine Classical.byContradiction fun hne => ?_
    change (UnpackedFloat.unpack Format.binary64 x.toBits.toBitVec).isFinite = false at h
    unfold UnpackedFloat.unpack at h
    dsimp only at h
    rw [if_neg hne] at h
    split at h
    · split at h <;> exact absurd h (by simp [UnpackedFloat.isFinite])
    · exact absurd h (by simp [UnpackedFloat.isFinite])
  have hbits := congrArg BitVec.toNat hexponent
  simp only [UnpackedFloat.unpackExponent, BitVec.extractLsb, BitVec.toNat_cast,
    BitVec.extractLsb'_toNat, Nat.shiftRight_eq_div_pow] at hbits
  exact hbits

theorem writeFloat_of_not_finite {x : Float} (h : x.isFinite = false) :
    writeFloat x = write .null := by
  unfold writeFloat Double.ofFloat
  dsimp only
  rw [if_pos (biased_of_not_finite h)]
  by_cases hfraction : x.toBits.toNat % Double.fractions = 0
  · rw [if_pos hfraction]
    rfl
  · rw [if_neg hfraction]
    rfl

variable {f : Value → Value}

theorem writeMoreItems_map {items : List Value} (h : ∀ v ∈ items, write (f v) = write v) :
    writeMoreItems (items.map f) = writeMoreItems items := by
  induction items with
  | nil => rfl
  | cons v items ih =>
    obtain ⟨hv, hitems⟩ := List.forall_mem_cons.mp h
    rw [List.map_cons, writeMoreItems, writeMoreItems, hv, ih hitems]

theorem writeItems_map {items : List Value} (h : ∀ v ∈ items, write (f v) = write v) :
    writeItems (items.map f) = writeItems items := by
  cases items with
  | nil => rfl
  | cons v items =>
    obtain ⟨hv, hitems⟩ := List.forall_mem_cons.mp h
    rw [List.map_cons, writeItems, writeItems, hv, writeMoreItems_map hitems]

theorem writeMoreEntries_map {entries : List (String × Value)}
    (h : ∀ p ∈ entries, write (f p.2) = write p.2) :
    writeMoreEntries (entries.map fun p => (p.1, f p.2)) = writeMoreEntries entries := by
  induction entries with
  | nil => rfl
  | cons p entries ih =>
    obtain ⟨hp, hentries⟩ := List.forall_mem_cons.mp h
    rw [List.map_cons, writeMoreEntries, writeMoreEntries, hp, ih hentries]

theorem writeEntries_map {entries : List (String × Value)}
    (h : ∀ p ∈ entries, write (f p.2) = write p.2) :
    writeEntries (entries.map fun p => (p.1, f p.2)) = writeEntries entries := by
  cases entries with
  | nil => rfl
  | cons p entries =>
    obtain ⟨hp, hentries⟩ := List.forall_mem_cons.mp h
    rw [List.map_cons, writeEntries, writeEntries, hp, writeMoreEntries_map hentries]

/-- A value and its normal form have the same text. -/
theorem write_norm (v : Value) : write v.norm = write v := by
  induction v using Value.deepInduction with
  | null | bool b | int n | string s => rfl
  | float x =>
    rw [Value.norm]
    cases hx : x.isFinite with
    | true => rfl
    | false => exact (writeFloat_of_not_finite hx).symm
  | list items ih => rw [Value.norm, Value.normItems_eq_map, write, write, writeItems_map ih]
  | map entries ih =>
    rw [Value.norm, Value.normEntries_eq_map, write, write, writeEntries_map ih]
  | object face ih =>
    obtain ⟨_, _, _, listed⟩ := face
    rw [Value.norm, Value.normEntries_eq_map, write, write, writeEntries_map ih]

end Json

end TagText
