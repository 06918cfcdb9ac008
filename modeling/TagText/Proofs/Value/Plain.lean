import TagText.Formatter
import TagText.Json.Reader
import TagText.Proofs.Named.Lookup
import TagText.Store

/-!
# Values without objects

Values that come from JSON are plain: no object stands in them, however deep one looks
(`plain_of_ofJson?`). Paths lead from plain values to plain values only (`plain_of_get`), so with
them nothing ever depends on what objects answer, and every value has a text:

> `exists_simple_of_plain`: the simple formatter writes every plain value.

For the reader of lists and maps it is enough that the reader of their parts gives plain values. What
the reader of values does with a text is told once (`Json.ReadAs`), and what it reads is then plain by
induction on how deep lists and maps nest.
-/

namespace TagText

/-! ## Plain values -/

/-- No object stands in the value. -/
inductive Value.Plain : Value → Prop where
  | null : Plain .null
  | bool (b : Bool) : Plain (.bool b)
  | int (n : Int64) : Plain (.int n)
  | float (x : Float) : Plain (.float x)
  | string (s : String) : Plain (.string s)
  | list {items : List Value} (hitems : ∀ v ∈ items, Plain v) : Plain (.list items)
  | map {entries : List (String × Value)} (hentries : ∀ p ∈ entries, Plain p.2) :
      Plain (.map entries)

open Value (Plain)

/-- Every plain value has a text. -/
theorem exists_simple_of_plain {v : Value} (h : v.Plain) :
    ∃ text, Formatter.simple v = .ok text := by
  cases h <;> exact ⟨_, rfl⟩

variable {objects : Objects}

theorem plain_of_member {v w : Value} {key : String} (hv : v.Plain)
    (h : v.member objects key = .ok w) : w.Plain := by
  cases hv with
  | null | bool b | int n | float x | string s => exact absurd h (by simp [Value.member])
  | @list items hitems =>
    unfold Value.member at h
    dsimp only at h
    split at h
    next u hu =>
      injection h with h
      obtain ⟨i, -, hi⟩ := Option.bind_eq_some_iff.mp hu
      exact h ▸ hitems u (List.mem_of_getElem? hi)
    next => exact absurd h (by simp)
  | @map entries hentries =>
    unfold Value.member at h
    dsimp only at h
    split at h
    next u hu =>
      injection h with h
      exact h ▸ hentries _ (Named.mem_of_get? hu)
    next => exact absurd h (by simp)

theorem plain_of_descend {v w : Value} {path : String} {keys : List String} (hv : v.Plain)
    (h : v.descend objects path keys = .ok w) : w.Plain := by
  induction keys generalizing v path with
  | nil =>
    injection h with h
    exact h ▸ hv
  | cons key keys ih =>
    unfold Value.descend at h
    split at h
    next u hu => exact ih (plain_of_member hv hu) h
    next => exact absurd h (by simp)

/-- A store of plain values leads to plain values only. -/
theorem plain_of_get {entries : Entries} (hentries : ∀ p ∈ entries, p.2.Plain) {path : List String}
    {v : Value} (h : (Store.ofEntries entries).get objects path = .ok v) : v.Plain := by
  unfold Store.get at h
  split at h
  next => exact absurd h (by simp)
  next key keys =>
    split at h
    next u hu => exact plain_of_descend (hentries _ (Named.mem_of_get? hu)) h
    next => exact absurd h (by simp [Store.ofEntries])

/-! ## Values from JSON -/

namespace Json

/-- A number is read as an integer or as a float. -/
theorem int_or_float_of_takeNumber {s rest : List Char} {v : Value}
    (h : takeNumber s = some (v, rest)) : (∃ n, v = .int n) ∨ ∃ x, v = .float x := by
  have hwritten : ∀ w : Written, w.value? = some v → (∃ n, v = .int n) ∨ ∃ x, v = .float x := by
    intro w hw
    rw [Written.value?] at hw
    generalize (if w.negative then -(w.digits.value : Int) else w.digits.value) = n at hw
    split at hw
    · exact Or.inl ⟨_, (Option.some.inj hw).symm⟩
    · obtain ⟨x, -, rfl⟩ := Option.map_eq_some_iff.mp hw
      exact Or.inr ⟨_, rfl⟩
  unfold takeNumber at h
  dsimp only at h
  split at h
  all_goals
    obtain ⟨⟨w, r⟩, -, hw⟩ := Option.bind_eq_some_iff.mp h
    obtain ⟨u, hu, heq⟩ := Option.map_eq_some_iff.mp hw
    obtain ⟨rfl, -⟩ := Prod.mk.inj heq
    exact hwritten w hu

section
variable {read : ValueReader}
  (hread : ∀ (s : List Char) (r : Reading Value s.length), read s = some r → r.value.Plain)
include hread

/-- A list is plain if its items are read as plain values. -/
theorem plain_of_readItems {n : Nat} {taken : List Value} {s : List Char} {hle : s.length ≤ n}
    {r : Reading Value n} (htaken : ∀ v ∈ taken, Plain v)
    (h : readItems read taken s hle = some r) : r.value.Plain := by
  fun_induction readItems read taken s hle with
  | case1 => exact absurd h (by simp)
  | case2 taken s hle v rest shorter hv _ _ more hmore ih =>
    exact ih (List.forall_mem_cons.mpr ⟨hread _ _ hv, htaken⟩) h
  | case3 taken s hle v rest shorter hv _ _ after hafter =>
    refine Option.some.inj h ▸ .list fun u hu => ?_
    exact List.forall_mem_cons.mpr ⟨hread _ _ hv, htaken⟩ u (List.mem_reverse.mp hu)
  | case4 => exact absurd h (by simp)

/-- A map is plain if its values are read as plain ones. -/
theorem plain_of_readEntries {n : Nat} {taken : Entries} {s : List Char} {hle : s.length ≤ n}
    {r : Reading Value n} (htaken : ∀ p ∈ taken, p.2.Plain)
    (h : readEntries read taken s hle = some r) : r.value.Plain := by
  fun_induction readEntries read taken s hle with
  | case3 taken s hle _ s₁ hs name s₂ h₂ hname _ s₃ h₃ _ v rest shorter hv _ more hmore ih =>
    exact ih (Named.forall_mem_put htaken (hread _ _ hv)) h
  | case4 taken s hle _ s₁ hs name s₂ h₂ hname _ s₃ h₃ _ v rest shorter hv _ after hafter =>
    refine Option.some.inj h ▸ .map fun p hp => ?_
    exact Named.forall_mem_put htaken (hread _ _ hv) p (List.mem_mergeSort.mp hp)
  | case1 | case2 | case5 | case6 | case7 => exact absurd h (by simp)

end

/-- How a value was read: it is a scalar, an empty list or map, or what was read as the items or
entries behind a bracket or brace, in which lists and maps may nest less deep. -/
inductive ReadAs (depth : Nat) {n : Nat} (r : Reading Value n) : Prop where
  | null (h : r.value = .null)
  | bool (b : Bool) (h : r.value = .bool b)
  | int (i : Int64) (h : r.value = .int i)
  | float (x : Float) (h : r.value = .float x)
  | string (text : String) (h : r.value = .string text)
  | emptyList (h : r.value = .list [])
  | emptyMap (h : r.value = .map [])
  | items {inner : Nat} {s : List Char} {hle : s.length ≤ n} (hinner : inner < depth)
      (h : readItems (readValue inner) [] s hle = some r)
  | entries {inner : Nat} {s : List Char} {hle : s.length ≤ n} (hinner : inner < depth)
      (h : readEntries (readValue inner) [] s hle = some r)

theorem readAs_of_readValue {depth : Nat} {s : List Char} {r : Reading Value s.length}
    (h : readValue depth s = some r) : ReadAs depth r := by
  unfold readValue at h
  split at h
  next => exact Option.some.inj h ▸ .null rfl
  next => exact Option.some.inj h ▸ .bool true rfl
  next => exact Option.some.inj h ▸ .bool false rfl
  next =>
    obtain ⟨text, -, rfl⟩ := Option.map_eq_some_iff.mp h
    exact .string text.value rfl
  next =>
    split at h
    next => exact absurd h (by simp)
    next depth =>
      dsimp only at h
      split at h
      next => exact Option.some.inj h ▸ .emptyList rfl
      next => exact .items (Nat.lt_succ_self depth) h
  next =>
    split at h
    next => exact absurd h (by simp)
    next depth =>
      dsimp only at h
      split at h
      next => exact Option.some.inj h ▸ .emptyMap rfl
      next => exact .entries (Nat.lt_succ_self depth) h
  next =>
    split at h
    next => exact absurd h (by simp)
    next v rest hnumber =>
      obtain ⟨n, rfl⟩ | ⟨x, rfl⟩ := int_or_float_of_takeNumber hnumber
      · exact Option.some.inj h ▸ .int n rfl
      · exact Option.some.inj h ▸ .float x rfl

/-- What is read is plain: by induction on how deep lists and maps may nest. -/
theorem plain_of_readValue {depth : Nat} {s : List Char} {r : Reading Value s.length}
    (h : readValue depth s = some r) : r.value.Plain := by
  induction depth using Nat.strongRecOn generalizing s with
  | ind depth ih =>
    cases readAs_of_readValue h with
    | null h => exact h ▸ .null
    | bool b h => exact h ▸ .bool b
    | int i h => exact h ▸ .int i
    | float x h => exact h ▸ .float x
    | string text h => exact h ▸ .string text
    | emptyList h => exact h ▸ .list fun v hv => absurd hv List.not_mem_nil
    | emptyMap h => exact h ▸ .map fun p hp => absurd hp List.not_mem_nil
    | items hinner h =>
      exact plain_of_readItems (fun _ _ => ih _ hinner) (fun v hv => absurd hv List.not_mem_nil) h
    | entries hinner h =>
      exact plain_of_readEntries (fun _ _ => ih _ hinner) (fun p hp => absurd hp List.not_mem_nil) h

end Json

/-- The value of a text was read behind the spaces in front. -/
theorem exists_readValue_of_ofJson? {text : String} {v : Value}
    (h : Value.ofJson? text = some v) :
    ∃ s, ∃ r : Reading Value s.length,
      Json.readValue Json.maxDepth s = some r ∧ r.value = v := by
  unfold Value.ofJson? Json.readText at h
  split at h
  next => exact absurd h (by simp)
  next w rest shorter hread =>
    split at h
    next => exact ⟨_, _, hread, Option.some.inj h⟩
    next => exact absurd h (by simp)

/-- No object comes from JSON text. -/
theorem plain_of_ofJson? {text : String} {v : Value} (h : Value.ofJson? text = some v) :
    v.Plain := by
  obtain ⟨s, r, hread, rfl⟩ := exists_readValue_of_ofJson? h
  exact Json.plain_of_readValue hread

end TagText
