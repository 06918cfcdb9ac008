import TagText.Proofs.Value.Descent

/-!
# Where keys lead

From a value, keys lead to a value (`Value.Leads`) or there is an obstacle on the way
(`Value.Blocks`), and neither asks how errors tell the way so far. Every way of following a path
comes down to these two: a store follows it from one value, its own values or the object behind them
by the first key alone (`Store.get_cons`), and `resolve` and `descend` differ only at null, through
which no key leads anyway. So paths compose:

> `get_composes`: what `front ++ back` leads to is what `back` leads to from the value at the end of
> `front`; if there is none, the error is that of `front`, else it has the kind of that of `back`.
-/

namespace TagText

/-! ## From one value -/

namespace Value

variable {objects : Objects}

/-- From the first value, the keys lead to the second. -/
inductive Leads (objects : Objects) : Value → List String → Value → Prop where
  | nil (v : Value) : Leads objects v [] v
  | cons {v w u : Value} {key : String} {keys : List String}
      (hmember : v.member objects key = .ok w) (hrest : Leads objects w keys u) :
      Leads objects v (key :: keys) u

/-- From a value, the keys lead to an obstacle. The keys up to the one that it keeps from being
taken, this one with them, are `taken`. -/
inductive Blocks (objects : Objects) :
    Value → List String → List String → Obstacle → Prop where
  | here {v : Value} {key : String} {obstacle : Obstacle}
      (hmember : v.member objects key = .error obstacle) (keys : List String) :
      Blocks objects v (key :: keys) [key] obstacle
  | later {v w : Value} {key : String} {keys taken : List String} {obstacle : Obstacle}
      (hmember : v.member objects key = .ok w) (hrest : Blocks objects w keys taken obstacle) :
      Blocks objects v (key :: keys) (key :: taken) obstacle

variable {v w u : Value} {path : String} {keys : List String} {e : ValueError}

theorem descend_eq_ok_iff : v.descend objects path keys = .ok u ↔ Leads objects v keys u := by
  constructor
  · intro h
    induction keys generalizing v path with
    | nil => exact Except.ok.inj h ▸ .nil v
    | cons key keys ih =>
      unfold descend at h
      split at h
      next w hmember => exact .cons hmember (ih h)
      next => exact absurd h (by simp)
  · intro h
    induction h generalizing path with
    | nil v => rfl
    | cons hmember _ ih =>
      rw [descend, hmember]
      exact ih

/-- An error of following keys is an obstacle on the way, told with what was followed before. -/
theorem descend_eq_error_iff :
    v.descend objects path keys = .error e ↔
      ∃ taken obstacle, Blocks objects v keys taken obstacle ∧
        e = .blocked obstacle (taken.foldl Path.extend path) := by
  constructor
  · intro h
    induction keys generalizing v path with
    | nil => exact absurd h (by simp [descend])
    | cons key keys ih =>
      unfold descend at h
      split at h
      next w hmember =>
        obtain ⟨taken, obstacle, hblocks, rfl⟩ := ih h
        exact ⟨key :: taken, obstacle, .later hmember hblocks, rfl⟩
      next obstacle hmember =>
        exact ⟨[key], obstacle, .here hmember keys, (Except.error.inj h).symm⟩
  · rintro ⟨taken, obstacle, hblocks, rfl⟩
    induction hblocks generalizing path with
    | here hmember keys =>
      rw [descend, hmember]
      rfl
    | later hmember _ ih =>
      rw [descend, hmember]
      exact ih

theorem resolve_of_not_null (hv : v.isNull = false) (hkeys : keys ≠ []) :
    v.resolve objects keys = v.descend objects "" keys := by
  rw [resolve, hv, if_neg (by simpa using hkeys), if_neg (by simp)]

theorem resolve_null (hkeys : keys ≠ []) :
    null.resolve objects keys = .error (.blocked .nullContainer "") := by
  rw [resolve, if_neg (by simpa using hkeys)]
  rfl

theorem isNull_iff : v.isNull = true ↔ v = .null := by
  cases v <;> simp [isNull]

/-- No key leads through null. -/
theorem blocks_null (objects : Objects) (key : String) (keys : List String) :
    Blocks objects null (key :: keys) [key] (.scalar "null") :=
  .here rfl keys

theorem resolve_eq_ok_iff (hkeys : keys ≠ []) :
    v.resolve objects keys = .ok u ↔ Leads objects v keys u := by
  cases hv : v.isNull with
  | false => rw [resolve_of_not_null hv hkeys, descend_eq_ok_iff]
  | true =>
    obtain rfl := isNull_iff.mp hv
    rw [resolve_null hkeys]
    constructor
    · intro h
      exact absurd h (by simp)
    · intro h
      cases h with
      | nil => exact absurd rfl hkeys
      | cons hmember => exact absurd hmember (by simp [member])

theorem resolve_eq_error_iff (hv : v.isNull = false) (hkeys : keys ≠ []) :
    v.resolve objects keys = .error e ↔
      ∃ taken obstacle, Blocks objects v keys taken obstacle ∧
        e = .blocked obstacle (Path.told taken) := by
  rw [resolve_of_not_null hv hkeys, descend_eq_error_iff]
  rfl

/-- Where `resolve` fails, going on from a path that was followed before fails in the same way. Null
is told differently by the two, but absence it is for both. -/
theorem exists_descend_error_of_resolve (hkeys : keys ≠ [])
    (h : v.resolve objects keys = .error e) (path : String) :
    ∃ e', v.descend objects path keys = .error e' ∧ e'.kind = e.kind := by
  cases hv : v.isNull with
  | false =>
    obtain ⟨taken, obstacle, hblocks, rfl⟩ := (resolve_eq_error_iff hv hkeys).mp h
    exact ⟨_, descend_eq_error_iff.mpr ⟨taken, obstacle, hblocks, rfl⟩, rfl⟩
  | true =>
    obtain rfl := isNull_iff.mp hv
    obtain ⟨key, keys, rfl⟩ := List.exists_cons_of_ne_nil hkeys
    rw [resolve_null hkeys] at h
    obtain rfl := Except.error.inj h
    exact ⟨_, descend_eq_error_iff.mpr ⟨_, _, blocks_null objects key keys, rfl⟩, rfl⟩

theorem resolve_map_cons (entries : Entries) (key : String) (keys : List String) :
    (map entries).resolve objects (key :: keys) =
      match Named.get? entries key with
      | some v => v.descend objects key keys
      | none => .error (.blocked .undefinedKey key) := by
  rw [resolve_of_not_null rfl (List.cons_ne_nil key keys), descend, member]
  cases Named.get? entries key <;> rfl

end Value

/-! ## From a store -/

namespace Store

variable {objects : Objects}

/-- Where a store begins to follow a path, by the first key of it. -/
def root (s : Store) (key : String) : Value :=
  match s.bound with
  | none => .map s.entries
  | some object => if Named.contains s.entries key then .map s.entries else .object object

theorem isNull_root (s : Store) (key : String) : (s.root key).isNull = false := by
  unfold root
  split
  next => rfl
  next => split <;> rfl

/-- A store follows a path from one value and never goes back to the other. -/
theorem get_cons (s : Store) (key : String) (keys : List String) :
    s.get objects (key :: keys) = (s.root key).resolve objects (key :: keys) := by
  obtain ⟨bound, entries⟩ := s
  cases bound with
  | none => exact (Value.resolve_map_cons entries key keys).symm
  | some object =>
    unfold root Named.contains
    cases hkey : Named.get? entries key with
    | none => simp only [get, hkey, Option.isSome_none, Bool.false_eq_true, if_false]
    | some v => simp only [get, hkey, Option.isSome_some, if_true, Value.resolve_map_cons]

theorem get_ofEntries (entries : Entries) (path : List String) :
    (ofEntries entries).get objects path = (Value.map entries).resolve objects path := by
  cases path with
  | nil => rfl
  | cons key keys => exact get_cons (ofEntries entries) key keys

theorem get_of_bound (object : ObjectFace Value) (entries : Entries) (key : String)
    (keys : List String) :
    get objects ⟨some object, entries⟩ (key :: keys) =
      if Named.contains entries key then (ofEntries entries).get objects (key :: keys)
      else (Value.object object).resolve objects (key :: keys) := by
  rw [get_cons, get_ofEntries]
  unfold root
  dsimp only
  split <;> rfl

end Store

/-- **Paths compose.** What `front ++ back` leads to is what `back` leads to from the value at the
end of `front`. If `front` leads to no value, the whole path fails with the same error, and if
`back` leads to none from there, it fails with an error of that kind. A store of nothing but values
follows a path as from the map of these, and one with an object behind it as a store of its values
if the first key is theirs, else all the way from the object. -/
theorem get_composes (objects : Objects) (s : Store) {front back : List String}
    (hfront : front ≠ []) (hback : back ≠ []) :
    (∀ v, s.get objects (front ++ back) = .ok v ↔
      ∃ w, s.get objects front = .ok w ∧ w.resolve objects back = .ok v) ∧
    (∀ e, s.get objects front = .error e → s.get objects (front ++ back) = .error e) ∧
    (∀ w e, s.get objects front = .ok w → w.resolve objects back = .error e →
      ∃ e', s.get objects (front ++ back) = .error e' ∧ e'.kind = e.kind) ∧
    (∀ entries, (Store.ofEntries entries).get objects front =
      (Value.map entries).resolve objects front) ∧
    ∀ object entries key, front.head? = some key →
      Store.get objects ⟨some object, entries⟩ front =
        if Named.contains entries key then (Store.ofEntries entries).get objects front
        else (Value.object object).resolve objects front := by
  have happend : s.get objects (front ++ back) = _ := Store.get_append hfront back
  refine ⟨fun v => ?_, fun e h => ?_, fun w e h hresolve => ?_,
    fun entries => Store.get_ofEntries entries front, fun object entries key hkey => ?_⟩
  · rw [happend]
    cases s.get objects front with
    | error e => simp [Except.bind]
    | ok w =>
      rw [Except.bind, Value.descend_eq_ok_iff, ← Value.resolve_eq_ok_iff hback]
      simp
  · rw [happend, h]
    rfl
  · rw [happend, h]
    exact Value.exists_descend_error_of_resolve hback hresolve (Path.told front)
  · obtain ⟨keys, rfl⟩ := List.head?_eq_some_iff.mp hkey
    exact Store.get_of_bound object entries key keys

/-- A page that cannot get its owner. -/
def ObjectParts.page : ObjectParts where
  typeName := "Page"
  properties := []
  accessors := [("getOwner", .error "offline")]
  display := none

/-- The page is the only object. -/
def Objects.page : Objects := .ofParts #[ObjectParts.page]

/-- The page behind a note that is null and an author with a name. -/
def Store.page : Store where
  bound := some (ObjectParts.page.face 0)
  entries := [("note", .null), ("author", .map [("name", .string "Grace")])]

/-- The author has a name, the owner fails however the path goes on, and there is no way through the
note. -/
theorem get_composes_page :
    Store.page.get .page ["author", "name"] = .ok (.string "Grace") ∧
      Store.page.get .page ["owner", "name"] =
        .error (.blocked (.accessorFailure "offline") "owner") ∧
      ∃ e, Store.page.get .page ["note", "name"] = .error e ∧ e.kind = .inaccessible := by
  have hcomposes (key : String) := get_composes .page .page (List.cons_ne_nil key [])
    (List.cons_ne_nil "name" [])
  have hauthor : Store.page.get .page ["author"] = .ok (.map [("name", .string "Grace")]) := rfl
  have hname : (Value.map [("name", .string "Grace")]).resolve .page ["name"] =
      .ok (.string "Grace") := rfl
  have howner : Store.page.get .page ["owner"] =
      .error (.blocked (.accessorFailure "offline") "owner") := by
    have haccessor : Path.accessorName "owner" = "getOwner" := by decide +kernel
    have hmember : (Store.page.root "owner").member .page "owner" =
        .error (.accessorFailure "offline") := by
      change (Value.object (ObjectParts.page.face 0)).member .page "owner" = _
      rw [Value.member, haccessor]
      rfl
    rw [Store.get_cons, Value.resolve_eq_error_iff (Store.isNull_root .page "owner") (by simp)]
    exact ⟨["owner"], _, .here hmember [], rfl⟩
  have hnote : Store.page.get .page ["note"] = .ok .null := rfl
  exact ⟨((hcomposes "author").1 _).mpr ⟨_, hauthor, hname⟩, (hcomposes "owner").2.1 _ howner,
    (hcomposes "note").2.2.1 .null _ hnote rfl⟩

end TagText
