import TagText.Proofs.Config.Putting

/-!
# What documents make of the settings

A document comes to a list of assignments, one for each entry at its root. If its tables and values
have the right types (`Fits`), it changes a key iff it has the key:

> `find?_documentsMerged`: after documents a key has what the last document that has the key has for
> it, and without such a document what is built in.

So a table of a document that names some keys of a section leaves the others as they are. A document
that is absent is either no document at all (`load_absent_optional`) or the end of it all
(`load_eq_ok_iff`).

All of this holds with any reader of documents: it is used only as what gives the entries of a text.
-/

namespace TagText

/-! ## Documents and overrides as assignments -/

/-- The assignments that a document makes: where the name of an entry can be read as a key, it is
one. -/
def Configuration.assignments (entries : Named Setting) : List Assignment :=
  entries.map fun e => ((Key.ofString? e.1).getD [.name e.1], e.2)

namespace Layer

variable (read : DocumentReader)

/-- The entries of a document that is there. -/
def entries? : Layer → Option (Named Setting)
  | .document _ (some text) => read text
  | .document _ none => none
  | .override _ _ => none

/-- The assignment that an override makes. -/
def assignment? : Layer → Option Assignment
  | .document _ _ => none
  | .override key value => (Key.ofString? key).map (·, value)

/-- A document can be read, or need not be there. -/
def Available : Layer → Prop
  | .document _ (some text) => (read text).isSome = true
  | .document required none => required = false
  | .override _ _ => True

/-- The key of an override is one. -/
def Keyed : Layer → Prop
  | .document _ _ => True
  | .override key _ => (Key.ofString? key).isSome = true

@[simp] theorem keyed_document {required : Bool} {text : Option String} :
    (document required text).Keyed := trivial

@[simp] theorem keyed_override {key : String} {value : Setting} :
    (override key value).Keyed ↔ (Key.ofString? key).isSome = true := Iff.rfl

@[simp] theorem available_document {required : Bool} {text : String} :
    (document required (some text)).Available read ↔ (read text).isSome = true := Iff.rfl

@[simp] theorem available_absent {required : Bool} :
    (document required none).Available read ↔ required = false := Iff.rfl

@[simp] theorem available_override {key : String} {value : Setting} :
    (override key value).Available read := trivial

end Layer

namespace Configuration

variable {read : DocumentReader} {layers : List Layer} {root root' : Setting} {c : Configuration}

theorem mergeDocument_eq_foldl (root : Setting) (entries : Named Setting) :
    mergeDocument root entries =
      (assignments entries).foldl (fun root a => root.putAt a.2 a.1) root := by
  rw [mergeDocument, assignments, List.foldl_map]
  congr 1
  funext root e
  cases Key.ofString? e.1 <;> rfl

theorem overrides_eq_ok_iff {last : List Assignment} :
    overrides layers = .ok last ↔
      (∀ layer ∈ layers, layer.Keyed) ∧ layers.filterMap Layer.assignment? = last := by
  induction layers generalizing last with
  | nil => simp [overrides]
  | cons layer layers ih =>
    rw [List.forall_mem_cons, List.filterMap_cons]
    cases layer with
    | document required text => simp [overrides, ih, Layer.assignment?]
    | override key value =>
      rw [overrides, Layer.keyed_override]
      cases hkey : Key.ofString? key with
      | none => simp
      | some steps =>
        cases hrest : overrides layers with
        | error e =>
          have hnot : ¬ ∀ layer ∈ layers, layer.Keyed :=
            fun hkeyed => absurd (hrest.symm.trans (ih.mpr ⟨hkeyed, rfl⟩)) (by simp)
          simp [Except.map, hnot]
        | ok others =>
          obtain ⟨hkeyed, rfl⟩ := ih.mp hrest
          simp only [Except.map, Except.ok.injEq, Layer.assignment?, hkey, Option.map_some,
            Option.isSome_some, true_and]
          exact ⟨fun h => ⟨hkeyed, h⟩, And.right⟩

theorem mergeDocuments_eq_ok_iff :
    mergeDocuments read root layers = .ok root' ↔
      (∀ layer ∈ layers, layer.Available read) ∧
        (layers.filterMap (Layer.entries? read)).foldl mergeDocument root = root' := by
  induction layers generalizing root with
  | nil => simp [mergeDocuments]
  | cons layer layers ih =>
    rw [List.forall_mem_cons, List.filterMap_cons]
    rcases layer with ⟨required, _ | text⟩ | ⟨key, value⟩
    · cases required <;> simp [mergeDocuments, ih, Layer.entries?]
    · cases h : read text <;> simp [mergeDocuments, h, ih, Layer.entries?]
    · simp [mergeDocuments, ih, Layer.entries?]

/-- The settings that the documents among the layers come to. -/
def documentsMerged (read : DocumentReader) (layers : List Layer) : Setting :=
  (layers.filterMap (Layer.entries? read)).foldl mergeDocument builtIn

/-- The settings that the layers come to. -/
def merged (read : DocumentReader) (layers : List Layer) : Setting :=
  (layers.filterMap Layer.assignment?).foldl (fun root a => root.putAt a.2 a.1)
    (documentsMerged read layers)

theorem load_eq_ok_iff :
    load read layers = .ok c ↔
      (∀ layer ∈ layers, layer.Keyed) ∧ (∀ layer ∈ layers, layer.Available read) ∧
        (merged read layers).readConfiguration = .ok c := by
  unfold load
  cases hlast : overrides layers with
  | error e =>
    have hnot : ¬ ∀ layer ∈ layers, layer.Keyed :=
      fun hkeyed => absurd (hlast.symm.trans (overrides_eq_ok_iff.mpr ⟨hkeyed, rfl⟩)) (by simp)
    simp [hnot]
  | ok last =>
    obtain ⟨hkeyed, rfl⟩ := overrides_eq_ok_iff.mp hlast
    cases hroot : mergeDocuments read builtIn layers with
    | error e =>
      have hnot : ¬ ∀ layer ∈ layers, layer.Available read :=
        fun h => absurd (hroot.symm.trans (mergeDocuments_eq_ok_iff.mpr ⟨h, rfl⟩)) (by simp)
      simp [hnot]
    | ok root =>
      obtain ⟨havailable, rfl⟩ := mergeDocuments_eq_ok_iff.mp hroot
      exact ⟨fun h => ⟨hkeyed, havailable, h⟩, fun h => h.2.2⟩

theorem overrides_absent_optional (before after : List Layer) :
    overrides (before ++ .document false none :: after) = overrides (before ++ after) := by
  induction before with
  | nil => rfl
  | cons layer before ih =>
    cases layer with
    | document required text => exact ih
    | override key value => simp only [List.cons_append, overrides, ih]

theorem mergeDocuments_absent_optional (root : Setting) (before after : List Layer) :
    mergeDocuments read root (before ++ .document false none :: after) =
      mergeDocuments read root (before ++ after) := by
  induction before generalizing root with
  | nil => rfl
  | cons layer before ih =>
    rcases layer with ⟨required, _ | text⟩ | ⟨key, value⟩
    · simp only [List.cons_append, mergeDocuments, ih]
    · simp only [List.cons_append, mergeDocuments, ih]
    · exact ih root

theorem load_absent_optional (before after : List Layer) :
    load read (before ++ .document false none :: after) = load read (before ++ after) := by
  rw [load, load, overrides_absent_optional, mergeDocuments_absent_optional]

end Configuration

/-! ## What documents say of a key -/

namespace ConfigKey

/-- What the key can have: no table, and something that is read as a value of the key. -/
def Accepts (k : ConfigKey) (s : Setting) : Prop :=
  s.isTable = false ∧ (k.read s).isOk = true

instance (k : ConfigKey) (s : Setting) : Decidable (k.Accepts s) :=
  inferInstanceAs (Decidable (_ ∧ _))

theorem Accepts.exists_read {k : ConfigKey} {s : Setting} (h : k.Accepts s) :
    ∃ value, k.read s = .ok value := by
  cases hread : k.read s with
  | ok value => exact ⟨value, rfl⟩
  | error e => exact absurd h.2 (by simp [hread, Except.isOk, Except.toBool])

/-- What an assignment of a document says of the key. -/
def told? (k : ConfigKey) (a : Assignment) : Option Setting :=
  match k.aim a.1 with
  | .here => some a.2
  | .above => Setting.lastNamed? k.name a.2.entries
  | .apart | .below | .item => none

/-- What a document has for the key. -/
def inDocument? (k : ConfigKey) (entries : Named Setting) : Option Setting :=
  ((Configuration.assignments entries).filterMap k.told?).getLast?

/-- What the last document that has the key has for it. -/
def documented? (read : DocumentReader) (k : ConfigKey) (layers : List Layer) : Option Setting :=
  ((layers.filterMap (Layer.entries? read)).filterMap k.inDocument?).getLast?

/-- The assignment has a table where the section of the key is, and where the key is, something
that the key can have. -/
structure Suits (k : ConfigKey) (a : Assignment) : Prop where
  below : k.aim a.1 ≠ .below
  item : k.aim a.1 ≠ .item
  above : k.aim a.1 = .above → a.2.isTable = true ∧
    ∀ e ∈ a.2.entries, Setting.foldName e.1 = k.name → k.Accepts e.2
  here : k.aim a.1 = .here → k.Accepts a.2

instance (k : ConfigKey) (a : Assignment) : Decidable (k.Suits a) :=
  decidable_of_iff (k.aim a.1 ≠ .below ∧ k.aim a.1 ≠ .item ∧
      (k.aim a.1 = .above → a.2.isTable = true ∧
        ∀ e ∈ a.2.entries, Setting.foldName e.1 = k.name → k.Accepts e.2) ∧
      (k.aim a.1 = .here → k.Accepts a.2))
    ⟨fun ⟨hbelow, hitem, habove, hhere⟩ => ⟨hbelow, hitem, habove, hhere⟩,
      fun h => ⟨h.below, h.item, h.above, h.here⟩⟩

variable {k : ConfigKey} {a : Assignment} {s : Setting}

theorem Suits.find?_putAt (h : k.Suits a) (root : Setting) :
    (root.putAt a.2 a.1).find? k = (k.told? a).or (root.find? k) := by
  unfold told?
  cases hk : k.aim a.1 with
  | apart => exact Setting.find?_putAt_of_apart hk
  | above =>
    obtain ⟨htable, hentries⟩ := h.above hk
    obtain ⟨incoming, hincoming⟩ := Setting.exists_eq_table htable
    rw [hincoming] at hentries ⊢
    exact Setting.find?_putAt_table_of_above hk fun e he hname => (hentries e he hname).1
  | here => exact Setting.find?_putAt_of_here hk (h.here hk).1
  | below => exact absurd hk h.below
  | item => exact absurd hk h.item

theorem Suits.accepts_of_told? (h : k.Suits a) (hs : k.told? a = some s) : k.Accepts s := by
  unfold told? at hs
  cases hk : k.aim a.1 with
  | here =>
    rw [hk] at hs
    exact Option.some.inj hs ▸ h.here hk
  | above =>
    rw [hk] at hs
    obtain ⟨e, he, hname⟩ := List.mem_filterMap.mp (List.mem_of_getLast? hs)
    split at hname
    next hfold => exact Option.some.inj hname ▸ (h.above hk).2 e he hfold
    next => exact absurd hname (by simp)
  | apart | below | item =>
    rw [hk] at hs
    exact absurd hs (by simp)

end ConfigKey

namespace Configuration

/-- The tables and values of a document have the right types for all keys. -/
def Fits (entries : Named Setting) : Prop := ∀ k : ConfigKey, ∀ a ∈ assignments entries, k.Suits a

instance (entries : Named Setting) : Decidable (Fits entries) :=
  inferInstanceAs (Decidable (∀ k : ConfigKey, ∀ a ∈ assignments entries, k.Suits a))

namespace Fits

variable {entries : Named Setting} {k : ConfigKey} {root s : Setting}

theorem find?_mergeDocument (h : Fits entries) (k : ConfigKey) (root : Setting) :
    (mergeDocument root entries).find? k =
      (k.inDocument? entries).or (root.find? k) := by
  rw [mergeDocument_eq_foldl]
  exact look_foldl (·.find? k) (fun a ha root => (h k a ha).find?_putAt root) root

theorem accepts_of_inDocument? (h : Fits entries) (hs : k.inDocument? entries = some s) :
    k.Accepts s := by
  obtain ⟨a, ha, htold⟩ := List.mem_filterMap.mp (List.mem_of_getLast? hs)
  exact (h k a ha).accepts_of_told? htold

theorem sectioned_mergeDocument (h : Fits entries) (hroot : root.Sectioned) :
    (mergeDocument root entries).Sectioned := by
  rw [mergeDocument_eq_foldl]
  refine List.foldlRecOn _ _ hroot fun root hroot a ha => ?_
  refine hroot.putAt (fun k => (h k a ha).item) fun k hk => ?_
  obtain ⟨incoming, hincoming⟩ := Setting.exists_eq_table ((h k a ha).above hk).1
  rw [hincoming]
  rfl

end Fits

end Configuration

/-- A document that is there is one whose tables and values have the right types. -/
def Layer.DocumentFits (read : DocumentReader) : Layer → Prop
  | .document _ (some text) => ∃ entries ∈ read text, Configuration.Fits entries
  | .document _ none => True
  | .override _ _ => True

instance (read : DocumentReader) : (layer : Layer) → Decidable (layer.DocumentFits read)
  | .document _ (some text) =>
    inferInstanceAs (Decidable (∃ entries ∈ read text, Configuration.Fits entries))
  | .document _ none => isTrue trivial
  | .override _ _ => isTrue trivial

theorem Layer.DocumentFits.available {read : DocumentReader} {layer : Layer}
    (h : layer.DocumentFits read) (hne : layer ≠ .document true none) : layer.Available read := by
  rcases layer with ⟨_ | _, _ | text⟩ | ⟨key, value⟩
  · exact rfl
  · exact Option.isSome_of_mem h.choose_spec.1
  · exact absurd rfl hne
  · exact Option.isSome_of_mem h.choose_spec.1
  · exact trivial

theorem Configuration.fits_of_mem {read : DocumentReader} {layers : List Layer}
    (h : ∀ layer ∈ layers, layer.DocumentFits read) {entries : Named Setting}
    (hentries : entries ∈ layers.filterMap (Layer.entries? read)) : Fits entries := by
  obtain ⟨layer, hlayer, heq⟩ := List.mem_filterMap.mp hentries
  rcases layer with ⟨required, _ | text⟩ | ⟨key, value⟩
  · exact absurd heq (by simp [Layer.entries?])
  · obtain ⟨entries', hread, hfits⟩ := h _ hlayer
    exact Option.some.inj (hread.symm.trans heq) ▸ hfits
  · exact absurd heq (by simp [Layer.entries?])

namespace Configuration

variable {read : DocumentReader} {layers : List Layer} {k : ConfigKey} {s : Setting}

theorem find?_builtIn (k : ConfigKey) :
    ∃ s, builtIn.find? k = some s ∧ k.read s = .ok (default.get k) := by
  rcases k with role | _ | _ | _
  · cases role <;> exact ⟨_, rfl, rfl⟩
  · exact ⟨_, rfl, rfl⟩
  · refine ⟨_, rfl, ?_⟩
    simp [ConfigKey.read, Setting.readEncoding, Setting.encodingNamed, Encoding.all,
      Configuration.get, default]
  · exact ⟨_, rfl, rfl⟩

theorem sectioned_builtIn : builtIn.Sectioned := by
  intro k s hs
  rcases k with role | _ | _ | _ <;> exact Option.some.inj hs ▸ rfl

/-- After the documents a key has what the last document that has the key has for it. -/
theorem find?_documentsMerged (h : ∀ layer ∈ layers, layer.DocumentFits read) (k : ConfigKey) :
    (documentsMerged read layers).find? k = (k.documented? read layers).or (builtIn.find? k) :=
  look_foldl (·.find? k)
    (fun _ hentries root => (fits_of_mem h hentries).find?_mergeDocument k root) builtIn

theorem sectioned_documentsMerged (h : ∀ layer ∈ layers, layer.DocumentFits read) :
    (documentsMerged read layers).Sectioned :=
  List.foldlRecOn _ _ sectioned_builtIn fun _ hroot _ hentries =>
    (fits_of_mem h hentries).sectioned_mergeDocument hroot

theorem accepts_of_documented? (h : ∀ layer ∈ layers, layer.DocumentFits read)
    (hs : k.documented? read layers = some s) : k.Accepts s := by
  obtain ⟨entries, hentries, hin⟩ := List.mem_filterMap.mp (List.mem_of_getLast? hs)
  exact (fits_of_mem h hentries).accepts_of_inDocument? hin

end Configuration

end TagText
