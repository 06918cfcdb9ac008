import TagText.Config.Readers
import TagText.Proofs.Config.Documents
import TagText.Proofs.Session.Parsers

/-!
# Layers override key by key

Documents and overrides are layered in any order and number over the built-in settings. What comes
of them is asked key by key:

> `load_key_by_key`: a key has the value of its last override, wherever among the layers that was
> given; without one, the value of the last document that has the key; and without that the
> built-in value.

Of overrides less is known than of documents, since they may also spoil settings: one that puts a
scalar in the place of a section takes the keys of the section away, and one that goes on below a
key makes a table of it. But such settings are read as no configuration, so a key that is read is
what was last put there under its own name (`given?_of_find?`).

The encoding is the exception, as it may be read from a table (`load_below_encoding`).

How documents and patterns are read is open: any reader of the one and any compiler of the other
will do.
-/

namespace TagText

/-! ## What overrides say of a key -/

namespace ConfigKey

/-- What an override of the key itself says of it. -/
def given? (k : ConfigKey) (a : Assignment) : Option Setting :=
  if k.aim a.1 = .here then some a.2 else none

/-- What the last override of the key says of it. -/
def overridden? (k : ConfigKey) (layers : List Layer) : Option Setting :=
  ((layers.filterMap Layer.assignment?).filterMap k.given?).getLast?

/-- Whatever the assignment does to the key, it gives it no other value than under its own name: it
puts neither a table nor an array in the place of its section, and no table in its own place. Only
an encoding is ever read from below its key. -/
structure ReachedByName (k : ConfigKey) (a : Assignment) : Prop where
  item : k.aim a.1 ≠ .item
  above : k.aim a.1 = .above → a.2.isTable = false ∧ a.2.isArray = false
  here : k.aim a.1 = .here → a.2.isTable = false
  below : k.aim a.1 = .below → k ≠ .encoding

instance (k : ConfigKey) (a : Assignment) : Decidable (k.ReachedByName a) :=
  decidable_of_iff (k.aim a.1 ≠ .item ∧
      (k.aim a.1 = .above → a.2.isTable = false ∧ a.2.isArray = false) ∧
      (k.aim a.1 = .here → a.2.isTable = false) ∧ (k.aim a.1 = .below → k ≠ .encoding))
    ⟨fun ⟨hitem, habove, hhere, hbelow⟩ => ⟨hitem, habove, hhere, hbelow⟩,
      fun h => ⟨h.item, h.above, h.here, h.below⟩⟩

variable {k : ConfigKey} {s : Setting}

/-- Only an encoding is read from a table, and nothing is from an array. -/
theorem read_ne_ok (hk : k ≠ .encoding) (hs : s.isTable = true ∨ s.isArray = true)
    (value : k.Value) : k.read s ≠ .ok value := by
  cases s with
  | table entries =>
    cases k with
    | encoding => exact absurd rfl hk
    | _ => simp [read, Setting.readText, Setting.readTruth, Setting.text?, Setting.truth?]
  | array items =>
    cases k with
    | encoding => exact absurd rfl hk
    | _ => simp [read, Setting.readText, Setting.readTruth, Setting.text?, Setting.truth?]
  | _ => exact absurd hs (by simp [Setting.isTable, Setting.isArray])

/-- A key that is read after overrides is so as the last of them gave it, or was as it is. -/
theorem given?_of_find? {overrides : List Assignment} (h : ∀ a ∈ overrides, k.ReachedByName a)
    {root : Setting} {value : k.Value}
    (hs : (overrides.foldl (fun root a => root.putAt a.2 a.1) root).find? k = some s)
    (hread : k.read s = .ok value) :
    (overrides.filterMap k.given?).getLast?.or (root.find? k) = some s := by
  -- From the last override: one that spoils the key may still be followed by one that mends it.
  induction overrides using List.reverseRecOn with
  | nil => exact hs
  | append_singleton overrides a ih =>
    obtain ⟨hbefore, ha⟩ := List.forall_mem_append.mp h
    have ha := List.forall_mem_singleton.mp ha
    rw [List.foldl_append, List.foldl_cons, List.foldl_nil] at hs
    rw [List.filterMap_append]
    cases hk : k.aim a.1 with
    | apart =>
      rw [Setting.find?_putAt_of_apart hk] at hs
      simpa [given?, hk] using ih hbefore hs
    | above =>
      -- The section is a scalar now, so the key is not there.
      rw [Setting.find?_putAt_of_above hk (ha.above hk).1] at hs
      exact absurd hs (by simp)
    | here =>
      rw [Setting.find?_putAt_of_here hk (ha.here hk)] at hs
      simp [given?, hk, hs]
    | below =>
      -- The key is there, but has a table or an array, which is not read.
      have hnested := Setting.find?_putAt_of_below hk hs
      exact absurd hread (read_ne_ok (ha.below hk) hnested value)
    | item => exact absurd hk ha.item

/-- An override leaves the key alone, or gives it what it can have. -/
def Settles (k : ConfigKey) (a : Assignment) : Prop :=
  k.aim a.1 = .apart ∨ k.aim a.1 = .here ∧ k.Accepts a.2

instance (k : ConfigKey) (a : Assignment) : Decidable (k.Settles a) :=
  inferInstanceAs (Decidable (_ ∨ _))

theorem Settles.find?_putAt {a : Assignment} (h : k.Settles a) (root : Setting) :
    (root.putAt a.2 a.1).find? k = (k.given? a).or (root.find? k) := by
  unfold given?
  rcases h with hk | ⟨hk, haccepts⟩
  · simp [hk, Setting.find?_putAt_of_apart hk]
  · simp [hk, Setting.find?_putAt_of_here hk haccepts.1]

theorem Settles.accepts_of_given? {a : Assignment} (h : k.Settles a) (hs : k.given? a = some s) :
    k.Accepts s := by
  unfold given? at hs
  rcases h with hk | ⟨hk, haccepts⟩
  · exact absurd hs (by simp [hk])
  · rw [if_pos hk] at hs
    exact Option.some.inj hs ▸ haccepts

end ConfigKey

namespace Layer

/-- An override reaches every key under its own name only. -/
def OverridesByName : Layer → Prop
  | .document _ _ => True
  | .override key value =>
    ∀ steps ∈ Key.ofString? key, ∀ k : ConfigKey, k.ReachedByName (steps, value)

/-- An override has a key for its key and gives a value of the right type. -/
def OverrideFits : Layer → Prop
  | .document _ _ => True
  | .override key value =>
    ∃ steps ∈ Key.ofString? key, ∀ k : ConfigKey, k.Settles (steps, value)

instance : (layer : Layer) → Decidable layer.OverridesByName
  | .document _ _ => isTrue trivial
  | .override key value => inferInstanceAs
      (Decidable (∀ steps ∈ Key.ofString? key, ∀ k : ConfigKey, k.ReachedByName (steps, value)))

instance : (layer : Layer) → Decidable layer.OverrideFits
  | .document _ _ => isTrue trivial
  | .override key value => inferInstanceAs
      (Decidable (∃ steps ∈ Key.ofString? key, ∀ k : ConfigKey, k.Settles (steps, value)))

variable {a : Assignment} {layer : Layer}

theorem OverridesByName.of_assignment? (h : layer.OverridesByName) (ha : layer.assignment? = some a)
    (k : ConfigKey) : k.ReachedByName a := by
  cases layer with
  | document required text => exact absurd ha (by simp [assignment?])
  | override key value =>
    obtain ⟨steps, hsteps, rfl⟩ := Option.map_eq_some_iff.mp ha
    exact h steps hsteps k

theorem OverrideFits.of_assignment? (h : layer.OverrideFits) (ha : layer.assignment? = some a)
    (k : ConfigKey) : k.Settles a := by
  cases layer with
  | document required text => exact absurd ha (by simp [assignment?])
  | override key value =>
    obtain ⟨steps, hsteps, rfl⟩ := Option.map_eq_some_iff.mp ha
    obtain ⟨steps', hsteps', hsettles⟩ := h
    exact Option.some.inj (hsteps'.symm.trans hsteps) ▸ hsettles k

theorem OverrideFits.keyed (h : layer.OverrideFits) : layer.Keyed := by
  cases layer with
  | document required text => exact trivial
  | override key value =>
    obtain ⟨steps, hsteps, -⟩ := h
    exact Option.isSome_of_mem hsteps

end Layer

/-! ## Loading -/

namespace Configuration

variable {read : DocumentReader} {compile : PatternCompiler} {layers : List Layer}
  {c : Configuration}

/-- The configuration with these values. -/
def ofValues (value : (k : ConfigKey) → k.Value) : Configuration where
  tokens := Tokens.ofRoles fun role => value (.token role)
  blankPattern := value .blankPattern
  encoding := value .encoding
  standardModifiers := value .standardModifiers

theorem get_ofValues (value : (k : ConfigKey) → k.Value) (k : ConfigKey) :
    (ofValues value).get k = value k := by
  rcases k with role | _ | _ | _
  · cases role <;> rfl
  · rfl
  · rfl
  · rfl

theorem reachedByName_of_mem (hoverrides : ∀ layer ∈ layers, layer.OverridesByName)
    {a : Assignment} (ha : a ∈ layers.filterMap Layer.assignment?) (k : ConfigKey) :
    k.ReachedByName a := by
  obtain ⟨layer, hlayer, heq⟩ := List.mem_filterMap.mp ha
  exact (hoverrides layer hlayer).of_assignment? heq k

theorem sectioned_merged (hdocuments : ∀ layer ∈ layers, layer.DocumentFits read)
    (hoverrides : ∀ layer ∈ layers, layer.OverridesByName) : (merged read layers).Sectioned := by
  refine List.foldlRecOn _ _ (sectioned_documentsMerged hdocuments) fun root hroot a ha => ?_
  have hreached := reachedByName_of_mem hoverrides ha
  exact hroot.putAt (fun k => (hreached k).item) fun k hk => ((hreached k).above hk).2

/-- What a key is read from is its last override, or what its last document has, or built in. -/
theorem exists_source (hdocuments : ∀ layer ∈ layers, layer.DocumentFits read)
    (hoverrides : ∀ layer ∈ layers, layer.OverridesByName) (h : load read layers = .ok c)
    (k : ConfigKey) :
    ∃ s, (k.overridden? layers).or ((k.documented? read layers).or (builtIn.find? k)) = some s ∧
      k.read s = .ok (c.get k) := by
  obtain ⟨-, -, hc⟩ := load_eq_ok_iff.mp h
  have hsectioned := sectioned_merged hdocuments hoverrides
  obtain ⟨s, hs, hread⟩ := (Setting.readConfiguration_eq_ok_iff hsectioned).mp hc k
  refine ⟨s, ?_, hread⟩
  rw [← find?_documentsMerged hdocuments]
  exact ConfigKey.given?_of_find? (fun a ha => reachedByName_of_mem hoverrides ha k) hs hread

theorem settles_of_mem (hfits : ∀ layer ∈ layers, layer.OverrideFits) {a : Assignment}
    (ha : a ∈ layers.filterMap Layer.assignment?) (k : ConfigKey) : k.Settles a := by
  obtain ⟨layer, hlayer, heq⟩ := List.mem_filterMap.mp ha
  exact (hfits layer hlayer).of_assignment? heq k

theorem find?_merged (hdocuments : ∀ layer ∈ layers, layer.DocumentFits read)
    (hfits : ∀ layer ∈ layers, layer.OverrideFits) (k : ConfigKey) :
    (merged read layers).find? k =
      (k.overridden? layers).or ((k.documented? read layers).or (builtIn.find? k)) := by
  rw [← find?_documentsMerged hdocuments]
  exact look_foldl (·.find? k)
    (fun _ ha root => (settles_of_mem hfits ha k).find?_putAt root) (documentsMerged read layers)

/-- Where all values are of the right types, each key has something that can be read. -/
theorem exists_read_merged (hdocuments : ∀ layer ∈ layers, layer.DocumentFits read)
    (hfits : ∀ layer ∈ layers, layer.OverrideFits) (k : ConfigKey) :
    ∃ value s, (merged read layers).find? k = some s ∧ k.read s = .ok value := by
  rw [find?_merged hdocuments hfits]
  cases hover : k.overridden? layers with
  | some s =>
    obtain ⟨a, ha, hgiven⟩ := List.mem_filterMap.mp (List.mem_of_getLast? hover)
    obtain ⟨value, hread⟩ := ((settles_of_mem hfits ha k).accepts_of_given? hgiven).exists_read
    exact ⟨value, s, rfl, hread⟩
  | none =>
    rw [Option.none_or]
    cases hdocument : k.documented? read layers with
    | some s =>
      obtain ⟨value, hread⟩ := (accepts_of_documented? hdocuments hdocument).exists_read
      exact ⟨value, s, rfl, hread⟩
    | none =>
      obtain ⟨s, hs, hread⟩ := find?_builtIn k
      exact ⟨_, s, hs, hread⟩

theorem exists_load (hdocuments : ∀ layer ∈ layers, layer.DocumentFits read)
    (hoverrides : ∀ layer ∈ layers, layer.OverridesByName)
    (hfits : ∀ layer ∈ layers, layer.OverrideFits)
    (havailable : ∀ layer ∈ layers, layer.Available read) : ∃ c, load read layers = .ok c := by
  choose value s hs hread using exists_read_merged hdocuments hfits
  have hkeyed : ∀ layer ∈ layers, layer.Keyed := fun layer hlayer => (hfits layer hlayer).keyed
  refine ⟨ofValues value, load_eq_ok_iff.mpr ⟨hkeyed, havailable, ?_⟩⟩
  rw [Setting.readConfiguration_eq_ok_iff (sectioned_merged hdocuments hoverrides)]
  intro k
  exact ⟨s k, hs k, (get_ofValues value k).symm ▸ hread k⟩

theorem eq_tokens_iff {tokens : Tokens} :
    tokens = c.tokens ↔ ∀ role, tokens.get role = c.get (.token role) := by
  constructor
  · rintro rfl
    exact fun _ => rfl
  · intro hget
    rw [← Tokens.ofRoles_get tokens, ← Tokens.ofRoles_get c.tokens]
    exact congrArg Tokens.ofRoles (funext hget)

theorem parser?_eq_some_iff {parser : Parser} :
    c.parser? compile = some parser ↔
      compile c.blankPattern = some parser.blanks ∧ parser.tokens = c.tokens := by
  rw [parser?, Parser.setBlanks?, Option.map_eq_some_iff]
  constructor
  · rintro ⟨blanks, hblanks, rfl⟩
    exact ⟨hblanks, rfl⟩
  · rintro ⟨hblanks, htokens⟩
    exact ⟨parser.blanks, hblanks, htokens ▸ rfl⟩

theorem modifiers_renderer :
    c.renderer.modifiers = if c.standardModifiers then Modifiers.standard else [] := by
  unfold renderer
  split <;> rfl

/-- **Layers override key by key.** Let the documents that are there have the right types, and
let no override reach a key but under its own name. Then each key of a configuration that is loaded
has the value of its last override, else of the last document that has the key, else the one built
in. If also no required document is absent and the overrides have keys and values of the right
types, there is such a configuration. An optional document that is absent changes nothing, and with
a required one that is absent there is none. The parser and the renderer go by the values of the
keys. All this holds with any reader of documents and any compiler of patterns. -/
theorem load_key_by_key (read : DocumentReader) (compile : PatternCompiler) (layers : List Layer)
    (hdocuments : ∀ layer ∈ layers, layer.DocumentFits read)
    (hoverrides : ∀ layer ∈ layers, layer.OverridesByName) :
    (∀ c, load read layers = .ok c → ∀ k : ConfigKey,
      (∀ s, k.overridden? layers = some s → k.read s = .ok (c.get k)) ∧
      (∀ s, k.overridden? layers = none → k.documented? read layers = some s →
        k.read s = .ok (c.get k)) ∧
      (k.overridden? layers = none → k.documented? read layers = none →
        c.get k = default.get k)) ∧
    ((∀ layer ∈ layers, layer.OverrideFits) → Layer.document true none ∉ layers →
      ∃ c, load read layers = .ok c) ∧
    (∀ before after, layers = before ++ .document false none :: after →
      load read layers = load read (before ++ after)) ∧
    (Layer.document true none ∈ layers → ∀ c, load read layers ≠ .ok c) ∧
    ∀ c, load read layers = .ok c →
      (∀ parser, c.parser? compile = some parser ↔
        compile (c.get .blankPattern) = some parser.blanks ∧
          ∀ role, parser.tokens.get role = c.get (.token role)) ∧
      c.renderer.modifiers = if c.get .standardModifiers then Modifiers.standard else [] := by
  refine ⟨fun c hc k => ?_, fun hfits habsent => ?_, ?_, fun hmem c hc => ?_, fun c _ => ⟨?_, ?_⟩⟩
  · obtain ⟨s', hs', hread⟩ := exists_source hdocuments hoverrides hc k
    refine ⟨fun s hover => ?_, fun s hover hdocument => ?_, fun hover hdocument => ?_⟩
    · rw [hover, Option.some_or] at hs'
      exact Option.some.inj hs' ▸ hread
    · rw [hover, hdocument, Option.none_or, Option.some_or] at hs'
      exact Option.some.inj hs' ▸ hread
    · rw [hover, hdocument, Option.none_or, Option.none_or] at hs'
      obtain ⟨s, hs, hdefault⟩ := find?_builtIn k
      obtain rfl := Option.some.inj (hs'.symm.trans hs)
      exact Except.ok.inj (hread.symm.trans hdefault)
  · refine exists_load hdocuments hoverrides hfits fun layer hlayer => ?_
    exact (hdocuments layer hlayer).available fun heq => habsent (heq ▸ hlayer)
  · rintro before after rfl
    exact load_absent_optional before after
  · exact absurd ((load_eq_ok_iff.mp hc).2.1 _ hmem) (by simp)
  · intro parser
    rw [parser?_eq_some_iff]
    exact and_congr_right fun _ => eq_tokens_iff
  · exact modifiers_renderer

/-- Two documents with an override between them, and one that is absent. -/
def someLayers : List Layer := [
  .document true (some "[tokens]\ntag_open = \"<\"\n"),
  .override "render.standard_modifiers" (.bool false),
  .document false none,
  .document false (some "render.standard_modifiers = true\n[parser]\n")]

/-- The override holds against the later document, and each document leaves the other keys alone. -/
theorem load_key_by_key_someLayers :
    ∃ c, load Toml.read? someLayers = .ok c ∧ c.get (.token .tagOpen) = "<" ∧
      c.get (.token .tagClose) = default.get (.token .tagClose) ∧ c.renderer.modifiers = [] := by
  obtain ⟨hkeys, hload, -, -, huses⟩ :=
    load_key_by_key Toml.read? Pattern.compile? someLayers (by decide +kernel) (by decide +kernel)
  obtain ⟨c, hc⟩ := hload (by decide +kernel) (by simp [someLayers])
  have hopen :
      ((ConfigKey.token .tagOpen).documented? Toml.read? someLayers).bind Setting.text? =
        some "<" := by
    decide +kernel
  have hstandard : (ConfigKey.standardModifiers.overridden? someLayers).bind Setting.truth? =
      some false := by
    decide +kernel
  obtain ⟨s, hs, htext⟩ := Option.bind_eq_some_iff.mp hopen
  obtain ⟨b, hb, htruth⟩ := Option.bind_eq_some_iff.mp hstandard
  have hopen := (hkeys c hc (.token .tagOpen)).2.1 s (by decide +kernel) hs
  have hstandard := (hkeys c hc .standardModifiers).1 b hb
  have hclose := (hkeys c hc (.token .tagClose)).2.2 (by decide +kernel) (by decide +kernel)
  refine ⟨c, hc, ?_, hclose, ?_⟩
  · rw [ConfigKey.read, Setting.readText, htext] at hopen
    exact (Except.ok.inj hopen).symm
  · rw [ConfigKey.read, Setting.readTruth, htruth] at hstandard
    rw [(huses c hc).2, ← Except.ok.inj hstandard]
    rfl

/-- An override that goes on below the encoding is read as one, since a table with one entry counts
as the name of the entry: neither an override nor a document has the key, and yet it is not the one
built in. -/
theorem load_below_encoding :
    ∃ c, load Toml.read? [.override "render.encoding.html" (.bool true)] = .ok c ∧
      ConfigKey.encoding.overridden? [.override "render.encoding.html" (.bool true)] = none ∧
      ConfigKey.encoding.documented? Toml.read?
        [.override "render.encoding.html" (.bool true)] = none ∧
      c.get .encoding = .html ∧ default.get .encoding = .plain := by
  have hencoding :
      (load Toml.read? [.override "render.encoding.html" (.bool true)]).map (·.encoding) =
        .ok .html := by
    decide +kernel
  cases hload : load Toml.read? [.override "render.encoding.html" (.bool true)] with
  | error e => exact absurd (hload ▸ hencoding) (by simp [Except.map])
  | ok c =>
    rw [hload] at hencoding
    exact ⟨c, rfl, by decide +kernel, rfl, Except.ok.inj hencoding, rfl⟩

end Configuration

end TagText
