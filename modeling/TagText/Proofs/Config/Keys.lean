import TagText.Config.Layers
import TagText.Failing

/-!
# The keys of a configuration

A configuration has eight keys: the literals of the five roles, the pattern of blanks, the encoding,
and whether the standard modifiers are there. Each key stands under its name in a section of the
settings, and no key is read from the place of another:

> `readConfiguration_eq_ok_iff`: settings whose sections are no arrays are read as a configuration
> iff each key is there and is read as what the configuration has for it.

So what layers come to can be asked key by key, of `Setting.find?`.
-/

namespace TagText

/-- What a configuration has a value for. -/
inductive ConfigKey where
  | token (role : Role)
  | blankPattern
  | encoding
  | standardModifiers
  deriving DecidableEq

namespace ConfigKey

/-- The keys in their order. -/
def all : List ConfigKey := Role.all.map .token ++ [.blankPattern, .encoding, .standardModifiers]

theorem mem_all (k : ConfigKey) : k ∈ all := by
  rcases k with role | _ | _ | _
  · cases role <;> decide
  · decide
  · decide
  · decide

instance {P : ConfigKey → Prop} [DecidablePred P] : Decidable (∀ k, P k) :=
  decidable_of_iff (∀ k ∈ all, P k) ⟨fun h k => h k (mem_all k), fun h k _ => h k⟩

/-- The section that a key stands in. -/
def sectionName : ConfigKey → String
  | .token _ => "tokens"
  | .blankPattern => "parser"
  | .encoding => "render"
  | .standardModifiers => "render"

/-- The name of a key in its section. -/
def name : ConfigKey → String
  | .token .escape => "escape"
  | .token .tagOpen => "tag_open"
  | .token .tagClose => "tag_close"
  | .token .tagModifier => "tag_modifier"
  | .token .tagPathSeparator => "tag_path_separator"
  | .blankPattern => "whitespace_pattern"
  | .encoding => "encoding"
  | .standardModifiers => "standard_modifiers"

/-- What the value of a key is. -/
abbrev Value : ConfigKey → Type
  | .token _ => String
  | .blankPattern => String
  | .encoding => Encoding
  | .standardModifiers => Bool

/-- A setting as the value of a key. -/
def read : (k : ConfigKey) → Setting → Except ConfigError k.Value
  | .token _ => Setting.readText
  | .blankPattern => Setting.readText
  | .encoding => Setting.readEncoding
  | .standardModifiers => Setting.readTruth

end ConfigKey

namespace Configuration

/-- What a configuration has for a key. -/
def get (c : Configuration) : (k : ConfigKey) → k.Value
  | .token role => c.tokens.get role
  | .blankPattern => c.blankPattern
  | .encoding => c.encoding
  | .standardModifiers => c.standardModifiers

/-- The configuration of the built-in settings. -/
def default : Configuration := ⟨.default, "\\s+", .plain, true⟩

end Configuration

namespace Setting

variable {α : Type} {s : Setting} {read : Setting → Except ConfigError α}

/-- The setting of a key. -/
def find? (root : Setting) (k : ConfigKey) : Option Setting :=
  (Named.get? root.entries k.sectionName).bind fun s => Named.get? s.entries k.name

/-- Whether the setting is a table. -/
def isTable : Setting → Bool
  | .table _ => true
  | _ => false

/-- Whether the setting is an array. -/
def isArray : Setting → Bool
  | .array _ => true
  | _ => false

/-! ## Parts of a section -/

theorem readPart_eq_ok_some_iff {part : Option Setting} {a : α} :
    readPart read part = .ok (some a) ↔ ∃ s, part = some s ∧ read s = .ok a := by
  cases part with
  | none => simp [readPart]
  | some s => cases h : read s <;> simp [readPart, h, Except.map]

/-- A section that is no array has parts iff it is a table, and these are under their names. -/
theorem parts_eq_ok_iff (h : s.isArray = false) {names : List String}
    {parts : List (Option Setting)} :
    s.parts names = .ok parts ↔ s.isTable = true ∧ names.map (Named.get? s.entries) = parts := by
  cases s <;> simp_all [Setting.parts, isTable, isArray, entries]

theorem mapM_cons_eq_ok_cons_iff {β γ ε : Type} {f : β → Except ε γ} {x : β} {xs : List β} {y : γ}
    {ys : List γ} : (x :: xs).mapM f = .ok (y :: ys) ↔ f x = .ok y ∧ xs.mapM f = .ok ys := by
  rw [List.mapM_cons]
  simp only [bind_eq_ok_iff, pure, Except.pure, Except.ok.injEq, List.cons.injEq]
  constructor
  · rintro ⟨_, hx, _, hxs, rfl, rfl⟩
    exact ⟨hx, hxs⟩
  · rintro ⟨hx, hxs⟩
    exact ⟨y, hx, ys, hxs, rfl, rfl⟩

theorem isTable_of_get?_entries {name : String} {v : Setting}
    (h : Named.get? s.entries name = some v) : s.isTable = true := by
  cases s <;> simp_all [isTable, entries, Named.get?]

/-- The setting of a key, within its section, is there and is read as the value. -/
def Holds (s : Setting) (k : ConfigKey) (value : k.Value) : Prop :=
  ∃ v, Named.get? s.entries k.name = some v ∧ k.read v = .ok value

theorem Holds.isTable {k : ConfigKey} {value : k.Value} (h : s.Holds k value) : s.isTable = true :=
  isTable_of_get?_entries h.choose_spec.1

theorem readTokens_eq_ok_iff (h : s.isArray = false) {t : Tokens} :
    s.readTokens = .ok t ↔ ∀ role, s.Holds (.token role) (t.get role) := by
  have hread : s.readTokens = .ok t ↔ s.isTable = true ∧
      (["escape", "tag_open", "tag_close", "tag_modifier", "tag_path_separator"].map
        (Named.get? s.entries)).mapM (readPart readText) =
      .ok [some t.escape, some t.tagOpen, some t.tagClose, some t.tagModifier,
        some t.tagPathSeparator] := by
    simp only [readTokens, bind_eq_ok_iff, parts_eq_ok_iff h]
    constructor
    · rintro ⟨_, ⟨htable, rfl⟩, values, hvalues, ht⟩
      refine ⟨htable, hvalues.trans ?_⟩
      split at ht
      next => rw [← Except.ok.inj ht]
      next => exact absurd ht (by simp)
    · rintro ⟨htable, hvalues⟩
      exact ⟨_, ⟨htable, rfl⟩, _, hvalues, rfl⟩
  rw [hread]
  simp only [List.map_cons, List.map_nil, mapM_cons_eq_ok_cons_iff, readPart_eq_ok_some_iff]
  constructor
  · rintro ⟨-, hescape, hopen, hclose, hmodifier, hseparator, -⟩ role
    cases role with
    | escape => exact hescape
    | tagOpen => exact hopen
    | tagClose => exact hclose
    | tagModifier => exact hmodifier
    | tagPathSeparator => exact hseparator
  · intro hholds
    exact ⟨(hholds .escape).isTable, hholds .escape, hholds .tagOpen, hholds .tagClose,
      hholds .tagModifier, hholds .tagPathSeparator, rfl⟩

theorem readParser_eq_ok_iff (h : s.isArray = false) {pattern : String} :
    s.readParser = .ok pattern ↔ s.Holds .blankPattern pattern := by
  have hread : s.readParser = .ok pattern ↔ s.isTable = true ∧
      (["whitespace_pattern"].map (Named.get? s.entries)).mapM (readPart readText) =
        .ok [some pattern] := by
    simp only [readParser, bind_eq_ok_iff, parts_eq_ok_iff h]
    constructor
    · rintro ⟨_, ⟨htable, rfl⟩, values, hvalues, hpattern⟩
      refine ⟨htable, hvalues.trans ?_⟩
      split at hpattern
      next => rw [← Except.ok.inj hpattern]
      next => exact absurd hpattern (by simp)
    · rintro ⟨htable, hvalues⟩
      exact ⟨_, ⟨htable, rfl⟩, _, hvalues, rfl⟩
  rw [hread]
  simp only [List.map_cons, List.map_nil, mapM_cons_eq_ok_cons_iff, readPart_eq_ok_some_iff]
  exact ⟨fun ⟨_, hpattern, _⟩ => hpattern, fun hpattern => ⟨hpattern.isTable, hpattern, rfl⟩⟩

theorem readRender_eq_ok_iff (h : s.isArray = false) {encoding : Encoding} {standard : Bool} :
    s.readRender = .ok (encoding, standard) ↔
      s.Holds .encoding encoding ∧ s.Holds .standardModifiers standard := by
  have hread : s.readRender = .ok (encoding, standard) ↔ s.isTable = true ∧
      readPart readEncoding (Named.get? s.entries "encoding") = .ok (some encoding) ∧
      readPart readTruth (Named.get? s.entries "standard_modifiers") = .ok (some standard) := by
    simp only [readRender, bind_eq_ok_iff, parts_eq_ok_iff h]
    constructor
    · rintro ⟨_, ⟨htable, rfl⟩, hvalues⟩
      obtain ⟨_, hencoding, hvalues⟩ := bind_eq_ok_iff.mp hvalues
      obtain ⟨_, hstandard, hvalues⟩ := bind_eq_ok_iff.mp hvalues
      split at hvalues
      next =>
        obtain ⟨rfl, rfl⟩ := Prod.mk.inj (Except.ok.inj hvalues)
        exact ⟨htable, hencoding, hstandard⟩
      next => exact absurd hvalues (by simp)
    · rintro ⟨htable, hencoding, hstandard⟩
      refine ⟨_, ⟨htable, rfl⟩, bind_eq_ok_iff.mpr ⟨_, hencoding, ?_⟩⟩
      exact bind_eq_ok_iff.mpr ⟨_, hstandard, rfl⟩
  rw [hread, readPart_eq_ok_some_iff, readPart_eq_ok_some_iff]
  exact ⟨fun ⟨_, hrest⟩ => hrest, fun hrest => ⟨hrest.1.isTable, hrest⟩⟩

theorem section?_eq_ok_iff {root : Setting} {name : String} :
    root.section? name = .ok s ↔ Named.get? root.entries name = some s := by
  unfold section?
  cases Named.get? root.entries name <;> simp

/-- No section of the settings is an array. -/
def Sectioned (root : Setting) : Prop :=
  ∀ (k : ConfigKey) (s : Setting), Named.get? root.entries k.sectionName = some s →
    s.isArray = false

/-- Settings without an array for a section are a configuration iff they have each of its values
under its key. -/
theorem readConfiguration_eq_ok_iff {root : Setting} {c : Configuration} (h : root.Sectioned) :
    root.readConfiguration = .ok c ↔
      ∀ k, ∃ s, root.find? k = some s ∧ k.read s = .ok (c.get k) := by
  have hfind : ∀ (k : ConfigKey) {s : Setting}, root.section? k.sectionName = .ok s →
      s.isArray = false ∧ root.find? k = Named.get? s.entries k.name := by
    intro k s hs
    have hget := section?_eq_ok_iff.mp hs
    exact ⟨h k s hget, by rw [find?, hget, Option.bind_some]⟩
  simp only [readConfiguration, bind_eq_ok_iff]
  constructor
  · rintro ⟨s, hs, tokens, htokens, p, hp, pattern, hpattern, r, hr, ⟨encoding, standard⟩, hrender,
      hc⟩
    obtain rfl := Except.ok.inj hc
    intro k
    cases k with
    | token role =>
      obtain ⟨harray, hfind⟩ := hfind (.token role) hs
      exact hfind ▸ (readTokens_eq_ok_iff harray).mp htokens role
    | blankPattern =>
      obtain ⟨harray, hfind⟩ := hfind .blankPattern hp
      exact hfind ▸ (readParser_eq_ok_iff harray).mp hpattern
    | encoding =>
      obtain ⟨harray, hfind⟩ := hfind .encoding hr
      exact hfind ▸ ((readRender_eq_ok_iff harray).mp hrender).1
    | standardModifiers =>
      obtain ⟨harray, hfind⟩ := hfind .standardModifiers hr
      exact hfind ▸ ((readRender_eq_ok_iff harray).mp hrender).2
  · intro hkeys
    have hsection : ∀ k : ConfigKey, ∃ s, root.section? k.sectionName = .ok s := by
      intro k
      obtain ⟨v, hv, -⟩ := hkeys k
      obtain ⟨s, hs, -⟩ := Option.bind_eq_some_iff.mp hv
      exact ⟨s, section?_eq_ok_iff.mpr hs⟩
    have hholds : ∀ (k : ConfigKey) {s : Setting}, root.section? k.sectionName = .ok s →
        s.Holds k (c.get k) := by
      intro k s hs
      rw [Holds, ← (hfind k hs).2]
      exact hkeys k
    obtain ⟨s, hs⟩ := hsection (.token .escape)
    obtain ⟨p, hp⟩ := hsection .blankPattern
    obtain ⟨r, hr⟩ := hsection .encoding
    refine ⟨s, hs, c.tokens, ?_, p, hp, c.blankPattern, ?_, r, hr,
      (c.encoding, c.standardModifiers), ?_, rfl⟩
    · exact (readTokens_eq_ok_iff (hfind (.token .escape) hs).1).mpr fun role =>
        hholds (.token role) hs
    · exact (readParser_eq_ok_iff (hfind .blankPattern hp).1).mpr (hholds .blankPattern hp)
    · exact (readRender_eq_ok_iff (hfind .encoding hr).1).mpr
        ⟨hholds .encoding hr, hholds .standardModifiers hr⟩

end Setting

end TagText
