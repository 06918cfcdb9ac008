import TagText.CommandLine.Run
import TagText.Failing
import TagText.Proofs.Building.Readiness
import TagText.Proofs.Rendering.TextModifiers

/-!
# The command `check` foretells `render`

`check` and `render` read the same files in the same order (`Invocation.Reads`) and part only at the
tags: `check` asks for the value of each, `render` also modifies and writes it. The modifiers of the
command line change text at most, its formatter writes every plain value, and no other values come
from JSON and assignments, so whether `render` ends well is settled by the names of modifiers and
by nulls:

> `render_exit_iff`: `render` ends with 0 iff `check` does and every tag names registered modifiers
> only and, if it names any, leads to a value that is not null.

Neither the language of documents nor that of patterns matters to this, so both readers may be any.
-/

namespace TagText

/-! ## Arguments -/

/-- Arguments that ask for the version have no command before it. -/
theorem takeCommand_of_asksVersion {o : Options} {args : List String}
    (h : Arguments.asksVersion o args = true) : Arguments.takeCommand o args = none := by
  fun_induction Arguments.asksVersion o args with
  | case3 o arg args hversion =>
    simp [Arguments.takeCommand, hversion, Arguments.takeOption, Switch.long]
  | case4 o arg args letters hversion =>
    simp [Arguments.takeCommand, hversion, Arguments.takeOption, Arguments.takeLetters,
      Switch.short?]
  | case6 o arg args o' hplain _ _ hoption ih =>
    unfold Arguments.takeCommand
    split
    next hshape => exact absurd hshape hplain
    next =>
      rw [hoption]
      exact ih h
  | case9 o arg args o' switch value hvalue o'' hadd hplain _ _ hoption ih =>
    unfold Arguments.takeCommand
    split
    next hshape => exact absurd hshape hplain
    next =>
      rw [hoption]
      simp [hvalue, hadd, ih h]
  | case1 | case2 | case5 | case7 | case8 | case10 => exact absurd h (by simp)

namespace CommandLine

/-- Arguments that say what is to be run are run. -/
theorem run_of_ofArguments {readers : Readers} {files : Files} {args : List String}
    {i : Invocation} (h : Invocation.ofArguments? args = some i) :
    run readers files args = i.run readers files := by
  have hversion : Arguments.asksVersion .none args = false := by
    by_contra hasks
    have hnone := takeCommand_of_asksVersion (Bool.not_eq_false _ ▸ hasks)
    simp [Invocation.ofArguments?, hnone] at h
  simp [run, hversion, h]

end CommandLine

/-! ## Values -/

namespace Invocation

variable {readers : Readers} {files : Files} {i : Invocation} {values : Entries}

theorem plain_assignedValue (text : String) : (assignedValue text).Plain := by
  unfold assignedValue
  cases h : Value.ofJson? text with
  | none => exact .string text
  | some v => exact plain_of_ofJson? h

theorem plain_of_assignAll {before : Entries} {texts : List String}
    (hbefore : ∀ p ∈ before, p.2.Plain) (h : assignAll before texts = .ok values) :
    ∀ p ∈ values, p.2.Plain := by
  induction texts generalizing before with
  | nil =>
    injection h with h
    exact h ▸ hbefore
  | cons text texts ih =>
    unfold assignAll at h
    split at h
    next => exact absurd h (by simp)
    next key value _ => exact ih (Named.forall_mem_put hbefore (plain_assignedValue value)) h

theorem plain_of_readValuesFile {path : String} (h : readValuesFile files path = .ok values) :
    ∀ p ∈ values, p.2.Plain := by
  unfold readValuesFile at h
  split at h
  next => exact absurd h (by simp)
  next text _ =>
    split at h
    next => exact absurd h (by simp)
    next entries hjson =>
      injection h with h
      cases plain_of_ofJson? hjson with
      | map hentries =>
        exact h ▸ Named.forall_mem_extend (fun p hp => absurd hp List.not_mem_nil) hentries
    next => exact absurd h (by simp)

/-- All values of a run are plain. -/
theorem plain_of_readValues (h : i.readValues files = .ok values) : ∀ p ∈ values, p.2.Plain := by
  unfold readValues at h
  cases hpath : i.values with
  | none =>
    rw [hpath] at h
    exact plain_of_assignAll (fun p hp => absurd hp List.not_mem_nil) h
  | some path =>
    rw [hpath] at h
    obtain ⟨before, hfile, hassigned⟩ := bind_eq_ok_iff.mp h
    exact plain_of_assignAll (plain_of_readValuesFile hfile) hassigned

/-- Whatever a path leads to in a run is plain. -/
theorem plain_of_get_add (h : i.readValues files = .ok values) {path : List String} {v : Value}
    (hget : ((∅ : Store).add values).get .none path = .ok v) : v.Plain :=
  plain_of_get
    (Named.forall_mem_extend (fun _ hp => absurd hp List.not_mem_nil) (plain_of_readValues h)) hget

/-! ## What both commands read -/

theorem builderOf_eq_ok_iff {c : Configuration} {b : Builder} :
    builderOf readers c = .ok b ↔ c.builder? readers.pattern? = some b := by
  unfold builderOf
  cases c.builder? readers.pattern? <;> simp

/-- The configuration of a run is the one of its layers: the built-in settings, and the document of
the option over them. -/
theorem readConfig_eq_ok_iff {c : Configuration} :
    i.readConfig readers files = .ok c ↔
      Configuration.load readers.document? (i.layers files) = .ok c :=
  mapError_eq_ok_iff

/-- The template of a run is the text of the file that is named, if one is to be read, and else the
argument itself. -/
theorem readTemplate_eq_ok_iff {template : String} :
    i.readTemplate files = .ok template ↔
      if i.file then files i.template = .ok template else i.template = template := by
  unfold readTemplate
  split
  · exact mapError_eq_ok_iff
  · rw [Except.ok.injEq]

/-- The run reads a configuration, with the builder that it stands for, a template, and values. -/
structure Reads (readers : Readers) (files : Files) (i : Invocation) (c : Configuration)
    (b : Builder) (template : String) (values : Entries) : Prop where
  load : Configuration.load readers.document? (i.layers files) = .ok c
  builder : c.builder? readers.pattern? = some b
  text : if i.file then files i.template = .ok template else i.template = template
  readValues : i.readValues files = .ok values

variable {c : Configuration} {b : Builder} {template : String}

theorem Reads.unique {c' : Configuration} {b' : Builder} {template' : String} {values' : Entries}
    (h : i.Reads readers files c b template values) (h' : i.Reads readers files c' b' template' values') :
    c' = c ∧ b' = b ∧ template' = template ∧ values' = values := by
  obtain rfl := Except.ok.inj (h.load.symm.trans h'.load)
  have htemplate := readTemplate_eq_ok_iff.mpr h.text
  have htemplate' := readTemplate_eq_ok_iff.mpr h'.text
  exact ⟨rfl, Option.some.inj (h'.builder.symm.trans h.builder),
    Except.ok.inj (htemplate'.symm.trans htemplate),
    Except.ok.inj (h'.readValues.symm.trans h.readValues)⟩

/-- What is read depends on neither the command nor the encoding. -/
theorem reads_with_iff {command : Command} {encoding : Option Encoding} :
    ({ i with command, encoding } : Invocation).Reads readers files c b template values ↔
      i.Reads readers files c b template values :=
  ⟨fun ⟨hc, hb, ht, hv⟩ => ⟨hc, hb, ht, hv⟩, fun ⟨hc, hb, ht, hv⟩ => ⟨hc, hb, ht, hv⟩⟩

theorem Reads.renderer_eq (h : i.Reads readers files c b template values) : b.renderer = c.renderer := by
  obtain ⟨parser, -, rfl⟩ := Option.map_eq_some_iff.mp h.builder
  rfl

/-- The run of `check` finds out what can be built with what it reads. -/
theorem check_eq_ok_iff {answer : Bool} :
    i.check readers files = .ok answer ↔ ∃ c b template values, i.Reads readers files c b template values ∧
      b.canBuild .none template values = .ok answer := by
  simp only [check, bind_eq_ok_iff, readConfig_eq_ok_iff, builderOf_eq_ok_iff,
    readTemplate_eq_ok_iff, mapError_eq_ok_iff]
  constructor
  · rintro ⟨c, hc, b, hb, template, ht, values, hv, hanswer⟩
    exact ⟨c, b, template, values, ⟨hc, hb, ht, hv⟩, hanswer⟩
  · rintro ⟨c, b, template, values, ⟨hc, hb, ht, hv⟩, hanswer⟩
    exact ⟨c, hc, b, hb, template, ht, values, hv, hanswer⟩

/-- The run of `render` gives what is built with what it reads. -/
theorem render_eq_ok_iff {text : String} :
    i.render readers files = .ok text ↔ ∃ c b template values, i.Reads readers files c b template values ∧
      b.buildEncoded .none template values (i.encoding.getD c.encoding) = .ok text := by
  simp only [render, bind_eq_ok_iff, readConfig_eq_ok_iff, builderOf_eq_ok_iff,
    readTemplate_eq_ok_iff, mapError_eq_ok_iff]
  constructor
  · rintro ⟨c, hc, b, hb, template, ht, values, hv, hbuilt⟩
    exact ⟨c, b, template, values, ⟨hc, hb, ht, hv⟩, hbuilt⟩
  · rintro ⟨c, b, template, values, ⟨hc, hb, ht, hv⟩, hbuilt⟩
    exact ⟨c, hc, b, hb, template, ht, values, hv, hbuilt⟩

theorem exit_check_iff (h : i.command = .check) :
    (i.run readers files).exit = 0 ↔ i.check readers files = .ok true := by
  simp only [run, h]
  cases i.check readers files with
  | error e => simp [Except.map]
  | ok answer => cases answer <;> simp [Except.map, said]

theorem exit_render_iff (h : i.command = .render) :
    (i.run readers files).exit = 0 ↔ ∃ text, i.render readers files = .ok text := by
  simp only [run, h]
  cases i.render readers files with
  | error e => simp [Except.map]
  | ok text => simp [Except.map, said]

end Invocation

/-! ## Tags -/

/-- The modifier of this name is there in the configuration. -/
def Configuration.Registers (c : Configuration) (name : String) : Prop :=
  c.standardModifiers = true ∧ name ∈ Modifiers.standardNames

namespace Configuration

variable {c : Configuration}

theorem formatter_renderer : c.renderer.formatter = Formatter.simple := by
  unfold renderer
  split <;> rfl

theorem store_renderer : c.renderer.store = ∅ := by
  unfold renderer
  split <;> rfl

theorem onText_renderer : c.renderer.modifiers.OnText := by
  unfold renderer
  split
  next => exact Modifiers.onText_standard
  next => exact Modifiers.onText_nil

theorem contains_renderer_iff {name : String} :
    Named.contains c.renderer.modifiers name = true ↔ c.Registers name := by
  unfold renderer Registers
  split
  next h => simp [h, Renderer.standard, Modifiers.contains_standard_iff]
  next h => simp [h, Renderer.empty, Named.contains, Named.get?]

/-- The tag names modifiers of the configuration only and, if it names any, leads to no null. -/
def Accepts (c : Configuration) (values : Entries) (tag : Tag) : Prop :=
  (∀ name ∈ tag.modifiers, c.Registers name) ∧
    (tag.modifiers ≠ [] → ∀ v, ((∅ : Store).add values).get .none tag.path = .ok v →
      v.isNull = false)

/-- With plain values, a tag gives a text iff it leads to a value and is accepted. -/
theorem exists_renderTag_iff {values : Entries} {tag : Tag}
    (hplain : ∀ v, ((∅ : Store).add values).get .none tag.path = .ok v → v.Plain) :
    (∃ text, c.renderer.renderTag .none ((∅ : Store).add values) tag = .ok text) ↔
      (∃ v, ((∅ : Store).add values).get .none tag.path = .ok v) ∧ c.Accepts values tag := by
  simp only [Renderer.renderTag_eq_ok_iff, Accepts, ← contains_renderer_iff, formatter_renderer]
  cases hget : ((∅ : Store).add values).get .none tag.path with
  | error e => simp
  | ok v =>
    simp only [Except.ok.injEq, forall_eq', exists_eq', true_and]
    rw [← Modifiers.exists_apply_iff onText_renderer]
    constructor
    · rintro ⟨text, u, w, rfl, hw, -⟩
      exact ⟨w, hw⟩
    · rintro ⟨w, hw⟩
      have hchange := Modifiers.textChange_of_apply onText_renderer hw
      obtain ⟨text, htext⟩ := exists_simple_of_plain (hchange.plain (hplain v hget))
      exact ⟨text, v, w, rfl, hw, htext⟩

end Configuration

/-! ## Both commands on the same input -/

namespace Invocation

variable {readers : Readers} {files : Files} {i : Invocation} {values : Entries}
  {c : Configuration} {b : Builder} {template : String}

theorem exists_buildEncoded_eq (objects : Objects) (b : Builder) (template : String)
    (values : Entries) (encoding : Encoding) :
    ∃ processor, b.buildEncoded objects template values encoding =
      b.build objects template values processor := by
  cases encoding <;> exact ⟨_, rfl⟩

/-- A template is built in an encoding iff every tag of it leads to a value and is accepted. -/
theorem exists_buildEncoded_iff {tree : Tree} (hreads : i.Reads readers files c b template values)
    (htree : b.parser.parse template = .ok tree) (encoding : Encoding) :
    (∃ text, b.buildEncoded .none template values encoding = .ok text) ↔
      b.canBuild .none template values = .ok true ∧
        ∀ tag ∈ Tree.tags tree, c.Accepts values tag := by
  obtain ⟨processor, hprocessor⟩ := exists_buildEncoded_eq .none b template values encoding
  have hstore : b.renderer.store = ∅ := hreads.renderer_eq ▸ Configuration.store_renderer
  have hcan : b.canBuild .none template values = .ok true ↔
      ∀ tag ∈ Tree.tags tree, ∃ v, ((∅ : Store).add values).get .none tag.path = .ok v := by
    rw [Builder.canBuild_of_parse htree, mapError_eq_ok_iff, Builder.allResolve_eq_true_iff, hstore]
  rw [hprocessor, Builder.exists_build_iff htree, hstore, hreads.renderer_eq, hcan, ← forall₂_and]
  refine forall₂_congr fun tag _ => Configuration.exists_renderTag_iff fun v hv => ?_
  exact plain_of_get_add hreads.readValues hv

theorem exists_parse_of_canBuild {answer : Bool}
    (h : b.canBuild .none template values = .ok answer) :
    ∃ tree, b.parser.parse template = .ok tree :=
  (Builder.exists_walk_of_canBuild (.ok answer) h).imp fun _ => And.left

/-- What is built was parsed. -/
theorem exists_parse_of_buildEncoded {encoding : Encoding} {text : String}
    (h : b.buildEncoded .none template values encoding = .ok text) :
    ∃ tree, b.parser.parse template = .ok tree := by
  obtain ⟨processor, hprocessor⟩ := exists_buildEncoded_eq .none b template values encoding
  exact exists_parse_of_canBuild (Builder.canBuild_of_build (hprocessor ▸ h))

end Invocation

/-- **What `check` says of `render`.** Given alike arguments, `render` ends with 0 iff `check` does
and every tag of the template is accepted: its modifiers are those of the configuration, and if it
has any, its value is not null. For standard modifiers turn no value into null and none into one of
another type, and whatever they give of the values of a run can be written. -/
theorem render_exit_iff (readers : Readers) (files : Files) (i : Invocation)
    {renderArgs checkArgs : List String}
    (hrender : Invocation.ofArguments? renderArgs = some { i with command := .render })
    (hcheck : Invocation.ofArguments? checkArgs =
      some { i with command := .check, encoding := none }) :
    ((CommandLine.run readers files renderArgs).exit = 0 ↔
      (CommandLine.run readers files checkArgs).exit = 0 ∧
        ∀ c b template values tree, i.Reads readers files c b template values →
          b.parser.parse template = .ok tree → ∀ tag ∈ Tree.tags tree, c.Accepts values tag) ∧
    (∀ (v : Value) (names : List String), v.isNull = false →
      (∀ name ∈ names, name ∈ Modifiers.standardNames) →
      ∃ w, Modifiers.standard.apply v names = .ok w ∧ w.isNull = false ∧
        w.typeName = v.typeName) ∧
    ∀ c b template values, i.Reads readers files c b template values →
      ∀ path v names w, ((∅ : Store).add values).get .none path = .ok v →
        c.renderer.modifiers.apply v names = .ok w → ∃ text, Formatter.simple w = .ok text := by
  refine ⟨?_, fun v names => Modifiers.exists_apply_standard, ?_⟩
  · rw [CommandLine.run_of_ofArguments hrender, CommandLine.run_of_ofArguments hcheck,
      Invocation.exit_render_iff rfl, Invocation.exit_check_iff rfl, Invocation.check_eq_ok_iff]
    simp only [Invocation.render_eq_ok_iff, Invocation.reads_with_iff]
    constructor
    · rintro ⟨text, c, b, template, values, hreads, hbuilt⟩
      obtain ⟨tree, htree⟩ := Invocation.exists_parse_of_buildEncoded hbuilt
      obtain ⟨hcan, haccepts⟩ :=
        (Invocation.exists_buildEncoded_iff hreads htree _).mp ⟨text, hbuilt⟩
      refine ⟨⟨c, b, template, values, hreads, hcan⟩, ?_⟩
      intro c' b' template' values' tree' hreads' htree'
      obtain ⟨rfl, rfl, rfl, rfl⟩ := hreads.unique hreads'
      exact Except.ok.inj (htree.symm.trans htree') ▸ haccepts
    · rintro ⟨⟨c, b, template, values, hreads, hcan⟩, haccepts⟩
      obtain ⟨tree, htree⟩ := Invocation.exists_parse_of_canBuild hcan
      obtain ⟨text, hbuilt⟩ := (Invocation.exists_buildEncoded_iff hreads htree _).mpr
        ⟨hcan, haccepts c b template values tree hreads htree⟩
      exact ⟨text, c, b, template, values, hreads, hbuilt⟩
  · intro c b template values hreads path v names w hget hw
    have hchange := Modifiers.textChange_of_apply Configuration.onText_renderer hw
    exact exists_simple_of_plain
      (hchange.plain (Invocation.plain_of_get_add hreads.readValues hget))

/-- Both end well on a tag with a standard modifier, whatever the encoding. -/
theorem render_exit_iff_upper :
    (CommandLine.run .standard (fun _ => .error "")
        ["render", "\x7ba|upper\x7d", "-s", "a=x", "-ehtml"]).exit = 0 ∧
      (CommandLine.run .standard (fun _ => .error "")
        ["check", "--set", "a=x", "\x7ba|upper\x7d"]).exit = 0 := by
  have hrendered : (CommandLine.run .standard (fun _ => .error "")
      ["render", "\x7ba|upper\x7d", "-s", "a=x", "-ehtml"]).exit = 0 := by
    decide +kernel
  have hiff := (render_exit_iff .standard (fun _ => .error "")
    ⟨.render, "\x7ba|upper\x7d", false, none, ["a=x"], some .html, none⟩
    (show Invocation.ofArguments? ["render", "\x7ba|upper\x7d", "-s", "a=x", "-ehtml"] = _ from rfl)
    (show Invocation.ofArguments? ["check", "--set", "a=x", "\x7ba|upper\x7d"] = _ from rfl)).1
  exact ⟨hrendered, (hiff.mp hrendered).1⟩

end TagText
