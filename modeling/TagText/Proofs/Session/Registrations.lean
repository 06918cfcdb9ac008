import Mathlib.Data.List.DropRight
import TagText.Proofs.Rendering.Dependence
import TagText.Proofs.Session.Copies

/-!
# Renderers go by the last registrations

A renderer is configured by calls, in any order and number, and may be cloned on the way. What it
renders depends on the last of them only:

> `answer_eq_fresh`: at any place of a session over copies, a renderer answers as a fresh one that
> has the store that was last set, with the last value of each key that was added since; the last
> modifier of each name; and the last formatter.

Every call does the same three things, most of them trivially: it puts a store in the place of the
old one and adds values, it adds modifiers, and it puts a formatter in the place of the old one
(`after_eq`). So the calls of a line of ancestry come down to what they put and add
(`foldl_after_eq`), and of what is added under one name only the last is seen
(`get?_extend_latest`).
-/

namespace TagText

/-! ## The last things under their names -/

namespace Named

variable {α : Type} {xs xs' : Named α} {name : String}

/-- The pairs behind which there is no other of the same name. -/
def latest : List (String × α) → Named α
  | [] => []
  | p :: ps => if p.1 ∈ ps.map Prod.fst then latest ps else p :: latest ps

/-- Of the pairs put under one name only the last is seen. -/
theorem get?_extend_latest (xs : Named α) (ps : List (String × α)) (name : String) :
    get? (extend xs (latest ps)) name = get? (extend xs ps) name := by
  induction ps generalizing xs with
  | nil => rfl
  | cons p ps ih =>
    rw [latest]
    split
    next hmem =>
      rw [ih]
      by_cases hname : name = p.1
      · exact get?_extend_of_mem (hname ▸ hmem) _ _
      · exact get?_extend_congr (get?_put_of_ne xs p.2 hname).symm ps
    next => exact ih (put xs p.1 p.2)

end Named

/-! ## Calls of a renderer -/

/-- What may be asked of a renderer. -/
inductive RendererCall where
  | addValue (key : String) (v : Value)
  | addValues (values : Entries)
  | addModifier (name : String) (m : Modifier)
  | addModifiers (ms : List (String × Modifier))
  | setFormatter (formatter : Formatter)
  | setStore (store : Store)
  | render (tree : Tree) (extra : Entries) (processor : Option Processor)

/-- The renderer after a call. -/
def Renderer.after (r : Renderer) : RendererCall → Renderer
  | .addValue key v => r.addValue key v
  | .addValues values => r.addValues values
  | .addModifier name m => r.addModifier name m
  | .addModifiers ms => r.addModifiers ms
  | .setFormatter formatter => r.setFormatter formatter
  | .setStore store => r.setStore store
  | .render _ _ _ => r

/-- What the renderer answers to a call. Only rendering has an answer. -/
def Renderer.answer? (objects : Objects) (r : Renderer) :
    RendererCall → Option (Except RenderError String)
  | .render tree extra processor => some (r.render objects tree extra processor)
  | _ => none

namespace RendererCall

/-- The store that the call sets. -/
def store? : RendererCall → Option Store
  | .setStore store => some store
  | _ => none

/-- The formatter that the call sets. -/
def formatter? : RendererCall → Option Formatter
  | .setFormatter formatter => some formatter
  | _ => none

/-- The values that the call adds. -/
def addedValues : RendererCall → List (String × Value)
  | .addValue key v => [(key, v)]
  | .addValues values => values
  | _ => []

/-- The modifiers that the call adds. -/
def addedModifiers : RendererCall → List (String × Modifier)
  | .addModifier name m => [(name, m)]
  | .addModifiers ms => ms
  | _ => []

/-- The calls since a store was last set. -/
def sinceStore (calls : List RendererCall) : List RendererCall := calls.rtakeWhile (·.store?.isNone)

end RendererCall

open RendererCall

namespace Renderer

/-- A renderer that was given the last registrations of `calls` at once, over those of `initial`. -/
def fresh (initial : Renderer) (calls : List RendererCall) : Renderer where
  store := ((calls.filterMap store?).getLastD initial.store).add
    (Named.latest ((sinceStore calls).flatMap addedValues))
  modifiers := Named.extend initial.modifiers (Named.latest (calls.flatMap addedModifiers))
  formatter := (calls.filterMap formatter?).getLastD initial.formatter

/-- Every call sets a store, adds values and modifiers and sets a formatter, if it has any. -/
theorem after_eq (r : Renderer) (call : RendererCall) :
    r.after call = ⟨(call.store?.getD r.store).add call.addedValues,
      Named.extend r.modifiers call.addedModifiers, call.formatter?.getD r.formatter⟩ := by
  cases call with
  | addModifiers ms => exact addModifiers_eq r ms
  | _ => rfl

/-- The values added since a store was set, after one more call. -/
theorem add_sinceStore_concat (calls : List RendererCall) (call : RendererCall) (store : Store) :
    (call.store?.getD (store.add ((sinceStore calls).flatMap addedValues))).add call.addedValues =
      (call.store?.getD store).add ((sinceStore (calls ++ [call])).flatMap addedValues) := by
  cases hcall : call.store? with
  | none =>
    rw [sinceStore, sinceStore, List.rtakeWhile_concat_pos _ _ _ (by simp [hcall]),
      List.flatMap_append, List.flatMap_singleton]
    simp only [Option.getD_none, Store.add, Named.extend_append]
  | some set =>
    -- A call that sets a store adds no values.
    have hadded : call.addedValues = [] := by
      cases call with
      | setStore => rfl
      | _ => exact absurd hcall (by simp [store?])
    rw [sinceStore, sinceStore, List.rtakeWhile_concat, if_neg (by simp [hcall]), hadded]
    rfl

/-- The renderer after calls is given all that these add, in their order. -/
theorem foldl_after_eq (initial : Renderer) (calls : List RendererCall) :
    calls.foldl after initial =
      ⟨((calls.filterMap store?).getLastD initial.store).add
          ((sinceStore calls).flatMap addedValues),
        Named.extend initial.modifiers (calls.flatMap addedModifiers),
        (calls.filterMap formatter?).getLastD initial.formatter⟩ := by
  induction calls using List.reverseRecOn with
  | nil => rfl
  | append_singleton calls call ih =>
    rw [List.foldl_append, List.foldl_cons, List.foldl_nil, ih, after_eq, add_sinceStore_concat,
      Session.getLastD_filterMap_concat, Session.getLastD_filterMap_concat, List.flatMap_append,
      List.flatMap_singleton, Named.extend_append]

/-- No tree tells the renderer after calls from the fresh one. -/
theorem agree_fresh (tree : Tree) (initial : Renderer) (calls : List RendererCall) :
    Agree tree (calls.foldl after initial) (fresh initial calls) := by
  rw [foldl_after_eq]
  exact {
    formatter_eq := rfl
    bound_eq := rfl
    value_eq := fun key _ => (Named.get?_extend_latest _ _ key).symm
    modifier_eq := fun name _ => (Named.get?_extend_latest _ _ name).symm }

/-- What was called before a store was set is not since then. -/
theorem sinceStore_append_setStore (past since : List RendererCall) (store : Store) :
    sinceStore (past ++ .setStore store :: since) = sinceStore since := by
  induction since using List.reverseRecOn with
  | nil => exact List.rtakeWhile_concat_neg _ _ _ (by simp [store?])
  | append_singleton since call ih =>
    rw [← List.cons_append, ← List.append_assoc]
    unfold sinceStore at ih ⊢
    rw [List.rtakeWhile_concat, List.rtakeWhile_concat, ih]

/-- When a store is set, only the values added before are lost. -/
theorem fresh_setStore (initial : Renderer) (past since : List RendererCall) (store : Store) :
    fresh initial (past ++ .setStore store :: since) =
      { fresh initial (past ++ since) with
        store := (fresh (initial.setStore store) since).store } := by
  have hstore : ((past ++ .setStore store :: since).filterMap store?).getLastD initial.store =
      (since.filterMap store?).getLastD store := by
    have hset : (.setStore store :: since).filterMap store? = store :: since.filterMap store? := rfl
    rw [List.filterMap_append, hset, List.getLastD_eq_getLast?, List.getLast?_append,
      List.getLast?_cons]
    simp
  have hmodifiers : (past ++ .setStore store :: since).flatMap addedModifiers =
      (past ++ since).flatMap addedModifiers := by
    rw [List.flatMap_append, List.flatMap_append]
    rfl
  have hformatter : (past ++ .setStore store :: since).filterMap formatter? =
      (past ++ since).filterMap formatter? := by
    rw [List.filterMap_append, List.filterMap_append]
    rfl
  simp only [fresh, hstore, hmodifiers, hformatter, sinceStore_append_setStore, setStore]

end Renderer

/-- **Renderers go by the last registrations.** Whatever was done to it and to other copies, a copy
renders as a fresh renderer with the last registrations of its line of ancestry. A step that renders
changes no other answer of the session. What becomes of a copy is what is done to it from then on,
so nothing else is added to its line, and a copy made of it begins with this line. Setting a store
discards the values added before and nothing else. -/
theorem answer_eq_fresh (objects : Objects) (initial : Renderer) :
    (∀ before after copy calls tree extra processor,
      (Session.lines before)[copy]? = some calls →
        (Session.answers Renderer.after (Renderer.answer? objects) [initial]
          (before ++ .act copy (.render tree extra processor) :: after))[before.length]? =
            some (some ((initial.fresh calls).render objects tree extra processor))) ∧
    (∀ before after copy tree extra processor,
      (Session.answers Renderer.after (Renderer.answer? objects) [initial]
          (before ++ .act copy (.render tree extra processor) :: after)).eraseIdx before.length =
        Session.answers Renderer.after (Renderer.answer? objects) [initial] (before ++ after)) ∧
    (∀ before after copy r,
      (Session.copies Renderer.after initial before)[copy]? = some r →
        (Session.copies Renderer.after initial (before ++ after))[copy]? =
          some ((after.filterMap (SessionStep.on? copy)).foldl Renderer.after r)) ∧
    (∀ (before after : List (SessionStep RendererCall)) copy calls,
      (Session.lines before)[copy]? = some calls →
        (Session.lines (before ++ after))[copy]? =
            some (calls ++ after.filterMap (SessionStep.on? copy)) ∧
          (Session.lines (before ++ [.clone copy]))[(Session.lines before).length]? =
            some calls) ∧
    ∀ past since store, initial.fresh (past ++ .setStore store :: since) =
      { initial.fresh (past ++ since) with
        store := ((initial.setStore store).fresh since).store } := by
  refine ⟨fun before after copy calls tree extra processor hline => ?_,
    fun before after copy tree extra processor => Session.eraseIdx_answers fun _ => rfl,
    fun before after copy r hr => Session.getElem?_copies_append hr after,
    fun before after copy calls hline =>
      ⟨Session.getElem?_lines_append hline after, Session.getElem?_lines_clone hline⟩,
    initial.fresh_setStore⟩
  have hrender : (calls.foldl Renderer.after initial).render objects tree extra processor =
      (initial.fresh calls).render objects tree extra processor :=
    (Renderer.agree_fresh tree initial calls).render_eq extra processor
  rw [Session.answer_of_lines hline, ← hrender]
  rfl

/-- Two renderers are given values under one key, one of them after its store was set. -/
def Session.forked : List (SessionStep RendererCall) := [
  .act 0 (.addValue "a" (.string "x")),
  .clone 0,
  .act 1 (.setStore (.ofEntries [("b", .string "y")])),
  .act 0 (.addValues [("a", .string "1"), ("a", .string "2")]),
  .act 1 (.addValue "a" (.string "z"))]

theorem answer_eq_fresh_forked :
    (Session.lines Session.forked)[1]? = some [.addValue "a" (.string "x"),
      .setStore (.ofEntries [("b", .string "y")]), .addValue "a" (.string "z")] ∧
    (Session.answers Renderer.after (Renderer.answer? .none) [.standard]
      (Session.forked ++ [.act 1 (.render [.tag ⟨["a"], ["upper"]⟩] [] none)]))[5]? =
        some (some (.ok "Z")) := by
  let tree : Tree := [.tag ⟨["a"], ["upper"]⟩]
  have hfresh : (Renderer.standard.fresh [.addValue "a" (.string "x"),
      .setStore (.ofEntries [("b", .string "y")]), .addValue "a" (.string "z")]).render .none
        tree [] none = .ok "Z" := by
    decide +kernel
  have hanswer := (answer_eq_fresh .none .standard).1 Session.forked [] 1 _ tree [] none rfl
  exact ⟨rfl, hanswer.trans (congrArg (some <| some ·) hfresh)⟩

end TagText
