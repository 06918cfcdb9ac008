import Mathlib.Data.List.Induction
import TagText.Pattern.Reader
import TagText.Proofs.Session.Copies
import TagText.Template.Parser

/-!
# Parsers go by the last settings

A parser is given literals for some of the roles and patterns of blanks, in any order and number, and
may be cloned on the way. What it parses depends on the last of them only:

> `parse_eq_fresh`: at any place of a session over copies, a parser answers as a fresh one that has
> the last literal of every role and the last valid pattern of its line of ancestry.

Which texts are patterns, and what they match, is up to the compiler of patterns; it may be any.

Every call assigns literals and sets a pattern, most of them trivially (`after_eq`), so a pattern
that is none and a parse leave a parser as it is. What one role has after many assignments is what
the last of them for this role gave it (`Tokens.get_merge`), and tokens are nothing but what the
roles have.
-/

namespace TagText

/-! ## The last literals -/

/-- The literal that an assignment gives a role, if it is one for this role. -/
def literalFor? (role : Role) (a : Role × String) : Option String :=
  if a.1 = role then some a.2 else none

namespace Tokens

/-- The tokens that have these literals. -/
def ofRoles (literal : Role → String) : Tokens where
  escape := literal .escape
  tagOpen := literal .tagOpen
  tagClose := literal .tagClose
  tagModifier := literal .tagModifier
  tagPathSeparator := literal .tagPathSeparator

theorem ofRoles_get (t : Tokens) : ofRoles t.get = t := rfl

/-- After assignments a role has the last literal that it was given. -/
theorem get_merge (t : Tokens) (assignments : List (Role × String)) (role : Role) :
    (t.merge assignments).get role =
      (assignments.filterMap (literalFor? role)).getLastD (t.get role) := by
  induction assignments using List.reverseRecOn with
  | nil => rfl
  | append_singleton assignments a ih =>
    have hmerge : t.merge (assignments ++ [a]) = (t.merge assignments).set a.1 a.2 :=
      List.foldl_append
    rw [hmerge, Session.getLastD_filterMap_concat, ← ih, literalFor?]
    by_cases hrole : a.1 = role
    · rw [if_pos hrole, Option.getD_some, ← hrole, get_set_self]
    · rw [if_neg hrole, Option.getD_none, get_set_of_ne _ _ (Ne.symm hrole)]

end Tokens

/-! ## Calls of a parser -/

/-- What may be asked of a parser. -/
inductive ParserCall where
  | setTokens (assignments : List (Role × String))
  | setBlanks (pattern : String)
  | parse (template : String)

/-- What a parser answers: whether it took a pattern, or what it parsed. -/
inductive ParserAnswer where
  | took (accepted : Bool)
  | parsed (result : Except ParseError Tree)

namespace ParserCall

/-- The literals that the call assigns. -/
def assigned : ParserCall → List (Role × String)
  | .setTokens assignments => assignments
  | _ => []

/-- The matcher that the call sets, if it has the text of a pattern. -/
def blanks? (compile : PatternCompiler) : ParserCall → Option Matcher
  | .setBlanks pattern => compile pattern
  | _ => none

end ParserCall

open ParserCall

namespace Parser

variable (compile : PatternCompiler)

/-- The parser after a call. -/
def after (p : Parser) : ParserCall → Parser
  | .setTokens assignments => p.setTokens assignments
  | .setBlanks pattern => (p.setBlanks? compile pattern).getD p
  | .parse _ => p

/-- What the parser answers to a call, before that changes it. -/
def answer? (p : Parser) : ParserCall → Option ParserAnswer
  | .setTokens _ => none
  | .setBlanks pattern => some (.took (p.setBlanks? compile pattern).isSome)
  | .parse template => some (.parsed (p.parse template))

/-- What a session answers that begins with one parser. -/
def answers (initial : Parser) (steps : List (SessionStep ParserCall)) :
    List (Option ParserAnswer) :=
  Session.answers (after compile) (answer? compile) [initial] steps

/-- A parser that was given the last settings of `calls` at once, over those of `initial`. -/
def fresh (initial : Parser) (calls : List ParserCall) : Parser where
  tokens := .ofRoles fun role =>
    ((calls.flatMap assigned).filterMap (literalFor? role)).getLastD (initial.tokens.get role)
  blanks := (calls.filterMap (blanks? compile)).getLastD initial.blanks

/-- Every call assigns literals and sets a pattern, if it has any. -/
theorem after_eq (p : Parser) (call : ParserCall) :
    p.after compile call =
      ⟨p.tokens.merge call.assigned, (call.blanks? compile).getD p.blanks⟩ := by
  cases call with
  | setTokens assignments => rfl
  | setBlanks pattern =>
    rw [after, setBlanks?, blanks?]
    cases compile pattern <;> rfl
  | parse template => rfl

/-- A pattern that is none leaves the parser as it is. -/
theorem after_setBlanks {pattern : String} (h : compile pattern = none) (p : Parser) :
    p.after compile (.setBlanks pattern) = p := by
  rw [after, setBlanks?, h]
  rfl

/-- The parser after calls is assigned all that these assign, in their order. -/
theorem foldl_after_eq (initial : Parser) (calls : List ParserCall) :
    calls.foldl (after compile) initial = ⟨initial.tokens.merge (calls.flatMap assigned),
      (calls.filterMap (blanks? compile)).getLastD initial.blanks⟩ := by
  induction calls using List.reverseRecOn with
  | nil => rfl
  | append_singleton calls call ih =>
    have hmerge : (initial.tokens.merge (calls.flatMap assigned)).merge call.assigned =
        initial.tokens.merge (calls.flatMap assigned ++ call.assigned) :=
      List.foldl_append.symm
    rw [List.foldl_append, List.foldl_cons, List.foldl_nil, ih, after_eq, hmerge,
      Session.getLastD_filterMap_concat, List.flatMap_append, List.flatMap_singleton]

/-- The parser after calls is the fresh one. -/
theorem foldl_after_eq_fresh (initial : Parser) (calls : List ParserCall) :
    calls.foldl (after compile) initial = initial.fresh compile calls := by
  have htokens :
      initial.tokens.merge (calls.flatMap assigned) = (initial.fresh compile calls).tokens := by
    rw [fresh, ← Tokens.ofRoles_get (initial.tokens.merge _)]
    exact congrArg Tokens.ofRoles (funext (initial.tokens.get_merge _))
  rw [foldl_after_eq, htokens]
  rfl

end Parser

/-- **Parsers go by the last settings.** Whatever was done to it and to other copies, a copy parses
as a fresh parser with the last literal that its line of ancestry gave each role and the last valid
pattern of the line, or with what the session began with where the line has none. A pattern that is
none is rejected, and a step with such a pattern, or one that parses, well or not, changes no other
answer of the session. Steps that are not addressed to a copy change none of its answers: nothing
else is added to its line, and a copy made of it begins with this line. All this holds with any
compiler of patterns. -/
theorem parse_eq_fresh (compile : PatternCompiler) (initial : Parser) :
    (∀ (before after : List (SessionStep ParserCall)) (copy : Nat) (calls : List ParserCall)
        (template : String), (Session.lines before)[copy]? = some calls →
      (initial.answers compile
        (before ++ .act copy (.parse template) :: after))[before.length]? =
          some (some (.parsed ((initial.fresh compile calls).parse template)))) ∧
    (∀ (before after : List (SessionStep ParserCall)) (copy : Nat) (calls : List ParserCall)
        (pattern : String), (Session.lines before)[copy]? = some calls →
      (initial.answers compile
        (before ++ .act copy (.setBlanks pattern) :: after))[before.length]? =
          some (some (.took (compile pattern).isSome))) ∧
    (∀ (before after : List (SessionStep ParserCall)) (copy : Nat) (call : ParserCall),
      (∃ template, call = .parse template) ∨
        (∃ pattern, call = .setBlanks pattern ∧ compile pattern = none) →
      (initial.answers compile
          (before ++ .act copy call :: after)).eraseIdx before.length =
        initial.answers compile (before ++ after)) ∧
    (∀ (before others after : List (SessionStep ParserCall)) (copy : Nat) (template : String),
      copy < (Session.lines before).length →
      others.filterMap (SessionStep.on? copy) = [] →
        (initial.answers compile
            ((before ++ others) ++ .act copy (.parse template) :: after))[
              (before ++ others).length]? =
          (initial.answers compile
            (before ++ .act copy (.parse template) :: after))[before.length]?) ∧
    ∀ (before after : List (SessionStep ParserCall)) (copy : Nat) (calls : List ParserCall),
      (Session.lines before)[copy]? = some calls →
        (Session.lines (before ++ after))[copy]? =
            some (calls ++ after.filterMap (SessionStep.on? copy)) ∧
          (Session.lines (before ++ [SessionStep.clone copy]))[(Session.lines before).length]? =
            some calls := by
  have hparse : ∀ (before after : List (SessionStep ParserCall)) (copy : Nat)
      (calls : List ParserCall) (template : String), (Session.lines before)[copy]? = some calls →
      (initial.answers compile
        (before ++ .act copy (.parse template) :: after))[before.length]? =
          some (some (.parsed ((initial.fresh compile calls).parse template))) := by
    intro before after copy calls template hline
    rw [Parser.answers, Session.answer_of_lines hline, Parser.foldl_after_eq_fresh]
    rfl
  refine ⟨hparse, fun before after copy calls pattern hline => ?_,
    fun before after copy call hcall => Session.eraseIdx_answers fun p => ?_,
    fun before others after copy template hcopy hothers => ?_,
    fun before after copy calls hline =>
      ⟨Session.getElem?_lines_append hline after, Session.getElem?_lines_clone hline⟩⟩
  · rw [Parser.answers, Session.answer_of_lines hline, Parser.answer?, Parser.setBlanks?, Option.isSome_map]
  · obtain ⟨template, rfl⟩ | ⟨pattern, rfl, hpattern⟩ := hcall
    · rfl
    · exact p.after_setBlanks compile hpattern
  · have hline := List.getElem?_eq_getElem hcopy
    have hline' := Session.getElem?_lines_append hline others
    rw [hothers, List.append_nil] at hline'
    rw [hparse _ after copy _ template hline, hparse _ after copy _ template hline']

/-- A parser and its clone share an opening literal, which was assigned over another in the same
call. Only the parser is given a new closing one. The clone is given a pattern, then one that is
none, and then a template with a fault. -/
def Session.resettings : List (SessionStep ParserCall) := [
  .act 0 (.setTokens [(.tagOpen, "<"), (.tagClose, ">"), (.tagOpen, "[[")]),
  .clone 0,
  .act 0 (.setTokens [(.tagClose, "]]")]),
  .act 1 (.setBlanks "_+"),
  .act 1 (.setBlanks "("),
  .act 1 (.parse "[[")]

/-- The line of the clone. -/
def ParserCall.resettings : List ParserCall := [
  .setTokens [(.tagOpen, "<"), (.tagClose, ">"), (.tagOpen, "[[")],
  .setBlanks "_+",
  .setBlanks "(",
  .parse "[["]

theorem parse_eq_fresh_resettings :
    (Session.lines Session.resettings)[1]? = some ParserCall.resettings ∧
    (Parser.default.answers Pattern.compile?
      (Session.resettings ++ [SessionStep.act 1 (.parse "[[_a_>")]))[6]? =
        some (some (ParserAnswer.parsed (.ok [.tag ⟨["a"], []⟩]))) := by
  have hfresh : (Parser.default.fresh Pattern.compile? ParserCall.resettings).parse "[[_a_>" =
      .ok [.tag ⟨["a"], []⟩] := by
    decide +kernel
  refine ⟨rfl, ?_⟩
  rw [← hfresh]
  exact (parse_eq_fresh Pattern.compile? .default).1 Session.resettings [] 1 _ "[[_a_>" rfl

end TagText
