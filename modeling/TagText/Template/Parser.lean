import TagText.Pattern.Matcher
import TagText.Template.Scan

/-!
# Parsers

A parser is its tokens and its matcher of blanks. `parseWith` is what it does with any way of
passing over blanks; the offset of a fault is the number of characters behind it. A matcher is set
by its text, in whatever language of patterns is at hand.

That a parser which goes over the bytes of a template tells the same is `CursorScan.parse_eq`.
-/

namespace TagText

/-- The tree of `template`, or the first fault in it. An empty literal is a fault at the front of
every template. -/
def parseWith (tokens : Tokens) (blank : List Char → Nat) (template : String) :
    Except ParseError Tree :=
  match h : tokens.firstEmpty? with
  | some role => .error ⟨.emptyToken role, 0, template⟩
  | none =>
    match Scan.readTemplate (.ofTokens tokens h) blank template.toList with
    | .error fault => .error ⟨fault.kind, template.length - fault.ahead.length, template⟩
    | .ok tree => .ok tree.prune

theorem parseWith_of_firstEmpty? {tokens : Tokens} {role : Role}
    (h : tokens.firstEmpty? = some role) (blank : List Char → Nat) (template : String) :
    parseWith tokens blank template = .error ⟨.emptyToken role, 0, template⟩ := by
  unfold parseWith
  split
  next first hfirst => rw [Option.some.inj (h.symm.trans hfirst)]
  next hnone => exact absurd (h.symm.trans hnone) (by simp)

theorem parseWith_of_full {tokens : Tokens} (full : tokens.firstEmpty? = none)
    (blank : List Char → Nat) (template : String) :
    parseWith tokens blank template =
      match Scan.readTemplate (.ofTokens tokens full) blank template.toList with
      | .error fault => .error ⟨fault.kind, template.length - fault.ahead.length, template⟩
      | .ok tree => .ok tree.prune := by
  unfold parseWith
  split
  next role hrole => exact absurd (full.symm.trans hrole) (by simp)
  next => rfl

/-- What reads templates. -/
structure Parser where
  tokens : Tokens
  blanks : Matcher

namespace Parser

/-- The default tokens, and White_Space for blanks. -/
def default : Parser := ⟨.default, .blanks⟩

instance : Inhabited Parser := ⟨default⟩

/-- The parser with other literals for some roles. -/
def setTokens (p : Parser) (assignments : List (Role × String)) : Parser :=
  { p with tokens := p.tokens.merge assignments }

/-- The parser with another matcher of blanks, if its text is a pattern. -/
def setBlanks? (compile : PatternCompiler) (p : Parser) (pattern : String) : Option Parser :=
  (compile pattern).map fun blanks => { p with blanks }

/-- The tree of a template, or the first fault in it. -/
def parse (p : Parser) (template : String) : Except ParseError Tree :=
  parseWith p.tokens p.blanks.prefixLength template

end Parser

end TagText
