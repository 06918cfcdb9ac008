import TagText.Encoding.Decode
import Mathlib.Tactic.SplitIfs

/-!
# HTML escaping character by character

Escaping goes over a text five times, once for each character that means something in HTML. As the
ampersand comes first and no entity has one of the other four in it, this is the same as writing
every character by itself (`encodeHtml_eq_flatMap`). What is written for a character is an entity or
the character, and only entities begin with an ampersand, so a pass from the left finds one after the
other again, whatever the text looked like before:

> `encode_html_charwise`: escaping writes the characters of a text one by one, and reading the
> entities gives the text back.
-/

namespace TagText

namespace Encoding

/-- A character as escaping writes it. -/
def htmlForm (c : Char) : List Char :=
  if c = '&' then "&amp;".toList
  else if c = '<' then "&lt;".toList
  else if c = '>' then "&gt;".toList
  else if c = '"' then "&quot;".toList
  else if c = '\'' then "&apos;".toList
  else [c]

/-- The five rounds of escaping are one, since none finds anything in what those before it wrote. -/
theorem encodeHtml_eq_flatMap (s : List Char) : encodeHtml s = s.flatMap htmlForm := by
  simp only [encodeHtml, replaceAll_singleton, List.flatMap_assoc]
  congr 1
  funext c
  by_cases hamp : c = '&'
  · subst hamp; rfl
  by_cases hlt : c = '<'
  · subst hlt; rfl
  by_cases hgt : c = '>'
  · subst hgt; rfl
  by_cases hquot : c = '"'
  · subst hquot; rfl
  by_cases hapos : c = '\''
  · subst hapos; rfl
  simp only [htmlForm, hamp, hlt, hgt, hquot, hapos, if_false, List.flatMap_cons, List.flatMap_nil,
    List.append_nil]

/-- Only an ampersand begins an entity. -/
theorem decodeHtml_cons {c : Char} (hc : c ≠ '&') (s : List Char) :
    decodeHtml (c :: s) = c :: decodeHtml s := by
  simp [decodeHtml, hc]

theorem decodeHtml_htmlForm_append (c : Char) (s : List Char) :
    decodeHtml (htmlForm c ++ s) = c :: decodeHtml s := by
  unfold htmlForm
  split_ifs with hamp hlt hgt hquot hapos
  case neg => exact decodeHtml_cons hamp s
  all_goals
    subst c
    rfl

theorem decodeHtml_encodeHtml (s : List Char) : decodeHtml (encodeHtml s) = s := by
  rw [encodeHtml_eq_flatMap]
  induction s with
  | nil => rfl
  | cons c s ih => rw [List.flatMap_cons, decodeHtml_htmlForm_append, ih]

theorem decode?_encode_html (s : String) : decode? .html (encode .html s) = some s := by
  rw [decode?, encode, String.toList_ofList, decodeHtml_encodeHtml, String.ofList_toList]

/-- **HTML escaping writes character by character and loses nothing.** The five rounds write an entity
for each of the five characters that mean something in HTML and every other as itself. One pass that
puts the characters back for their entities gives the text back, so no two texts are written alike,
with entities in them or without. -/
theorem encode_html_charwise (s : String) :
    encode .html s = String.ofList (s.toList.flatMap htmlForm) ∧
    decode? .html (encode .html s) = some s ∧
    Function.Injective (encode .html) := by
  refine ⟨?_, decode?_encode_html s, encode_injective decode?_encode_html⟩
  rw [encode, encodeHtml_eq_flatMap]

/-- A text that looks escaped is escaped once more. -/
example : encode .html "&lt;'\"" = "&amp;lt;&apos;&quot;" := by decide

end Encoding

end TagText
