import TagText.Encoding
import TagText.Text.Hex

/-!
# Reading encoded text back

What undoes the encodings of inserted text: a pass over the bytes that a URL writes, and a pass
over a text with entities. Both go from the left and look at no character twice.
-/

namespace TagText

namespace Encoding

/-- The byte of two digits to the base 16. -/
def byte? (high low : Char) : Option UInt8 := (hexNumber? 0 [high, low]).map UInt8.ofNat

/-- The bytes of a text in which `%` and two digits stand for a byte. A `%` without them stands
for itself. -/
def decodePercent : List Char → List UInt8
  | '%' :: high :: low :: s =>
    match byte? high low with
    | some b => b :: decodePercent s
    | none => bytes ['%'] ++ decodePercent (high :: low :: s)
  | c :: s => String.utf8EncodeChar c ++ decodePercent s
  | [] => []

/-- The bytes of a submitted form, in which a plus sign stands for a blank. -/
def decodeForm (s : List Char) : List UInt8 :=
  decodePercent (s.map fun c => if c = '+' then ' ' else c)

/-- The text with the five characters that are written as entities in their places. -/
def decodeHtml : List Char → List Char
  | '&' :: 'a' :: 'm' :: 'p' :: ';' :: s => '&' :: decodeHtml s
  | '&' :: 'l' :: 't' :: ';' :: s => '<' :: decodeHtml s
  | '&' :: 'g' :: 't' :: ';' :: s => '>' :: decodeHtml s
  | '&' :: 'q' :: 'u' :: 'o' :: 't' :: ';' :: s => '"' :: decodeHtml s
  | '&' :: 'a' :: 'p' :: 'o' :: 's' :: ';' :: s => '\'' :: decodeHtml s
  | c :: s => c :: decodeHtml s
  | [] => []

/-- The text that a text in an encoding is read as. There is none where the bytes that a URL writes
are no UTF-8. -/
def decode? (e : Encoding) (text : String) : Option String :=
  match e with
  | .plain => some text
  | .url => String.fromUTF8? (decodeForm text.toList).toByteArray
  | .urlRaw => String.fromUTF8? (decodePercent text.toList).toByteArray
  | .html => some (String.ofList (decodeHtml text.toList))

/-- Where every text is read back from what it is written as, no two are written alike. -/
theorem encode_injective {e : Encoding} (h : ∀ text, e.decode? (e.encode text) = some text) :
    Function.Injective e.encode := by
  intro s t heq
  rw [← Option.some.injEq, ← h s, ← h t, heq]

end Encoding

end TagText
