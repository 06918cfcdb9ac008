import TagText.Text.Replace

/-!
# Encodings of inserted text

A value that goes into a URL or into HTML must not be taken for a part of it. Both URL encodings
write the bytes of the text in UTF-8, each byte as itself when it is a letter, a digit or one of
a few marks, and else by `%` and its two digits to the base 16. They differ in the blank and the
tilde. HTML escaping writes the five characters that mean something there as entities.
-/

namespace TagText

/-- How a value is written into its surroundings. -/
inductive Encoding where
  | plain
  | url
  | urlRaw
  | html
  deriving DecidableEq

namespace Encoding

/-- The encodings in the order in which they are listed. -/
def all : List Encoding := [.plain, .url, .urlRaw, .html]

/-- The name of an encoding. -/
def name : Encoding → String
  | .plain => "plain"
  | .url => "url"
  | .urlRaw => "url-raw"
  | .html => "html"

/-- The encoding of a name. -/
def ofName? (name : String) : Option Encoding := all.find? (·.name == name)

/-- What is said of a name that no encoding has. -/
def unknownMessage (name : String) : String :=
  "unknown encoding '" ++ name ++ "', expected one of: " ++ ", ".intercalate (all.map Encoding.name)

/-- The bytes of a text in UTF-8. -/
def bytes (s : List Char) : List UInt8 := s.flatMap String.utf8EncodeChar

/-- A digit to the base 16, in capital letters. -/
def hexDigit (n : Nat) : Char := (Nat.digitChar n).toUpper

/-- A byte by its number. -/
def percent (b : UInt8) : List Char := ['%', hexDigit (b.toNat / 16), hexDigit (b.toNat % 16)]

/-- Whether a byte is an ASCII letter or digit. -/
def isAlphanumeric (b : UInt8) : Bool := b.toNat < 128 && (Char.ofNat b.toNat).isAlphanum

/-- A byte as forms are submitted: the marks `* - . _` stand for themselves too, and a blank is
written as a plus sign. -/
def formByte (b : UInt8) : List Char :=
  let c := Char.ofNat b.toNat
  if b.toNat = 0x20 then ['+']
  else if isAlphanumeric b || c == '*' || c == '-' || c == '.' || c == '_' then [c]
  else percent b

/-- Form encoding, in which an asterisk is written by its number too. -/
def encodeUrl (s : List Char) : List Char :=
  replaceAll ['*'] ['%', '2', 'A'] ((bytes s).flatMap formByte)

/-- Percent encoding: of form encoding, with the blank by its number and the tilde as itself. -/
def encodeUrlRaw (s : List Char) : List Char :=
  replaceAll ['%', '7', 'E'] ['~'] (replaceAll ['+'] ['%', '2', '0'] (encodeUrl s))

/-- The text with entities, the ampersand first so that those of the entities stay. -/
def encodeHtml (s : List Char) : List Char :=
  replaceAll ['\''] "&apos;".toList <|
  replaceAll ['"'] "&quot;".toList <|
  replaceAll ['>'] "&gt;".toList <|
  replaceAll ['<'] "&lt;".toList <|
  replaceAll ['&'] "&amp;".toList s

/-- The text in an encoding. -/
def encode (e : Encoding) (text : String) : String :=
  match e with
  | .plain => text
  | .url => String.ofList (encodeUrl text.toList)
  | .urlRaw => String.ofList (encodeUrlRaw text.toList)
  | .html => String.ofList (encodeHtml text.toList)

end Encoding

end TagText
