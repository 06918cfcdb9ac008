import TagText.Encoding.Decode

/-!
# URL encodings byte by byte

Both URL encodings are made of passes over the whole text: form encoding has its asterisks replaced,
and percent encoding is what becomes of that when plus signs and `%7E` are replaced too. A pass that
looks for three characters could find them where two bytes meet. It does not, as a percent sign only
ever begins what is written for a byte (`aligned_spacedForm`), so each byte is written by itself
(`encodeUrl_eq_flatMap`, `encodeUrlRaw_eq_flatMap`) and read back by itself:

> `encode_url_bytewise`: URL encodings write the bytes of a text one by one, decoding gives the text
> back, and encoding a text in two parts is encoding each of them.
-/

namespace TagText

namespace Encoding

/-! ## Single bytes -/

/-- What holds of all numbers below 256 holds of all bytes. -/
theorem forall_byte {P : UInt8 → Prop} (h : ∀ n < 256, P (UInt8.ofNat n)) (b : UInt8) : P b := by
  have hb := h b.toNat b.toNat_lt_size
  rwa [UInt8.ofNat_toNat] at hb

/-- A digit to the base 16 as URLs have it. -/
def capitalDigit (n : Nat) : Char :=
  ['0', '1', '2', '3', '4', '5', '6', '7', '8', '9', 'A', 'B', 'C', 'D', 'E', 'F'].getD n '0'

/-- The characters that stand for themselves in a URL. -/
def isUnreserved (c : Char) : Bool :=
  c.isAlphanum || c == '-' || c == '_' || c == '.' || c == '~'

/-- A byte in percent encoding. -/
def rawForm (b : UInt8) : List Char :=
  if isUnreserved (Char.ofNat b.toNat) then [Char.ofNat b.toNat]
  else ['%', capitalDigit (b.toNat / 16), capitalDigit (b.toNat % 16)]

/-- A byte in form encoding: a blank is a plus sign, and the tilde does not stand for itself. -/
def urlForm (b : UInt8) : List Char :=
  if b.toNat = ' '.toNat then ['+']
  else if b.toNat = '~'.toNat then ['%', '7', 'E']
  else rawForm b

/-- A byte in form encoding with the blank by its number. -/
def spacedForm (b : UInt8) : List Char :=
  (urlForm b).flatMap fun c => if c = '+' then ['%', '2', '0'] else [c]

/-! ## The passes over a text -/

theorem formByte_asterisk : ∀ b : UInt8,
    ((formByte b).flatMap fun c => if c = '*' then ['%', '2', 'A'] else [c]) = urlForm b :=
  forall_byte (by decide +kernel)

theorem aligned_spacedForm : ∀ b : UInt8, Aligned ['%', '7', 'E'] (spacedForm b) :=
  forall_byte (by decide +kernel)

theorem spacedForm_tilde : ∀ b : UInt8,
    (if spacedForm b = ['%', '7', 'E'] then ['~'] else spacedForm b) = rawForm b :=
  forall_byte (by decide +kernel)

theorem encodeUrl_eq_flatMap (s : List Char) : encodeUrl s = (bytes s).flatMap urlForm := by
  rw [encodeUrl, replaceAll_singleton, List.flatMap_assoc]
  exact congrArg (bytes s).flatMap (funext formByte_asterisk)

theorem encodeUrlRaw_eq_flatMap (s : List Char) : encodeUrlRaw s = (bytes s).flatMap rawForm := by
  have hspaced : replaceAll ['+'] ['%', '2', '0'] (encodeUrl s) = (bytes s).flatMap spacedForm := by
    rw [encodeUrl_eq_flatMap, replaceAll_singleton, List.flatMap_assoc]
    rfl
  -- So far character by character; the last pass looks for three of them, which are one byte.
  rw [encodeUrlRaw, hspaced, replaceAll_flatMap (by simp) aligned_spacedForm]
  exact congrArg (bytes s).flatMap (funext spacedForm_tilde)

/-! ## Reading bytes back -/

/-- A unit of encoded text that is read as a byte: a character that is this byte in UTF-8, or a
percent sign with the digits of the byte. -/
inductive StandsFor : List Char → UInt8 → Prop where
  | character {c : Char} {b : UInt8} (hc : c ≠ '%') (hbytes : String.utf8EncodeChar c = [b]) :
      StandsFor [c] b
  | percent {high low : Char} {b : UInt8} (hbyte : byte? high low = some b) :
      StandsFor ['%', high, low] b

theorem decodePercent_append {unit : List Char} {b : UInt8} (h : StandsFor unit b)
    (s : List Char) : decodePercent (unit ++ s) = b :: decodePercent s := by
  cases h with
  | character hc hbytes => simp [decodePercent, hc, hbytes]
  | percent hbyte => simp [decodePercent, hbyte]

theorem decodePercent_flatMap {form : UInt8 → List Char} (h : ∀ b, StandsFor (form b) b)
    (bs : List UInt8) : decodePercent (bs.flatMap form) = bs := by
  induction bs with
  | nil => rfl
  | cons b bs ih => rw [List.flatMap_cons, decodePercent_append (h b), ih]

theorem utf8EncodeChar_of_isUnreserved : ∀ b : UInt8, isUnreserved (Char.ofNat b.toNat) = true →
    String.utf8EncodeChar (Char.ofNat b.toNat) = [b] :=
  forall_byte (by decide +kernel)

theorem byte?_capitalDigit : ∀ b : UInt8,
    byte? (capitalDigit (b.toNat / 16)) (capitalDigit (b.toNat % 16)) = some b :=
  forall_byte (by decide +kernel)

theorem map_rawForm : ∀ b : UInt8,
    ((rawForm b).map fun c => if c = '+' then ' ' else c) = rawForm b :=
  forall_byte (by decide +kernel)

theorem standsFor_rawForm (b : UInt8) : StandsFor (rawForm b) b := by
  unfold rawForm
  split
  next h =>
    have hc : Char.ofNat b.toNat ≠ '%' := by
      intro heq
      rw [heq] at h
      exact absurd h (by decide)
    exact .character hc (utf8EncodeChar_of_isUnreserved b h)
  next => exact .percent (byte?_capitalDigit b)

/-- In form encoding a byte is read back once the plus signs are blanks. -/
theorem standsFor_urlForm (b : UInt8) :
    StandsFor ((urlForm b).map fun c => if c = '+' then ' ' else c) b := by
  unfold urlForm
  split
  next hblank =>
    obtain rfl : b = 0x20 := UInt8.toNat_inj.mp hblank
    exact .character (by decide) (by decide)
  next =>
    split
    next htilde =>
      obtain rfl : b = 0x7E := UInt8.toNat_inj.mp htilde
      exact .percent (by decide)
    next =>
      rw [map_rawForm]
      exact standsFor_rawForm b

theorem decodePercent_encodeUrlRaw (s : List Char) : decodePercent (encodeUrlRaw s) = bytes s := by
  rw [encodeUrlRaw_eq_flatMap, decodePercent_flatMap standsFor_rawForm]

theorem decodeForm_encodeUrl (s : List Char) : decodeForm (encodeUrl s) = bytes s := by
  rw [decodeForm, encodeUrl_eq_flatMap, List.map_flatMap, decodePercent_flatMap standsFor_urlForm]

/-! ## Texts -/

theorem toByteArray_bytes (s : String) : (bytes s.toList).toByteArray = s.toUTF8 := by
  rw [String.toUTF8_eq_toByteArray, ← String.utf8Encode_toList]
  rfl

theorem bytes_toList (s : String) : bytes s.toList = s.toUTF8.data.toList := by
  rw [← toByteArray_bytes, List.data_toByteArray]

/-- A text is read back from its bytes. -/
theorem fromUTF8?_bytes (s : String) : String.fromUTF8? (bytes s.toList).toByteArray = some s := by
  rw [toByteArray_bytes, String.fromUTF8?, String.toUTF8_eq_toByteArray, dif_pos s.isValidUTF8]
  rfl

theorem toList_encode_urlRaw (s : String) :
    (encode .urlRaw s).toList = s.toUTF8.data.toList.flatMap rawForm := by
  rw [encode, String.toList_ofList, encodeUrlRaw_eq_flatMap, bytes_toList]

theorem toList_encode_url (s : String) :
    (encode .url s).toList = s.toUTF8.data.toList.flatMap urlForm := by
  rw [encode, String.toList_ofList, encodeUrl_eq_flatMap, bytes_toList]

theorem decode?_encode_urlRaw (s : String) : decode? .urlRaw (encode .urlRaw s) = some s := by
  rw [decode?, encode, String.toList_ofList, decodePercent_encodeUrlRaw, fromUTF8?_bytes]

theorem decode?_encode_url (s : String) : decode? .url (encode .url s) = some s := by
  rw [decode?, encode, String.toList_ofList, decodeForm_encodeUrl, fromUTF8?_bytes]

/-- An encoding that goes over the bytes one by one goes over a text in parts. -/
theorem encode_append_of_bytewise {e : Encoding} {form : UInt8 → List Char}
    (h : ∀ s, (encode e s).toList = s.toUTF8.data.toList.flatMap form) (s t : String) :
    encode e (s ++ t) = encode e s ++ encode e t := by
  apply String.toList_inj.mp
  simp only [String.toList_append, h, ← bytes_toList, bytes, List.flatMap_append]

/-- **URL encodings write byte by byte and lose nothing.** Percent encoding writes every byte of a
text in UTF-8 by itself, and form encoding does so but for the blank and the tilde. What they write
is read back as the text, so no two texts are written alike, and a text in two parts is written in
two parts. -/
theorem encode_url_bytewise (s : String) :
    (encode .urlRaw s).toList = s.toUTF8.data.toList.flatMap rawForm ∧
    (encode .url s).toList = s.toUTF8.data.toList.flatMap urlForm ∧
    decode? .urlRaw (encode .urlRaw s) = some s ∧
    decode? .url (encode .url s) = some s ∧
    (Function.Injective (encode .urlRaw) ∧ Function.Injective (encode .url)) ∧
    ∀ t, encode .urlRaw (s ++ t) = encode .urlRaw s ++ encode .urlRaw t ∧
      encode .url (s ++ t) = encode .url s ++ encode .url t :=
  ⟨toList_encode_urlRaw s, toList_encode_url s, decode?_encode_urlRaw s, decode?_encode_url s,
    ⟨encode_injective decode?_encode_urlRaw, encode_injective decode?_encode_url⟩,
    fun t => ⟨encode_append_of_bytewise toList_encode_urlRaw s t,
      encode_append_of_bytewise toList_encode_url s t⟩⟩

/-- What looks like the code of a tilde is none once its percent sign is written. -/
example : encode .urlRaw "é ~%7E" = "%C3%A9%20~%257E" := by decide +kernel

end Encoding

end TagText
