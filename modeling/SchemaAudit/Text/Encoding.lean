import SchemaAudit.Host.Punycode
import SchemaAudit.Text.Blank
import SchemaAudit.Text.ByteSetTable
import SchemaAudit.Text.Eastern.Charset
import SchemaAudit.Text.Escapes
import SchemaAudit.Text.Units
import SchemaAudit.Text.Utf7
import SchemaAudit.Text.Utf8

/-!
Encodings of text, and their names. Text is read leniently: bytes that are not in an encoding read as
U+FFFD. Some encodings are not for that, and some names are those of encodings of something else.
-/

namespace SchemaAudit.Text

/-- Encodings of text. -/
inductive Encoding where
  | utf7
  | utf8
  | utf8Marked
  /-- One byte to a character. -/
  | bytewise (set : ByteSet)
  | eastern (set : Eastern.Charset)
  | utf16 (bigEnd : Bool)
  | utf32 (bigEnd : Bool)
  /-- Two-byte units whose order a mark at the start shows. -/
  | utf16Marked
  /-- Four-byte units whose order a mark at the start shows. -/
  | utf32Marked
  /-- Escapes of all kinds behind a backslash. -/
  | escapes
  /-- Escapes by number with four or eight digits. -/
  | numberEscapes
  | punycode
  /-- Names of hosts, which are never read leniently. -/
  | hostName
  /-- An encoding that has no text. -/
  | undefined
  /-- An encoding of text as text. -/
  | letters
  /-- An encoding of bytes as bytes. -/
  | bytes
  deriving DecidableEq, Repr

namespace Encoding

/-- The text of units whose order a mark shows. Without one only less than a unit is read. -/
def decodeMarked (bits : Nat) (pieces : Bool → List UInt8 → List Piece) (littleMark : List UInt8)
    (bytes : List UInt8) : Except DecodeFault (List Char) :=
  if littleMark.isPrefixOf bytes then
    .ok ((pieces false (bytes.drop littleMark.length)).map (·.lossy))
  else if littleMark.reverse.isPrefixOf bytes then
    .ok ((pieces true (bytes.drop littleMark.length)).map (·.lossy))
  else if bytes.length < littleMark.length then .ok ((pieces false bytes).map (·.lossy))
  else .error (.noMark bits)

/-- The text of some bytes in Punycode. -/
def decodePunycode [StandIns] (bytes : List UInt8) : Except DecodeFault (List Char) :=
  let ending := (bytes.reverse.takeWhile (· ≠ 0x2d)).reverse
  let plain := bytes.take (bytes.length - ending.length - 1)
  match ending.zipIdx.find? fun (b, _) => 0x80 ≤ b with
  | some (b, position) => .error (.outsideAscii b position)
  | none =>
    let start := plain.map fun b => if b < 0x80 then b.toNat else 0xfffd
    .ok ((Host.Punycode.placeAll 72 0x80 0 true start (latinChars ending)).1.map unitChar)

/-- The text of some bytes, U+FFFD standing for what is not in the encoding. -/
def decode [StandIns] (bytes : List UInt8) : Encoding → Except DecodeFault (List Char)
  | utf7 => .ok (Utf7.decode none bytes)
  | utf8 => .ok (decodeUtf8Lossy bytes)
  | utf8Marked => .ok (decodeUtf8Lossy (if utf8Mark.isPrefixOf bytes then bytes.drop 3 else bytes))
  | bytewise set => .ok (bytes.map fun b => (set.char? b).getD '\uFFFD')
  | eastern set => set.decode bytes
  | utf16 bigEnd => .ok ((piecesOfUtf16 bigEnd bytes).map (·.lossy))
  | utf32 bigEnd => .ok ((piecesOfUtf32 bigEnd bytes).map (·.lossy))
  | utf16Marked => decodeMarked 16 piecesOfUtf16 [0xff, 0xfe] bytes
  | utf32Marked => decodeMarked 32 piecesOfUtf32 [0xff, 0xfe, 0, 0] bytes
  | escapes => .ok (resolveEscapes (latinChars bytes))
  | numberEscapes => .ok (resolveNumbers (latinChars bytes))
  | punycode => decodePunycode bytes
  | hostName => .error .notLenient
  | undefined => .error .undefined
  | letters => .error .notBytes
  | Encoding.bytes => .error .notText

/-- The text of some bytes all of which are in the encoding. Units without a mark have their low bytes
first. -/
def decodeAll? [StandIns] (bytes : List UInt8) (e : Encoding) : Option (List Char) :=
  let e := match e with
    | utf16Marked => if (e.decode bytes).toOption.isNone then utf16 false else e
    | utf32Marked => if (e.decode bytes).toOption.isNone then utf32 false else e
    | e => e
  (e.decode bytes).toOption.filter fun s => !s.contains '\uFFFD'

/-! ### Names -/

/-- An encoding under its name and its other names. -/
structure Named where
  name : String
  aliases : List String
  encoding : Encoding

/-- The encodings that are not given by a table. -/
def special : List Named := [
  ⟨"utf_7", ["u7", "unicode_1_1_utf_7", "utf7"], .utf7⟩,
  ⟨"utf_8", ["cp65001", "u8", "utf", "utf8", "utf8_ucs2", "utf8_ucs4"], .utf8⟩,
  ⟨"utf_8_sig", [], .utf8Marked⟩,
  ⟨"utf_16", ["u16", "utf16"], .utf16Marked⟩,
  ⟨"utf_16_le", ["unicodelittleunmarked", "utf_16le"], .utf16 false⟩,
  ⟨"utf_16_be", ["unicodebigunmarked", "utf_16be"], .utf16 true⟩,
  ⟨"utf_32", ["u32", "utf32"], .utf32Marked⟩,
  ⟨"utf_32_le", ["utf_32le"], .utf32 false⟩,
  ⟨"utf_32_be", ["utf_32be"], .utf32 true⟩,
  ⟨"unicode_escape", [], .escapes⟩,
  ⟨"raw_unicode_escape", [], .numberEscapes⟩,
  ⟨"punycode", [], .punycode⟩,
  ⟨"idna", [], .hostName⟩,
  ⟨"undefined", [], .undefined⟩,
  ⟨"rot_13", ["rot13"], .letters⟩,
  ⟨"base64_codec", ["base64", "base_64"], .bytes⟩,
  ⟨"bz2_codec", ["bz2"], .bytes⟩,
  ⟨"hex_codec", ["hex"], .bytes⟩,
  ⟨"quopri_codec", ["quopri", "quoted_printable", "quotedprintable"], .bytes⟩,
  ⟨"uu_codec", ["uu"], .bytes⟩,
  ⟨"zlib_codec", ["zip", "zlib"], .bytes⟩]

/-- All encodings under their names. -/
def named : List Named :=
  special ++ ((asciiSet :: latinSet :: plainSet :: byteSets).map fun set =>
    ⟨set.name, set.aliases, .bytewise set⟩) ++
  Eastern.charsets.map fun (set, name, aliases) => ⟨name, aliases, .eastern set⟩

/-- Whether a character counts in the name of an encoding. -/
def isNameChar (c : Char) : Bool := c.isAlphanum || c = '.'

/-- The name of an encoding in its usual spelling: small letters, and one low line for every run of
characters that do not count, but none at an end. -/
def usualName : List Char → List Char
  | [] => []
  | c :: s =>
    if isNameChar c then c.toLower :: usualName s
    else if s.head?.any isNameChar then '_' :: usualName s
    else usualName s

/-- The encoding of a name. Names are in ASCII; in the other names dots may stand for low lines. -/
def ofName? (name : List Char) : Option Encoding :=
  let usual := usualName (name.dropWhile (!isNameChar ·))
  let spelling := String.ofList usual
  let undotted := String.ofList (usual.map fun c => if c = '.' then '_' else c)
  if name.all fun c => c.toNat < 0x80 then
    (named.find? fun e =>
      e.aliases.contains spelling || e.aliases.contains undotted || e.name = spelling).map (·.encoding)
  else none

end Encoding

end SchemaAudit.Text
