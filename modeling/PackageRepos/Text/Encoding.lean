import PackageRepos.Text.Encoding.Escaped
import PackageRepos.Text.Encoding.Regional
import PackageRepos.Text.Encoding.Single
import PackageRepos.Text.Encoding.Units
import PackageRepos.Text.Utf8

/-!
# Named encodings

The encodings that texts may be written with, and the names by which they are asked for. Case does
not count in a name, and any run of other characters than letters, digits and points counts as one
separator.
-/

namespace PackageRepos

/-- How a text is made of bytes. -/
inductive Encoding where
  | utf8
  /-- As UTF-8, with a mark at the start that is left out. -/
  | utf8Marked
  | ascii
  | latin1
  /-- One byte for every character, by a chart of the characters in the order of their bytes. -/
  | charted (chars : Text)
  /-- One of the encodings with several bytes for most characters of a script, of which only the
  part that agrees with ASCII is known here. -/
  | regional
  /-- Escapes for characters beyond the first ones, and for control characters unless they are left
  as they are. -/
  | escaped (isRaw : Bool)
  /-- Nothing has a code. -/
  | nothing
  /-- Units of two bytes, of the given order, or of the order that a mark at the start tells. -/
  | utf16 (bigEndian : Option Bool)
  /-- Units of four bytes, of the given order, or of the order that a mark at the start tells. -/
  | utf32 (bigEndian : Option Bool)
deriving DecidableEq, Repr

namespace Encoding

/-- Why a name stands for no encoding. -/
inductive Fault where
  | unknown (name : Text)
  /-- The name stands for a code that no text is made of, for which there is something else. -/
  | notText (name : Text) (alternative : String)
deriving DecidableEq, Repr

/-- The wording of a fault. -/
def Fault.message : Fault → Text
  | unknown name => Text.of "unknown encoding: " ++ name
  | notText name alternative =>
    name.quoted ++
      Text.of s!" is not a text encoding; use {alternative} to handle arbitrary codecs"

/-- The names of every encoding, in their plain form. -/
def names : List (Encoding × List String) :=
  [(utf8, ["utf_8", "utf8", "u8", "utf", "utf8_ucs2", "utf8_ucs4", "cp65001"]),
    (utf8Marked, ["utf_8_sig"]),
    (ascii, ["ascii", "646", "ansi_x3.4_1968", "ansi_x3_4_1968", "ansi_x3.4_1986", "cp367",
      "csascii", "ibm367", "iso646_us", "iso_646.irv_1991", "iso_ir_6", "us", "us_ascii"]),
    (latin1, ["latin_1", "latin1", "8859", "cp819", "csisolatin1", "ibm819", "iso8859",
      "iso8859_1", "iso_8859_1", "iso_8859_1_1987", "iso_ir_100", "l1", "latin", "charmap"]),
    (escaped false, ["unicode_escape"]), (escaped true, ["raw_unicode_escape"]),
    (nothing, ["undefined"]), (utf16 none, ["utf_16", "utf16", "u16"]),
    (utf16 (some true), ["utf_16_be", "utf_16be", "unicodebigunmarked"]),
    (utf16 (some false), ["utf_16_le", "utf_16le", "unicodelittleunmarked"]),
    (utf32 none, ["utf_32", "utf32", "u32"]),
    (utf32 (some true), ["utf_32_be", "utf_32be"]),
    (utf32 (some false), ["utf_32_le", "utf_32le"])]

/-- The names of codes that are not made for texts. -/
def otherNames : List String :=
  ["base64_codec", "base64", "base_64", "bz2_codec", "bz2", "hex_codec", "hex", "quopri_codec",
    "quopri", "quoted_printable", "quotedprintable", "rot_13", "rot13", "uu_codec", "uu",
    "zlib_codec", "zip", "zlib"]

/-- The character belongs to a name; others separate. -/
def isNameChar (char : Char) : Bool := char.isAlphanum || char == '.'

/-- The plain form of a name. -/
def plainName (name : Text) : Text :=
  Text.join ['_'] (((name.splitOnP fun char => !isNameChar char).filter
    fun piece => !piece.isEmpty).map fun piece => piece.map Char.toLower)

/-- The characters of ASCII in the order of their bytes. -/
def asciiChars : Text := (List.range 0x80).map Char.ofNat

/-- The encoding of a chart with a plain name. -/
def ofChart? (isPlain : String → Bool) : Option Encoding :=
  let chars := fun (chart : Chart) => chart.chars.flatMap Text.of
  match upperCharts.find? fun chart => chart.names.any isPlain with
  | some chart => some (charted (asciiChars ++ chars chart))
  | none =>
    (wholeCharts.find? fun chart => chart.names.any isPlain).map fun chart => charted (chars chart)

/-- The encoding with a name. -/
def ofName? (name : Text) : Option Encoding :=
  let plain := plainName name
  let isPlain := fun word => Text.of word == plain
  match names.find? fun known => known.2.any isPlain with
  | some known => some known.1
  | none => (ofChart? isPlain).or (if regionalNames.any isPlain then some regional else none)

/-- The name stands for a code that no text is made of. -/
def namesOther (name : Text) : Bool :=
  let plain := plainName name
  otherNames.any fun word => Text.of word == plain

/-- Why a name names no encoding. -/
def unnamed (name : Text) (alternative : String) : Fault :=
  if namesOther name then .notText name alternative else .unknown name

/-- The bytes that are the code of a text, if it has one. Where they begin a file, a mark may come
first. -/
def encode? (encoding : Encoding) (isStart : Bool) (text : Text) : Option (List UInt8) :=
  match encoding with
  | utf8 => some (Utf8.encode text)
  | utf8Marked =>
    some (if isStart then [0xef, 0xbb, 0xbf] ++ Utf8.encode text else Utf8.encode text)
  | ascii => encodeBelow 0x80 text
  | latin1 => encodeBelow 0x100 text
  | charted chars => encodeChart chars text
  | escaped isRaw => some (text.flatMap fun char => encodeEscaped isRaw char)
  | nothing => none
  | regional => encodeBelow 0x80 text
  | utf16 bigEndian => some (encodeUnits 2 bigEndian isStart (text.flatMap units16))
  | utf32 bigEndian => some (encodeUnits 4 bigEndian isStart (text.map Char.toNat))

end Encoding
end PackageRepos
