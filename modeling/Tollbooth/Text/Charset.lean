import Tollbooth.Text.Decoding.BigFive
import Tollbooth.Text.Decoding.Guobiao
import Tollbooth.Text.Decoding.Japanese
import Tollbooth.Text.Decoding.Korean
import Tollbooth.Text.Decoding.Utf16
import Tollbooth.Text.CodePage
import Tollbooth.Text.Lossy
/-!
# Texts in other encodings

The content of a message is text in some encoding.  A byte order mark at its front decides which;
else it is the one that the message names by a label, or UTF-8.  What is wrong in the bytes becomes
U+FFFD.

* `Charset.ofLabel?` knows the labels.
* `Charset.decodeMarked` gives the text of bytes.
-/

set_option autoImplicit false

namespace Tollbooth.Text

/-- An encoding of texts. -/
inductive Charset where
  | utf8
  | utf16 (bigEndian : Bool)
  /-- One byte for each character. -/
  | page (upper : CodePoints)
  /-- One byte for each character, the upper ones for private use. -/
  | userDefined
  | shiftJis
  | eucJp
  | iso2022Jp
  | eucKr
  | big5
  | gb18030
  /-- An encoding that is not read. -/
  | refused
deriving Inhabited

namespace Charset

open Decoding (ascii? replacement)

/-- The character of a byte when the upper bytes are for private use. -/
def ofPrivate (b : UInt8) : Char :=
  (ascii? b).getD (Char.ofNat (0xf780 + (b.toNat - 0x80)))

/-- The characters of bytes in an encoding. -/
def chars : Charset → Bytes → List Char
  | .utf8, s => lossyChars s
  | .utf16 bigEndian, s => Decoding.utf16 bigEndian s
  | .page upper, s => s.map fun b => (CodePage.char? upper b).getD replacement
  | .userDefined, s => s.map ofPrivate
  | .shiftJis, s => Decoding.shiftJis.decode s
  | .eucJp, s => Decoding.eucJp s
  | .iso2022Jp, s => Decoding.iso2022Jp .ascii false s
  | .eucKr, s => Decoding.eucKr.decode s
  | .big5, s => Decoding.big5.decode s
  | .gb18030, s => Decoding.gb18030 s
  | .refused, s => if s.isEmpty then [] else [replacement]

/-- The text of bytes in an encoding. -/
def decode (charset : Charset) (s : Bytes) : String := .ofList (charset.chars s)

/-- The labels of the encodings. -/
def labels : List (Charset × List String) :=
  [(.utf8, ["utf-8", "utf8", "unicode-1-1-utf-8", "unicode11utf8", "unicode20utf8",
      "x-unicode20utf8"]),
   (.utf16 false, ["utf-16le", "utf-16", "ucs-2", "unicode", "csunicode", "iso-10646-ucs-2",
      "unicodefeff"]),
   (.utf16 true, ["utf-16be", "unicodefffe"]),
   (.shiftJis, ["shift_jis", "shift-jis", "sjis", "x-sjis", "csshiftjis", "ms932", "ms_kanji",
      "windows-31j"]),
   (.eucJp, ["euc-jp", "x-euc-jp", "cseucpkdfmtjapanese"]),
   (.iso2022Jp, ["iso-2022-jp", "csiso2022jp"]),
   (.eucKr, ["euc-kr", "cseuckr", "csksc56011987", "iso-ir-149", "korean", "ks_c_5601-1987",
      "ks_c_5601-1989", "ksc5601", "ksc_5601", "windows-949"]),
   (.big5, ["big5", "big5-hkscs", "cn-big5", "csbig5", "x-x-big5"]),
   (.gb18030, ["gb18030", "gbk", "x-gbk", "gb2312", "gb_2312", "gb_2312-80", "csgb2312", "chinese",
      "csiso58gb231280", "iso-ir-58"]),
   (.userDefined, ["x-user-defined"]),
   (.refused, ["replacement", "csiso2022kr", "hz-gb-2312", "iso-2022-cn", "iso-2022-cn-ext",
      "iso-2022-kr"])] ++
    CodePage.all.map fun (upper, labels) => (.page upper, labels)

/-- A blank that may stand around a label. -/
def isLabelBlank (c : Char) : Bool := ['\t', '\n', '\x0c', '\r', ' '].contains c

/-- The label without blanks around it. -/
def trimLabel (cs : List Char) : List Char :=
  ((cs.dropWhile isLabelBlank).reverse.dropWhile isLabelBlank).reverse

/-- The encoding of a label. -/
def ofLabel? (label : String) : Option Charset :=
  let label := String.ofList ((trimLabel label.toList).map Char.toLower)
  (labels.find? fun l => l.2.contains label).map (·.1)

/-- The encoding that a byte order mark shows, and the bytes behind the mark. -/
def ofMark? : Bytes → Option (Charset × Bytes)
  | 0xef :: 0xbb :: 0xbf :: rest => some (.utf8, rest)
  | 0xff :: 0xfe :: rest => some (.utf16 false, rest)
  | 0xfe :: 0xff :: rest => some (.utf16 true, rest)
  | _ => none

/-- The text of bytes whose encoding is only what they are said to be in. -/
def decodeMarked (named : Charset) (s : Bytes) : String :=
  match ofMark? s with
  | some (charset, rest) => charset.decode rest
  | none => named.decode s

end Charset

end Tollbooth.Text
