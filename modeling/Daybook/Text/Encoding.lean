import Daybook.Text.Utf8

/-!
# The text of a file

A file holds text in UTF-8, perhaps behind a byte-order mark, with line breaks of any of the three
common kinds.

* `unifyBreaks`: a text in which every line break is a single line feed.
* `decodeText`: the text that bytes hold, without the mark.
-/

namespace Daybook.Text

/-- Every line break as a line feed: a carriage return, with or without a line feed behind it, is
one line break. -/
def unifyBreaks : List Char → List Char
  | [] => []
  | '\r' :: '\n' :: rest => '\n' :: unifyBreaks rest
  | c :: rest => (if c = '\r' then '\n' else c) :: unifyBreaks rest

/-- The bytes of the mark that may stand in front of a text. -/
def markBytes : List UInt8 := [0xEF, 0xBB, 0xBF]

/-- The bytes behind the mark, if it is there. -/
def behindMark (bytes : List UInt8) : List UInt8 :=
  if markBytes.isPrefixOf bytes then bytes.drop markBytes.length else bytes

/-- The text that bytes hold behind the mark.  The mark may be cut short where the bytes end, and
then there is no text behind it.  The positions of faults are counted from behind the mark. -/
def decodeText (bytes : ByteArray) : Except DecodeFault String :=
  if bytes.toList.isPrefixOf markBytes then .ok ""
  else (decodeUtf8 (behindMark bytes.toList)).map fun s => String.ofList (unifyBreaks s.toList)

end Daybook.Text
