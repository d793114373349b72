/-!
# Trimming and splitting

* `isBlank`: the characters that trimming removes and that separate words.
* `trimStart`, `trimEnd`, `trim`: a text without the blanks at its ends.
* `leadingBlanks`: how many characters `trimStart` removes.
* `splitAt`: the pieces of a text between separators.
-/

namespace Daybook.Text

/-- Whether a character is blank: the white space of every script and the four information
separators. -/
def isBlank (c : Char) : Bool :=
  let n := c.toNat
  if n < 128 then (9 ≤ n && n ≤ 13) || (28 ≤ n && n ≤ 32)
  else
    n == 0x85 || n == 0xA0 || n == 0x1680 || (0x2000 ≤ n && n ≤ 0x200A) || n == 0x2028 ||
      n == 0x2029 || n == 0x202F || n == 0x205F || n == 0x3000

/-- The list without the characters at its end that satisfy `p`. -/
def dropEndWhile (p : Char → Bool) (cs : List Char) : List Char :=
  (cs.reverse.dropWhile p).reverse

/-- Dropping characters in front makes no text longer. -/
theorem length_dropWhile_le (p : Char → Bool) (cs : List Char) :
    (cs.dropWhile p).length ≤ cs.length :=
  (List.dropWhile_suffix p).length_le

/-- The characters without blanks in front. -/
def trimStart (cs : List Char) : List Char :=
  cs.dropWhile isBlank

/-- The characters without blanks behind. -/
def trimEnd (cs : List Char) : List Char :=
  dropEndWhile isBlank cs

/-- The characters without blanks at both ends. -/
def trimChars (cs : List Char) : List Char :=
  trimEnd (trimStart cs)

/-- A text without blanks at both ends. -/
def trim (s : String) : String :=
  String.ofList (trimChars s.toList)

/-- The number of blanks in front. -/
def leadingBlanks (cs : List Char) : Nat :=
  (cs.takeWhile isBlank).length

/-- The pieces of a text between the occurrences of a separator; there is always at least one. -/
def splitAt (separator : Char) (cs : List Char) : List (List Char) :=
  cs.foldr (fun c pieces =>
    if c = separator then [] :: pieces else (c :: pieces.headD []) :: pieces.tail) [[]]

end Daybook.Text
