import LayeredSettings.Text.Letter.Table

/-!
# Characters and texts

The classes of characters that the readers ask for: blanks, controls, letters and digits of any
script, and other classes given by ranges of code points. After them come the text that is left when
blanks are cut from both ends, and comparisons that ignore case only among `A` to `Z`.
-/

namespace LayeredSettings.Text

/-! ## Classes of characters -/

/-- The code lies in one of the ranges. -/
def inRanges (ranges : List (Nat × Nat)) (code : Nat) : Bool :=
  ranges.any fun (first, last) => first ≤ code && code ≤ last

/-- The character is a letter or a number of any script. -/
def isLetterOrNumber (c : Char) : Bool :=
  if c.toNat < 0x80 then c.isAlphanum else inRanges letterOrNumberRanges c.toNat

/-- The character is white space: 25 code points in all, among them neither the zero-width space nor
the byte-order mark. -/
def isBlank (c : Char) : Bool :=
  let code := c.toNat
  (0x09 ≤ code && code ≤ 0x0d) || code == 0x20 || code == 0x85 || code == 0xa0 ||
    code == 0x1680 || (0x2000 ≤ code && code ≤ 0x200a) || code == 0x2028 || code == 0x2029 ||
    code == 0x202f || code == 0x205f || code == 0x3000

/-- The character is a control: U+0000 to U+001F or U+007F to U+009F. -/
def isControl (c : Char) : Bool :=
  c.toNat < 0x20 || (0x7f ≤ c.toNat && c.toNat < 0xa0)

/-! ## Blanks at the ends -/

/-- The characters without the blanks at either end. -/
def trimBlanks (cs : List Char) : List Char :=
  ((cs.dropWhile isBlank).reverse.dropWhile isBlank).reverse

/-- The text without the blanks at either end. -/
def trim (s : String) : String :=
  String.ofList (trimBlanks s.toList)

/-! ## ASCII letters -/

/-- The text with `A` to `Z` in lower case and every other character as it was. -/
def lowerAscii (s : String) : String :=
  String.ofList (s.toList.map Char.toLower)

/-- The two texts differ at most in the case of the letters `A` to `Z`. -/
def sameIgnoringCase (s t : String) : Bool :=
  s.toList.map Char.toLower == t.toList.map Char.toLower

/-- The second text starts with the first. -/
def startsWith (start s : String) : Bool :=
  start.toList.isPrefixOf s.toList

end LayeredSettings.Text
