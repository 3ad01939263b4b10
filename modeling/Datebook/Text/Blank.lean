/-!
# White space

The characters with the Unicode property `White_Space`, and the trimming of a text at both
ends.

## Main definitions

* `Datebook.Text.isBlank`: the property
* `Datebook.Text.trim`: a text without the white space at its ends
* `Datebook.Text.isAllBlank`: a text that holds nothing else
-/

namespace Datebook.Text

/-- The twenty-five characters of the Unicode property `White_Space`. -/
def isBlank (c : Char) : Bool :=
  let n := c.toNat
  (9 ≤ n && n ≤ 13) || n == 0x20 || n == 0x85 || n == 0xA0 || n == 0x1680 ||
    (0x2000 ≤ n && n ≤ 0x200A) || n == 0x2028 || n == 0x2029 || n == 0x202F ||
    n == 0x205F || n == 0x3000

/-- The rest of a text after the white space it begins with. -/
def skipBlanks (cs : List Char) : List Char :=
  cs.dropWhile isBlank

/-- A text without the white space at its ends. -/
def trimChars (cs : List Char) : List Char :=
  (skipBlanks (skipBlanks cs).reverse).reverse

/-- A text without the white space at its ends. -/
def trim (s : String) : String :=
  String.ofList (trimChars s.toList)

/-- A text that is empty or holds white space alone. -/
def isAllBlank (s : String) : Bool :=
  s.toList.all isBlank

end Datebook.Text
