import Datebook.Text.ExtendingMark
import Datebook.Text.Percent
import Datebook.Text.Unseen
import Datebook.Url.Punycode

/-!
# Domain names

A domain name is brought into one form before it is used: capital letters become small,
full-width characters become narrow, ideographic full stops become full stops, and
characters that only change how others are drawn are left out. The name then consists of
labels with full stops between them; labels may be empty. A label that begins with `xn--`
stands for letters beyond ASCII, and has to hold some.

## Main definitions

* `Datebook.Url.domainName?`
-/

namespace Datebook.Url

/-- A character that is left out of a domain name. -/
def isLeftOut (c : Char) : Bool :=
  [(0xAD, 0xAD), (0x34F, 0x34F), (0x180B, 0x180D), (0x180F, 0x180F), (0x200B, 0x200B),
    (0x2060, 0x2060), (0x2064, 0x2064), (0xFE00, 0xFE0F), (0xFEFF, 0xFEFF), (0x1BCA0, 0x1BCA3),
    (0xE0100, 0xE01EF)].any
    fun range => range.1 ≤ c.toNat && c.toNat ≤ range.2

/-- A character as it stands in the form of a name. -/
def domainChar (c : Char) : List Char :=
  if isLeftOut c then []
  else if c = '\u3002' ∨ c = '\uff61' then ['.']
  else if '\uff01' ≤ c ∧ c ≤ '\uff5e' then [(Char.ofNat (c.toNat - 0xFEE0)).toLower]
  else [c.toLower]

/-- The ranges of seen characters beyond ASCII that stand for texts with a space or a mark of
URLs in them, or that only describe other characters. -/
def composed : List (Nat × Nat) :=
  [(0xA8, 0xA8), (0xAF, 0xAF), (0xB4, 0xB4), (0xB8, 0xB8), (0x2D8, 0x2DD), (0x37A, 0x37A),
   (0x384, 0x385), (0x1FBD, 0x1FBD), (0x1FBF, 0x1FC1), (0x1FCD, 0x1FCF), (0x1FDD, 0x1FDF),
   (0x1FED, 0x1FEE), (0x1FFD, 0x1FFE), (0x2017, 0x2017), (0x2024, 0x2026), (0x203E, 0x203E),
   (0x2047, 0x2049), (0x2100, 0x2101), (0x2105, 0x2106), (0x2488, 0x249B), (0x2A74, 0x2A74),
   (0x2FF0, 0x2FFF), (0x309B, 0x309C), (0x31EF, 0x31EF), (0x33C2, 0x33C2), (0x33C7, 0x33C7),
   (0x33D8, 0x33D8), (0xFC5E, 0xFC63), (0xFDFA, 0xFDFB), (0xFE13, 0xFE13), (0xFE16, 0xFE16),
   (0xFE19, 0xFE19), (0xFE30, 0xFE30), (0xFE47, 0xFE4C), (0xFE52, 0xFE52), (0xFE55, 0xFE56),
   (0xFE5F, 0xFE5F), (0xFE64, 0xFE65), (0xFE68, 0xFE68), (0xFE6A, 0xFE6B), (0xFE70, 0xFE70),
   (0xFE72, 0xFE72), (0xFE74, 0xFE74), (0xFE76, 0xFE76), (0xFE78, 0xFE78), (0xFE7A, 0xFE7A),
   (0xFE7C, 0xFE7C), (0xFE7E, 0xFE7E), (0xFFE3, 0xFFE3), (0xFFFC, 0xFFFD), (0x1F100, 0x1F100)]

/-- A character that may stand in the form of a name. -/
def isDomainChar (c : Char) : Bool :=
  if c.toNat < 128 then 0x20 < c.toNat && c.toNat != 0x7F && !"%#/:<>?@[\\]^|".toList.contains c
  else !Text.isUnseen c && composed.all fun range => c.toNat < range.1 || range.2 < c.toNat

/-- No mark stands first, where it has no character to be drawn onto. -/
def beginsWell (label : List Char) : Bool :=
  !label.head?.any Text.isExtendingMark

/-- The label that a text after `xn--` stands for is one that had to be written so. -/
def isEncodedLabel (encoded : List Char) : Bool :=
  (Punycode.decode? encoded).any fun label =>
    label.any (128 ≤ ·.toNat) && beginsWell label &&
      label.all fun c => isDomainChar c && domainChar c == [c]

/-- A label of a name. -/
def isLabel : List Char → Bool
  | 'x' :: 'n' :: '-' :: '-' :: encoded => isEncodedLabel encoded
  | label => beginsWell label

/-- The form of the domain name that a percent-encoded text stands for. -/
def domainName? (host : List Char) : Option (List Char) :=
  let decoded := Text.lenientUtf8 (Text.percentDecode (Json.bytesOf (String.ofList host)))
  let name := decoded.toList.flatMap domainChar
  if name.all isDomainChar && (Text.splitAll '.' name).all isLabel then some name else none

end Datebook.Url
