import Datebook.Text.Percent

/-!
# Paths in URLs

A path is a sequence of segments. The segment `.` stands for nothing and the segment `..`
takes away the one before it, where each full stop may be percent-encoded. A segment that
names a drive, as in `C:`, is not taken away.

## Main definitions

* `Datebook.Url.normalPath`
-/

namespace Datebook.Url

/-- A text with its percent-encoded full stops decoded. -/
def decodeDots : List Char → List Char
  | '%' :: '2' :: c :: cs =>
    if c = 'e' ∨ c = 'E' then '.' :: decodeDots cs else '%' :: '2' :: decodeDots (c :: cs)
  | c :: cs => c :: decodeDots cs
  | [] => []

/-- The text begins with the name of a drive, which ends there or at a slash. -/
def beginsWithDrive : List Char → Bool
  | [c, mark] => c.isAlpha && (mark == ':' || mark == '|')
  | c :: mark :: next :: _ =>
    c.isAlpha && (mark == ':' || mark == '|') && (next == '/' || next == '\\')
  | _ => false

/-- What follows the last slash of a text, which may have none. -/
def lastSegment (path : List Char) : List Char :=
  (path.reverse.takeWhile (· != '/')).reverse

/-- A path without the slash at its end, unless that is its only slash or follows a drive. -/
def withoutEndSlash (path : List Char) : List Char :=
  let before := path.dropLast
  if path.getLast? = some '/' ∧ before.contains '/' ∧
      !beginsWithDrive (lastSegment before ++ ['/'])
    then before
  else path

/-- A path without its last segment; `file` says whether that may be a drive. -/
def withoutLastSegment (file : Bool) (path : List Char) : List Char :=
  let segment := lastSegment path
  if file && beginsWithDrive segment then path else path.take (path.length - segment.length)

/-- A path with a segment added to it, and perhaps a slash. -/
def addSegment (file : Bool) (path segment : List Char) (slash : Bool) : List Char :=
  let ended := fun path : List Char => if path.getLast? = some '/' then path else path ++ ['/']
  if decodeDots segment = ['.', '.'] then
    let path := withoutLastSegment file (withoutEndSlash path)
    if slash then ended path else path
  else if decodeDots segment = ['.'] then ended path
  else if slash then path ++ segment ++ ['/']
  else path ++ segment

/-- A path with segments added to it, and slashes between them. -/
def addSegments (file : Bool) : List Char → List (List Char) → List Char
  | path, [] => path
  | path, [segment] => addSegment file path segment false
  | path, segment :: segments => addSegments file (addSegment file path segment true) segments

/-- The path that a text after a slash stands for. -/
def normalPath (file : Bool) (cs : List Char) : List Char :=
  addSegments file ['/'] (Text.splitAll '/' cs)

end Datebook.Url
