import Datebook.Instant.Printer
import Datebook.Json.Text

/-!
# Writing JSON

Objects and arrays are written without white space, from the written forms of what they
hold and in the order given.

## Main definitions

* `Datebook.Json.number`, `Datebook.Json.text`, `Datebook.Json.instant`: single values
* `Datebook.Json.array`, `Datebook.Json.object`
-/

namespace Datebook.Json

/-- The written form of a number. -/
def number (n : Int) : List Char :=
  Numeral.signed n

/-- The written form of a text. -/
def text (s : String) : List Char :=
  quoteChars s.toList

/-- The written form of an instant. -/
def instant (i : Instant) : List Char :=
  quoteChars i.toChars

/-- Parts with a comma between them. -/
def commaSeparated : List (List Char) → List Char
  | [] => []
  | [part] => part
  | part :: parts => part ++ ',' :: commaSeparated parts

/-- An array of values in their written form. -/
def array (values : List (List Char)) : List Char :=
  '[' :: commaSeparated values ++ [']']

/-- A member of an object. -/
def member (name : String) (value : List Char) : List Char :=
  text name ++ ':' :: value

/-- An object of members whose values are in their written form. -/
def object (members : List (String × List Char)) : List Char :=
  '\x7b' :: commaSeparated (members.map fun m => member m.1 m.2) ++ ['\x7d']

end Datebook.Json
