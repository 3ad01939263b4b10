import Datebook.Text.Blank
import Datebook.Text.Numeral

/-!
# Environment variables

Settings are read from environment variables. A variable whose value is no text counts as
not set.

## Main definitions

* `Datebook.Environment`, `Datebook.Environment.get?`
* `Datebook.Environment.nonBlank?`: a variable that is set to more than white space
* `Datebook.keyword`: a value that is compared with names
-/

namespace Datebook

/-- The variables that are set, with their values. -/
abbrev Environment := List (String × String)

namespace Environment

/-- The value of a variable. -/
def get? (env : Environment) (name : String) : Option String :=
  env.lookup name

/-- The value of a variable, unless it is all white space. -/
def nonBlank? (env : Environment) (name : String) : Option String :=
  (env.get? name).filter fun value => !Text.isAllBlank value

end Environment

/-- A value without the white space around it, in lower case as far as ASCII goes. -/
def keyword (value : String) : String :=
  String.ofList ((Text.trimChars value.toList).map Char.toLower)

end Datebook
