namespace MarkupLint

/-!
# Values of configuration files

Configuration files are written in TOML.  Floating-point numbers and dates have
no use in a configuration: they are checked and then only remembered to be there.
-/

namespace Toml

/-- A value in a configuration file; a table has at most one entry for a key. -/
inductive Value where
  | string (text : String)
  | integer (number : Int)
  | float
  | boolean (flag : Bool)
  | moment
  | array (items : List Value)
  | table (entries : List (String × Value))
  deriving Repr

namespace Value

/-- The value of a key in the entries of a table. -/
def lookup? (key : String) (entries : List (String × Value)) : Option Value :=
  (entries.find? (·.1 == key)).map (·.2)

end Value

end Toml

end MarkupLint
