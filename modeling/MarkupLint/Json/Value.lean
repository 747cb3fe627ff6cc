namespace MarkupLint

/-!
# JSON values

Numbers that are written as integers are kept apart from those written with a
fraction or an exponent, which are only ever passed over.
-/

/-- A JSON value; the members of an object keep their order. -/
inductive Json where
  | null
  | boolean (value : Bool)
  | integer (value : Int)
  | decimal (literal : List Char)
  | string (value : String)
  | array (items : List Json)
  | object (members : List (String × Json))
  deriving Repr

namespace Json

/-- The member of an object with the given name; of several, the last one. -/
def member? (value : Json) (name : String) : Option Json :=
  match value with
  | object members => (members.reverse.find? (·.1 == name)).map (·.2)
  | _ => none

end Json

end MarkupLint
