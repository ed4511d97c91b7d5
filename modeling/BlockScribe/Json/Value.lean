import BlockScribe.Dict
import BlockScribe.Json.Number

/-! # JSON values

A value keeps the order in which an object's members stand in the document. Objects are read
through `members?`, the table of their members: a member written twice keeps its first place and
its last value.
-/

namespace BlockScribe

/-- A JSON value. -/
inductive Json where
  | null
  | bool (value : Bool)
  | number (value : Json.Number)
  | text (value : String)
  | list (items : List Json)
  | object (members : List (String × Json))
deriving Inhabited, Repr

namespace Json

/-- Why a document cannot be read: it breaks the grammar, it ends too early, or it is well formed
but of another type than the one asked for. -/
inductive Fault where
  | malformed
  | truncated
  | mistyped
deriving DecidableEq, Repr

/-- The text, of a text value. -/
def text? : Json → Option String
  | text value => some value
  | _ => none

/-- The truth value, of a truth value. -/
def bool? : Json → Option Bool
  | bool value => some value
  | _ => none

/-- The items, of a list. -/
def list? : Json → Option (List Json)
  | list items => some items
  | _ => none

/-- The members, of an object. -/
def members? : Json → Option (Dict String Json)
  | object members => some (Dict.ofList members)
  | _ => none

/-- The member of an object with a given name. -/
def get? (value : Json) (name : String) : Option Json := value.members?.bind fun d => d.get? name

end Json

end BlockScribe
