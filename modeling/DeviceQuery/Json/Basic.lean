/-!
# JSON values

A JSON text as a value. A string may spell half of a surrogate pair by its escapes; such a string
holds no text, but it is a string all the same.
-/

namespace DeviceQuery

/-- A JSON value. A string without a text is `none`; members keep their order and repetitions. -/
inductive Json where
  | null
  | bool (b : Bool)
  | number (digits : String)
  | string (text : Option String)
  | array (items : List Json)
  | object (members : List (Option String × Json))

namespace Json

/-- The texts of an array that holds strings only. -/
def strings? : Json → Option (List String)
  | array items => items.mapM fun
    | string (some text) => some text
    | _ => none
  | _ => none

/-- The members of an object whose values are strings only. -/
def entries? : Json → Option (List (String × String))
  | object members => members.mapM fun
    | (some key, string (some text)) => some (key, text)
    | _ => none
  | _ => none

end Json

end DeviceQuery
