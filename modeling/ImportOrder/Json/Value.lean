/-!
# ImportOrder.Json.Value

JSON values. A number is kept as a decimal, the fields of an object in the order in which they were
written.
-/

namespace ImportOrder

inductive Json where
  | null
  | bool (b : Bool)
  /-- The number `mantissa · 10 ^ exponent`. -/
  | number (mantissa : Int) (exponent : Int)
  | string (s : String)
  | array (items : List Json)
  | object (fields : List (String × Json))
  deriving Repr, BEq, Inhabited

namespace Json

/-- The strings of an array of strings. -/
def strings? : Json → Option (List String)
  | .array items => items.mapM fun
    | .string s => some s
    | _ => none
  | _ => none

def bool? : Json → Option Bool
  | .bool b => some b
  | _ => none

def ofStrings (ss : List String) : Json :=
  .array (ss.map .string)

end Json
end ImportOrder
