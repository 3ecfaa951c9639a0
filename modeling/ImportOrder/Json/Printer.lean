import ImportOrder.Json.Value
import ImportOrder.Sorting.Insertion

/-!
# ImportOrder.Json.Printer

JSON text: one field or item a line, two blanks for each level, fields in the order of their names,
an empty array or object closed at once.
-/

namespace ImportOrder
namespace Json

def hexDigit (n : Nat) : Char :=
  (Nat.toDigits 16 n).getLastD '0'

/-- A character inside a string. -/
def escapeChar (c : Char) : List Char :=
  match c with
  | '"' => ['\\', '"']
  | '\\' => ['\\', '\\']
  | '\x08' => ['\\', 'b']
  | '\x0c' => ['\\', 'f']
  | '\n' => ['\\', 'n']
  | '\r' => ['\\', 'r']
  | '\t' => ['\\', 't']
  | c =>
    if c.toNat < 0x20 then
      ['\\', 'u', '0', '0', hexDigit (c.toNat / 16), hexDigit (c.toNat % 16)]
    else [c]

def quoted (s : String) : String :=
  String.ofList ('"' :: s.toList.flatMap escapeChar ++ ['"'])

def numberText (mantissa exponent : Int) : String :=
  if exponent = 0 then toString mantissa else toString mantissa ++ "e" ++ toString exponent

def indentText (level : Nat) : String :=
  String.ofList (List.replicate (2 * level) ' ')

/-- The lines of an array or object between its brackets. -/
def bracketed (opening closing : String) (level : Nat) (parts : List String) : String :=
  match parts with
  | [] => opening ++ closing
  | parts =>
    opening ++ "\n" ++
      ",\n".intercalate (parts.map (indentText (level + 1) ++ ·)) ++
      "\n" ++ indentText level ++ closing

/-- The fields in the order of their names. -/
def sortFields (fields : List (String × String)) : List (String × String) :=
  Sorting.sortBy (fun a b => compare a.1 b.1) fields

mutual

def prettyAt (level : Nat) : Json → String
  | .null => "null"
  | .bool b => if b then "true" else "false"
  | .number m e => numberText m e
  | .string s => quoted s
  | .array items => bracketed "[" "]" level (prettyItems (level + 1) items)
  | .object fields =>
    bracketed "\x7b" "\x7d" level
      ((sortFields (prettyFields (level + 1) fields)).map fun (name, text) =>
        quoted name ++ ": " ++ text)

def prettyItems (level : Nat) : List Json → List String
  | [] => []
  | item :: items => prettyAt level item :: prettyItems level items

def prettyFields (level : Nat) : List (String × Json) → List (String × String)
  | [] => []
  | (name, value) :: fields => (name, prettyAt level value) :: prettyFields level fields

end

def pretty (j : Json) : String :=
  prettyAt 0 j

end Json
end ImportOrder
