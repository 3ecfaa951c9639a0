import ImportOrder.Json.Magnitude
import ImportOrder.Json.Value
import ImportOrder.Text.Offset
import ImportOrder.Text.Ranges

/-!
# ImportOrder.Json.Reader

A strict reader of JSON: no comments, no trailing commas, no raw control characters in strings, no
halves of surrogate pairs, and no numbers beyond the doubles.

The readers take the text from the current place on and return what is left of it. They tell a text
that ends too early from one that is wrong.
-/

namespace ImportOrder
namespace Json

open Text

inductive ReadFault where
  /-- The text cannot be continued to JSON. -/
  | malformed
  /-- The text ends inside a value. -/
  | ended
  deriving Repr, DecidableEq

/-- Arrays and objects may be nested less deep than this. -/
def depthLimit : Nat := 128

def isSpace (c : Char) : Bool :=
  c == ' ' || c == '\t' || c == '\n' || c == '\r'

def skipSpace (s : List Char) : List Char :=
  s.dropWhile isSpace

def readWord : List Char → List Char → Except ReadFault (Unit × List Char)
  | [], s => .ok ((), s)
  | _ :: _, [] => .error .ended
  | w :: ws, c :: s => if w = c then readWord ws s else .error .malformed

/-! ### Numbers -/

/-- Reads one or more digits. -/
def readDigits (s : List Char) : Except ReadFault (List Char × List Char) :=
  match s with
  | [] => .error .ended
  | c :: rest =>
    if isDigit c then .ok (c :: rest.takeWhile isDigit, rest.dropWhile isDigit)
    else .error .malformed

/-- Reads the digits before the point. A zero stands alone. -/
def readInteger (s : List Char) : Except ReadFault (List Char × List Char) :=
  match s with
  | '0' :: c :: rest => if isDigit c then .error .malformed else .ok (['0'], c :: rest)
  | s => readDigits s

/-- Reads the point and the digits behind it, if there is one. -/
def readFraction (s : List Char) : Except ReadFault (List Char × List Char) :=
  match s with
  | '.' :: s => readDigits s
  | s => .ok ([], s)

def readExponent (s : List Char) : Except ReadFault (Int × List Char) :=
  match s with
  | c :: s =>
    if c = 'e' || c = 'E' then
      let (negative, s) := match s with
        | '+' :: s => (false, s)
        | '-' :: s => (true, s)
        | s => (false, s)
      match readDigits s with
      | .ok (digits, rest) =>
        let n : Int := decimalValue digits
        .ok (if negative then -n else n, rest)
      | .error e => .error e
    else .ok (0, c :: s)
  | [] => .ok (0, [])

def readNumber (s : List Char) : Except ReadFault (Json × List Char) := do
  let (negative, s) := match s with
    | '-' :: s => (true, s)
    | s => (false, s)
  let (whole, s) ← readInteger s
  let (fraction, s) ← readFraction s
  let (exponent, s) ← readExponent s
  let digits := List.map fun c : Char => c.toNat - 48
  if (Decimal.ofDigits (digits whole) (digits fraction)).isTooLarge exponent then .error .malformed
  else
    let m : Int := decimalValue (whole ++ fraction)
    return (.number (if negative then -m else m) (exponent - fraction.length), s)

/-! ### Strings -/

/-- Reads four hexadecimal digits. -/
def readUnit (s : List Char) : Except ReadFault (Nat × List Char) :=
  let head := s.take 4
  if size head < 4 then .error .ended
  else if head.length < 4 then .error .malformed
  else
    match hexValue? head with
    | some unit => .ok (unit, s.drop 4)
    | none => .error .malformed

/-- Reads the code unit, or pair of units, behind `\u`. -/
def readCodePoint (s : List Char) : Except ReadFault (Char × List Char) := do
  let (high, s) ← readUnit s
  if 0xDC00 ≤ high && high ≤ 0xDFFF then .error .malformed
  else if 0xD800 ≤ high && high ≤ 0xDBFF then
    let ((), s) ← readWord ['\\', 'u'] s
    let (low, s) ← readUnit s
    if 0xDC00 ≤ low && low ≤ 0xDFFF then
      return (Char.ofNat (0x10000 + (high - 0xD800) * 0x400 + (low - 0xDC00)), s)
    else .error .malformed
  else return (Char.ofNat high, s)

def readEscape (s : List Char) : Except ReadFault (Char × List Char) :=
  match s with
  | [] => .error .ended
  | '"' :: s => .ok ('"', s)
  | '\\' :: s => .ok ('\\', s)
  | '/' :: s => .ok ('/', s)
  | 'b' :: s => .ok ('\x08', s)
  | 'f' :: s => .ok ('\x0c', s)
  | 'n' :: s => .ok ('\n', s)
  | 'r' :: s => .ok ('\r', s)
  | 't' :: s => .ok ('\t', s)
  | 'u' :: s => readCodePoint s
  | _ => .error .malformed

/-- Reads the characters of a string and its closing quote. Each step reads a character at least. -/
def readChars : Nat → List Char → Except ReadFault (List Char × List Char)
  | 0, _ => .error .ended
  | _ + 1, [] => .error .ended
  | fuel + 1, c :: s =>
    if c = '"' then .ok ([], s)
    else if c = '\\' then do
      let (d, s) ← readEscape s
      let (cs, s) ← readChars fuel s
      return (d :: cs, s)
    else if c.toNat < 0x20 then .error .malformed
    else do
      let (cs, s) ← readChars fuel s
      return (c :: cs, s)

/-- Reads a string from behind its opening quote on. -/
def readString (s : List Char) : Except ReadFault (String × List Char) := do
  let (cs, rest) ← readChars (s.length + 1) s
  return (String.ofList cs, rest)

/-! ### Values -/

/-- Reads a value that is neither an array nor an object. -/
def readScalar (s : List Char) : Except ReadFault (Json × List Char) :=
  match s with
  | [] => .error .ended
  | 'n' :: s => do
    let ((), s) ← readWord ['u', 'l', 'l'] s
    return (.null, s)
  | 't' :: s => do
    let ((), s) ← readWord ['r', 'u', 'e'] s
    return (.bool true, s)
  | 'f' :: s => do
    let ((), s) ← readWord ['a', 'l', 's', 'e'] s
    return (.bool false, s)
  | '"' :: s => do
    let (text, s) ← readString s
    return (.string text, s)
  | c :: s => if c = '-' || isDigit c then readNumber (c :: s) else .error .malformed

/-- Finds the next item of an array: the text from the item on, or, at the closing bracket, the text
behind it. -/
def nextItem (isFirst : Bool) (s : List Char) : Except ReadFault (List Char ⊕ List Char) :=
  match skipSpace s with
  | [] => .error .ended
  | ']' :: s => .ok (.inr s)
  | c :: s =>
    if isFirst then .ok (.inl (c :: s))
    else if c = ',' then
      match skipSpace s with
      | [] => .error .ended
      | ']' :: _ => .error .malformed
      | s => .ok (.inl s)
    else .error .malformed

/-- Finds the next key of an object and reads it with its colon; at the closing brace, gives the
text behind it. The check `accept` looks at the key before the colon is read. -/
def nextKey {ε : Type} (lift : ReadFault → ε) (accept : String → Except ε Unit) (isFirst : Bool)
    (s : List Char) : Except ε ((String × List Char) ⊕ List Char) :=
  match skipSpace s with
  | [] => .error (lift .ended)
  | '\x7d' :: s => .ok (.inr s)
  | c :: s =>
    if isFirst then key (c :: s)
    else if c = ',' then key (skipSpace s)
    else .error (lift .malformed)
where
  key (s : List Char) : Except ε ((String × List Char) ⊕ List Char) :=
    match s with
    | [] => .error (lift .ended)
    | '"' :: s =>
      match readString s with
      | .error e => .error (lift e)
      | .ok (name, s) =>
        match accept name with
        | .error e => .error e
        | .ok () =>
          match skipSpace s with
          | [] => .error (lift .ended)
          | ':' :: s => .ok (.inl (name, s))
          | _ => .error (lift .malformed)
    | _ => .error (lift .malformed)

mutual

/-- Reads a value, spaces before it included. `depth` levels of nesting are left. Each call that is
not the last reads a character or enters an array or object. -/
def readValue : Nat → Nat → List Char → Except ReadFault (Json × List Char)
  | 0, _, _ => .error .ended
  | fuel + 1, depth, s =>
    match skipSpace s with
    | '[' :: s =>
      if depth ≤ 1 then .error .malformed
      else do
        let (items, s) ← readItems fuel (depth - 1) true s
        return (.array items, s)
    | '\x7b' :: s =>
      if depth ≤ 1 then .error .malformed
      else do
        let (fields, s) ← readFields fuel (depth - 1) true s
        return (.object fields, s)
    | s => readScalar s

def readItems : Nat → Nat → Bool → List Char → Except ReadFault (List Json × List Char)
  | 0, _, _, _ => .error .ended
  | fuel + 1, depth, isFirst, s => do
    match ← nextItem isFirst s with
    | .inr rest => return ([], rest)
    | .inl s =>
      let (item, s) ← readValue fuel depth s
      let (items, s) ← readItems fuel depth false s
      return (item :: items, s)

def readFields : Nat → Nat → Bool → List Char → Except ReadFault (List (String × Json) × List Char)
  | 0, _, _, _ => .error .ended
  | fuel + 1, depth, isFirst, s => do
    match ← nextKey id (fun _ => .ok ()) isFirst s with
    | .inr rest => return ([], rest)
    | .inl (name, s) =>
      let (value, s) ← readValue fuel depth s
      let (fields, s) ← readFields fuel depth false s
      return ((name, value) :: fields, s)

end

/-- A bound on the calls that reading a text takes. -/
def fuelFor (s : List Char) : Nat :=
  2 * s.length + 2

end Json
end ImportOrder
