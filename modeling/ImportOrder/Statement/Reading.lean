import ImportOrder.Statement.Grammar

/-!
# ImportOrder.Statement.Reading

What a statement's text says: the path of the module it imports from, whether it imports types
only, and whether it binds anything.
-/

namespace ImportOrder
namespace Statement

open Text

/-- Reads a non-empty quoted value, which may run over lines, and returns it with the rest. -/
def quoted? (s : List Char) : Option (List Char × List Char) := do
  let s ← quote? s
  let value := s.takeWhile (!isQuote ·)
  if value.isEmpty then none
  else
    let rest ← quote? (s.dropWhile (!isQuote ·))
    return (value, rest)

/-- The quoted value behind a keyword and blanks. -/
def quotedBehind? (keyword : List Char) (s : List Char) : Option (List Char) := do
  let s ← dropWord? keyword s
  let s ← blanks1? s
  let (value, _) ← quoted? s
  return value

/-- The module path: the first quoted value behind a `from` or an `import`, empty if there is
none. -/
def path : List Char → List Char
  | [] => []
  | c :: s =>
    match quotedBehind? fromWord (c :: s) <|> quotedBehind? importWord (c :: s) with
    | some value => value
    | none => path s

/-- Reads the given small letters in either case. -/
def wordIgnoringCase? : List Char → List Char → Option (List Char)
  | [], s => some s
  | _ :: _, [] => none
  | w :: ws, c :: s => if w = c.toLower then wordIgnoringCase? ws s else none

/-- Reads `import` and the blanks around it. -/
def keyword? (s : List Char) : Option (List Char) := do
  let s ← wordIgnoringCase? importWord (s.dropWhile isBlank)
  blanks1? s

/-- Reads `import type` and the blanks behind it. -/
def typeKeyword? (s : List Char) : Option (List Char) := do
  let s ← keyword? s
  let s ← wordIgnoringCase? typeWord s
  blanks1? s

/-- Whether a text goes on with `from` and a blank. -/
def startsWithFrom (s : List Char) : Bool :=
  (wordIgnoringCase? fromWord s >>= blanks1?).isSome

/-- Whether the statement is `import type …`. In `import type from …` the name `type` is a default
binding. -/
def importsTypes (s : List Char) : Bool :=
  match typeKeyword? s with
  | some rest => !startsWithFrom rest
  | none => false

/-- Whether the statement is `import '…'`, which binds nothing. -/
def bindsNothing (s : List Char) : Bool :=
  match keyword? s >>= quoted? with
  | some (_, rest) => allBlank (dropSemicolon rest)
  | none => false

end Statement
end ImportOrder
