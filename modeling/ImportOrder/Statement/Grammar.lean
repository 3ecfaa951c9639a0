import ImportOrder.Text.Blank
import ImportOrder.Text.Lines
import ImportOrder.Text.Word

/-!
# ImportOrder.Statement.Grammar

The grammar of import statements, as readers of a text. A reader returns what is left behind the
construct that it reads, or nothing if the text does not start with one.

```text
statement = "import" blank+ ( "type" blank+ bound | bound | literal )
bound     = clause blank+ "from" blank+ literal
clause    = braces | name blank* "," blank* "*" blank+ "as" blank+ name
          | default [ blank* "," blank* braces ] | "*" blank+ "as" blank+ name
literal   = quote character+ quote [ ";" ]
```

No construct can be left early and read on differently, so each reader takes all it can.
-/

namespace ImportOrder
namespace Statement

open Text

/-- Reads a non-empty run of characters with property `p`, as long as it goes. -/
def many1? (p : Char → Bool) : List Char → Option (List Char)
  | [] => none
  | c :: s => if p c then some (s.dropWhile p) else none

def importWord : List Char := ['i', 'm', 'p', 'o', 'r', 't']

def typeWord : List Char := ['t', 'y', 'p', 'e']

def fromWord : List Char := ['f', 'r', 'o', 'm']

def asWord : List Char := ['a', 's']

def blanks1? : List Char → Option (List Char) :=
  many1? isBlank

def isQuote (c : Char) : Bool :=
  c == '\'' || c == '"'

def isNameChar (c : Char) : Bool :=
  isWordChar c || c == '$'

/-- A character of a default binding, where a star may stand too. -/
def isDefaultChar (c : Char) : Bool :=
  isNameChar c || c == '*'

def quote? : List Char → Option (List Char)
  | [] => none
  | c :: s => if isQuote c then some s else none

def dropSemicolon : List Char → List Char
  | ';' :: s => s
  | s => s

/-- Reads a string literal, which does not run over a line, and the semicolon behind it. -/
def literal? (s : List Char) : Option (List Char) := do
  let s ← quote? s
  let s ← many1? (fun c => !isQuote c && c != '\n') s
  let s ← quote? s
  return dropSemicolon s

/-- Reads a block in braces, up to the first closing brace. -/
def braces? (s : List Char) : Option (List Char) := do
  let s ← dropWord? ['\x7b'] s
  dropWord? ['\x7d'] (s.dropWhile (· != '\x7d'))

def comma? (s : List Char) : Option (List Char) := do
  let s ← dropWord? [','] (s.dropWhile isBlank)
  return s.dropWhile isBlank

/-- Reads `* as name`. -/
def namespaceClause? (s : List Char) : Option (List Char) := do
  let s ← dropWord? ['*'] s
  let s ← blanks1? s
  let s ← dropWord? asWord s
  let s ← blanks1? s
  many1? isNameChar s

/-- Reads `name, * as name`. -/
def nameAndNamespaceClause? (s : List Char) : Option (List Char) := do
  let s ← many1? isNameChar s
  let s ← comma? s
  namespaceClause? s

/-- Reads `name` or `name, { … }`. -/
def defaultClause? (s : List Char) : Option (List Char) := do
  let s ← many1? isDefaultChar s
  match comma? s >>= braces? with
  | some rest => return rest
  | none => return s

/-- Reads a `from` with its literal. -/
def source? (s : List Char) : Option (List Char) := do
  let s ← blanks1? s
  let s ← dropWord? fromWord s
  let s ← blanks1? s
  literal? s

/-- Reads a clause with its `from` and literal; the first kind of clause that fits both counts. -/
def bound? (s : List Char) : Option (List Char) :=
  (braces? s >>= source?) <|> (nameAndNamespaceClause? s >>= source?) <|>
    (defaultClause? s >>= source?) <|> (namespaceClause? s >>= source?)

/-- Reads an import statement from its keyword on. -/
def statement? (s : List Char) : Option (List Char) := do
  let s ← dropWord? importWord s
  let s ← blanks1? s
  (dropWord? typeWord s >>= blanks1? >>= bound?) <|> bound? s <|> literal? s

theorem many1?_suffix {p : Char → Bool} {s r : List Char} (h : many1? p s = some r) : r <:+ s := by
  cases s with
  | nil => simp [many1?] at h
  | cons c s =>
    simp only [many1?] at h
    split at h
    · cases h
      exact (List.dropWhile_suffix p).trans (List.suffix_cons c s)
    · cases h

theorem quote?_suffix {s r : List Char} (h : quote? s = some r) : r <:+ s := by
  cases s with
  | nil => simp [quote?] at h
  | cons c s =>
    simp only [quote?] at h
    split at h
    · cases h; exact List.suffix_cons c _
    · cases h

theorem dropSemicolon_suffix (s : List Char) : dropSemicolon s <:+ s := by
  unfold dropSemicolon
  split
  · exact List.suffix_cons _ _
  · exact List.suffix_refl _

theorem literal?_suffix {s r : List Char} (h : literal? s = some r) : r <:+ s := by
  simp only [literal?, Option.bind_eq_bind, Option.bind_eq_some_iff, Option.pure_def,
    Option.some.injEq] at h
  obtain ⟨a, ha, b, hb, c, hc, rfl⟩ := h
  exact (dropSemicolon_suffix c).trans
    ((quote?_suffix hc).trans ((many1?_suffix hb).trans (quote?_suffix ha)))

theorem braces?_suffix {s r : List Char} (h : braces? s = some r) : r <:+ s := by
  simp only [braces?, Option.bind_eq_bind, Option.bind_eq_some_iff] at h
  obtain ⟨a, ha, hr⟩ := h
  exact (dropWord?_suffix hr).trans ((List.dropWhile_suffix _).trans (dropWord?_suffix ha))

theorem comma?_suffix {s r : List Char} (h : comma? s = some r) : r <:+ s := by
  simp only [comma?, Option.bind_eq_bind, Option.bind_eq_some_iff, Option.pure_def,
    Option.some.injEq] at h
  obtain ⟨a, ha, rfl⟩ := h
  exact (List.dropWhile_suffix _).trans ((dropWord?_suffix ha).trans (List.dropWhile_suffix _))

theorem namespaceClause?_suffix {s r : List Char} (h : namespaceClause? s = some r) : r <:+ s := by
  simp only [namespaceClause?, Option.bind_eq_bind, Option.bind_eq_some_iff] at h
  obtain ⟨a, ha, b, hb, c, hc, d, hd, hr⟩ := h
  exact (many1?_suffix hr).trans ((many1?_suffix hd).trans
    ((dropWord?_suffix hc).trans ((many1?_suffix hb).trans (dropWord?_suffix ha))))

theorem nameAndNamespaceClause?_suffix {s r : List Char}
    (h : nameAndNamespaceClause? s = some r) : r <:+ s := by
  simp only [nameAndNamespaceClause?, Option.bind_eq_bind, Option.bind_eq_some_iff] at h
  obtain ⟨a, ha, b, hb, hr⟩ := h
  exact (namespaceClause?_suffix hr).trans ((comma?_suffix hb).trans (many1?_suffix ha))

theorem defaultClause?_suffix {s r : List Char} (h : defaultClause? s = some r) : r <:+ s := by
  simp only [defaultClause?, Option.bind_eq_bind, Option.bind_eq_some_iff] at h
  obtain ⟨a, ha, hr⟩ := h
  split at hr
  · rename_i rest hrest
    simp only [Option.pure_def, Option.some.injEq] at hr
    subst hr
    obtain ⟨b, hb, hc⟩ := Option.bind_eq_some_iff.1 hrest
    exact (braces?_suffix hc).trans ((comma?_suffix hb).trans (many1?_suffix ha))
  · simp only [Option.pure_def, Option.some.injEq] at hr
    subst hr
    exact many1?_suffix ha

theorem source?_suffix {s r : List Char} (h : source? s = some r) : r <:+ s := by
  simp only [source?, Option.bind_eq_bind, Option.bind_eq_some_iff] at h
  obtain ⟨a, ha, b, hb, c, hc, hr⟩ := h
  exact (literal?_suffix hr).trans ((many1?_suffix hc).trans
    ((dropWord?_suffix hb).trans (many1?_suffix ha)))

theorem bound?_suffix {s r : List Char} (h : bound? s = some r) : r <:+ s := by
  simp only [bound?, Option.orElse_eq_orElse, Option.orElse_eq_or, Option.or_eq_some_iff,
    Option.bind_eq_bind, Option.bind_eq_some_iff] at h
  rcases h with ⟨a, ha, hr⟩ | ⟨-, ⟨a, ha, hr⟩ | ⟨-, ⟨a, ha, hr⟩ | ⟨-, a, ha, hr⟩⟩⟩
  · exact (source?_suffix hr).trans (braces?_suffix ha)
  · exact (source?_suffix hr).trans (nameAndNamespaceClause?_suffix ha)
  · exact (source?_suffix hr).trans (defaultClause?_suffix ha)
  · exact (source?_suffix hr).trans (namespaceClause?_suffix ha)

/-- A statement is read off the front of the text and holds at least its keyword. -/
theorem statement?_suffix {s r : List Char} (h : statement? s = some r) :
    r <:+ s ∧ r.length < s.length := by
  simp only [statement?, Option.orElse_eq_orElse, Option.orElse_eq_or, Option.bind_eq_bind,
    Option.bind_eq_some_iff, Option.or_eq_some_iff] at h
  obtain ⟨a, ha, b, hb, hr⟩ := h
  have hba : b <:+ a := many1?_suffix hb
  have hrb : r <:+ b := by
    rcases hr with ⟨d, ⟨c, hc, hd⟩, hr⟩ | ⟨-, hr | ⟨-, hr⟩⟩
    · exact (bound?_suffix hr).trans ((many1?_suffix hd).trans (dropWord?_suffix hc))
    · exact bound?_suffix hr
    · exact literal?_suffix hr
  refine ⟨hrb.trans (hba.trans (dropWord?_suffix ha)), ?_⟩
  have hs := congrArg List.length (dropWord?_eq_some ha)
  have hle := (hrb.trans hba).length_le
  simp only [List.length_append, importWord, List.length_cons] at hs
  omega

end Statement
end ImportOrder
