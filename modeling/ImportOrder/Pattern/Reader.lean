import ImportOrder.Pattern.Automaton.Size
import ImportOrder.Pattern.Property.Named
import ImportOrder.Pattern.Regex

/-!
# ImportOrder.Pattern.Reader

Reading a regular expression from its text.

The dialect has literals, `.`, classes in brackets with ranges, nesting and set operations, classes
by a Unicode property, groups with and without a name, alternatives, repetitions with lazy forms,
anchors and word boundaries, flags, and escapes. It has neither references back nor conditions on
what surrounds a match. A text outside the dialect is no expression: the reader gives nothing.

Without the flag `u` classes hold ASCII characters only, so one that would hold more is refused.
With the flag `x` blanks and comments between the characters of an expression mean nothing.

A group, class, repetition, sequence or choice of more than `maxDepth` levels is refused too, so
each part is read together with its depth. So is an expression whose automata are too large.
-/

namespace ImportOrder
namespace Pattern

open Text

def maxDepth : Nat := 250

/-- The greatest number that a repetition may name. -/
def maxCount : Nat := Nat.pow 2 32 - 1

structure Flags where
  ignoreCase : Bool := false
  multiLine : Bool := false
  dotMatchesNewline : Bool := false
  swapGreed : Bool := false
  unicode : Bool := true
  /-- Lines may end in a carriage return and a line feed. -/
  crlf : Bool := false
  /-- Blanks and comments mean nothing. -/
  verbose : Bool := false
  deriving Repr, DecidableEq

def Flags.lineEnd (flags : Flags) : LineEnd :=
  if flags.crlf then .crlf else .lf

/-! ### Blanks and comments -/

/-- Drops blanks and comments. A comment goes from a number sign to the end of its line. -/
def dropComments (inComment : Bool) : List Char → List Char
  | [] => []
  | c :: s =>
    if inComment then dropComments (c != '\n') s
    else if isBlank c then dropComments false s
    else if c = '#' then dropComments true s
    else c :: s

/-- Drops the blanks and comments that mean nothing under the flags. -/
def skip (flags : Flags) (s : List Char) : List Char :=
  if flags.verbose then dropComments false s else s

theorem length_dropComments_le (b : Bool) (s : List Char) :
    (dropComments b s).length ≤ s.length := by
  induction s generalizing b with
  | nil => simp [dropComments]
  | cons c s ih =>
    have hf := ih false
    have ht := ih true
    have hn := ih (c != '\n')
    rw [dropComments]
    split
    · simp only [List.length_cons]; omega
    · split
      · simp only [List.length_cons]; omega
      · split
        · simp only [List.length_cons]; omega
        · simp

theorem length_skip_le (flags : Flags) (s : List Char) : (skip flags s).length ≤ s.length := by
  rw [skip]
  split
  · exact length_dropComments_le false s
  · exact Nat.le_refl _

/-- The characters up to one that is not of a kind, and what is left from there. -/
def readWhile (flags : Flags) (p : Char → Bool) (s : List Char) : List Char × List Char :=
  match s with
  | [] => ([], [])
  | c :: s =>
    if p c then
      let (cs, rest) := readWhile flags p (skip flags s)
      (c :: cs, rest)
    else ([], c :: s)
termination_by s.length
decreasing_by
  have := length_skip_le flags s
  simp only [List.length_cons]
  omega

/-- The characters up to a closing brace, and what is left behind it. -/
def readBraced? (flags : Flags) (s : List Char) : Option (List Char × List Char) :=
  match readWhile flags (· != '\x7d') (skip flags s) with
  | (inner, _ :: rest) => some (inner, rest)
  | (_, []) => none

/-- The character that follows a hyphen in a class. Where blanks mean nothing, it is sought behind
them and at most one number sign; if there is none, the one right behind the hyphen counts. -/
def characterAhead (flags : Flags) (s : List Char) : Option Char :=
  if flags.verbose then
    let ahead := s.dropWhile isBlank
    let ahead := match ahead with
      | '#' :: rest => rest.dropWhile isBlank
      | ahead => ahead
    ahead.head?.or s.head?
  else s.head?

/-! ### Escapes -/

/-- What a backslash and the characters behind it stand for. -/
inductive Escape where
  | char (c : Char)
  | set (s : CharSet)
  | look (l : Look)
  deriving Repr, DecidableEq

/-- A set read under the flag for ignoring case holds all case variants. -/
def withCase (flags : Flags) (s : CharSet) : CharSet :=
  if !flags.ignoreCase then s else if flags.unicode then s.anyCase else s.anyAsciiCase

/-- The complement, which is refused where a set may hold ASCII characters only. -/
def complement? (flags : Flags) (negated : Bool) (s : CharSet) : Option CharSet :=
  if !negated then some s else if flags.unicode then some s.compl else none

/-- The set that a class stands for. Case is made not to count before the complement is taken. -/
def classSet? (flags : Flags) (negated : Bool) (s : CharSet) : Option CharSet :=
  complement? flags negated (withCase flags s)

def hexChar? (digits : List Char) : Option Char :=
  if digits.isEmpty then none
  else
    match hexValue? digits with
    | some n => if n.isValidChar then some (Char.ofNat n) else none
    | none => none

def readSome? (flags : Flags) : Nat → List Char → Option (List Char × List Char)
  | 0, s => some ([], s)
  | _ + 1, [] => none
  | n + 1, c :: s => (readSome? flags n (skip flags s)).map fun (cs, rest) => (c :: cs, rest)

/-- Reads a code point of `width` digits, or of any number of digits in braces. Two digits without
braces write a byte, and where the flag `u` is off a byte beyond ASCII is no character. -/
def readHex? (flags : Flags) (width : Nat) (s : List Char) : Option (Char × List Char) :=
  match skip flags s with
  | '\x7b' :: s => do
    let (digits, rest) ← readBraced? flags s
    let c ← hexChar? digits
    return (c, rest)
  | s => do
    let (digits, rest) ← readSome? flags width s
    let c ← hexChar? digits
    if width = 2 && !flags.unicode && 0x80 ≤ c.toNat then none else return (c, rest)

def readProperty? (flags : Flags) (negated : Bool) (s : List Char) :
    Option (CharSet × List Char) := do
  if !flags.unicode then none
  else
    match skip flags s with
    | [] => none
    | '\x7b' :: s =>
      let (text, rest) ← readBraced? flags s
      let (query, others) := PropertyQuery.read text
      let set ← query.find?
      let set ← classSet? flags (negated != others) set
      return (set, rest)
    | c :: s =>
      let set ← (PropertyQuery.name [c]).find?
      let set ← classSet? flags negated set
      return (set, s)

def Look.ofSide (flags : Flags) (side : WordSide) : Look :=
  if flags.unicode then .word side else .asciiWord side

/-- Reads the name of a word boundary in braces. Braces that start otherwise are left for a
repetition. -/
def readBoundary? (flags : Flags) (s : List Char) : Option (WordSide × List Char) :=
  match s with
  | '\x7b' :: inner =>
    let isNamePart := fun c : Char => c.isAlpha || c == '-'
    match skip flags inner with
    | [] => none
    | c :: inner =>
      if !isNamePart c then some (.boundary, s)
      else
        match readWhile flags isNamePart (c :: inner) with
        | (name, '\x7d' :: after) =>
          match String.ofList name with
          | "start" => some (.start, after)
          | "end" => some (.finish, after)
          | "start-half" => some (.startHalf, after)
          | "end-half" => some (.finishHalf, after)
          | _ => none
        | _ => none
  | s => some (.boundary, s)

/-- A class that a letter stands for, and its complement for the capital letter. -/
def letterClass? (flags : Flags) (all ascii : CharSet) (negated : Bool) (s : List Char) :
    Option (Escape × List Char) :=
  (complement? flags negated (if flags.unicode then all else ascii)).map fun set => (.set set, s)

/-- Reads what follows a backslash. Any ASCII character but letters, digits and angle brackets
stands for itself. -/
def readEscape? (flags : Flags) : List Char → Option (Escape × List Char)
  | [] => none
  | c :: s =>
    match c with
    | 'x' => (readHex? flags 2 s).map fun (c, s) => (.char c, s)
    | 'u' => (readHex? flags 4 s).map fun (c, s) => (.char c, s)
    | 'U' => (readHex? flags 8 s).map fun (c, s) => (.char c, s)
    | 'p' => (readProperty? flags false s).map fun (set, s) => (.set set, s)
    | 'P' => (readProperty? flags true s).map fun (set, s) => (.set set, s)
    | 'd' => letterClass? flags .decimal .asciiDigit false s
    | 'D' => letterClass? flags .decimal .asciiDigit true s
    | 's' => letterClass? flags .blank .asciiBlank false s
    | 'S' => letterClass? flags .blank .asciiBlank true s
    | 'w' => letterClass? flags .word .asciiWord false s
    | 'W' => letterClass? flags .word .asciiWord true s
    | 'a' => some (.char '\x07', s)
    | 'f' => some (.char '\x0c', s)
    | 't' => some (.char '\t', s)
    | 'n' => some (.char '\n', s)
    | 'r' => some (.char '\r', s)
    | 'v' => some (.char '\x0b', s)
    | 'A' => some (.look .textStart, s)
    | 'z' => some (.look .textEnd, s)
    | 'b' => (readBoundary? flags s).map fun (side, s) => (.look (.ofSide flags side), s)
    | 'B' => some (.look (.ofSide flags .notBoundary), s)
    | '<' => some (.look (.ofSide flags .start), s)
    | '>' => some (.look (.ofSide flags .finish), s)
    | c => if c.toNat < 0x80 && !c.isAlphanum then some (.char c, s) else none

/-! ### Classes in brackets -/

/-- A set together with the depth of the brackets and lists that it was written with. -/
structure ClassPart where
  set : CharSet
  depth : Nat
  deriving Repr, DecidableEq

inductive SetOp where
  | inter
  | diff
  | symmDiff
  deriving Repr, DecidableEq

/-- A class that is still open: what was read around it, or the left side of an operation in it. -/
inductive ClassFrame where
  | bracket (outer : List ClassPart) (negated : Bool)
  | operation (op : SetOp) (left : ClassPart)
  deriving Repr, DecidableEq

/-- The union of the parts, which are given last first. -/
def joinParts (parts : List ClassPart) : ClassPart :=
  match parts with
  | [] => ⟨.none, 0⟩
  | [part] => part
  | parts => ⟨.unions (parts.map (·.set)), 1 + (parts.map (·.depth)).foldl max 0⟩

/-- Completes the operation that waits for its right side, if there is one. -/
def applyOp (flags : Flags) (stack : List ClassFrame) (right : ClassPart) :
    ClassPart × List ClassFrame :=
  match stack with
  | .operation op left :: outer =>
    let a := withCase flags left.set
    let b := withCase flags right.set
    let set := match op with
      | .inter => a.inter b
      | .diff => a.diff b
      | .symmDiff => a.symmDiff b
    (⟨set, 1 + max left.depth right.depth⟩, outer)
  | stack => (right, stack)

/-- Reads a class named in `[: :]`, from behind its first colon on: whether its complement is meant,
and the class. -/
def readNamedClass? (s : List Char) : Option (Bool × CharSet × List Char) :=
  let (negated, s) := match s with
    | '^' :: s => (true, s)
    | s => (false, s)
  match s.dropWhile (· != ':') with
  | ':' :: ']' :: rest =>
    (asciiClass? (String.ofList (s.takeWhile (· != ':')))).map fun set => (negated, set, rest)
  | _ => none

/-- Reads what may stand after an opening bracket only: a negation, hyphens, and a closing bracket
that is a member. -/
def readBracket (flags : Flags) (s : List Char) : Bool × List ClassPart × List Char :=
  let (negated, s) := match skip flags s with
    | '^' :: s => (true, skip flags s)
    | s => (false, s)
  let (hyphens, s) := readWhile flags (· == '-') s
  match hyphens, s with
  | [], ']' :: rest => (negated, [⟨.single ']', 0⟩], skip flags rest)
  | hyphens, rest => (negated, hyphens.map fun c => ⟨.single c, 0⟩, rest)

/-- Reads one member of a class: a character or what an escape stands for. -/
def readMember? (flags : Flags) : List Char → Option (Escape × List Char)
  | [] => none
  | '\\' :: s => readEscape? flags s
  | c :: s => some (.char c, s)

/-- Reads a range, or a single member. Where classes are of ASCII, so are their members. -/
def readRange? (flags : Flags) (s : List Char) : Option (CharSet × List Char) := do
  let (first, s) ← readMember? flags s
  match skip flags s with
  | '-' :: s =>
    if [some ']', some '-'].contains (characterAhead flags s) then
      let set ← alone first
      return (set, '-' :: s)
    else
      let (last, rest) ← readMember? flags (skip flags s)
      match first, last with
      | .char a, .char b =>
        if a ≤ b && isMember a && isMember b then return (.range a b, rest) else none
      | _, _ => none
  | s =>
    let set ← alone first
    return (set, s)
where
  isMember (c : Char) : Bool :=
    flags.unicode || c.toNat < 0x80
  alone : Escape → Option CharSet
    | .char c => if isMember c then some (.single c) else none
    | .set s => some s
    | .look _ => none

/-- Begins an operation whose left side is what the class holds so far. -/
def beginOp (flags : Flags) (op : SetOp) (stack : List ClassFrame) (parts : List ClassPart) :
    List ClassFrame :=
  let (left, stack) := applyOp flags stack (joinParts parts)
  .operation op left :: stack

/-- Reads a class up to the bracket that closes it. Each step reads at least one character. -/
def readClass? (flags : Flags) :
    Nat → List ClassFrame → List ClassPart → List Char → Option (ClassPart × List Char)
  | 0, _, _, _ => none
  | fuel + 1, stack, parts, s =>
    match skip flags s with
    | [] => none
    | '[' :: s =>
      match if stack.isEmpty || s.head? != some ':' then none else readNamedClass? s.tail with
      | some (negated, set, rest) =>
        classSet? flags negated set >>= fun set =>
          readClass? flags fuel stack (⟨set, 0⟩ :: parts) rest
      | none =>
        let (negated, inner, rest) := readBracket flags s
        readClass? flags fuel (.bracket parts negated :: stack) inner rest
    | ']' :: s =>
      match applyOp flags stack (joinParts parts) with
      | (part, .bracket outer negated :: stack) =>
        classSet? flags negated part.set >>= fun set =>
          let closed := ⟨set, 1 + part.depth⟩
          match stack with
          | [] => some (closed, s)
          | stack => readClass? flags fuel stack (closed :: outer) s
      | _ => none
    | '&' :: '&' :: s => readClass? flags fuel (beginOp flags .inter stack parts) [] s
    | '-' :: '-' :: s => readClass? flags fuel (beginOp flags .diff stack parts) [] s
    | '~' :: '~' :: s => readClass? flags fuel (beginOp flags .symmDiff stack parts) [] s
    | s =>
      readRange? flags s >>= fun (set, rest) =>
        readClass? flags fuel stack (⟨set, 0⟩ :: parts) rest

/-! ### Expressions -/

/-- A part of an expression. A setting of flags is a part that cannot be repeated. -/
structure Part where
  regex : Regex
  depth : Nat
  repeatable : Bool := true
  deriving Repr, DecidableEq

/-- The alternatives of a group read so far and the parts of the current one, both last first. -/
structure Level where
  branches : List Part := []
  parts : List Part := []
  deriving Repr, DecidableEq

/-- A group that is still open: what was read around it, the flags to go back to, and its number if
it captures. -/
structure OpenGroup where
  level : Level
  flags : Flags
  number : Option Nat
  deriving Repr, DecidableEq

/-- The state of reading: the current group, the groups around it, and the number and the names of
the groups that capture. -/
structure State where
  flags : Flags := {}
  level : Level := {}
  outer : List OpenGroup := []
  captures : Nat := 0
  names : List (List Char) := []
  deriving Repr, DecidableEq

/-- The parts in sequence; they are given last first. -/
def sequence (parts : List Part) : Part :=
  match parts with
  | [] => ⟨.empty, 0, true⟩
  | [part] => part
  | parts =>
    ⟨parts.foldl (fun rest p => .seq p.regex rest) .empty,
      1 + (parts.map (·.depth)).foldl max 0, true⟩

def choice (level : Level) : Part :=
  let last := sequence level.parts
  match level.branches with
  | [] => last
  | branches =>
    ⟨branches.foldl (fun rest p => .alt p.regex rest) last.regex,
      1 + (branches.map (·.depth)).foldl max last.depth, true⟩

def State.push (st : State) (part : Part) : State :=
  { st with level := { st.level with parts := part :: st.level.parts } }

def State.pushRegex (st : State) (r : Regex) : State :=
  st.push ⟨r, 0, true⟩

def State.nextBranch (st : State) : State :=
  { st with level := ⟨sequence st.level.parts :: st.level.branches, []⟩ }

/-- Opens a group that does not capture and is read with the given flags. -/
def State.openGroup (st : State) (flags : Flags) : State :=
  { st with flags := flags, level := {}, outer := ⟨st.level, st.flags, none⟩ :: st.outer }

def State.openCapture (st : State) : State :=
  let number := st.captures + 1
  { st with
    level := {}
    outer := ⟨st.level, st.flags, some number⟩ :: st.outer
    captures := number }

def State.closeGroup? (st : State) : Option State :=
  match st.outer with
  | [] => none
  | ⟨level, flags, number⟩ :: outer =>
    let inner := choice st.level
    let st := { st with flags := flags, level := level, outer := outer }
    some (st.push ⟨.group number inner.regex, 1 + inner.depth, true⟩)

/-- How often a part is repeated: `least` times at least, and `most` times at most if that is
given. A lazy repetition prefers to be short. -/
structure Repetition where
  least : Nat
  most : Option Nat
  isLazy : Bool := false
  deriving Repr, DecidableEq

def State.repeatLast? (st : State) (rep : Repetition) : Option State :=
  match st.level.parts with
  | [] => none
  | part :: parts =>
    if part.repeatable then
      let st := { st with level := { st.level with parts := parts } }
      let greedy := rep.isLazy == st.flags.swapGreed
      some (st.push ⟨.times part.regex rep.least rep.most greedy, 1 + part.depth, true⟩)
    else none

/-- Reads the question mark that makes a repetition lazy. -/
def Repetition.readLazy (rep : Repetition) : List Char → Repetition × List Char
  | '?' :: s => ({ rep with isLazy := true }, s)
  | s => (rep, s)

/-- Reads a number with blanks around it. -/
def readCount (flags : Flags) (s : List Char) : Option Nat × List Char :=
  let (digits, rest) := readWhile flags isDigit (s.dropWhile isBlank)
  let n := decimalValue digits
  (if digits.isEmpty || maxCount < n then none else some n, (readWhile flags isBlank rest).2)

/-- Reads the bounds of a repetition from behind the opening brace on. -/
def readBounds? (flags : Flags) (s : List Char) : Option (Repetition × List Char) := do
  let (least, s) := readCount flags (skip flags s)
  match s with
  | '\x7d' :: rest =>
    let least ← least
    return Repetition.readLazy ⟨least, some least, false⟩ (skip flags rest)
  | ',' :: s =>
    match skip flags s with
    | '\x7d' :: rest =>
      let least ← least
      return Repetition.readLazy ⟨least, none, false⟩ (skip flags rest)
    | s =>
      let least ← least
      let (most, s) := readCount flags s
      let most ← most
      match s with
      | '\x7d' :: rest =>
        if least ≤ most then
          return Repetition.readLazy ⟨least, some most, false⟩ (skip flags rest)
        else none
      | _ => none
  | _ => none

def isGroupNameChar (isFirst : Bool) (c : Char) : Bool :=
  if isFirst then c == '_' || isLetter c
  else c == '_' || c == '.' || c == '[' || c == ']' || isAlphanumeric c

def readGroupName? (s : List Char) : Option (List Char × List Char) :=
  match s.takeWhile (· != '>'), s.dropWhile (· != '>') with
  | c :: name, _ :: rest =>
    if isGroupNameChar true c && name.all (isGroupNameChar false) then some (c :: name, rest)
    else none
  | _, _ => none

/-- Whether flags are written as they should be: no letter twice, and none but a letter last. -/
def isFlagList (letters : List Char) : Bool :=
  letters.all (fun c => ['i', 'm', 's', 'U', 'u', 'R', 'x', '-'].contains c) &&
    letters.all (fun c => letters.count c == 1) && letters.getLast? != some '-'

/-- The flags after a list of flag letters; those behind a hyphen are taken back. -/
def setFlags (flags : Flags) (letters : List Char) : Flags :=
  (letters.foldl (fun (on, flags) c =>
    match c with
    | '-' => (false, flags)
    | 'i' => (on, { flags with ignoreCase := on })
    | 'm' => (on, { flags with multiLine := on })
    | 's' => (on, { flags with dotMatchesNewline := on })
    | 'U' => (on, { flags with swapGreed := on })
    | 'u' => (on, { flags with unicode := on })
    | 'R' => (on, { flags with crlf := on })
    | 'x' => (on, { flags with verbose := on })
    | _ => (on, flags)) (true, flags)).2

/-- Reads what an opening parenthesis begins: a group with or without a name, or flags. -/
def readGroup? (st : State) (s : List Char) : Option (State × List Char) :=
  match skip st.flags s with
  | '?' :: 'P' :: '<' :: s => named s
  | '?' :: '<' :: '=' :: _ => none
  | '?' :: '<' :: '!' :: _ => none
  | '?' :: '<' :: s => named s
  | '?' :: s =>
    let letters := s.takeWhile fun c => c != ':' && c != ')'
    if isFlagList letters then
      match s.dropWhile fun c => c != ':' && c != ')' with
      | ':' :: rest => some (st.openGroup (setFlags st.flags letters), rest)
      | ')' :: rest =>
        if letters.isEmpty then none
        else some ({ st.push ⟨.empty, 0, false⟩ with flags := setFlags st.flags letters }, rest)
      | _ => none
    else none
  | s => some (st.openCapture, s)
where
  named (s : List Char) : Option (State × List Char) := do
    let (name, rest) ← readGroupName? s
    if st.names.contains name then none
    else return ({ st.openCapture with names := name :: st.names }, rest)

/-- The set of characters that a dot stands for, which is not of ASCII. -/
def dotSet? (flags : Flags) : Option CharSet :=
  if !flags.unicode then none
  else if flags.dotMatchesNewline then some .all
  else if flags.crlf then some (CharSet.ofCodes [0xA, 0xD]).compl
  else some (CharSet.single '\n').compl

/-- Reads an expression to its end. Each step reads at least one character. -/
def readFrom? : Nat → State → List Char → Option Part
  | 0, _, _ => none
  | fuel + 1, st, s =>
    let flags := st.flags
    match skip flags s with
    | [] => if st.outer.isEmpty then some (choice st.level) else none
    | '(' :: s => readGroup? st s >>= fun (st, s) => readFrom? fuel st s
    | ')' :: s => st.closeGroup? >>= fun st => readFrom? fuel st s
    | '|' :: s => readFrom? fuel st.nextBranch s
    | '[' :: s =>
      readClass? flags (s.length + 2) [] [] ('[' :: s) >>= fun (part, s) =>
        readFrom? fuel (st.push ⟨.set part.set, part.depth, true⟩) s
    | '?' :: s => repeated fuel st (Repetition.readLazy ⟨0, some 1, false⟩ s)
    | '*' :: s => repeated fuel st (Repetition.readLazy ⟨0, none, false⟩ s)
    | '+' :: s => repeated fuel st (Repetition.readLazy ⟨1, none, false⟩ s)
    | '\x7b' :: s => readBounds? flags s >>= repeated fuel st
    | '.' :: s => dotSet? flags >>= fun set => readFrom? fuel (st.pushRegex (.set set)) s
    | '^' :: s =>
      let look := if flags.multiLine then Look.lineStart flags.lineEnd else .textStart
      readFrom? fuel (st.pushRegex (.look look)) s
    | '$' :: s =>
      let look := if flags.multiLine then Look.lineEnd flags.lineEnd else .textEnd
      readFrom? fuel (st.pushRegex (.look look)) s
    | '\\' :: s => readEscape? flags s >>= fun (escape, s) =>
        let regex := match escape with
          | .char c => .set (withCase flags (.single c))
          | .set set => .set set
          | .look l => .look l
        readFrom? fuel (st.pushRegex regex) s
    | c :: s => readFrom? fuel (st.pushRegex (.set (withCase flags (.single c)))) s
where
  repeated (fuel : Nat) (st : State) (read : Repetition × List Char) : Option Part :=
    st.repeatLast? read.1 >>= fun st => readFrom? fuel st read.2

/-- The expression that a text writes, if it writes one. -/
def readText? (pattern : List Char) : Option Regex :=
  match readFrom? (pattern.length + 1) {} pattern with
  | some part => if part.depth ≤ maxDepth then some part.regex else none
  | none => none

/-- The expression that a text writes, if it writes an acceptable one. -/
def read? (pattern : List Char) : Option Regex :=
  (readText? pattern).filter Regex.isBuildable

end Pattern
end ImportOrder
