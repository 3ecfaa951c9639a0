import ImportOrder.Pattern.Regex

/-!
# ImportOrder.Pattern.Glob

Globs, which select files by their path.

`?` stands for one character and `*` for any text, slashes included; a class in brackets holds
single characters and ranges. `**` is a path component by itself and stands for any number of
directories, at the end of a glob for anything at all.
-/

namespace ImportOrder
namespace Pattern

/-- What is wrong with a glob, and at which of its characters. -/
inductive GlobFault where
  | threeStars
  | notAComponent
  | badClass
  deriving Repr, DecidableEq

structure GlobError where
  position : Nat
  fault : GlobFault
  deriving Repr, DecidableEq

def GlobFault.message : GlobFault → String
  | .threeStars => "wildcards are either regular `*` or recursive `**`"
  | .notAComponent => "recursive wildcards must form a single path component"
  | .badClass => "invalid range pattern"

def GlobError.message (e : GlobError) : String :=
  "Pattern syntax error near position " ++ toString e.position ++ ": " ++ e.fault.message

inductive GlobToken where
  | char (c : Char)
  | anyChar
  | anyText
  | directories
  | oneOf (members : CharSet)
  deriving Repr, DecidableEq

structure Glob where
  tokens : List GlobToken
  deriving Repr, DecidableEq

namespace Glob

/-- The members of a class. A range backwards is empty. -/
def members : List Char → CharSet
  | a :: '-' :: b :: s => (CharSet.range a b).union (members s)
  | a :: s => (CharSet.single a).union (members s)
  | [] => .none

/-- Reads a class from behind its bracket on. Gives the class and the number of characters read.
The first member may be a closing bracket. -/
def readClass? : List Char → Option (GlobToken × Nat)
  | '!' :: first :: s => close first s |>.map fun (ms, n) => (.oneOf ms.compl, n + 1)
  | '!' :: [] => none
  | first :: s => close first s |>.map fun (ms, n) => (.oneOf ms, n)
  | [] => none
where
  close (first : Char) (s : List Char) : Option (CharSet × Nat) :=
    let inner := s.takeWhile (· != ']')
    if inner.length < s.length then some (members (first :: inner), inner.length + 2) else none

/-- Reads the tokens from a character position on. `before` is the character before it. -/
def readFrom (position : Nat) (before : Option Char) :
    List Char → Except GlobError (List GlobToken)
  | [] => .ok []
  | '?' :: s => (readFrom (position + 1) (some '?') s).map (.anyChar :: ·)
  | '*' :: s =>
    match s with
    | '*' :: '*' :: _ => .error ⟨position + 2, .threeStars⟩
    | '*' :: s =>
      if before.all (· == '/') then
        match s with
        | [] => .ok [.directories]
        | '/' :: s => (readFrom (position + 3) (some '/') s).map (.directories :: ·)
        | _ => .error ⟨position + 2, .notAComponent⟩
      else .error ⟨position - 1, .notAComponent⟩
    | s => (readFrom (position + 1) (some '*') s).map (.anyText :: ·)
  | '[' :: s =>
    match readClass? s with
    | some (token, n) => (readFrom (position + 1 + n) (some ']') (s.drop n)).map (token :: ·)
    | none => .error ⟨position, .badClass⟩
  | c :: s => (readFrom (position + 1) (some c) s).map (.char c :: ·)
termination_by s => s.length

def read (pattern : List Char) : Except GlobError Glob :=
  (readFrom 0 none pattern).map Glob.mk

def anything : Regex :=
  .times (.set .all) 0 none true

/-- The regular expression of the texts that tokens fit. -/
def regexOf : List GlobToken → Regex
  | [] => .empty
  | .char c :: tokens => .seq (.set (.single c)) (regexOf tokens)
  | .anyChar :: tokens => .seq (.set .all) (regexOf tokens)
  | .anyText :: tokens => .seq anything (regexOf tokens)
  | [.directories] => anything
  | .directories :: tokens =>
    .seq (.alt .empty (.seq anything (.set (.single '/')))) (regexOf tokens)
  | .oneOf members :: tokens => .seq (.set members) (regexOf tokens)

/-- Whether the glob fits the whole path. -/
def matchesPath (g : Glob) (path : List Char) : Bool :=
  (Regex.seq (.look .textStart) (.seq (regexOf g.tokens) (.look .textEnd))).matchesIn path

end Glob

end Pattern
end ImportOrder
