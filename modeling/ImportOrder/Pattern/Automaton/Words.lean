import ImportOrder.Pattern.Automaton.Bytes
import ImportOrder.Pattern.Automaton.Plan

/-!
# ImportOrder.Pattern.Automaton.Words

The words that the matches of a plan begin with, and the plans for which a search for words does the
work of an automaton.

A word is whole if it is all of a match. Where all words of a plan are whole, finding one of them is
finding a match. Words are looked for within limits: beyond these a word is cut, or anything may be
the beginning of a match.
-/

namespace ImportOrder
namespace Pattern

/-- The bytes that a match begins with. -/
structure Word where
  bytes : List Nat
  /-- Whether they are all of the match. -/
  isWhole : Bool
  deriving Repr, DecidableEq

namespace Word

def empty : Word :=
  ⟨[], true⟩

/-- The word, which may be followed by anything. -/
def opened (w : Word) : Word :=
  ⟨w.bytes, false⟩

def cut (n : Nat) (w : Word) : Word :=
  if w.bytes.length ≤ n then w else ⟨w.bytes.take n, false⟩

def append (v w : Word) : Word :=
  ⟨v.bytes ++ w.bytes, w.isWhole⟩

end Word

/-- The words that matches begin with, the preferred ones first. Nothing, if a match may begin with
anything. -/
abbrev Words := Option (List Word)

namespace Words

/-- The greatest number of members of a set that are taken one by one. -/
def setLimit : Nat := 10

/-- The greatest number of times that a repetition is followed. -/
def timesLimit : Nat := 10

def lengthLimit : Nat := 100

def countLimit : Nat := 250

/-- The beginning of the empty match. -/
def start : Words :=
  some [Word.empty]

/-- Whether nothing put behind the words can change them. -/
def areOpen (ws : Words) : Bool :=
  ws.all fun ws => ws.all fun w => !w.isWhole

def opened (ws : Words) : Words :=
  ws.map (·.map Word.opened)

def cut (n : Nat) (ws : Words) : Words :=
  ws.map (·.map (Word.cut n))

/-- Of equal words in a row the first, which is whole if all of them are. -/
def joinEqual : List Word → List Word
  | v :: w :: ws =>
    if v.bytes = w.bytes then joinEqual (⟨v.bytes, v.isWhole && w.isWhole⟩ :: ws)
    else v :: joinEqual (w :: ws)
  | ws => ws
termination_by ws => ws.length

/-- The words of the one and the other. Too many are cut, and if they still are too many, anything
may be meant. -/
def union (vs ws : Words) : Words :=
  match vs, ws with
  | some vs, some ws =>
    if vs.length + ws.length ≤ countLimit then some (joinEqual (vs ++ ws))
    else
      let short := fun ws : List Word => joinEqual (ws.map (Word.cut 4))
      if (short vs).length + (short ws).length ≤ countLimit then
        some (joinEqual (short vs ++ short ws))
      else none
  | _, _ => none

def append (vs ws : Words) : Words :=
  match vs with
  | none => none
  | some vs =>
    let ws := ws.filter fun ws => vs.length * ws.length ≤ countLimit
    let all := match ws with
      | some ws => some (joinEqual (vs.flatMap fun v => if v.isWhole then ws.map v.append else [v]))
      | none => if vs.any (·.bytes.isEmpty) then none else some (vs.map Word.opened)
    cut lengthLimit all

def sequence (parts : List Words) : Words :=
  parts.foldl (fun vs ws => if vs.areOpen then vs else vs.append ws) start

def choice (branches : List Words) : Words :=
  branches.foldl union (some [])

def times (ws : Words) (least : Nat) (most : Option Nat) (greedy : Bool) : Words :=
  if least = 0 then
    let once := if most = some 1 then ws else ws.opened
    if greedy then once.union start else start.union once
  else
    let all := sequence (List.replicate (min least timesLimit) ws)
    if most = some least && least ≤ timesLimit then all else all.opened

/-- The words that are the members of a set, unless they are too many. -/
def ofSet (s : CharSet) : Words :=
  if s.size ≤ setLimit then
    some (s.ranges.flatMap fun (first, last) =>
      (List.range' first (last + 1 - first)).map fun n => ⟨codeBytes n, true⟩)
  else none

/-! ### Words to search for -/

/-- Leaves out the words that begin with an earlier one. -/
def withoutLonger (ws : List Word) : List Word :=
  ws.foldl (fun kept w => if kept.any (·.bytes.isPrefixOf w.bytes) then kept else kept ++ [w]) []

/-- What two lists both begin with. -/
def commonStart : List Nat → List Nat → List Nat
  | a :: as, b :: bs => if a = b then a :: commonStart as bs else []
  | _, _ => []

/-- What all words begin with. -/
def sharedStart : List Word → List Nat
  | [] => []
  | w :: ws => ws.foldl (fun shared w => commonStart shared w.bytes) w.bytes

/-- Whether a byte is so frequent in texts that it is not worth a search of its own. -/
def isFrequent (byte : Nat) : Bool :=
  0xC0 ≤ byte || "\n\r (),-./0129:_abcdefghilmnoprstuvxy|".toList.any (·.toNat == byte)

/-- Cuts the words of a long list to make it shorter, in several attempts. Each gives a length and
the number of words up to which the list is short enough. -/
def shorten : List (Nat × Nat) → List Word → List Word
  | [], ws => ws
  | (length, enough) :: attempts, ws =>
    if ws.length ≤ enough then ws
    else shorten attempts (withoutLonger (ws.map (Word.cut length)))

/-- The words that are searched for. A byte or a few that all words begin with may stand for them,
and long lists are made shorter. Whole words are kept where that leads to very short words or to
very many. -/
def sought (ws : List Word) : List Word :=
  let own := withoutLonger ws
  let shared := sharedStart own
  if 1 < ws.length && shared.length ≤ 3 && shared.head?.any (!isFrequent ·) then
    joinEqual (own.map (Word.cut 1))
  else
    let areFew := own.length ≤ 16 && own.all (·.isWhole)
    let own :=
      if 4 < shared.length || (1 < shared.length && !areFew) then
        joinEqual (own.map (Word.cut shared.length))
      else own
    let short := shorten [(5, 10), (4, 10), (3, 64), (2, 64), (1, 10)] own
    if own.all (·.isWhole) && (64 < short.length || short.any (·.bytes.length ≤ 2)) then own
    else short

/-- Whether a search for the words finds every match, and nothing but matches. -/
def suffice (ws : Words) : Bool :=
  match ws with
  | none => false
  | some ws =>
    let searched := sought ws
    !searched.isEmpty && searched.all fun w => w.isWhole && !w.bytes.isEmpty

end Words

namespace Plan

/-- The words of a plan, of its parts if it is a sequence, and of its branches if it is a choice. -/
structure Starts where
  words : Words
  asParts : List Words
  asBranches : List Words

/-- What is neither a sequence nor a choice has one part and one branch. -/
def Starts.single (ws : Words) : Starts :=
  ⟨ws, [ws], [ws]⟩

/-- The words that the matches of a plan begin with. -/
def starts : Plan → Starts
  | .empty => .single Words.start
  | .literal text => .single (some [Word.cut Words.lengthLimit ⟨textBytes text, true⟩])
  | .set s => .single (Words.ofSet s)
  | .look _ => .single Words.start
  | .seq a b =>
    let parts := a.starts.words :: b.starts.asParts
    let all := Words.sequence parts
    ⟨all, parts, [all]⟩
  | .alt a b =>
    let branches := a.starts.words :: b.starts.asBranches
    let all := Words.choice branches
    ⟨all, [all], branches⟩
  | .times p least most greedy => .single (p.starts.words.times least most greedy)
  | .capture _ p => .single p.starts.words

/-- Whether a plan has neither captures nor conditions on places. -/
def isPlain : Plan → Bool
  | .look _ => false
  | .capture _ _ => false
  | .seq a b => a.isPlain && b.isPlain
  | .alt a b => a.isPlain && b.isPlain
  | .times p _ _ _ => p.isPlain
  | _ => true

def isLiteral : Plan → Bool
  | .literal _ => true
  | _ => false

/-- From so many literals on, a choice between literals is a search for words. -/
def manyLiterals : Nat := 3000

/-- Whether a search for words finds the matches of the plan, so that it needs no automaton. -/
def isWordSearch (p : Plan) : Bool :=
  if p.isPlain then
    p.starts.words.suffice || (manyLiterals ≤ p.branches.length && p.branches.all isLiteral)
  else false

end Plan

end Pattern
end ImportOrder
