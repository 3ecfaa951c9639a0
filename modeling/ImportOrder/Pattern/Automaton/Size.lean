import ImportOrder.Pattern.Automaton.Nodes
import ImportOrder.Pattern.Automaton.Words

/-!
# ImportOrder.Pattern.Automaton.Size

The automata for a plan and their sizes. There is one automaton for reading a text forward and one
for reading it backward. Here the states of each are counted in the order in which they are made.
-/

namespace ImportOrder
namespace Pattern

inductive Direction where
  | forward
  | backward
  deriving Repr, DecidableEq

namespace Plan

open Tally

/-- How the states for a set are counted. -/
abbrev SetCount := Direction → CharSet → Tally → Tally

/-- Counts the states for a set as they are made. -/
def exactly : SetCount := fun d s t =>
  if s.isAscii then (t.plain 1).reading s.ranges.length
  else
    match d with
    | .forward => addForward s.byteSequences t
    | .backward => addBackward s.byteSequences t

/-- Counts at least as many states as are made, without making the sequences of bytes. A range has
at most 21 of them: for each length one in the middle and two for each byte but the first, and those
of three bytes once more behind the surrogates. Each has at most four bytes. -/
def atMost : SetCount := fun _ s t =>
  let states := 21 * maxBytes * s.ranges.length
  t.add ⟨2 + states, rangeSize * states⟩

/-! ### Choices between literals -/

/-- The bytes of a literal in the order in which they are read. -/
def bytesOf (d : Direction) : Plan → List Nat
  | .literal text =>
    let bytes := textBytes text
    match d with
    | .forward => bytes
    | .backward => bytes.reverse
  | _ => []

/-- The words before, between and behind the empty words of a list. Where only empty words have come
so far, a further one divides nothing. -/
def chunks (words : List (List Nat)) : List (List (List Nat)) :=
  let tidy := match words with
    | [] :: rest => [] :: rest.dropWhile List.isEmpty
    | words => words
  tidy.foldr (fun word chunks =>
    match word, chunks with
    | [], chunks => [] :: chunks
    | word, chunk :: chunks => (word :: chunk) :: chunks
    | word, [] => [[word]]) [[]]

/-- The tree that the words make, without the ends that lead nowhere: for each chunk of the words a
state that reads their first byte, and a state that branches to these. -/
def tree : Nat → List (List Nat) → Tally
  | 0, _ => zero
  | depth + 1, words =>
    if words.all List.isEmpty then zero
    else
      let chunks := chunks words
      let start := zero.branching (chunks.length - 1)
      chunks.foldl (fun t chunk =>
        let firsts := (chunk.filterMap List.head?).eraseDups
        let t := firsts.foldl (fun t byte =>
          t.add (tree depth ((chunk.filter (·.head? == some byte)).map List.tail))) t
        match firsts with
        | [] => t
        | [_] => (t.plain 1).branch
        | firsts => (t.reading firsts.length).branch) start

def ofLiterals (d : Direction) (ps : List Plan) : Tally :=
  let words := ps.map (bytesOf d)
  (tree ((words.map List.length).foldl max 0 + 1) words).plain 1

/-! ### Plans -/

/-- Where a plan stands: alone, as the second branch of a choice with those behind it, or as a later
branch with those behind it. -/
inductive Place where
  | alone
  | second
  | later
  deriving Repr, DecidableEq

/-- Adds what follows the states of a branch. The state that branches and the one where the branches
meet again are made behind the second branch. -/
def Place.close? (place : Place) (t : Tally) : Option Tally :=
  match place with
  | .alone => t.within?
  | .second => ((t.branching 2).plain 1).within?
  | .later => t.branch.within?

/-- Adds the states of a repetition of something. A state that decides whether to go on has two
branches. -/
def addTimes? (add? : Tally → Option Tally) (neverEmpty : Bool) (least : Nat) (most : Option Nat)
    (t : Tally) : Option Tally :=
  match most with
  | none =>
    if 0 < least then (repeated? add? least t).map (branching 2)
    else if neverEmpty then add? (t.branching 2)
    else (add? t).map fun t => ((t.branching 2).branching 2).plain 1
  | some most =>
    if least = 0 && most = 1 then (add? (t.branching 2)).map (plain 1)
    else if least = most then repeated? add? least t
    else
      let start := if least = 0 then some (t.plain 1) else repeated? add? least t
      start.bind fun t => repeated? (fun t => add? (t.branching 2)) (most - least) (t.plain 1)

/-- Adds the states of a plan. Nothing, if the automaton becomes too large. -/
def add? (count : SetCount) (d : Direction) : Plan → Place → Tally → Option Tally
  | .empty, place, t => place.close? (t.plain 1)
  | .literal text, place, t => place.close? (t.plain (textSize text))
  | .set s, place, t => place.close? (count d s t)
  | .look _, place, t => place.close? (t.plain 1)
  | .seq a b, place, t =>
    match d with
    | .forward => ((a.add? count d .alone t).bind (b.add? count d .alone)).bind place.close?
    | .backward => ((b.add? count d .alone t).bind (a.add? count d .alone)).bind place.close?
  | .alt a b, place, t =>
    match place with
    | .alone =>
      let all := a :: b.branches
      if all.all isLiteral then (t.add (ofLiterals d all)).within?
      else (a.add? count d .alone t).bind (b.add? count d .second)
    | .second => ((a.add? count d .alone t).bind Place.second.close?).bind (b.add? count d .later)
    | .later => (a.add? count d .later t).bind (b.add? count d .later)
  | .times p least most _, place, t =>
    let neverEmpty := p.minSize.any (0 < ·)
    (addTimes? (p.add? count d .alone) neverEmpty least most t).bind place.close?
  | .capture _ p, place, t =>
    match d with
    | .forward => (p.add? count d .alone (t.plain 1)).bind fun t => place.close? (t.plain 1)
    | .backward => (p.add? count d .alone t).bind place.close?

/-- The states that skip what stands before a match. -/
def skip (isAnchored : Bool) : Tally :=
  if isAnchored then zero.plain 1 else ((zero.branching 2).plain 1).reading 1

/-- The automaton that finds a match and its ends, if it is not too large. -/
def automaton? (count : SetCount) (p : Plan) : Direction → Option Tally
  | .forward =>
    (p.add? count .forward .alone ((skip (p.beginsWith .textStart)).plain 1)).bind fun t =>
      (t.plain 2).within?
  | .backward =>
    (p.add? count .backward .alone (skip (p.endsWith .textEnd))).bind fun t =>
      (t.plain 1).within?

/-- Whether both automata are small enough when sets are counted so. -/
def fitsBy (count : SetCount) (p : Plan) : Bool :=
  (p.automaton? count .forward).isSome && (p.automaton? count .backward).isSome

/-- Whether both automata are small enough. Where more states than there are would fit, they need
not be made to be counted. -/
def fits (p : Plan) : Bool :=
  if p.fitsBy atMost then true else p.fitsBy exactly

end Plan

/-- Whether the means to find the matches of an expression can be made: a search for words, or two
automata that are not too large. -/
def Regex.isBuildable (r : Regex) : Bool :=
  let plan := Plan.ofRegex r
  if plan.isWordSearch then true else plan.fits

end Pattern
end ImportOrder
