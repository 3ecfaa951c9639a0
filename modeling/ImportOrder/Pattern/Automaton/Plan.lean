import ImportOrder.Pattern.Regex

/-!
# ImportOrder.Pattern.Automaton.Plan

The plan by which an automaton is built for a regular expression.

A plan matches the same texts as its expression and is simpler: characters in a row are one literal,
a sequence holds neither sequences nor empty parts, a choice between characters or between sets is
one set, and what all branches of a choice begin with stands before the choice.

A sequence is kept as its first part and the sequence of the others, a choice likewise.
-/

namespace ImportOrder
namespace Pattern

inductive Plan where
  | empty
  | literal (text : List Char)
  | set (s : CharSet)
  | look (l : Look)
  | seq (first rest : Plan)
  | alt (first rest : Plan)
  | times (p : Plan) (least : Nat) (most : Option Nat) (greedy : Bool)
  | capture (number : Nat) (p : Plan)
  deriving Repr, DecidableEq

namespace Plan

/-! ### Lengths and anchors -/

def codeSize (n : Nat) : Nat :=
  if n < 0x80 then 1 else if n < 0x800 then 2 else if n < 0x10000 then 3 else 4

def textSize (text : List Char) : Nat :=
  text.foldr (fun c n => codeSize c.toNat + n) 0

/-- The least number of bytes of a match. Nothing, if some part matches no text at all. -/
def minSize : Plan → Option Nat
  | .empty => some 0
  | .literal text => some (textSize text)
  | .set s => s.ranges.head?.map fun (first, _) => codeSize first
  | .look _ => some 0
  | .seq a b => return (← a.minSize) + (← b.minSize)
  | .alt a b => return min (← a.minSize) (← b.minSize)
  | .times p least _ _ => return least * (← p.minSize)
  | .capture _ p => p.minSize

/-- The greatest number of bytes of a match, if there is one. -/
def maxSize : Plan → Option Nat
  | .empty => some 0
  | .literal text => some (textSize text)
  | .set s => s.ranges.getLast?.map fun (_, last) => codeSize last
  | .look _ => some 0
  | .seq a b => return (← a.maxSize) + (← b.maxSize)
  | .alt a b => return max (← a.maxSize) (← b.maxSize)
  | .times p _ most _ => return (← most) * (← p.maxSize)
  | .capture _ p => p.maxSize

/-- Whether every match begins at a place with the condition. -/
def beginsWith (l : Look) : Plan → Bool
  | .look l' => l' == l
  | .seq a b => a.beginsWith l || (a.maxSize == some 0 && b.beginsWith l)
  | .alt a b => a.beginsWith l && b.beginsWith l
  | .times p least _ _ => 0 < least && p.beginsWith l
  | .capture _ p => p.beginsWith l
  | _ => false

/-- Whether every match ends at a place with the condition. -/
def endsWith (l : Look) : Plan → Bool
  | .look l' => l' == l
  | .seq a b => b.endsWith l || (b.maxSize == some 0 && a.endsWith l)
  | .alt a b => a.endsWith l && b.endsWith l
  | .times p least _ _ => 0 < least && p.endsWith l
  | .capture _ p => p.endsWith l
  | _ => false

/-! ### Sequences -/

/-- Puts a part that is no sequence before a plan. -/
def cons : Plan → Plan → Plan
  | .empty, q => q
  | p, .empty => p
  | .literal a, .literal b => .literal (a ++ b)
  | .literal a, .seq (.literal b) q => .seq (.literal (a ++ b)) q
  | p, q => .seq p q

def append : Plan → Plan → Plan
  | .seq a b, q => a.cons (b.append q)
  | p, q => p.cons q

/-- The parts of a sequence; a single part of anything else. -/
def parts : Plan → List Plan
  | .seq a b => a :: b.parts
  | p => [p]

def ofParts (ps : List Plan) : Plan :=
  ps.foldr append .empty

/-! ### Sets and choices -/

/-- A set; one of a single character is a literal. -/
def ofSet (s : CharSet) : Plan :=
  match s.only? with
  | some c => .literal [c]
  | none => .set s

/-- The branches of a choice; a single branch of anything else. -/
def branches : Plan → List Plan
  | .alt a b => a :: b.branches
  | p => [p]

def ofBranches : List Plan → Plan
  | [] => .set .none
  | [p] => p
  | p :: ps => .alt p (ofBranches ps)

/-- The set of the characters that the branches are, if each is a single one. -/
def singles? (ps : List Plan) : Option CharSet :=
  (ps.mapM code?).map CharSet.ofCodes
where
  code? : Plan → Option Nat
    | .literal [c] => some c.toNat
    | _ => none

/-- The union of the sets that the branches are, if each is one. -/
def sets? (ps : List Plan) : Option CharSet :=
  (ps.mapM set?).map CharSet.unions
where
  set? : Plan → Option CharSet
    | .set s => some s
    | _ => none

/-- The parts that two sequences both begin with. -/
def commonParts : List Plan → List Plan → List Plan
  | p :: ps, q :: qs => if p = q then p :: commonParts ps qs else []
  | _, _ => []

/-- What all branches begin with, if each is a sequence. -/
def sharedParts (ps : List Plan) : List Plan :=
  let sequences := ps.map parts
  if sequences.any (·.length ≤ 1) then []
  else
    match sequences with
    | [] => []
    | s :: ss => ss.foldl commonParts s

/-- The choice between branches. The bound is on how often a common start may be taken out. -/
def choiceWithin : Nat → List Plan → Plan
  | 0, ps => ofBranches ps
  | bound + 1, ps =>
    match ps.flatMap branches with
    | [p] => p
    | ps =>
      match singles? ps, sets? ps with
      | some s, _ => ofSet s
      | none, some s => ofSet s
      | none, none =>
        match sharedParts ps with
        | [] => ofBranches ps
        | shared =>
          let ends := ps.map fun p => ofParts (p.parts.drop shared.length)
          (ofParts shared).append (choiceWithin bound ends)

def count : Plan → Nat
  | .seq a b => a.count + b.count + 1
  | .alt a b => a.count + b.count + 1
  | .times p _ _ _ => p.count + 1
  | .capture _ p => p.count + 1
  | _ => 1

def choice : List Plan → Plan
  | [p] => p
  | ps => choiceWithin (ps.foldr (fun p n => p.count + n) 0 + 1) ps

/-! ### Repetitions -/

/-- A repetition. What matches the empty text only is repeated once at most. -/
def repeated (p : Plan) (least : Nat) (most : Option Nat) (greedy : Bool) : Plan :=
  let (least, most) :=
    if p.maxSize = some 0 then (min least 1, some (min (most.getD 1) 1)) else (least, most)
  if most = some 0 then .empty
  else if least = 1 && most = some 1 then p
  else .times p least most greedy

/-! ### Expressions -/

def branchesOf : Regex → List Plan
  | .empty => [.empty]
  | .set s => [ofSet s]
  | .look l => [.look l]
  | .seq a b => [(choice (branchesOf a)).append (choice (branchesOf b))]
  | .alt a b => branchesOf a ++ branchesOf b
  | .times r least most greedy => [(choice (branchesOf r)).repeated least most greedy]
  | .group none r => [choice (branchesOf r)]
  | .group (some n) r => [.capture n (choice (branchesOf r))]

def ofRegex (r : Regex) : Plan :=
  choice (branchesOf r)

end Plan

end Pattern
end ImportOrder
