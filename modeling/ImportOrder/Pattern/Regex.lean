import ImportOrder.Pattern.CharSet

/-!
# ImportOrder.Pattern.Regex

Regular expressions and the question whether one matches somewhere in a text.

A text of `n` characters has `n + 1` places. An expression maps a set of places, where a match may
begin, to the set of places where it may then end; `run` computes that map. Places are marked in a
list of `n + 1` truth values. An expression matches a text when a match that may begin anywhere
ends somewhere, so neither greed nor the order of alternatives counts.
-/

namespace ImportOrder
namespace Pattern

open Text

/-- How a place lies to the words around it. -/
inductive WordSide where
  /-- Between a word character and another one or an end of the text. -/
  | boundary
  | notBoundary
  | start
  | finish
  /-- Not behind a word character. -/
  | startHalf
  /-- Not before a word character. -/
  | finishHalf
  deriving Repr, DecidableEq

/-- Whether the place between two characters lies so, given which of the two are word characters. -/
def WordSide.holds : WordSide → Bool → Bool → Bool
  | .boundary, before, after => before != after
  | .notBoundary, before, after => before == after
  | .start, before, after => !before && after
  | .finish, before, after => before && !after
  | .startHalf, before, _ => !before
  | .finishHalf, _, after => !after

inductive LineEnd where
  | lf
  /-- A carriage return, a line feed, or both in that order. -/
  | crlf
  deriving Repr, DecidableEq

/-- A condition on a place of the text. -/
inductive Look where
  | textStart
  | textEnd
  | lineStart (e : LineEnd)
  | lineEnd (e : LineEnd)
  | word (side : WordSide)
  /-- The same, where only ASCII has word characters. -/
  | asciiWord (side : WordSide)
  deriving Repr, DecidableEq

def Look.holds (look : Look) (before after : Option Char) : Bool :=
  match look with
  | .textStart => before.isNone
  | .textEnd => after.isNone
  | .lineStart .lf => before.all (· == '\n')
  | .lineEnd .lf => after.all (· == '\n')
  | .lineStart .crlf => before.all fun c => c == '\n' || (c == '\r' && after != some '\n')
  | .lineEnd .crlf => after.all fun c => c == '\r' || (c == '\n' && before != some '\r')
  | .word side => side.holds (before.any isWordChar) (after.any isWordChar)
  | .asciiWord side => side.holds (before.any isAsciiWord) (after.any isAsciiWord)
where
  isAsciiWord (c : Char) : Bool :=
    c.isAlphanum || c == '_'

inductive Regex where
  | empty
  | set (s : CharSet)
  | look (l : Look)
  | seq (a b : Regex)
  | alt (a b : Regex)
  /-- At least `least` times, and at most `most` times if that is given. -/
  | times (r : Regex) (least : Nat) (most : Option Nat) (greedy : Bool)
  /-- A part in parentheses; one that captures has a number. -/
  | group (number : Option Nat) (r : Regex)
  deriving Repr, DecidableEq

/-- A set of places of a text: one truth value for each place. -/
abbrev Marks := List Bool

namespace Marks

def join (a b : Marks) : Marks :=
  List.zipWith (· || ·) a b

/-- Applies `f` as often as the number says, and stops early where that changes nothing. -/
def iterate (f : Marks → Marks) : Nat → Marks → Marks
  | 0, m => m
  | n + 1, m =>
    let next := f m
    if next = m then m else iterate f n next

/-- The union of the sets that up to so many applications of `f` lead to. -/
def closure (f : Marks → Marks) : Nat → Marks → Marks
  | 0, m => m
  | n + 1, m =>
    let next := m.join (f m)
    if next = m then m else closure f n next

end Marks

/-- The characters on both sides of each place. -/
def places (text : List Char) : List (Option Char × Option Char) :=
  List.zip (none :: text.map some) (text.map some ++ [none])

namespace Regex

/-- The places where a match may end that began at a marked place. A set of places can grow at most
once for each place, which bounds a repetition without a limit. -/
def run (text : List Char) : Regex → Marks → Marks
  | .empty, m => m
  | .set s, m => false :: List.zipWith (fun c marked => marked && s.mem c) text m
  | .look l, m => List.zipWith (fun (before, after) marked => marked && l.holds before after)
      (places text) m
  | .seq a b, m => run text b (run text a m)
  | .alt a b, m => (run text a m).join (run text b m)
  | .group _ r, m => run text r m
  | .times r least most _, m =>
    let first := Marks.iterate (run text r) least m
    Marks.closure (run text r) (most.elim (text.length + 1) (· - least)) first

def matchesIn (r : Regex) (text : List Char) : Bool :=
  (r.run text (List.replicate (text.length + 1) true)).any id

end Regex

end Pattern
end ImportOrder
