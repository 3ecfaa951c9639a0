import ImportOrder.Pattern.Reader
import ImportOrder.Policy
import ImportOrder.Text.Lines

/-!
# ImportOrder.Group

The groups that module paths fall into. A group is given by a pattern; a path belongs to the first
group that takes it, and to a last group behind them all if none does.
-/

namespace ImportOrder

open Text

/-- What a pattern of a policy stands for. A text that is no regular expression stands for the
paths that contain it. -/
inductive PathGroup where
  | thirdParty
  | ownModules
  | regex (r : Pattern.Regex)
  | literal (text : List Char)
  deriving Repr, DecidableEq

/-- A path that leads to a module of the project itself. -/
def isOwnPath : List Char → Bool
  | c :: _ => c == '.' || c == '/'
  | [] => false

namespace PathGroup

def thirdPartyName : String := "<THIRD_PARTY_MODULES>"

def ownModulesName : String := "<LOCAL_MODULES>"

def ofPattern (pattern : String) : PathGroup :=
  if pattern = thirdPartyName then .thirdParty
  else if pattern = ownModulesName then .ownModules
  else
    match Pattern.read? pattern.toList with
    | some r => .regex r
    | none => .literal pattern.toList

def takes (path : List Char) : PathGroup → Bool
  | .thirdParty => !isOwnPath path
  | .ownModules => isOwnPath path
  | .regex r => r.matchesIn path
  | .literal text => occursIn text path

end PathGroup

/-- The groups of a policy, the first group first. -/
structure Grouping where
  groups : List PathGroup
  deriving Repr, DecidableEq

namespace Grouping

def ofPatterns (patterns : List String) : Grouping :=
  ⟨patterns.map .ofPattern⟩

/-- The place of a path's group: that of the first group to take it, or the last place. -/
def index (g : Grouping) (path : List Char) : Nat :=
  g.groups.findIdx (·.takes path)

/-- The last place, of the paths that no group takes. -/
def lastIndex (g : Grouping) : Nat :=
  g.groups.length

end Grouping

namespace Policy

/-- The pattern for a policy that names none: paths of other projects' modules. -/
def standardPattern : String := "^[^./]"

def patterns (p : Policy) : List String :=
  if p.order.isEmpty then [standardPattern] else p.order

def grouping (p : Policy) : Grouping :=
  .ofPatterns p.patterns

end Policy
end ImportOrder
