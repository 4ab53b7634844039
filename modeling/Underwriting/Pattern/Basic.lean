/-!
Patterns of texts. Of the ways in which a pattern fits, those that the pattern prefers come first:
as soon as one of them has reached its end, those behind it are given up. A text fits if a way that
is not given up ends where the text ends.
-/

namespace Underwriting

inductive CharSet
  | nothing
  | between (low high : Nat)
  | either (left right : CharSet)
  | both (left right : CharSet)
  | outside (inner : CharSet)
  | anyCase (inner : CharSet)
deriving DecidableEq

namespace CharSet

def contains (char : Char) : CharSet → Bool
  | nothing => false
  | between low high => low ≤ char.toNat && char.toNat ≤ high
  | either left right => left.contains char || right.contains char
  | both left right => left.contains char && right.contains char
  | outside inner => !inner.contains char
  | anyCase inner => inner.contains char.toLower || inner.contains char.toUpper

def single (char : Char) : CharSet := between char.toNat char.toNat

def union (sets : List CharSet) : CharSet := sets.foldl either nothing

end CharSet

inductive Pattern
  | empty
  | first
  | last
  | one (set : CharSet)
  | sequence (front back : Pattern)
  | choice (preferred other : Pattern)
  /-- An eager repetition prefers to go on, the other kind prefers to end. -/
  | repeated (eager : Bool) (body : Pattern)
deriving DecidableEq

namespace Pattern

inductive Step
  | done
  | take (set : CharSet) (rest : Pattern)
deriving DecidableEq

def Step.isTake : Step → Bool
  | done => false
  | take _ _ => true

def Step.after? (char : Char) : Step → Option Pattern
  | done => none
  | take set rest => if set.contains char then some rest else none

/-- The steps that are possible at a place of a text, the preferred ones first. A round of a
repetition that takes nothing ends it. -/
def steps (atFirst atLast : Bool) : Pattern → List Step
  | empty => [.done]
  | first => if atFirst then [.done] else []
  | last => if atLast then [.done] else []
  | one set => [.take set empty]
  | sequence front back =>
      (steps atFirst atLast front).flatMap fun step =>
        match step with
        | .done => steps atFirst atLast back
        | .take set rest => [.take set (sequence rest back)]
  | choice preferred other => steps atFirst atLast preferred ++ steps atFirst atLast other
  | repeated eager body =>
      let rounds := (steps atFirst atLast body).map fun step =>
        match step with
        | .done => .done
        | .take set rest => .take set (sequence rest (repeated eager body))
      if eager then rounds ++ [.done] else .done :: rounds

def anyFits (atFirst : Bool) (ways : List Pattern) : List Char → Bool
  | [] => (ways.flatMap (steps atFirst true)).contains .done
  | char :: rest =>
      let going := (ways.flatMap (steps atFirst false)).takeWhile Step.isTake
      anyFits false (going.filterMap (Step.after? char)).eraseDups rest

def fits (pattern : Pattern) (text : List Char) : Bool := anyFits true [pattern] text

end Pattern

end Underwriting
