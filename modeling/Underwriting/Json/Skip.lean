import Underwriting.Json.Token

/-!
Skipping a JSON value of any shape, one token after the other. Only the grammar is looked at: a
quotation may hold units that stand for no character, and a number may be of any size.
-/

namespace Underwriting.Json

inductive Frame
  | list
  | object
deriving DecidableEq

inductive Skip
  | value (frames : List Frame)
  | itemOrEnd (outer : List Frame)
  | nameOrEnd (outer : List Frame)
  | name (outer : List Frame)
  | colon (outer : List Frame)
  | behind (frame : Frame) (outer : List Frame)
deriving DecidableEq

namespace Skip

def afterValue : List Frame → Option Skip
  | [] => none
  | frame :: outer => some (.behind frame outer)

def startValue (frames : List Frame) : Token → Except Fault (Option Skip)
  | .null => .ok (afterValue frames)
  | .flag _ => .ok (afterValue frames)
  | .number _ => .ok (afterValue frames)
  | .text quotation =>
      match quotation.fault with
      | none => .ok (afterValue frames)
      | some fault => .error fault
  | .openList => .ok (some (.itemOrEnd frames))
  | .openObject => .ok (some (.nameOrEnd frames))
  | .brokenWord fault => .error fault
  | _ => .error .malformed

def takeName (outer : List Frame) : Token → Except Fault (Option Skip)
  | .text quotation =>
      match quotation.fault with
      | none => .ok (some (.colon outer))
      | some fault => .error fault
  | _ => .error .malformed

def step : Skip → Token → Except Fault (Option Skip)
  | .value frames, token => startValue frames token
  | .itemOrEnd outer, .closeList => .ok (afterValue outer)
  | .itemOrEnd outer, token => startValue (.list :: outer) token
  | .nameOrEnd outer, .closeObject => .ok (afterValue outer)
  | .nameOrEnd outer, token => takeName outer token
  | .name outer, token => takeName outer token
  | .colon outer, .colon => .ok (some (.value (.object :: outer)))
  | .behind .list outer, .comma => .ok (some (.value (.list :: outer)))
  | .behind .list outer, .closeList => .ok (afterValue outer)
  | .behind .object outer, .comma => .ok (some (.name outer))
  | .behind .object outer, .closeObject => .ok (afterValue outer)
  | _, _ => .error .malformed

end Skip

end Underwriting.Json
