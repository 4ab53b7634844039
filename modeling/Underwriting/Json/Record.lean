import Underwriting.Json.Scalar
import Underwriting.Json.Skip

/-!
Records of three scalar members, written as an object with the members in any order or as a list
of all three. An object may have members of other names, which are skipped; a member that is given
twice or is left out without a value to stand for it does not fit. The first fault from the left
is the one that is reported.
-/

namespace Underwriting.Json

structure Member (α : Type) where
  name : String
  read : Scalar → Option α
  missing : Option α

def Member.readToken {α : Type} (member : Member α) (token : Token) : Except Fault α :=
  token.toScalar.bind fun scalar =>
    match member.read scalar with
    | some value => .ok value
    | none => .error .unfit

def Member.orMissing {α : Type} (member : Member α) (found : Option α) : Except Fault α :=
  match found with
  | some value => .ok value
  | none =>
      match member.missing with
      | some value => .ok value
      | none => .error .unfit

structure Shape (α β γ : Type) where
  first : Member α
  second : Member β
  third : Member γ

structure Found (α β γ : Type) where
  first : Option α
  second : Option β
  third : Option γ

def Found.empty {α β γ : Type} : Found α β γ := ⟨none, none, none⟩

inductive Slot
  | first
  | second
  | third
  | other
deriving DecidableEq

inductive Place
  | start
  | nameOrEnd
  | name
  | colon (slot : Slot)
  | value (slot : Slot)
  | skipping (skip : Skip)
  | behindMember
  | itemOrEnd
  | item (slot : Slot)
  | behindItem (slot : Slot)
  | complete
deriving DecidableEq

def Place.ofSkip : Option Skip → Place
  | some skip => .skipping skip
  | none => .behindMember

namespace Shape

variable {α β γ : Type}

structure State (α β γ : Type) where
  place : Place
  found : Found α β γ

def slotOf (shape : Shape α β γ) (name : List Char) : Slot :=
  if name = shape.first.name.toList then .first
  else if name = shape.second.name.toList then .second
  else if name = shape.third.name.toList then .third
  else .other

def isFound (found : Found α β γ) : Slot → Bool
  | .first => found.first.isSome
  | .second => found.second.isSome
  | .third => found.third.isSome
  | .other => false

def readInto (shape : Shape α β γ) (found : Found α β γ) (slot : Slot) (token : Token) :
    Except Fault (Found α β γ) :=
  match slot with
  | .first => (shape.first.readToken token).map fun value => { found with first := some value }
  | .second => (shape.second.readToken token).map fun value => { found with second := some value }
  | .third => (shape.third.readToken token).map fun value => { found with third := some value }
  | .other => .ok found

def close (shape : Shape α β γ) (found : Found α β γ) : Except Fault (Found α β γ) := do
  let first ← shape.first.orMissing found.first
  let second ← shape.second.orMissing found.second
  let third ← shape.third.orMissing found.third
  return ⟨some first, some second, some third⟩

def takeName (shape : Shape α β γ) (found : Found α β γ) : Token → Except Fault (State α β γ)
  | .text quotation =>
      quotation.content.bind fun name =>
        let slot := shape.slotOf name
        if isFound found slot then .error .unfit else .ok ⟨.colon slot, found⟩
  | _ => .error .malformed

def takeValue (shape : Shape α β γ) (found : Found α β γ) (slot : Slot) (token : Token) :
    Except Fault (State α β γ) :=
  match slot with
  | .other => (Skip.startValue [] token).map fun skip => ⟨.ofSkip skip, found⟩
  | _ => (shape.readInto found slot token).map fun found => ⟨.behindMember, found⟩

def takeItem (shape : Shape α β γ) (found : Found α β γ) (slot : Slot) (token : Token) :
    Except Fault (State α β γ) :=
  (shape.readInto found slot token).map fun found => ⟨.behindItem slot, found⟩

def nextSlot : Slot → Option Slot
  | .first => some .second
  | .second => some .third
  | _ => none

def takeStart : Token → Except Fault Place
  | .openObject => .ok .nameOrEnd
  | .openList => .ok .itemOrEnd
  | token => token.toScalar.bind fun _ => .error .unfit

def step (shape : Shape α β γ) (state : State α β γ) (token : Token) :
    Except Fault (State α β γ) :=
  match state.place, token with
  | .start, _ => (takeStart token).map (⟨·, state.found⟩)
  | .nameOrEnd, .closeObject => (shape.close state.found).map (⟨.complete, ·⟩)
  | .nameOrEnd, _ => shape.takeName state.found token
  | .name, _ => shape.takeName state.found token
  | .colon slot, .colon => .ok ⟨.value slot, state.found⟩
  | .value slot, _ => shape.takeValue state.found slot token
  | .skipping skip, _ =>
      (skip.step token).map fun skip => ⟨.ofSkip skip, state.found⟩
  | .behindMember, .comma => .ok ⟨.name, state.found⟩
  | .behindMember, .closeObject => (shape.close state.found).map (⟨.complete, ·⟩)
  | .itemOrEnd, .closeList => .error .unfit
  | .itemOrEnd, _ => shape.takeItem state.found .first token
  | .item slot, _ => shape.takeItem state.found slot token
  | .behindItem slot, .comma =>
      match nextSlot slot with
      | some slot => .ok ⟨.item slot, state.found⟩
      | none => .error .malformed
  | .behindItem slot, .closeList =>
      if (nextSlot slot).isSome then .error .unfit else .ok ⟨.complete, state.found⟩
  | _, _ => .error .malformed

def run (shape : Shape α β γ) (state : State α β γ) : List Token → Except Fault (State α β γ)
  | [] => .ok state
  | token :: rest => (shape.step state token).bind fun next => shape.run next rest

def read (shape : Shape α β γ) (text : List Char) : Except Fault (α × β × γ) :=
  (shape.run ⟨.start, .empty⟩ (Token.ofChars text)).bind fun state =>
    match state.place, state.found with
    | .complete, ⟨some first, some second, some third⟩ => .ok (first, second, third)
    | _, _ => .error .incomplete

end Shape

end Underwriting.Json
