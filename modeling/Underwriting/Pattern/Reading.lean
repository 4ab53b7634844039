import Underwriting.Pattern.Basic
import Underwriting.Text.Digits

/-!
Written patterns. A character stands for itself unless it is a mark; marks choose, repeat, group or
stand for sets of characters, and a backslash takes a mark as it is or names a set. The named sets
hold the characters of ASCII only. A pattern of which a part is missing or unknown cannot be read.
-/

namespace Underwriting.Pattern

structure Mode where
  anyCase : Bool
  /-- A plain repetition is not eager. -/
  swapped : Bool
deriving DecidableEq

namespace CharSet

def letters : CharSet := .either (.between 0x41 0x5a) (.between 0x61 0x7a)

def digits : CharSet := .between 0x30 0x39

def blanks : CharSet := .either (.between 0x09 0x0d) (CharSet.single ' ')

def wordChars : CharSet := .either letters (.either digits (CharSet.single '_'))

def visible : CharSet := .between 0x21 0x7e

def symbols : CharSet := CharSet.union ("$+<=>^`|~".toList.map CharSet.single)

def punctuation : CharSet :=
  .both visible (.outside (.either letters (.either digits symbols)))

def controls : CharSet := .either (.between 0 0x1f) (.between 0x7f 0x7f)

def ofLetter? : Char → Option CharSet
  | 'd' => some digits
  | 's' => some blanks
  | 'w' => some wordChars
  | 'D' => some (.outside digits)
  | 'S' => some (.outside blanks)
  | 'W' => some (.outside wordChars)
  | _ => none

def ofKind? : Char → Option CharSet
  | 'L' => some letters
  | 'N' => some digits
  | 'P' => some punctuation
  | 'S' => some symbols
  | 'Z' => some (CharSet.single ' ')
  | 'C' => some controls
  | 'M' => some .nothing
  | _ => none

def ofName? (name : List Char) : Option CharSet :=
  match String.ofList name with
  | "alnum" => some (.either letters digits)
  | "alpha" => some letters
  | "ascii" => some (.between 0 0x7f)
  | "blank" => some (.either (CharSet.single '\t') (CharSet.single ' '))
  | "cntrl" => some controls
  | "digit" => some digits
  | "graph" => some visible
  | "lower" => some (.between 0x61 0x7a)
  | "print" => some (.between 0x20 0x7e)
  | "punct" => some (.both visible (.outside (.either letters digits)))
  | "space" => some blanks
  | "upper" => some (.between 0x41 0x5a)
  | "word" => some wordChars
  | "xdigit" => some (.either digits (.either (.between 0x41 0x46) (.between 0x61 0x66)))
  | _ => none

end CharSet

inductive Escaped
  | char (char : Char)
  | set (set : CharSet)
  | place (pattern : Pattern)

def numbered? (width : Nat) (text : List Char) : Option (Escaped × List Char) :=
  match Text.ofHexDigits? (text.take width) with
  | none => none
  | some code =>
      if width ≤ text.length ∧ code.isValidChar then
        some (.char (Char.ofNat code), text.drop width)
      else none

def isEscapable (char : Char) : Bool :=
  char.toNat < 0x80 && !char.isAlphanum && char != '<' && char != '>'

def readEscaped : List Char → Option (Escaped × List Char)
  | [] => none
  | 'x' :: rest => numbered? 2 rest
  | 'u' :: rest => numbered? 4 rest
  | 'U' :: rest => numbered? 8 rest
  | 'A' :: rest => some (.place .first, rest)
  | 'z' :: rest => some (.place .last, rest)
  | 'a' :: rest => some (.char '\x07', rest)
  | 'f' :: rest => some (.char '\x0c', rest)
  | 'n' :: rest => some (.char '\n', rest)
  | 'r' :: rest => some (.char '\r', rest)
  | 't' :: rest => some (.char '\t', rest)
  | 'v' :: rest => some (.char '\x0b', rest)
  | 'p' :: kind :: rest => (CharSet.ofKind? kind).map fun set => (.set set, rest)
  | 'P' :: kind :: rest => (CharSet.ofKind? kind).map fun set => (.set (.outside set), rest)
  | char :: rest =>
      match CharSet.ofLetter? char with
      | some set => some (.set set, rest)
      | none => if isEscapable char then some (.char char, rest) else none

namespace Mode

def setOf (mode : Mode) (set : CharSet) : CharSet := if mode.anyCase then .anyCase set else set

def oneOf (mode : Mode) (char : Char) : Pattern := .one (mode.setOf (CharSet.single char))

end Mode

inductive Member
  | char (char : Char)
  | set (set : CharSet)

def readMember : List Char → Option (Member × List Char)
  | [] => none
  | '\\' :: rest =>
      match readEscaped rest with
      | some (.char char, rest) => some (.char char, rest)
      | some (.set set, rest) => some (.set set, rest)
      | _ => none
  | char :: rest => some (.char char, rest)

/-- A member, or all characters between two of them. A dash in front of the end or of another dash
is none between characters. -/
def readRange (mode : Mode) (text : List Char) : Option (CharSet × List Char) := do
  let (low, rest) ← readMember text
  let alone : CharSet :=
    match low with
    | .char char => mode.setOf (CharSet.single char)
    | .set set => set
  match rest with
  | [] => none
  | '-' :: ']' :: _ => return (alone, rest)
  | '-' :: '-' :: _ => return (alone, rest)
  | '-' :: rest =>
      match low, ← readMember rest with
      | .char low, (.char high, rest) =>
          if low ≤ high then return (mode.setOf (.between low.toNat high.toNat), rest) else none
      | _, _ => none
  | _ => return (alone, rest)

inductive Combination
  | both
  | without
  | onlyOne

def Combination.apply : Combination → CharSet → CharSet → CharSet
  | both, left, right => .both left right
  | without, left, right => .both left (.outside right)
  | onlyOne, left, right =>
      .both (.either left right) (.outside (.both left right))

structure Gathering where
  front : Option (CharSet × Combination)
  members : CharSet

namespace Gathering

def start : Gathering := ⟨none, .nothing⟩

def insert (gathering : Gathering) (set : CharSet) : Gathering :=
  { gathering with members := .either gathering.members set }

def finish (gathering : Gathering) : CharSet :=
  match gathering.front with
  | none => gathering.members
  | some (front, combination) => combination.apply front gathering.members

def combine (gathering : Gathering) (combination : Combination) : Gathering :=
  ⟨some (gathering.finish, combination), .nothing⟩

end Gathering

def readNamed (text : List Char) : Option (CharSet × List Char) :=
  match text with
  | ':' :: rest =>
      let negated := rest.head? = some '^'
      let rest := if negated then rest.drop 1 else rest
      let name := rest.takeWhile (· != ':')
      match rest.drop name.length, CharSet.ofName? name with
      | ':' :: ']' :: rest, some set => some (if negated then .outside set else set, rest)
      | _, _ => none
  | _ => none

def openSet (mode : Mode) (text : List Char) : Bool × Gathering × List Char :=
  let negated := text.head? = some '^'
  let text := if negated then text.drop 1 else text
  let dashes := text.takeWhile (· == '-')
  let rest := text.drop dashes.length
  let start := dashes.foldl (fun gathering dash => gathering.insert (CharSet.single dash)) .start
  match dashes, rest with
  | [], ']' :: rest => (negated, start.insert (mode.setOf (CharSet.single ']')), rest)
  | _, _ => (negated, start, rest)

def readMembers : Nat → Mode → Gathering → List Char → Option (CharSet × List Char)
  | 0, _, _, _ => none
  | fuel + 1, mode, gathering, text =>
      match text with
      | [] => none
      | ']' :: rest => some (gathering.finish, rest)
      | '&' :: '&' :: rest => readMembers fuel mode (gathering.combine .both) rest
      | '-' :: '-' :: rest => readMembers fuel mode (gathering.combine .without) rest
      | '~' :: '~' :: rest => readMembers fuel mode (gathering.combine .onlyOne) rest
      | '[' :: rest =>
          match readNamed rest with
          | some (set, rest) => readMembers fuel mode (gathering.insert set) rest
          | none =>
              let (negated, start, rest) := openSet mode rest
              match readMembers fuel mode start rest with
              | none => none
              | some (set, rest) =>
                  let set := if negated then .outside set else set
                  readMembers fuel mode (gathering.insert set) rest
      | text =>
          match readRange mode text with
          | none => none
          | some (set, rest) => readMembers fuel mode (gathering.insert set) rest

def readSet (mode : Mode) (text : List Char) : Option (CharSet × List Char) :=
  let (negated, start, rest) := openSet mode text
  (readMembers (text.length + 1) mode start rest).map fun (set, rest) =>
    (if negated then .outside set else set, rest)

def readMarks (mode : Mode) (seen : List Char) (undo : Bool) :
    List Char → Option (Mode × List Char)
  | [] => none
  | char :: rest =>
      if char == ')' || char == ':' then
        if seen.head? = some '-' then none else some (mode, char :: rest)
      else if seen.contains char then none
      else
        match char with
        | '-' => readMarks mode (char :: seen) true rest
        | 'i' => readMarks { mode with anyCase := !undo } (char :: seen) undo rest
        | 'U' => readMarks { mode with swapped := !undo } (char :: seen) undo rest
        | _ =>
            if "msuxR".toList.contains char then readMarks mode (char :: seen) undo rest else none

inductive Opening
  | mode (mode : Mode) (rest : List Char)
  | group (mode : Mode) (rest : List Char)

def startsName (char : Char) : Bool := char.isAlpha || char == '_'

def continuesName (char : Char) : Bool :=
  char.isAlphanum || char == '_' || char == '.' || char == '[' || char == ']'

def readNamedGroup (mode : Mode) (text : List Char) : Option Opening :=
  let name := text.takeWhile continuesName
  match text.drop name.length with
  | '>' :: rest => if name.head?.any startsName then some (.group mode rest) else none
  | _ => none

def readOpening (mode : Mode) : List Char → Option Opening
  | '?' :: 'P' :: '<' :: rest => readNamedGroup mode rest
  | '?' :: '<' :: rest => readNamedGroup mode rest
  | '?' :: rest =>
      match readMarks mode [] false rest with
      | some (changed, ')' :: behind) =>
          if rest.head? = some ')' then none else some (.mode changed behind)
      | some (changed, ':' :: behind) => some (.group changed behind)
      | _ => none
  | rest => some (.group mode rest)

structure Draft where
  mode : Mode
  choices : List Pattern
  items : List Pattern
  latest : Option Pattern

namespace Draft

def start (mode : Mode) : Draft := ⟨mode, [], [], none⟩

def settle (draft : Draft) : Draft :=
  { draft with items := draft.latest.toList ++ draft.items, latest := none }

def push (draft : Draft) (item : Pattern) : Draft := { draft.settle with latest := some item }

def changeMode (draft : Draft) (mode : Mode) : Draft := { draft.settle with mode }

def alternative (draft : Draft) : Pattern :=
  draft.settle.items.foldl (fun behind item => .sequence item behind) .empty

def nextChoice (draft : Draft) : Draft :=
  ⟨draft.mode, draft.alternative :: draft.choices, [], none⟩

def finish (draft : Draft) : Pattern :=
  draft.choices.foldl (fun behind choice => .choice choice behind) draft.alternative

def repeated? (draft : Draft) (mark : Char) (reluctant : Bool) : Option Draft :=
  let eager := reluctant == draft.mode.swapped
  draft.latest.map fun item =>
    let again : Pattern :=
      match mark with
      | '*' => .repeated eager item
      | '+' => .sequence item (.repeated eager item)
      | _ => if eager then .choice item .empty else .choice .empty item
    { draft with latest := some again }

end Draft

def anyChar : CharSet := .outside (CharSet.single '\n')

def readDraft : Nat → Draft → List Char → Option (Pattern × List Char)
  | 0, _, _ => none
  | fuel + 1, draft, text =>
      match text with
      | [] => some (draft.finish, [])
      | ')' :: rest => some (draft.finish, ')' :: rest)
      | '|' :: rest => readDraft fuel draft.nextChoice rest
      | '.' :: rest => readDraft fuel (draft.push (.one anyChar)) rest
      | '^' :: rest => readDraft fuel (draft.push .first) rest
      | '$' :: rest => readDraft fuel (draft.push .last) rest
      | '(' :: rest =>
          match readOpening draft.mode rest with
          | none => none
          | some (.mode mode rest) => readDraft fuel (draft.changeMode mode) rest
          | some (.group mode rest) =>
              match readDraft fuel (.start mode) rest with
              | some (inner, ')' :: rest) => readDraft fuel (draft.push inner) rest
              | _ => none
      | '[' :: rest =>
          match readSet draft.mode rest with
          | none => none
          | some (set, rest) => readDraft fuel (draft.push (.one set)) rest
      | '\\' :: rest =>
          match readEscaped rest with
          | none => none
          | some (.char char, rest) => readDraft fuel (draft.push (draft.mode.oneOf char)) rest
          | some (.set set, rest) => readDraft fuel (draft.push (.one set)) rest
          | some (.place place, rest) => readDraft fuel (draft.push place) rest
      | char :: rest =>
          if char == '*' || char == '+' || char == '?' then
            let reluctant := rest.head? = some '?'
            match draft.repeated? char reluctant with
            | none => none
            | some draft => readDraft fuel draft (if reluctant then rest.drop 1 else rest)
          else if char == '\x7b' then none
          else readDraft fuel (draft.push (draft.mode.oneOf char)) rest

def ofChars? (text : List Char) : Option Pattern :=
  match readDraft (text.length + 1) (.start ⟨false, false⟩) text with
  | some (pattern, []) => some pattern
  | _ => none

end Underwriting.Pattern
