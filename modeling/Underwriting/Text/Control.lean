/-!
Control sequences of terminals inside a text. `shownText` leaves out what a terminal would not draw.
`styleCodes` finds the codes that change how text is drawn, by a narrower grammar: an escape, marks,
numbers of up to four digits between semicolons and a last character. A style that is still open at
the end of a line is ended there and taken up again on the next line.
-/

namespace Underwriting.Text

def isEscape (char : Char) : Bool := char.toNat == 0x1b

def isCancel (char : Char) : Bool := char.toNat == 0x18 || char.toNat == 0x1a

def isBetween (low high : Nat) (char : Char) : Bool := low ≤ char.toNat && char.toNat ≤ high

/-! What a terminal draws. -/

inductive ControlState
  | text
  | escape
  | intermediate
  | parameters
  /-- A string for the terminal; it ends with a bell if it is a command. -/
  | string (endsWithBell : Bool)
deriving DecidableEq

namespace ControlState

def behindEscape (char : Char) : ControlState :=
  if char = '[' then .parameters
  else if char = ']' then .string true
  else if char = 'P' ∨ char = 'X' ∨ char = '^' ∨ char = '_' then .string false
  else if isBetween 0x20 0x2f char then .intermediate
  else if isBetween 0x30 0x7e char then .text
  else .escape

def next (state : ControlState) (char : Char) : ControlState :=
  if isEscape char then .escape
  else if isCancel char then .text
  else match state with
    | .text => .text
    | .escape => behindEscape char
    | .intermediate => if isBetween 0x30 0x7e char then .text else .intermediate
    | .parameters => if isBetween 0x40 0x7e char then .text else .parameters
    | .string endsWithBell =>
        if endsWithBell ∧ char.toNat = 0x07 then .text else .string endsWithBell

end ControlState

def shownFrom (state : ControlState) : List Char → List Char
  | [] => []
  | char :: rest =>
      let shown := shownFrom (state.next char) rest
      if state = .text ∧ !isEscape char then char :: shown else shown

def shownText (text : List Char) : List Char := shownFrom .text text

/-! Codes that change the style. -/

inductive CodeState
  | escape
  | parenthesis
  | marks
  | digits (count : Nat)
  | semicolon
  | complete
deriving DecidableEq

def isCodeMark (char : Char) : Bool := "[]()#;?".toList.contains char

def endsCode (char : Char) : Bool :=
  isBetween 0x41 0x50 char || isBetween 0x66 0x6e char || "RZcqry=<>".toList.contains char

namespace CodeState

def isCode : CodeState → Bool
  | digits _ | complete => true
  | _ => false

def next? (state : CodeState) (char : Char) : Option CodeState :=
  if char.isDigit then
    match state with
    | escape | marks | semicolon => some (digits 1)
    | parenthesis => some (if char ≤ '2' then complete else digits 1)
    | digits count => if count < 4 then some (digits (count + 1)) else
        if count = 4 then some complete else none
    | complete => none
  else if endsCode char then
    match state with
    | complete => none
    | _ => some complete
  else match state with
    | escape => if char = '(' ∨ char = ')' then some parenthesis else
        if isCodeMark char then some marks else none
    | parenthesis | marks => if isCodeMark char then some marks else none
    | digits _ | semicolon => if char = ';' then some semicolon else none
    | complete => none

end CodeState

structure CodeScan where
  codes : List (List Char)
  reading : Option (CodeState × List Char)
  longest : Option (List Char)

namespace CodeScan

def start : CodeScan := ⟨[], none, none⟩

def close (scan : CodeScan) : CodeScan := ⟨scan.codes ++ scan.longest.toList, none, none⟩

def startsCode (char : Char) : Bool := isEscape char || char.toNat == 0x9b

def begin (scan : CodeScan) (char : Char) : CodeScan :=
  if startsCode char then { scan with reading := some (.escape, [char]) } else scan

def take (scan : CodeScan) (char : Char) : CodeScan :=
  match scan.reading with
  | none => scan.begin char
  | some (state, read) =>
      match state.next? char with
      | none => scan.close.begin char
      | some next =>
          { scan with
            reading := some (next, char :: read)
            longest := if next.isCode then some (char :: read).reverse else scan.longest }

end CodeScan

def styleCodes (text : List Char) : List (List Char) :=
  (text.foldl CodeScan.take .start).close.codes

def resetCode : List Char := ['\x1b', '[', '0', 'm']

def openStyles (before : List (List Char)) (text : List Char) : List (List Char) :=
  (styleCodes text).foldl
    (fun styles code => if code = resetCode then [] else styles ++ [code]) before

def closeStyles (styles : List (List Char)) : List (List Char) → List (List Char)
  | [] => []
  | line :: rest =>
      let behind := openStyles styles line
      (styles.flatten ++ line ++ if behind.isEmpty then [] else resetCode) ::
        closeStyles behind rest

end Underwriting.Text
