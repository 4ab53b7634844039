import Underwriting.Text.Emoji
import Underwriting.Text.Width

/-!
How many terminal columns a text takes. Mostly that is the sum over its characters, but some
neighbours are drawn as one glyph: a line break of two characters, pictures held together by
joiners, selectors and skin tones, and the ligatures of several scripts. A text is measured from its
end, and of what has been measured only a `Context` is kept.
-/

namespace Underwriting.Text

inductive Following
  | nothing
  | lineFeed
  | picture
  | skinTone
  | joinedPicture
  | joinedKeycap
  | flagLetter
  | flagLetters
  | joinedFlagLetter
  | joinedFlag
  | joinedFlagAndLetter
  /-- The tags behind a flag, of which so many letters and, in front of them, digits are read. -/
  | tags (letters digits : Nat)
  | vowelE
  | vowelAi
  | alef
  | lamed (joined : Bool)
  | ya (joined : Bool)
  | vowelAndYa
  | consonant (joined : Bool)
  | consonantJoiner
  | toneMark
  | orkhonI (joined : Bool)
  | coengLetter
deriving DecidableEq

structure Context where
  following : Following
  asSign : Bool
  asPicture : Bool
deriving DecidableEq

namespace Following

/-- Scripts keep their ligatures across a selector. -/
def isScript : Following → Bool
  | alef | lamed _ | ya _ | vowelAndYa | consonant _ | consonantJoiner | toneMark | orkhonI _
  | coengLetter => true
  | _ => false

def isJoined : Following → Bool
  | joinedPicture | joinedKeycap => true
  | _ => false

def skipsMarks (following : Following) : Bool := following.isScript && following != alef

def join : Following → Following
  | lamed _ => lamed true
  | ya _ => ya true
  | consonant _ => consonant true
  | orkhonI _ => orkhonI true
  | other => other

end Following

namespace Context

def ofFollowing (following : Following) : Context := ⟨following, false, false⟩

def start : Context := ofFollowing .nothing

end Context

def isAlef (position : Nat) : Bool :=
  inRanges #[(0x622, 0x623), (0x625, 0x625), (0x627, 0x627), (0x671, 0x673), (0x675, 0x675),
    (0x773, 0x774), (0x870, 0x882)] position

def isLam (position : Nat) : Bool :=
  inRanges #[(0x644, 0x644), (0x6b5, 0x6b8), (0x76a, 0x76a), (0x8a6, 0x8a6),
    (0x8c7, 0x8c7)] position

/-- Letters that are written below the letter before them behind the sign U+17D2. -/
def isCoengLetter (position : Nat) : Bool :=
  inRanges #[(0x1780, 0x1782), (0x1784, 0x1787), (0x1789, 0x178c), (0x178e, 0x1793),
    (0x1795, 0x1798), (0x179b, 0x179d), (0x17a0, 0x17a0), (0x17a2, 0x17a2), (0x17a7, 0x17a7),
    (0x17ab, 0x17ac), (0x17af, 0x17af)] position

def isTifinaghConsonant (position : Nat) : Bool :=
  inRanges #[(0x2d31, 0x2d65), (0x2d6f, 0x2d6f)] position

def isFlagLetter (position : Nat) : Bool := inRanges #[(0x1f1e6, 0x1f1ff)] position

def isSkinTone (position : Nat) : Bool := inRanges #[(0x1f3fb, 0x1f3ff)] position

def isTagLetter (position : Nat) : Bool := inRanges #[(0xe0061, 0xe007a)] position

def isTagDigit (position : Nat) : Bool := inRanges #[(0xe0030, 0xe0039)] position

def isHiddenMark (position : Nat) : Bool :=
  inRanges #[(0x34f, 0x34f), (0x17b4, 0x17b5), (0x180b, 0x180d), (0x180f, 0x180f), (0x200d, 0x200d),
    (0xfe00, 0xfe0f), (0xe0100, 0xe01ef)] position

def unjoiningRanges : Array (Nat × Nat) := #[
  (0x605, 0x605), (0x890, 0x891), (0x8e2, 0x8e2), (0x9be, 0x9be), (0x9d7, 0x9d7), (0xb3e, 0xb3e),
  (0xb57, 0xb57), (0xbbe, 0xbbe), (0xbd7, 0xbd7), (0xcc0, 0xcc0), (0xcc2, 0xcc2), (0xcc7, 0xcc8),
  (0xcca, 0xccb), (0xcd5, 0xcd6), (0xd3e, 0xd3e), (0xd4e, 0xd4e), (0xd57, 0xd57), (0xdcf, 0xdcf),
  (0xddf, 0xddf), (0x1160, 0x11ff), (0x1715, 0x1715), (0x1734, 0x1734), (0x180e, 0x180e),
  (0x1b35, 0x1b35), (0x1b3b, 0x1b3b), (0x1b3d, 0x1b3d), (0x1b43, 0x1b44), (0x1baa, 0x1baa),
  (0x1bf2, 0x1bf3), (0x200c, 0x200d), (0x2065, 0x2069), (0x302e, 0x302f), (0x3164, 0x3164),
  (0xa8fa, 0xa8fa), (0xa953, 0xa953), (0xa9c0, 0xa9c0), (0xd7b0, 0xd7c6), (0xd7cb, 0xd7fb),
  (0xffa0, 0xffa0), (0xfff0, 0xfff8), (0x111c0, 0x111c0), (0x111c2, 0x111c3), (0x11235, 0x11235),
  (0x1133e, 0x1133e), (0x1134d, 0x1134d), (0x11357, 0x11357), (0x113b8, 0x113b8),
  (0x113c2, 0x113c2), (0x113c5, 0x113c5), (0x113c7, 0x113c9), (0x113cf, 0x113cf),
  (0x113d1, 0x113d1), (0x114b0, 0x114b0), (0x114bd, 0x114bd), (0x115af, 0x115af),
  (0x116b6, 0x116b6), (0x11930, 0x11930), (0x1193d, 0x1193d), (0x1193f, 0x1193f),
  (0x11941, 0x11941), (0x11a3a, 0x11a3a), (0x11a84, 0x11a89), (0x11d46, 0x11d46),
  (0x11f02, 0x11f02), (0x11f41, 0x11f41), (0x16ff0, 0x16ff1), (0x1d165, 0x1d166),
  (0x1d16d, 0x1d172), (0xe0000, 0xe0000), (0xe0002, 0xe001f), (0xe0080, 0xe00ff),
  (0xe01f0, 0xe0fff)]

def joinsThrough (char : Char) : Bool :=
  charWidth char == 0 && !inRanges unjoiningRanges char.toNat

def followingOf (char : Char) : Following :=
  let position := char.toNat
  if char = '\n' then .lineFeed
  else if position = 0x5dc then .lamed false
  else if isAlef position then .alef
  else if isCoengLetter position then .coengLetter
  else if position = 0x1a10 then .ya false
  else if isTifinaghConsonant position then .consonant false
  else if position = 0xa4fc ∨ position = 0xa4fd then .toneMark
  else if position = 0x10c03 then .orkhonI false
  else if position = 0x16d67 then .vowelE
  else if position = 0x16d68 then .vowelAi
  else if isFlagLetter position then .flagLetter
  else if isSkinTone position then .skinTone
  else if isPicture char then .picture
  else .nothing

def ligature? (char : Char) : Following → Option (Int × Following)
  | .alef =>
      if isLam char.toNat then some (0, .nothing)
      else if joinsThrough char then some (0, .alef)
      else none
  | .lamed true => if char.toNat = 0x5d0 then some (0, .nothing) else none
  | .coengLetter => if char.toNat = 0x17d2 then some (-1, .nothing) else none
  | .ya true => if char.toNat = 0x1a17 then some (0, .vowelAndYa) else none
  | .vowelAndYa => if char.toNat = 0x1a15 then some (0, .nothing) else none
  | .consonant joined =>
      if char.toNat = 0x2d7f then some (1, .consonantJoiner)
      else if joined ∧ isTifinaghConsonant char.toNat then some (0, .nothing)
      else none
  | .consonantJoiner => if isTifinaghConsonant char.toNat then some (-1, .nothing) else none
  | .toneMark => if inRanges #[(0xa4f8, 0xa4fb)] char.toNat then some (0, .nothing) else none
  | .orkhonI true => if char.toNat = 0x10c32 then some (0, .nothing) else none
  | .vowelE =>
      if char.toNat = 0x16d63 ∨ char.toNat = 0x16d69 then some (0, .nothing)
      else if char.toNat = 0x16d67 then some (0, .vowelAi)
      else if char.toNat = 0x16d68 then some (1, .vowelE)
      else none
  | .vowelAi => if char.toNat = 0x16d63 then some (0, .nothing) else none
  | .picture => if char.toNat = 0x200d then some (0, .joinedPicture) else none
  | .skinTone =>
      if takesSkinTone char then some (0, .picture)
      else if char.toNat = 0x200d then some (0, .joinedPicture)
      else none
  | .flagLetter => if isFlagLetter char.toNat then some (1, .flagLetters) else none
  | .flagLetters =>
      if isFlagLetter char.toNat then some (1, .flagLetters)
      else if char.toNat = 0x200d then some (0, .joinedPicture)
      else none
  | .joinedPicture =>
      if char.toNat = 0x20e3 then some (0, .joinedKeycap)
      else if isFlagLetter char.toNat then some (1, .joinedFlagLetter)
      else if isSkinTone char.toNat then some (0, .skinTone)
      else if char.toNat = 0xe007f then some (0, .tags 0 0)
      else if isPicture char then some (0, .picture)
      else none
  | .joinedFlagLetter => if isFlagLetter char.toNat then some (-1, .joinedFlag) else none
  | .joinedFlag =>
      if isFlagLetter char.toNat then some (3, .joinedFlagAndLetter)
      else if char.toNat = 0x200d then some (0, .joinedPicture)
      else none
  | .joinedFlagAndLetter =>
      if isFlagLetter char.toNat then some (-1, .joinedFlag)
      else if char.toNat = 0x200d then some (0, .joinedPicture)
      else none
  | .tags letters digits =>
      if digits = 0 ∧ letters < 6 ∧ isTagLetter char.toNat then some (0, .tags (letters + 1) 0)
      else if letters ≤ 4 ∧ digits < 3 ∧ isTagDigit char.toNat then
        some (0, .tags letters (digits + 1))
      else if (digits = 0 ∧ 3 ≤ letters ∨ digits = 3) ∧ char.toNat = 0x1f3f4 then some (0, .picture)
      else none
  | _ => none

namespace Context

def takeDrawn (context : Context) (char : Char) : Int × Context :=
  match ligature? char context.following with
  | some (columns, following) => (columns, ofFollowing following)
  | none => (charWidth char, ofFollowing (followingOf char))

def takeSelector (context : Context) (picture : Bool) : Int × Context :=
  let following := context.following
  if following.isScript then
    (0, { context with asPicture := picture, asSign := context.asSign || !picture })
  else if picture ∧ following.isJoined then (0, { context with asPicture := true })
  else (0, ⟨.nothing, !picture, picture⟩)

def takePlain (context : Context) (char : Char) : Int × Context :=
  if context.following.skipsMarks ∧ isHiddenMark char.toNat then
    (0, if char.toNat = 0x200d then ofFollowing context.following.join else context)
  else context.takeDrawn char

def take (context : Context) (char : Char) : Int × Context :=
  if context.asPicture ∧ leavesChoice char then
    (if context.following.isJoined then 0 else 2, ofFollowing .picture)
  else
    let context :=
      if context.asPicture ∧ !context.following.isScript then start
      else { context with asPicture := false }
    if char.toNat ≤ 0xa0 then
      let width := if char = '\r' ∧ context = ofFollowing .lineFeed then 0 else 1
      (width, ofFollowing (followingOf char))
    else if char.toNat = 0xfe0f then context.takeSelector true
    else if char.toNat = 0xfe0e then context.takeSelector false
    else if context.asSign then
      if shrinksToSign char then (1, start)
      else { context with asSign := false }.takePlain char
    else context.takePlain char

end Context

def measure : List Char → Int × Context
  | [] => (0, .start)
  | char :: rest =>
      let (columns, context) := measure rest
      let (more, context) := context.take char
      (columns + more, context)

def displayWidth (text : List Char) : Nat := (measure text).1.toNat

end Underwriting.Text
