import Underwriting.Json.Basic
import Underwriting.Json.Token

/-!
Quoted texts. What is written between quotation marks is scanned up to the closing mark, whatever
comes behind it, and stands for the characters that were written, those that were escaped included.
-/

namespace Underwriting.Json

def Piece.ofChar (char : Char) : Piece :=
  if (escaped char).length = 6 then .unit char.toNat else .char char

theorem ofHexDigits?_escaped :
    ∀ code < 0x20, Text.ofHexDigits? ['0', '0', hexDigit (code / 16), hexDigit code] = some code := by
  decide

namespace Quotation

def ofContent (content : List Char) : Quotation :=
  ⟨content.map Piece.ofChar, (content.flatMap escaped).length + 1, none⟩

theorem scan_plain {char : Char} (noMark : char ≠ '"') (noBackslash : char ≠ '\\')
    (noControl : ¬char.toNat < 0x20) (rest : List Char) :
    scan (char :: rest) = (scan rest).cons (.char char) 1 := by
  rw [scan]
  · exact if_neg noControl
  all_goals simp_all

theorem scan_escaped (char : Char) (rest : List Char) :
    scan (escaped char ++ rest) =
      (scan rest).cons (Piece.ofChar char) (escaped char).length := by
  unfold Piece.ofChar escaped
  split
  case h_8 noMark noBackslash _ _ _ _ _ =>
    split
    · rename_i control
      simp [scan, ofHexDigits?_escaped _ control]
    · rename_i noControl
      exact scan_plain noMark noBackslash noControl rest
  all_goals rfl

theorem scan_written (content rest : List Char) :
    scan (content.flatMap escaped ++ '"' :: rest) = ofContent content := by
  induction content with
  | nil => rfl
  | cons char others ih =>
      rw [List.flatMap_cons, List.append_assoc, scan_escaped, ih]
      simp [ofContent, cons, Nat.add_assoc]

theorem decode_unit {code : Nat} (small : code < 0xd800) (fault : Option Fault)
    (rest : List Piece) :
    decode fault (.unit code :: rest) = (decode fault rest).map (Char.ofNat code :: ·) := by
  have notLeading : isLeading code = false := by simp [isLeading]; omega
  have notTrailing : isTrailing code = false := by simp [isTrailing]; omega
  cases rest with
  | nil => simp [decode, notLeading, notTrailing]
  | cons piece others => cases piece <;> simp [decode, notLeading, notTrailing]

theorem decode_ofChar (char : Char) (fault : Option Fault) (rest : List Piece) :
    decode fault (Piece.ofChar char :: rest) = (decode fault rest).map (char :: ·) := by
  unfold Piece.ofChar
  split
  · rename_i byNumber
    have small : char.toNat < 0xd800 := by
      unfold escaped at byNumber
      split at byNumber
      case h_8 =>
        split at byNumber
        · omega
        · simp at byNumber
      all_goals simp at byNumber
    rw [decode_unit small, Char.ofNat_toNat]
  · simp [decode]

theorem content_ofContent (content : List Char) : (ofContent content).content = .ok content := by
  change decode none (content.map Piece.ofChar) = _
  induction content with
  | nil => rfl
  | cons char rest ih => rw [List.map_cons, decode_ofChar, ih, Except.map]

end Quotation

end Underwriting.Json
