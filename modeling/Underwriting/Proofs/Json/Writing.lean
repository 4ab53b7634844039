import Underwriting.Proofs.Json.Quotation
import Underwriting.Proofs.Json.WholeNumber
import Underwriting.Proofs.Text.IntegerLiteral

/-!
The tokens of a JSON value. Both of its texts, the one without blanks and the one with a line for each
member, are scanned as them.
-/

namespace Underwriting.Json

mutual

def tokens : Json → List Token
  | .null => [.null]
  | .flag value => [.flag value]
  | .number value => [.number (.ofInt value)]
  | .text content => [.text (.ofContent content.toList)]
  | .list items => .openList :: itemTokens items ++ [.closeList]
  | .object members => .openObject :: memberTokens members ++ [.closeObject]

def itemTokens : List Json → List Token
  | [] => []
  | [item] => tokens item
  | item :: next :: rest => tokens item ++ .comma :: itemTokens (next :: rest)

def memberTokens : List (String × Json) → List Token
  | [] => []
  | [(name, value)] => .text (.ofContent name.toList) :: .colon :: tokens value
  | (name, value) :: next :: rest =>
      .text (.ofContent name.toList) :: .colon :: tokens value ++ .comma :: memberTokens (next :: rest)

end

def ReadsAs (text : List Char) (tokens : List Token) : Prop :=
  ∀ rest, EndsNumber rest → Token.listFrom 0 (text ++ rest) = tokens ++ Token.listFrom 0 rest

theorem listFrom_length (front rest : List Char) :
    Token.listFrom front.length (front ++ rest) = Token.listFrom 0 rest := by
  induction front with
  | nil => rfl
  | cons char others ih => simpa [Token.listFrom] using ih

theorem readsAs_token {char : Char} {body : List Char} {token : Token}
    (solid : Token.isBlank char = false)
    (scanned : ∀ rest, EndsNumber rest → Token.scan char (body ++ rest) = (token, body.length)) :
    ReadsAs (char :: body) [token] := by
  intro rest ends
  rw [List.cons_append, Token.listFrom, if_neg (by simp [solid]), scanned rest ends, listFrom_length]
  rfl

namespace ReadsAs

variable {front back : List Char} {char : Char} {token : Token} {first second : List Token}

theorem nil : ReadsAs [] [] := fun _ _ => rfl

theorem blank (blank : Token.isBlank char = true) (reads : ReadsAs back second) :
    ReadsAs (char :: back) second := by
  intro rest ends
  rw [List.cons_append, Token.listFrom, if_pos blank, reads rest ends]

theorem mark (solid : Token.isBlank char = false)
    (scanned : ∀ rest, Token.scan char rest = (token, 0)) (reads : ReadsAs back second) :
    ReadsAs (char :: back) (token :: second) := by
  intro rest ends
  rw [List.cons_append, Token.listFrom, if_neg (by simp [solid]), scanned, reads rest ends]
  rfl

theorem append (readsFront : ReadsAs front first) (readsBack : ReadsAs (char :: back) second)
    (ends : EndsNumber [char]) : ReadsAs (front ++ char :: back) (first ++ second) := by
  intro rest endsRest
  have endsFront : EndsNumber ((char :: back) ++ rest) := ends
  rw [List.append_assoc, readsFront _ endsFront, readsBack rest endsRest, List.append_assoc]

theorem line (depth : Nat) (reads : ReadsAs back second) : ReadsAs (lineAt depth ++ back) second := by
  have spaces (count : Nat) : ReadsAs (List.replicate count ' ' ++ back) second := by
    induction count with
    | zero => exact reads
    | succ count ih => exact blank rfl ih
  exact blank rfl (spaces _)

theorem lastLine (readsFront : ReadsAs front first) (depth : Nat) (readsBack : ReadsAs back second) :
    ReadsAs (front ++ lineAt depth ++ back) (first ++ second) := by
  rw [List.append_assoc]
  exact readsFront.append (readsBack.line depth) (by decide)

end ReadsAs

theorem readsAs_wordOf (value : Bool) : ReadsAs (wordOf value) [.flag value] := by
  cases value with
  | true => exact readsAs_token rfl fun _ _ => rfl
  | false => exact readsAs_token rfl fun _ _ => rfl

theorem readsAs_null : ReadsAs wordOfNull [.null] := readsAs_token rfl fun _ _ => rfl

theorem readsAs_quoted (content : String) :
    ReadsAs (quoted content) [.text (.ofContent content.toList)] := by
  have shape : quoted content = '"' :: (content.toList.flatMap escaped ++ ['"']) := rfl
  rw [shape]
  refine readsAs_token rfl ?_
  intro rest _
  have scanned := Quotation.scan_written content.toList rest
  rw [List.append_assoc, List.singleton_append]
  change (Token.text (Quotation.scan _), (Quotation.scan _).length) = _
  rw [scanned]
  simp [Quotation.ofContent]

theorem scan_number {first : Char} {others : List Char} {literal : NumberLiteral}
    (starts : first = '-' ∨ first.isDigit = true)
    (scanned : NumberLiteral.scan (first :: others) = .ok literal) :
    Token.scan first others = (.number literal, literal.length - 1) := by
  unfold Token.scan
  split
  case h_11 =>
    have numeric : (first.isDigit || first == '-') = true := by
      rcases starts with minus | digit
      · simp [minus]
      · simp [digit]
    rw [if_pos numeric, scanned]
  all_goals simp [Char.isDigit] at starts

theorem isBlank_of_digit {char : Char} (digit : char.isDigit = true) :
    Token.isBlank char = false := by
  cases blank : Token.isBlank char with
  | false => rfl
  | true =>
      simp only [Token.isBlank, Bool.or_eq_true, beq_iff_eq] at blank
      obtain ((rfl | rfl) | rfl) | rfl := blank <;> cases digit

theorem readsAs_integerChars (number : Int) :
    ReadsAs (Text.integerChars number) [.number (.ofInt number)] := by
  cases written : Text.integerChars number with
  | nil =>
      have literal := Text.integer?_integerChars number
      simp [written, Text.integer?, Text.natural?] at literal
  | cons first others =>
      have starts := Text.mem_integerChars (written ▸ List.mem_cons_self : first ∈ Text.integerChars number)
      have solid : Token.isBlank first = false := by
        rcases starts with rfl | digit
        · rfl
        · exact isBlank_of_digit digit
      refine readsAs_token solid ?_
      intro rest ends
      have scanned := NumberLiteral.scan_integerChars number ends
      rw [written, List.cons_append] at scanned
      rw [scan_number starts scanned, NumberLiteral.length_ofInt, written]
      rfl

theorem readsAs_named (name : String) {text : List Char} {tokens : List Token}
    (reads : ReadsAs text tokens) :
    ReadsAs (quoted name ++ ':' :: text) (.text (.ofContent name.toList) :: .colon :: tokens) :=
  (readsAs_quoted name).append (.mark rfl (fun _ => rfl) reads) (by decide)

mutual

theorem readsAs_compact (value : Json) : ReadsAs value.compact value.tokens := by
  cases value with
  | null => exact readsAs_null
  | flag value => exact readsAs_wordOf value
  | number value => exact readsAs_integerChars value
  | text content => exact readsAs_quoted content
  | list items =>
      apply ReadsAs.mark rfl fun _ => rfl
      exact (readsAs_compactItems items).append (.mark rfl (fun _ => rfl) .nil) (by decide)
  | object members =>
      apply ReadsAs.mark rfl fun _ => rfl
      exact (readsAs_compactMembers members).append (.mark rfl (fun _ => rfl) .nil) (by decide)

theorem readsAs_compactItems (items : List Json) :
    ReadsAs (compactItems items) (itemTokens items) := by
  match items with
  | [] => exact .nil
  | [item] => exact readsAs_compact item
  | item :: next :: rest =>
      have others := readsAs_compactItems (next :: rest)
      exact (readsAs_compact item).append (.mark rfl (fun _ => rfl) others) (by decide)

theorem readsAs_compactMembers (members : List (String × Json)) :
    ReadsAs (compactMembers members) (memberTokens members) := by
  match members with
  | [] => exact .nil
  | [(name, value)] => exact readsAs_named name (readsAs_compact value)
  | (name, value) :: next :: rest =>
      have others := readsAs_compactMembers (next :: rest)
      exact (readsAs_named name (readsAs_compact value)).append (.mark rfl (fun _ => rfl) others)
        (by decide)

end

theorem readsAs_namedLine (depth : Nat) (name : String) {text : List Char} {tokens : List Token}
    (reads : ReadsAs text tokens) :
    ReadsAs (lineAt depth ++ quoted name ++ [':', ' '] ++ text)
      (.text (.ofContent name.toList) :: .colon :: tokens) := by
  rw [List.append_assoc]
  exact ((readsAs_quoted name).line depth).append (.mark rfl (fun _ => rfl) (.blank rfl reads))
    (by decide)

mutual

theorem readsAs_spacious (depth : Nat) (value : Json) :
    ReadsAs (value.spacious depth) value.tokens := by
  match value with
  | .null => exact readsAs_null
  | .flag value => exact readsAs_wordOf value
  | .number value => exact readsAs_integerChars value
  | .text content => exact readsAs_quoted content
  | .list [] => exact .mark rfl (fun _ => rfl) (.mark rfl (fun _ => rfl) .nil)
  | .object [] => exact .mark rfl (fun _ => rfl) (.mark rfl (fun _ => rfl) .nil)
  | .list (item :: rest) =>
      have items := readsAs_spaciousItems (depth + 1) (item :: rest)
      exact (items.mark rfl fun _ => rfl).lastLine depth (.mark rfl (fun _ => rfl) .nil)
  | .object (member :: rest) =>
      have members := readsAs_spaciousMembers (depth + 1) (member :: rest)
      exact (members.mark rfl fun _ => rfl).lastLine depth (.mark rfl (fun _ => rfl) .nil)

theorem readsAs_spaciousItems (depth : Nat) (items : List Json) :
    ReadsAs (spaciousItems depth items) (itemTokens items) := by
  match items with
  | [] => exact .nil
  | [item] => exact (readsAs_spacious depth item).line depth
  | item :: next :: rest =>
      have others := readsAs_spaciousItems depth (next :: rest)
      exact ((readsAs_spacious depth item).line depth).append (.mark rfl (fun _ => rfl) others)
        (by decide)

theorem readsAs_spaciousMembers (depth : Nat) (members : List (String × Json)) :
    ReadsAs (spaciousMembers depth members) (memberTokens members) := by
  match members with
  | [] => exact .nil
  | [(name, value)] => exact readsAs_namedLine depth name (readsAs_spacious depth value)
  | (name, value) :: next :: rest =>
      have others := readsAs_spaciousMembers depth (next :: rest)
      exact (readsAs_namedLine depth name (readsAs_spacious depth value)).append
        (.mark rfl (fun _ => rfl) others) (by decide)

end

theorem ofChars_written (value : Json) :
    Token.ofChars value.toText.toList = value.tokens ∧
      Token.ofChars value.toLines.toList = value.tokens := by
  have ends : EndsNumber [] := by decide
  have compact := readsAs_compact value [] ends
  have spacious := readsAs_spacious 0 value [] ends
  simp only [List.append_nil] at compact spacious
  constructor
  · rw [toText, String.toList_ofList, Token.ofChars, compact, Token.listFrom, List.append_nil]
  · rw [toLines, String.toList_ofList, Token.ofChars, spacious, Token.listFrom, List.append_nil]

end Underwriting.Json
