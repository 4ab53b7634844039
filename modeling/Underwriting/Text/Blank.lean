/-!
Blank characters and trimming. A blank is a character of the property `White_Space`; the zero-width
space, the byte order mark and the Mongolian vowel separator are not blanks. Main statement:
trimming twice is trimming once.
-/

namespace Underwriting.Text

def isBlank (char : Char) : Bool :=
  (0x9 ≤ char.toNat && char.toNat ≤ 0xd) || char.toNat == 0x20 || char.toNat == 0x85 ||
  char.toNat == 0xa0 || char.toNat == 0x1680 || (0x2000 ≤ char.toNat && char.toNat ≤ 0x200a) ||
  char.toNat == 0x2028 || char.toNat == 0x2029 || char.toNat == 0x202f || char.toNat == 0x205f ||
  char.toNat == 0x3000

def trimStart (text : List Char) : List Char := text.dropWhile isBlank

def trimEnd (text : List Char) : List Char := (text.reverse.dropWhile isBlank).reverse

def trim (text : List Char) : List Char := trimEnd (trimStart text)

theorem trimStart_of_head {char : Char} {rest : List Char} (solid : isBlank char = false) :
    trimStart (char :: rest) = char :: rest := by
  simp [trimStart, solid]

theorem trimStart_trimStart (text : List Char) : trimStart (trimStart text) = trimStart text := by
  induction text with
  | nil => rfl
  | cons char rest ih =>
      by_cases blank : isBlank char
      · simpa [trimStart, blank] using ih
      · simp [trimStart, blank]

theorem trimEnd_trimEnd (text : List Char) : trimEnd (trimEnd text) = trimEnd text := by
  have once := trimStart_trimStart text.reverse
  simp only [trimStart] at once
  simp [trimEnd, once]

theorem trimEnd_append_solid (front : List Char) {char : Char} (solid : isBlank char = false) :
    trimEnd (front ++ [char]) = front ++ [char] := by
  simp [trimEnd, solid]

theorem trimStart_trimEnd_comm (text : List Char) :
    trimStart (trimEnd (trimStart text)) = trimEnd (trimStart text) := by
  cases start : trimStart text with
  | nil => rfl
  | cons char rest =>
      have solid : isBlank char = false := by
        have := List.head?_dropWhile_not isBlank text
        simp only [trimStart] at start
        rw [start] at this
        simpa using this
      have kept : ∃ tail, trimEnd (char :: rest) = char :: tail := by
        unfold trimEnd
        rw [List.reverse_cons]
        have shape : ∀ front : List Char, ∃ tail,
            ((front ++ [char]).dropWhile isBlank).reverse = char :: tail := by
          intro front
          induction front with
          | nil => exact ⟨[], by simp [solid]⟩
          | cons first others ih =>
              by_cases blank : isBlank first
              · simpa [blank] using ih
              · exact ⟨others.reverse ++ [first], by simp [blank]⟩
        exact shape rest.reverse
      obtain ⟨tail, shape⟩ := kept
      rw [shape, trimStart_of_head solid]

theorem trim_trim (text : List Char) : trim (trim text) = trim text := by
  rw [trim, trim, trimStart_trimEnd_comm, trimEnd_trimEnd]

end Underwriting.Text
