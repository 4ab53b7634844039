import Mathlib.Data.List.DropRight
import Underwriting.Proofs.Text.Digits

/-!
What trimming takes away. Blanks around a text do not change what is left of it, a text without
blanks is left as it is, and no character but blanks gets lost.
-/

namespace Underwriting.Text

def AreBlank (chars : List Char) : Prop := ∀ char ∈ chars, isBlank char = true

def AreSolid (chars : List Char) : Prop := ∀ char ∈ chars, isBlank char = false

instance (chars : List Char) : Decidable (AreSolid chars) :=
  decidable_of_iff (chars.all (!isBlank ·) = true) (by simp [AreSolid])

theorem isBlank_of_isDigit {char : Char} (digit : char.isDigit = true) : isBlank char = false := by
  have bounds := toNat_bounds_of_isDigit digit
  simp [isBlank]
  omega

theorem areSolid_of_digits {digits : List Char} (all : AreDigits digits) : AreSolid digits := by
  intro char member
  exact isBlank_of_isDigit (all char member)

theorem trim_blank_append {front : List Char} (blank : AreBlank front) (text : List Char) :
    trim (front ++ text) = trim text := by
  rw [trim, trimStart, List.dropWhile_append_of_pos blank]
  rfl

theorem trimEnd_append_blank (text : List Char) {back : List Char} (blank : AreBlank back) :
    trimEnd (text ++ back) = trimEnd text := by
  have reversed : AreBlank back.reverse := by
    intro char member
    exact blank char (List.mem_reverse.mp member)
  rw [trimEnd, List.reverse_append, List.dropWhile_append_of_pos reversed]
  rfl

theorem trimEnd_of_blank {text : List Char} (blank : AreBlank text) : trimEnd text = [] :=
  trimEnd_append_blank [] blank

theorem trim_append_blank (text : List Char) {back : List Char} (blank : AreBlank back) :
    trim (text ++ back) = trim text := by
  rw [trim, trim, trimStart, List.dropWhile_append]
  split
  · rename_i nothing
    rw [List.isEmpty_iff] at nothing
    rw [trimStart, nothing]
    apply trimEnd_of_blank
    intro char member
    exact blank char (List.dropWhile_sublist isBlank |>.subset member)
  · exact trimEnd_append_blank _ blank

theorem exists_trimEnd_append (text : List Char) :
    ∃ back, AreBlank back ∧ text = trimEnd text ++ back :=
  ⟨text.rtakeWhile isBlank, fun _ member => List.mem_rtakeWhile_imp member,
    List.rdropWhile_append_rtakeWhile.symm⟩

theorem exists_trim_between (text : List Char) :
    ∃ front back, AreBlank front ∧ AreBlank back ∧ text = front ++ trim text ++ back := by
  obtain ⟨back, backBlank, shape⟩ := exists_trimEnd_append (trimStart text)
  refine ⟨text.takeWhile isBlank, back, fun _ member => List.mem_takeWhile_imp member, backBlank, ?_⟩
  rw [List.append_assoc, trim, ← shape]
  exact List.takeWhile_append_dropWhile.symm

theorem trim_trimEnd (text : List Char) : trim (trimEnd text) = trim text := by
  obtain ⟨back, blank, shape⟩ := exists_trimEnd_append text
  conv_rhs => rw [shape, trim_append_blank _ blank]

theorem trimEnd_cons_solid {char : Char} (solid : isBlank char = false) (rest : List Char) :
    trimEnd (char :: rest) = char :: trimEnd rest := by
  rw [trimEnd, List.reverse_cons, List.dropWhile_append]
  split
  · rename_i nothing
    rw [List.isEmpty_iff] at nothing
    simp [trimEnd, nothing, solid]
  · simp [trimEnd]

theorem trim_cons_solid {char : Char} (solid : isBlank char = false) (rest : List Char) :
    trim (char :: rest) = char :: trimEnd rest := by
  rw [trim, trimStart_of_head solid, trimEnd_cons_solid solid]

theorem exists_solid_of_trim_ne_nil {text : List Char} (given : trim text ≠ []) :
    ∃ first rest, isBlank first = false ∧ trim text = first :: rest := by
  cases start : trimStart text with
  | nil => simp [trim, start, trimEnd] at given
  | cons first rest =>
      have solid : isBlank first = false := by
        have stops := List.head?_dropWhile_not isBlank text
        rw [trimStart] at start
        simpa [start] using stops
      exact ⟨first, trimEnd rest, solid, by rw [trim, start, trimEnd_cons_solid solid]⟩

theorem trimEnd_of_solid {text : List Char} (solid : AreSolid text) : trimEnd text = text := by
  induction text with
  | nil => rfl
  | cons char rest ih =>
      rw [trimEnd_cons_solid (solid char (by simp)),
        ih fun other member => solid other (by simp [member])]

theorem trim_of_solid {text : List Char} (solid : AreSolid text) : trim text = text := by
  cases text with
  | nil => rfl
  | cons char rest =>
      rw [trim_cons_solid (solid char (by simp)),
        trimEnd_of_solid fun other member => solid other (by simp [member])]

theorem mem_trim_iff {char : Char} (solid : isBlank char = false) (text : List Char) :
    char ∈ trim text ↔ char ∈ text := by
  obtain ⟨front, back, frontBlank, backBlank, shape⟩ := exists_trim_between text
  have notFront : char ∉ front := fun member => by simp [frontBlank char member] at solid
  have notBack : char ∉ back := fun member => by simp [backBlank char member] at solid
  constructor
  · intro member
    rw [shape]
    simp [member]
  · intro member
    rw [shape] at member
    simpa [notFront, notBack] using member

end Underwriting.Text
