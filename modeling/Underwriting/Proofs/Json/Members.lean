import Mathlib.Data.List.Perm.Basic
import Underwriting.Json.Record
import Underwriting.Proofs.Json.Writing

/-!
Records that are read from objects. Each member of an object fills the slot of its name, so that the
order in which the members are written does not matter.
-/

namespace Underwriting.Json

variable {α β γ : Type}

def Found.take (found target : Found α β γ) : Slot → Found α β γ
  | .first => { found with first := target.first }
  | .second => { found with second := target.second }
  | .third => { found with third := target.third }
  | .other => found

theorem Found.take_comm (found target : Found α β γ) (slot later : Slot) :
    (found.take target slot).take target later = (found.take target later).take target slot := by
  cases slot <;> cases later <;> rfl

structure Member.Writes (member : Member α) (written : String × Json) (value : α) : Prop where
  named : written.1 = member.name
  reads : ∃ token, written.2.tokens = [token] ∧ member.readToken token = .ok value

namespace Shape

theorem isFound_take {found target : Found α β γ} {slot later : Slot} (apart : slot ≠ later) :
    isFound (found.take target slot) later = isFound found later := by
  cases slot <;> cases later <;> simp_all [isFound, Found.take]

variable (shape : Shape α β γ) {target found : Found α β γ} {slot : Slot} {slots : List Slot}
  {place : Place} {member : String × Json} {members : List (String × Json)}

def NamesApart : Prop := [shape.first.name, shape.second.name, shape.third.name].Nodup

structure Gives (target : Found α β γ) (slot : Slot) (member : String × Json) : Prop where
  known : slot ≠ .other
  named : shape.slotOf member.1.toList = slot
  reads : ∃ token, member.2.tokens = [token] ∧
    ∀ found, shape.readInto found slot token = .ok (found.take target slot)

variable {shape}

section Giving

variable {a : α} {b : β} {c : γ}

theorem gives_first (writes : shape.first.Writes member a) :
    shape.Gives ⟨some a, some b, some c⟩ .first member := by
  obtain ⟨named, token, single, reads⟩ := writes
  refine ⟨nofun, by simp [slotOf, named], token, single, ?_⟩
  intro found
  simp [readInto, reads, Except.map, Found.take]

theorem gives_second (apart : shape.NamesApart) (writes : shape.second.Writes member b) :
    shape.Gives ⟨some a, some b, some c⟩ .second member := by
  obtain ⟨named, token, single, reads⟩ := writes
  have notFirst : shape.second.name ≠ shape.first.name := by
    rintro same
    simp [NamesApart, same] at apart
  refine ⟨nofun, by simp [slotOf, named, notFirst, String.toList_inj], token, single, ?_⟩
  intro found
  simp [readInto, reads, Except.map, Found.take]

theorem gives_third (apart : shape.NamesApart) (writes : shape.third.Writes member c) :
    shape.Gives ⟨some a, some b, some c⟩ .third member := by
  obtain ⟨named, token, single, reads⟩ := writes
  have others : shape.third.name ≠ shape.first.name ∧ shape.third.name ≠ shape.second.name := by
    constructor
    · rintro same
      simp [NamesApart, same] at apart
    · rintro same
      simp [NamesApart, same] at apart
  refine ⟨nofun, by simp [slotOf, named, others, String.toList_inj], token, single, ?_⟩
  intro found
  simp [readInto, reads, Except.map, Found.take]

end Giving

theorem run_append (state : State α β γ) (front back : List Token) :
    shape.run state (front ++ back) =
      (shape.run state front).bind fun next => shape.run next back := by
  induction front generalizing state with
  | nil => rfl
  | cons token rest ih =>
      simp only [List.cons_append, run]
      cases shape.step state token with
      | error fault => rfl
      | ok next => exact ih next

theorem step_name (gives : shape.Gives target slot member) (before : place = .nameOrEnd ∨ place = .name)
    (absent : isFound found slot = false) :
    shape.step ⟨place, found⟩ (.text (.ofContent member.1.toList)) = .ok ⟨.colon slot, found⟩ := by
  have taken : shape.takeName found (.text (.ofContent member.1.toList)) =
      .ok ⟨.colon slot, found⟩ := by
    simp [takeName, Quotation.content_ofContent, Except.bind, gives.named, absent]
  rcases before with rfl | rfl
  · exact taken
  · exact taken

theorem step_value (gives : shape.Gives target slot member) {token : Token}
    (reads : ∀ found, shape.readInto found slot token = .ok (found.take target slot)) :
    shape.step ⟨.value slot, found⟩ token = .ok ⟨.behindMember, found.take target slot⟩ := by
  change shape.takeValue found slot token = _
  have known := gives.known
  unfold takeValue
  cases slot with
  | other => exact absurd rfl known
  | first => simp only [reads found, Except.map]
  | second => simp only [reads found, Except.map]
  | third => simp only [reads found, Except.map]

theorem run_member (gives : shape.Gives target slot member)
    (before : place = .nameOrEnd ∨ place = .name) (absent : isFound found slot = false) :
    shape.run ⟨place, found⟩ (.text (.ofContent member.1.toList) :: .colon :: member.2.tokens) =
      .ok ⟨.behindMember, found.take target slot⟩ := by
  obtain ⟨token, single, reads⟩ := gives.reads
  rw [single, run, step_name gives before absent]
  change (shape.step ⟨.value slot, found⟩ token).bind _ = _
  rw [step_value gives reads]
  rfl

/-- Members of different slots fill these one after the other. -/
theorem run_members (gives : List.Forall₂ (shape.Gives target) slots members)
    (before : place = .nameOrEnd ∨ place = .name) (apart : slots.Nodup)
    (absent : ∀ slot ∈ slots, isFound found slot = false) (given : members ≠ []) :
    shape.run ⟨place, found⟩ (memberTokens members) =
      .ok ⟨.behindMember, slots.foldl (·.take target ·) found⟩ := by
  induction gives generalizing place found with
  | nil => exact absurd rfl given
  | @cons slot member others rest first more ih =>
      have filled := run_member first before (absent slot List.mem_cons_self)
      cases rest with
      | nil =>
          cases more
          exact filled
      | cons next rest =>
          obtain ⟨alone, othersApart⟩ := List.nodup_cons.mp apart
          have laterAbsent : ∀ later ∈ others, isFound (found.take target slot) later = false := by
            intro later among
            have different : slot ≠ later := fun same => alone (same ▸ among)
            rw [isFound_take different]
            exact absent later (List.mem_cons_of_mem slot among)
          have continued := ih (Or.inr rfl) othersApart laterAbsent (List.cons_ne_nil next rest)
          rw [memberTokens, run_append, filled]
          exact continued

/-- An object is read as what its members give, in whatever order they are written. -/
theorem read_members (named : shape.NamesApart) {first second third : String × Json} {a : α} {b : β}
    {c : γ} (writesFirst : shape.first.Writes first a) (writesSecond : shape.second.Writes second b)
    (writesThird : shape.third.Writes third c) (order : members.Perm [first, second, third])
    {text : List Char} (scanned : Token.ofChars text = (Json.object members).tokens) :
    shape.read text = .ok (a, b, c) := by
  let target : Found α β γ := ⟨some a, some b, some c⟩
  have inOrder : List.Forall₂ (shape.Gives target) [.first, .second, .third]
      [first, second, third] :=
    .cons (gives_first writesFirst)
      (.cons (gives_second named writesSecond) (.cons (gives_third named writesThird) .nil))
  obtain ⟨slots, gives, sameSlots⟩ := List.perm_comp_forall₂ order inOrder.flip
  have apart : slots.Nodup := sameSlots.nodup_iff.mpr (by decide)
  have given : members ≠ [] := by
    rintro rfl
    cases order.length_eq
  have absent : ∀ slot ∈ slots, isFound (Found.empty : Found α β γ) slot = false := by
    intro slot _
    cases slot <;> rfl
  have filled : slots.foldl (·.take target ·) .empty = target :=
    sameSlots.foldl_eq' (fun left _ right _ found => found.take_comm target left right) _
  have ran := run_members gives.flip (Or.inl rfl) apart absent given
  rw [filled] at ran
  rw [read, scanned, tokens, List.cons_append]
  change (shape.run ⟨.nameOrEnd, .empty⟩ (memberTokens members ++ [.closeObject])).bind _ = _
  rw [run_append, ran]
  rfl

end Shape

end Underwriting.Json
