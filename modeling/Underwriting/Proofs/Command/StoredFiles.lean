import Underwriting.Command.Opening
import Underwriting.Proofs.Store.Columns

/-!
What writing a file leaves as it was, and what is opened as a database. Writing, making and extending
a file change no other file, and a file that is there stays there. An open database is kept in a file
that holds it, or it is without relations.
-/

namespace Underwriting.Command

namespace Files

def replaced (name : String) (content : Content) (entry : String × Content) : String × Content :=
  if entry.1 == name then (name, content) else entry

theorem fst_replaced (name : String) (content : Content) (entry : String × Content) :
    (replaced name content entry).1 = entry.1 := by
  unfold replaced
  split
  · rename_i named
    exact (beq_iff_eq.mp named).symm
  · rfl

theorem find?_map_replaced (entries : List (String × Content)) (name other : String)
    (content : Content) :
    (entries.map (replaced name content)).find? (fun entry => entry.1 == other) =
      (entries.find? fun entry => entry.1 == other).map (replaced name content) := by
  rw [List.find?_map]
  simp only [Function.comp_def, fst_replaced]

theorem find?_write_self (files : Files) (name : String) (content : Content) :
    (files.write name content).find? name = some content := by
  unfold write
  split
  · rename_i there
    change ((files.entries.map (replaced name content)).find? _).map _ = _
    rw [find?_map_replaced]
    cases found : files.entries.find? fun entry => entry.1 == name with
    | none => simp [find?, found] at there
    | some entry =>
        have named := List.find?_some found
        simp only [beq_iff_eq] at named
        simp [replaced, named]
  · rename_i missing
    have absent : files.entries.find? (fun entry => entry.1 == name) = none := by
      cases found : files.entries.find? fun entry => entry.1 == name with
      | none => rfl
      | some entry =>
          unfold find? at missing
          rw [found] at missing
          simp at missing
    change ((files.entries ++ [(name, content)]).find? _).map _ = _
    simp [List.find?_append, absent]

theorem find?_write_of_ne {files : Files} {name other : String} (apart : other ≠ name)
    (content : Content) : (files.write name content).find? other = files.find? other := by
  unfold write
  split
  · change ((files.entries.map (replaced name content)).find? _).map _ = _
    rw [find?_map_replaced]
    unfold find?
    cases found : files.entries.find? fun entry => entry.1 == other with
    | none => rfl
    | some entry =>
        have named := List.find?_some found
        simp only [beq_iff_eq] at named
        simp [replaced, named, apart]
  · change ((files.entries ++ [(name, content)]).find? _).map _ = _
    have missed : [(name, content)].find? (fun entry : String × Content => entry.1 == other) =
        none := by
      simp [Ne.symm apart]
    rw [List.find?_append, missed, Option.or_none]
    rfl

theorem find?_append_of_ne {files : Files} {name other : String} (apart : other ≠ name)
    (bytes : List UInt8) : (files.append name bytes).find? other = files.find? other := by
  unfold append
  split
  · exact find?_write_of_ne apart _
  · rfl

theorem find?_touch_of_ne {files touched : Files} {path name other : String}
    (made : files.touch path = .ok (touched, name)) (apart : other ≠ name) :
    touched.find? other = files.find? other := by
  unfold touch at made
  cases place : files.followToWrite path with
  | error fault => simp [place, Except.map] at made
  | ok place =>
      simp only [place, Except.map, Except.ok.injEq] at made
      split at made
      · cases made
        exact find?_write_of_ne apart _
      · cases made
        rfl

theorem foundAt_file {files : Files} {place : Place} {content : Content}
    (found : files.foundAt place = .file content) :
    files.find? (files.nameOf place) = some content := by
  unfold foundAt at found
  split at found
  · cases found
    assumption
  · split at found <;> cases found

end Files

def reopened (stored : Store.Database) : Store.Database :=
  { stored.rollback with access := .readWrite }

inductive OpenedFrom (files : Files) (opened : Opened) : Prop
  | stored (name : String) (database : Store.Database) (access : Store.Access)
      (entry : opened.entry = some name)
      (kept : files.find? name = some (.database database))
      (asKept : opened.database = { database.rollback with access })
  | blank (access : Store.Access)
      (asEmpty : opened.database = { Store.Database.empty with access })

theorem openedFrom_of_openAt {files : Files} {place : Place} {mode : OpenMode}
    {access : Store.Access} {opened : Opened}
    (opens : openAt files place mode access = some (.ok opened)) : OpenedFrom files opened := by
  unfold openAt at opens
  split at opens
  · rename_i found
    cases opens
    exact .stored _ _ access rfl (Files.foundAt_file found) rfl
  · cases opens
    exact .blank access rfl
  · cases opens
    exact .blank access rfl
  · cases opens
    exact .blank .unreadable rfl
  · split at opens <;> cases opens
  · split at opens
    · cases opens
      exact .blank access rfl
    · cases opens

theorem openedFrom_of_openFile {files : Files} {asked path : String} {mode : OpenMode}
    {access : Store.Access} {opened : Opened}
    (opens : openFile files asked path mode access = .ok opened) : OpenedFrom files opened := by
  unfold openFile at opens
  cases placed : (databasePlace? files path).bind fun place => openAt files place mode access with
  | none => simp [placed] at opens
  | some result =>
      simp only [placed, Option.getD_some] at opens
      subst opens
      obtain ⟨place, _, there⟩ := Option.bind_eq_some_iff.mp placed
      exact openedFrom_of_openAt there

theorem openedFrom_of_openLocator {files : Files} {asked : String} {text : List Char}
    {opened : Opened} (opens : openLocator files asked text = .ok opened) :
    OpenedFrom files opened := by
  unfold openLocator at opens
  simp only [Store.bind_eq_ok] at opens
  obtain ⟨locator, _, mode, _, opens⟩ := opens
  split at opens
  · cases opens
    exact .blank .readWrite rfl
  · cases opens
  · split at opens
    · cases opens
      exact .blank .readWrite rfl
    · exact openedFrom_of_openFile opens

theorem openedFrom_of_openPath {files : Files} {path : String} {opened : Opened}
    (opens : openPath files path = .ok opened) : OpenedFrom files opened := by
  unfold openPath at opens
  dsimp only at opens
  split at opens
  · cases opens
  · split at opens
    · cases opens
      exact .blank .readWrite rfl
    · split at opens
      · exact openedFrom_of_openLocator opens
      · exact openedFrom_of_openFile opens

theorem OpenedFrom.saved_eq_none {files : Files} {opened : Opened}
    (source : OpenedFrom files opened) : opened.database.saved = none := by
  cases source with
  | stored _ _ _ _ _ asKept => rw [asKept]; rfl
  | blank _ asEmpty => rw [asEmpty]; rfl

theorem saved_of_openPath {files : Files} {path : String} {opened : Opened}
    (opens : openPath files path = .ok opened) : opened.database.saved = none :=
  (openedFrom_of_openPath opens).saved_eq_none

end Underwriting.Command
