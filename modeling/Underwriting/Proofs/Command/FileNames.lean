import Underwriting.Proofs.Command.StoredFiles

/-!
Opening by names alone. Where a path leads, and whether a database can be opened there, depends on
which files there are and not on what they hold. So files of the same names open at the same paths
and keep what is opened under the same names.
-/

namespace Underwriting.Command

namespace Files

structure SameNames (files other : Files) : Prop where
  directory : files.directory = other.directory
  names : files.entries.map (·.1) = other.entries.map (·.1)

theorem find?_isSome_eq (files : Files) (name : String) :
    (files.find? name).isSome = (files.entries.map (·.1)).any (· == name) := by
  rw [find?, Option.isSome_map, Bool.eq_iff_iff]
  simp [List.find?_isSome]

theorem sameNames_write {files : Files} {name : String} (there : (files.find? name).isSome = true)
    (content : Content) : SameNames files (files.write name content) := by
  unfold write
  rw [if_pos there]
  refine ⟨rfl, ?_⟩
  change _ = (files.entries.map (replaced name content)).map (·.1)
  rw [List.map_map]
  exact List.map_congr_left fun entry _ => (fst_replaced name content entry).symm

namespace SameNames

variable {files other : Files} (same : SameNames files other)

include same

theorem startOf (path : String) : files.startOf path = other.startOf path := by
  unfold Files.startOf Files.home
  rw [same.directory]

theorem placeOf : files.placeOf = other.placeOf := by
  funext name
  rw [Files.placeOf, same.startOf, Files.placeOf]

theorem nameOf (place : Place) : files.nameOf place = other.nameOf place := by
  unfold Files.nameOf Files.home
  rw [same.directory]

theorem any_place (test : Place → Bool) :
    (files.entries.any fun entry => test (files.placeOf entry.1)) =
      other.entries.any fun entry => test (other.placeOf entry.1) := by
  have byName (files : Files) : (files.entries.any fun entry => test (files.placeOf entry.1)) =
      (files.entries.map (·.1)).any fun name => test (files.placeOf name) := by
    rw [List.any_map]
    rfl
  rw [byName, byName, same.names, same.placeOf]

theorem isDirectory (place : Place) : files.isDirectory place = other.isDirectory place := by
  unfold Files.isDirectory Files.home
  rw [same.directory, same.any_place fun inner => isInside inner place]

theorem isUnderFile (place : Place) : files.isUnderFile place = other.isUnderFile place :=
  same.any_place fun outer => isInside place outer

theorem find?_isSome (name : String) : (files.find? name).isSome = (other.find? name).isSome := by
  rw [find?_isSome_eq, find?_isSome_eq, same.names]

theorem plainPlace? (path : String) : files.plainPlace? path = other.plainPlace? path := by
  unfold Files.plainPlace?
  rw [same.startOf]
  simp only [same.isUnderFile]

/-- At a place there are files in both, or the same other thing. -/
theorem foundAt (place : Place) :
    (∃ content otherContent, files.foundAt place = .file content ∧
        other.foundAt place = .file otherContent) ∨
      files.foundAt place = other.foundAt place := by
  have present := same.find?_isSome (files.nameOf place)
  unfold Files.foundAt
  rw [← same.nameOf]
  cases found : files.find? (files.nameOf place) with
  | some content =>
      rw [found, Option.isSome_some, eq_comm, Option.isSome_iff_exists] at present
      obtain ⟨otherContent, otherFound⟩ := present
      exact Or.inl ⟨content, otherContent, rfl, by rw [otherFound]⟩
  | none =>
      rw [found, Option.isSome_none, eq_comm, Option.isSome_eq_false_iff,
        Option.isNone_iff_eq_none] at present
      exact Or.inr (by rw [present, same.isDirectory])

end SameNames

end Files

theorem openAt_of_file {files : Files} {place : Place} {content : Content}
    (found : files.foundAt place = .file content) (mode : OpenMode) (access : Store.Access) :
    (openAt files place mode access).map (·.map Opened.entry) =
      some (.ok (some (files.nameOf place))) := by
  unfold openAt
  rw [found]
  cases content with
  | database stored => rfl
  | bytes bytes =>
      obtain _ | ⟨first, _ | ⟨second, rest⟩⟩ := bytes
      · rfl
      · rfl
      · rfl

namespace Files.SameNames

variable {files other : Files} (same : SameNames files other)

include same

theorem openAt (place : Place) (mode : OpenMode) (access : Store.Access) :
    (openAt files place mode access).map (·.map Opened.entry) =
      (openAt other place mode access).map (·.map Opened.entry) := by
  rcases same.foundAt place with ⟨content, otherContent, found, otherFound⟩ | found
  · rw [openAt_of_file found, openAt_of_file otherFound, same.nameOf]
  · unfold Command.openAt
    rw [found, same.nameOf, same.isDirectory]

theorem databasePlace? (path : String) : databasePlace? files path = databasePlace? other path := by
  unfold Command.databasePlace?
  rw [same.plainPlace?]

theorem openFile (asked path : String) (mode : OpenMode) (access : Store.Access) :
    (openFile files asked path mode access).map Opened.entry =
      (openFile other asked path mode access).map Opened.entry := by
  unfold Command.openFile
  rw [same.databasePlace?]
  cases Command.databasePlace? other path with
  | none => rfl
  | some place =>
      have opens := same.openAt place mode access
      simp only [Option.bind_some]
      cases here : Command.openAt files place mode access with
      | none =>
          rw [here, Option.map_none, eq_comm, Option.map_eq_none_iff] at opens
          rw [opens]
      | some result =>
          rw [here, Option.map_some, eq_comm, Option.map_eq_some_iff] at opens
          obtain ⟨otherResult, there, sameEntry⟩ := opens
          rw [there]
          exact sameEntry.symm

theorem openLocator (asked : String) (text : List Char) :
    (openLocator files asked text).map Opened.entry =
      (openLocator other asked text).map Opened.entry := by
  unfold Command.openLocator
  cases Locator.ofChars text with
  | error fault => rfl
  | ok locator =>
      cases asks : locator.mode with
      | error fault => simp [bind, Except.bind, asks]
      | ok mode =>
          simp only [bind, Except.bind, asks]
          split
          · rfl
          · rfl
          · split
            · rfl
            · exact same.openFile asked _ _ _

/-- A path opens in both or in neither, and what is opened is kept under the same name. -/
theorem openPath (path : String) :
    (openPath files path).map Opened.entry = (openPath other path).map Opened.entry := by
  unfold Command.openPath
  dsimp only
  split
  · rfl
  · split
    · rfl
    · split
      · exact same.openLocator path _
      · exact same.openFile path path .readWrite .readWrite

theorem openPath_error {path : String} {cause : OpenFault}
    (fails : Command.openPath files path = .error cause) :
    Command.openPath other path = .error cause := by
  have opens := same.openPath path
  rw [fails] at opens
  cases there : Command.openPath other path with
  | error otherCause =>
      rw [there] at opens
      cases opens
      rfl
  | ok opened =>
      rw [there] at opens
      cases opens

theorem openPath_ok {path : String} {opened : Opened}
    (opens : Command.openPath files path = .ok opened) :
    ∃ otherOpened, Command.openPath other path = .ok otherOpened := by
  have entries := same.openPath path
  rw [opens] at entries
  cases there : Command.openPath other path with
  | error cause =>
      rw [there] at entries
      cases entries
  | ok otherOpened => exact ⟨otherOpened, rfl⟩

end Files.SameNames

end Underwriting.Command
