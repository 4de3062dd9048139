import AppLifecycle.Proofs.AppId
import AppLifecycle.Proofs.Path
import AppLifecycle.Registry.Basic

/-!
# Which application a desktop file belongs to

A process says which application it is by the path of a desktop file. Where the file lies is of no
account: the application is the one that the file is named for, with the extension `.desktop` or
without it, and its id is shortened like any other (`idOfDesktopFile_eq_some_iff`). The extension is
taken off once, so that it may be part of an id.
-/

namespace AppLifecycle.Registry

variable {suffix s rest : List Char} {hint : String} {found id : AppId}

lemma dropEnd_eq_iff :
    dropEnd suffix s = rest ↔ s = rest ++ suffix ∨ s = rest ∧ ¬ suffix <:+ s := by
  rw [dropEnd]
  by_cases ends : suffix <:+ s
  · rw [if_pos (List.isSuffixOf_iff_suffix.mpr ends)]
    obtain ⟨start, rfl⟩ := ends
    rw [List.length_append, Nat.add_sub_cancel, List.take_left, List.append_left_inj]
    exact (or_iff_left fun both => both.2 (List.suffix_append start suffix)).symm
  · rw [if_neg (mt List.isSuffixOf_iff_suffix.mp ends), and_iff_left ends]
    refine (or_iff_right ?_).symm
    rintro rfl
    exact ends (List.suffix_append rest suffix)

/-- What desktop files are told by. -/
def desktopExtension : List Char := ".desktop".toList

/-- The path leads to a file that is named for the application: by the id with the extension behind
it, or by the id alone, if that does not end with the extension. -/
def LeadsToDesktopFile (hint : String) (id : AppId) : Prop :=
  ∃ file, Path.fileName? hint.toList = some file ∧
    (file = id.text.toList ++ desktopExtension ∨
      file = id.text.toList ∧ ¬ desktopExtension <:+ file)

/-- No file is named for an application whose id has a slash in it. -/
lemma LeadsToDesktopFile.slash_notMem (leads : LeadsToDesktopFile hint id) :
    '/' ∉ id.text.toList := by
  obtain ⟨file, named, rfl | ⟨rfl, -⟩⟩ := leads
  · exact fun mem => (Path.plain_of_fileName? named).slashless (List.mem_append_left _ mem)
  · exact (Path.plain_of_fileName? named).slashless

/-- A hint is taken for an application exactly if it leads to a file that is named for it. -/
theorem idOfDesktopFile_eq_some_iff : idOfDesktopFile hint = some found ↔
    ∃ id : AppId, id.isEmpty = false ∧ LeadsToDesktopFile hint id ∧ id.normalized = found := by
  rw [idOfDesktopFile]
  constructor
  · intro h
    cases named : Path.fileName? hint.toList with
    | none =>
      rw [named] at h
      cases h
    | some file =>
      rw [named] at h
      dsimp only at h
      split_ifs at h with empty
      -- the file is named for the id that is left of its name
      refine ⟨⟨String.ofList (dropEnd desktopExtension file)⟩, ?_, ⟨file, named, ?_⟩,
        Option.some.inj h⟩
      · rw [AppId.isEmpty_eq, String.toList_ofList]
        exact Bool.eq_false_iff.mpr empty
      · rw [String.toList_ofList]
        exact dropEnd_eq_iff.mp rfl
  · rintro ⟨id, nonempty, ⟨file, named, called⟩, rfl⟩
    have name : dropEnd ".desktop".toList file = id.text.toList := dropEnd_eq_iff.mpr called
    rw [AppId.isEmpty_eq] at nonempty
    rw [named]
    dsimp only
    rw [name, nonempty, if_neg Bool.false_ne_true, String.ofList_toList]

/-- The name of a desktop file is one piece, whatever the id. -/
lemma plain_desktopFile (slashless : '/' ∉ s) : Path.Plain (s ++ desktopExtension) := by
  refine .of_length ?_ ?_
  · rw [List.mem_append, not_or]
    exact ⟨slashless, by decide⟩
  · -- the extension alone is longer than a piece that leads nowhere
    rw [List.length_append]
    exact Nat.lt_add_left s.length (by decide)

/-- A path whose last piece is the id with the extension tells the application. -/
lemma idOfDesktopFile_of_pieces (nonempty : id.isEmpty = false) (slashless : '/' ∉ id.text.toList)
    (before : List (List Char))
    (ended : Path.pieces hint.toList = before ++ [id.text.toList ++ desktopExtension]) :
    idOfDesktopFile hint = some id.normalized := by
  have named := Path.fileName?_of_pieces (plain_desktopFile slashless) ended
  exact idOfDesktopFile_eq_some_iff.mpr ⟨id, nonempty, ⟨_, named, .inl rfl⟩, rfl⟩

/-- The desktop file of an application whose id has no slash in it tells the application, in any
directory and by its name alone. Whatever a hint is, the id that it is taken for is one that could
be a name: it is not empty and has no slash in it. -/
theorem desktop_file_tells_application :
    (∀ id : AppId, id.isEmpty = false → '/' ∉ id.text.toList →
      (∀ directory : Path, idOfDesktopFile (directory.text ++ "/" ++ id.text ++ ".desktop") =
        some id.normalized) ∧
      idOfDesktopFile (id.text ++ ".desktop") = some id.normalized) ∧
    ∀ (hint : String) (found : AppId), idOfDesktopFile hint = some found →
      found.isEmpty = false ∧ '/' ∉ found.text.toList := by
  constructor
  · intro id nonempty slashless
    have name : Path.pieces (id.text.toList ++ desktopExtension) =
        [id.text.toList ++ desktopExtension] :=
      Path.pieces_of_notMem (plain_desktopFile slashless).slashless
    constructor
    · intro directory
      apply idOfDesktopFile_of_pieces nonempty slashless (Path.pieces directory.text.toList)
      have behind : (directory.text ++ "/" ++ id.text ++ ".desktop").toList =
          directory.text.toList ++ '/' :: (id.text.toList ++ desktopExtension) := by
        rw [String.toList_append, String.toList_append, String.toList_append, List.append_assoc,
          List.append_assoc]
        rfl
      rw [behind, Path.pieces_append_slash, name]
    · apply idOfDesktopFile_of_pieces nonempty slashless []
      rw [String.toList_append]
      exact name
  · intro hint found told
    obtain ⟨id, nonempty, leads, rfl⟩ := idOfDesktopFile_eq_some_iff.mp told
    refine ⟨id.isEmpty_normalized.trans nonempty, fun mem => ?_⟩
    -- a slash in the short form would be one in the name of the file
    exact leads.slash_notMem (id.normalized_prefix.subset mem)

/-- A version of the clock is told in a directory that is given with a slash too many, and by its
name alone. An extension that is part of an id is kept, and what counts for nothing behind a name is
passed over. -/
theorem versioned_clock_told :
    (AppId.mk "desk_clock_1.0").isEmpty = false ∧
    '/' ∉ (AppId.mk "desk_clock_1.0").text.toList ∧
    idOfDesktopFile "./apps//desk_clock_1.0.desktop" = some ⟨"desk_clock"⟩ ∧
    idOfDesktopFile "desk_clock_1.0.desktop" = some ⟨"desk_clock"⟩ ∧
    idOfDesktopFile "/apps/notes.desktop.desktop/./" = some ⟨"notes.desktop"⟩ ∧
    (AppId.mk "notes.desktop").isEmpty = false ∧
    '/' ∉ (AppId.mk "notes.desktop").text.toList := by
  have nonempty : (AppId.mk "desk_clock_1.0").isEmpty = false := by decide
  have slashless : '/' ∉ (AppId.mk "desk_clock_1.0").text.toList := by decide
  obtain ⟨within, alone⟩ := desktop_file_tells_application.1 _ nonempty slashless
  have notes : idOfDesktopFile "/apps/notes.desktop.desktop/./" = some ⟨"notes.desktop"⟩ := by
    decide
  exact ⟨nonempty, slashless, within ⟨"./apps/"⟩, alone, notes,
    desktop_file_tells_application.2 _ _ notes⟩

end AppLifecycle.Registry
