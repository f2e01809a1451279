import Hyperfiction.Lint.Report
import Hyperfiction.Proofs.Fallible

/-!
# The records that are checked and those that are told

A story in a folder is told from the files of the folder alone, and checked with those of the folders
inside it. Entry by entry, what is checked has the records that are told behind those of an inner folder
(`FileTree.flatMap_readings`, `FileTree.records_folder`). So the check of a story reads all that is told in
the same order, and no more exactly when no inner folder holds records (`Lint.run_reads_story`).
-/

namespace Hyperfiction

namespace FileTree

/-! ### Folders entry by entry -/

/-- The records of a file that was read. -/
def Reading.records (r : Reading) : List PassageRecord := r.result.toOption.getD []

/-- The records of an entry of a folder, if it is a file of passages. -/
def direct (e : Text × FileTree) : List PassageRecord :=
  if holdsPassages e.1 then e.2.fileRecords.toOption.getD [] else []

/-- The records of the files of passages inside an entry of a folder at a path, if it is a folder. -/
def inner (path : Text) (e : Text × FileTree) : List PassageRecord :=
  (readings (path ++ '/' :: e.1) e.2.entries).flatMap Reading.records

theorem direct_folder (name : Text) (es : List (Text × FileTree)) : direct (name, folder es) = [] := by
  simp [direct, fileRecords, Except.toOption]

/-- A file is read if its name says that it holds passages. -/
private theorem readings_of_file (path name : Text) {tree : FileTree}
    (htree : ∀ es, tree ≠ folder es) (es : List (Text × FileTree)) :
    readings path ((name, tree) :: es) =
      (if holdsPassages name then [⟨path ++ '/' :: name, tree.fileRecords⟩] else []) ++
        readings path es := by
  have hrest : ∀ (b : Bool) (r : Reading) (rs : List Reading),
      (if b then r :: rs else rs) = (if b then [r] else []) ++ rs := fun b r rs => by
    cases b <;> rfl
  cases tree with
  | folder inner => exact absurd rfl (htree inner)
  | file content => rw [readings, hrest]; simp
  | unreadable => rw [readings, hrest]; simp

/-- The records of a file are those that it holds itself. -/
theorem records_of_file {tree : FileTree} (htree : ∀ es, tree ≠ folder es) :
    tree.records = tree.fileRecords := by
  cases tree with
  | folder es => exact absurd rfl (htree es)
  | file | unreadable => rfl

private theorem inner_of_file (path name : Text) {tree : FileTree} (htree : ∀ es, tree ≠ folder es) :
    inner path (name, tree) = [] := by
  cases tree with
  | folder es => exact absurd rfl (htree es)
  | file | unreadable => simp [inner, entries, readings]

/-- **What is checked of a folder**, entry by entry. -/
theorem flatMap_readings (path : Text) (es : List (Text × FileTree)) :
    (readings path es).flatMap Reading.records = es.flatMap fun e => inner path e ++ direct e := by
  induction es with
  | nil => simp [readings]
  | cons e es ih =>
    obtain ⟨name, tree⟩ := e
    rw [List.flatMap_cons, ← ih]
    by_cases htree : ∃ es', tree = folder es'
    · obtain ⟨es', rfl⟩ := htree
      rw [readings, List.flatMap_append, direct_folder, List.append_nil]
      rfl
    · have hfile : ∀ es', tree ≠ folder es' := fun es' h => htree ⟨es', h⟩
      rw [readings_of_file path name hfile, inner_of_file path name hfile, List.flatMap_append,
        List.nil_append, direct]
      split <;> simp [Reading.records]

/-- Files of a folder whose names say that they hold passages are all that is read in it directly. -/
private theorem flatMap_direct (es : List (Text × FileTree)) :
    es.flatMap direct = ((es.filter fun e => holdsPassages e.1).map fun e =>
      e.2.fileRecords.toOption.getD []).flatten := by
  induction es with
  | nil => rfl
  | cons e es ih =>
    rw [List.flatMap_cons, ih, direct, List.filter_cons]
    split <;> simp

/-- **What is told of a folder**, entry by entry, if all its files of passages can be read. -/
theorem records_folder {es : List (Text × FileTree)} {records : List PassageRecord}
    (h : (folder es).records = .ok records) : records = es.flatMap direct := by
  simp only [FileTree.records] at h
  obtain ⟨found, hfound, h⟩ := bind_eq_ok_iff.mp h
  rw [flatMap_direct, ← mapM_eq_ok hfound]
  exact (pure_eq_ok_iff.mp h).symm

/-- **All that is checked of a folder is told** exactly when no folder in it holds records. -/
theorem flatMap_inner_append_eq_iff (path : Text) (es : List (Text × FileTree)) :
    (es.flatMap fun e => inner path e ++ direct e) = es.flatMap direct ↔
      ∀ e ∈ es, inner path e = [] := by
  have hlength : (es.flatMap fun e => inner path e ++ direct e).length =
      (es.flatMap (inner path)).length + (es.flatMap direct).length := by
    induction es with
    | nil => rfl
    | cons e es ih =>
      simp only [List.flatMap_cons, List.length_append, ih]
      omega
  constructor
  · intro h
    rw [h] at hlength
    have hnil : es.flatMap (inner path) = [] := List.length_eq_zero_iff.mp (by omega)
    exact List.flatMap_eq_nil_iff.mp hnil
  · intro h
    have hmap : (es.map fun e => inner path e ++ direct e) = es.map direct :=
      List.map_congr_left fun e he => by rw [h e he, List.nil_append]
    rw [List.flatMap_def, List.flatMap_def, hmap]

end FileTree

namespace StorySource

/-- What is in the folder of a story; a story in one file has none. -/
def folder (source : StorySource) : List (Text × FileTree) :=
  match source.files with
  | some (some (.folder es)) => es
  | _ => []

/-- The records of a story in a file or a folder, those that are given first. -/
private theorem eq_append_of_allRecords {source : StorySource} {tree : FileTree}
    {records : List PassageRecord} (hfiles : source.files = some (some tree))
    (h : source.allRecords = .ok records) :
    ∃ found, tree.records = .ok found ∧ records = source.records ++ found := by
  simp only [allRecords, hfiles] at h
  obtain ⟨found, hfound, h⟩ := bind_eq_ok_iff.mp h
  exact ⟨found, hfound, (pure_eq_ok_iff.mp h).symm⟩

/-- A story that cannot be read fails with the error of its files. -/
private theorem allRecords_of_error {source : StorySource} {tree : FileTree} {e : StoryError}
    (hfiles : source.files = some (some tree)) (h : source.allRecords = .error e) :
    tree.records = .error e := by
  simp only [allRecords, hfiles] at h
  rcases bind_eq_error_iff.mp h with h | ⟨found, -, h⟩
  · exact h
  · exact absurd h (pure_ne_error _ _)

end StorySource

namespace Lint

variable {source : StorySource} {config : StoryConfig}

/-! ### Checks of stories -/

/-- The check of a story in one file reads it as the story is read. -/
private theorem run_of_file (path : Text) {tree : FileTree} (hsettings : source.settings = .ok config)
    (hfiles : source.files = some (some tree)) (htree : ∀ es, tree ≠ .folder es) :
    run path source = match tree.records with
      | .error e => Outcome.failure [] ("Failed to load passage file: ".toList ++ e.message)
      | .ok found => outcome config (source.records ++ found) [] [] := by
  rw [FileTree.records_of_file htree]
  cases hfound : tree.fileRecords <;> cases tree with
    | folder es => exact absurd rfl (htree es)
    | file | unreadable => simp [run, hsettings, hfiles, hfound]

/-- The check of a story in a folder reads the folders inside it too. -/
private theorem run_of_folder (path : Text) {es : List (Text × FileTree)}
    (hsettings : source.settings = .ok config) (hfiles : source.files = some (some (.folder es))) :
    ∃ told complaints, run path source = outcome config
      (source.records ++ es.flatMap fun e => FileTree.inner path e ++ FileTree.direct e) told
        complaints := by
  refine ⟨(FileTree.readings path es).flatMap told, (FileTree.readings path es).filterMap complaint?, ?_⟩
  rw [← FileTree.flatMap_readings]
  simp only [run, hsettings, hfiles]
  rfl

/-- **What is told is checked**, and besides it the records of the folders inside the one of the story,
each at its place. -/
theorem run_of_records (path : Text) {records : List PassageRecord}
    (hsettings : source.settings = .ok config) (hrecords : source.allRecords = .ok records) :
    ∃ first told complaints, records = first ++ source.folder.flatMap FileTree.direct ∧
      run path source = outcome config (first ++ source.folder.flatMap fun e =>
        FileTree.inner path e ++ FileTree.direct e) told complaints := by
  match hfiles : source.files with
  | none =>
    obtain rfl : source.records = records := by simpa [StorySource.allRecords, hfiles] using hrecords
    exact ⟨source.records, [], [], by simp [StorySource.folder, hfiles],
      by simp [run, StorySource.folder, hsettings, hfiles]⟩
  | some none => simp [StorySource.allRecords, hfiles] at hrecords
  | some (some tree) =>
    obtain ⟨found, hfound, rfl⟩ := source.eq_append_of_allRecords hfiles hrecords
    by_cases htree : ∃ es, tree = .folder es
    · obtain ⟨es, rfl⟩ := htree
      obtain ⟨told, complaints, hrun⟩ := run_of_folder path hsettings hfiles
      have hfolder : source.folder = es := by simp [StorySource.folder, hfiles]
      rw [hfolder, FileTree.records_folder hfound]
      exact ⟨source.records, told, complaints, rfl, hrun⟩
    · have hfile : ∀ es, tree ≠ .folder es := fun es h => htree ⟨es, h⟩
      have hfolder : source.folder = [] := by
        simp only [StorySource.folder, hfiles]
        split <;> simp_all
      refine ⟨source.records ++ found, [], [], by simp [hfolder], ?_⟩
      rw [run_of_file path hsettings hfiles hfile, hfound, hfolder]
      simp

/-- Settings that cannot be read fail the check. -/
private theorem run_of_bad_settings (path : Text) {e : StoryError} (h : source.settings = .error e) :
    (run path source).succeeds = false := by
  simp [run, h, Outcome.failure]

/-- A story in one file that cannot be read, or that is not there, fails the check. -/
theorem run_of_error (path : Text) {e : StoryError} (hrecords : source.allRecords = .error e)
    (hfile : ∀ es, source.files ≠ some (some (.folder es))) : (run path source).succeeds = false := by
  cases hsettings : source.settings with
  | error e => exact run_of_bad_settings path hsettings
  | ok config =>
    match hfiles : source.files with
    | none => simp [StorySource.allRecords, hfiles] at hrecords
    | some none => simp [run, hsettings, hfiles, Outcome.failure]
    | some (some tree) =>
      rw [run_of_file path hsettings hfiles fun es h => hfile es (by rw [hfiles, h]),
        source.allRecords_of_error hfiles hrecords]
      rfl

/-- **A check reads the story that is told.** Of a story in one file it checks what is told, and fails if
that or the settings cannot be read. Of a folder it also checks the records of the folders inside, each at
its place; so it checks what is told exactly when these hold none. -/
theorem run_reads_story (path : Text) (source : StorySource) :
    (∀ config records, source.settings = .ok config → source.allRecords = .ok records →
      ∃ first told complaints, records = first ++ source.folder.flatMap FileTree.direct ∧
        let checked := first ++ source.folder.flatMap fun e =>
          FileTree.inner path e ++ FileTree.direct e
        run path source = outcome config checked told complaints ∧
          (checked = records ↔ ∀ e ∈ source.folder, FileTree.inner path e = [])) ∧
    ∀ e, (source.settings = .error e ∨
        source.allRecords = .error e ∧ ∀ es, source.files ≠ some (some (.folder es))) →
      (run path source).succeeds = false := by
  constructor
  · intro config records hsettings hrecords
    obtain ⟨first, told, complaints, rfl, hrun⟩ := run_of_records path hsettings hrecords
    refine ⟨first, told, complaints, rfl, hrun, ?_⟩
    rw [List.append_cancel_left_eq, FileTree.flatMap_inner_append_eq_iff]
  · rintro e (hsettings | ⟨hrecords, hfile⟩)
    · exact run_of_bad_settings path hsettings
    · exact run_of_error path hrecords hfile

/-- A folder with notes in it does not change what is checked. -/
theorem run_reads_story_notes :
    let start : PassageRecord := ⟨"Start".toList, [], "[[Start]]".toList⟩
    let source : StorySource := { files := some (some (.folder
      [("a.ron".toList, .file "[(name: \"Start\", raw_body: \"[[Start]]\")]".toList),
        ("notes".toList, .folder [("b.txt".toList, .unreadable)])])) }
    ∃ told complaints, run "story".toList source = outcome {} [start] told complaints := by
  intro start source
  have hsettings : source.settings = .ok {} := rfl
  have hrecords : source.allRecords = .ok [start] := eq_ok_of_toOption (by decide +kernel)
  obtain ⟨first, told, complaints, -, hrun, hchecked⟩ :=
    (run_reads_story "story".toList source).1 {} [start] hsettings hrecords
  have hinner : ∀ e ∈ source.folder, FileTree.inner "story".toList e = [] := by decide +kernel
  rw [hchecked.mpr hinner] at hrun
  exact ⟨told, complaints, hrun⟩

/-- A record without a name in an inner folder fails the check of a story that is told without it, and a
file that cannot be read does not fail the check of its folder. -/
theorem run_not_reads_story :
    let file : Text → FileTree := fun name =>
      .file ("[(name: \"".toList ++ name ++ "\", raw_body: \"[[Start]]\")]".toList)
    let start : PassageRecord := ⟨"Start".toList, [], "[[Start]]".toList⟩
    let deep : StorySource := { files := some (some (.folder [("a.ron".toList, file "Start".toList),
      ("sub".toList, .folder [("b.ron".toList, file "".toList)])])) }
    let broken : StorySource := { files := some (some (.folder [("a.ron".toList, file "Start".toList),
      ("b.ron".toList, .file "oops".toList)])) }
    (deep.allRecords.toOption = some [start] ∧
      ∀ told complaints, run "story".toList deep ≠ outcome {} [start] told complaints) ∧
    (broken.allRecords.toOption = none ∧ (run "story".toList broken).succeeds = true) := by
  intro file start deep broken
  have hrun : (run "story".toList deep).succeeds = false := by decide +kernel
  have houtcome : ((lint {} [start]).all fun p => p.severity ≠ .error) = true := by decide +kernel
  refine ⟨⟨by decide +kernel, fun told complaints h => ?_⟩, by decide +kernel, by decide +kernel⟩
  rw [h] at hrun
  exact absurd (houtcome.symm.trans hrun) (by decide)

end Lint

end Hyperfiction
