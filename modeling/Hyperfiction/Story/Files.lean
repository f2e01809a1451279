import Hyperfiction.Story.Error
import Hyperfiction.Table

/-!
# Stories in files

The passages of a story stand in one file, or in the files of a folder. A story that is told takes the
files of the folder alone (`FileTree.records`); a story that is checked takes those of the folders inside
it too, and what cannot be read is passed over (`FileTree.readings`). Both go by the order of the names.
-/

namespace Hyperfiction

/-- A file, or a folder with what is in it in the order of the names. -/
inductive FileTree where
  | file (content : Text)
  /-- A file whose content cannot be read as text. -/
  | unreadable
  | folder (entries : List (Text × FileTree))

namespace FileTree

/-- What is in a folder. A file has nothing in it. -/
def entries : FileTree → Entries FileTree
  | folder es => es
  | _ => []

/-- The entries of a folder once a file is written at a path of names; the folders on the way are made. -/
def write (content : Text) : List Text → Entries FileTree → Entries FileTree
  | [], es => es
  | [name], es => Entries.insert es name (file content)
  | name :: path, es =>
    let inner := ((Entries.get? es name).map entries).getD []
    Entries.insert es name (folder (write content path inner))

/-- The folder of files at paths, whose names stand between slashes. -/
def ofFiles (files : List (Text × Text)) : FileTree :=
  folder (files.foldl (fun es f => write f.2 (Text.splitOn '/' f.1) es) [])

/-- Is a file of this name one of passages? There is a name before `.ron`. -/
def holdsPassages (name : Text) : Bool :=
  match Text.breakOnLast? ['.'] name with
  | some (before, extension) => !before.isEmpty && extension == "ron".toList
  | none => false

/-- The passages of a file. A folder is no file. -/
def fileRecords : FileTree → Except StoryError (List PassageRecord)
  | file t => (PassageRecord.listOfText t).mapError .badFile
  | unreadable | folder _ => .error .noFile

/-- The passages of a file, whatever its name, or of the files of passages in a folder. -/
def records : FileTree → Except StoryError (List PassageRecord)
  | folder es => do
    let found ← (es.filter fun e => holdsPassages e.1).mapM fun e => e.2.fileRecords
    return found.flatten
  | tree => tree.fileRecords

/-- What became of a file of passages. -/
structure Reading where
  path : Text
  result : Except StoryError (List PassageRecord)

private theorem sizeOf_inner_lt (name : Text) (inner es : List (Text × FileTree)) :
    sizeOf inner < sizeOf ((name, folder inner) :: es) := by
  rw [List.cons.sizeOf_spec, Prod.mk.sizeOf_spec, folder.sizeOf_spec]
  omega

private theorem sizeOf_rest_lt (e : Text × FileTree) (es : List (Text × FileTree)) :
    sizeOf es < sizeOf (e :: es) := by
  rw [List.cons.sizeOf_spec]
  omega

/-- The files of passages among the entries of a folder at a path, with those of folders inside folders. -/
def readings (path : Text) : List (Text × FileTree) → List Reading
  | [] => []
  | (name, folder inner) :: es => readings (path ++ '/' :: name) inner ++ readings path es
  | (name, tree) :: es =>
    if holdsPassages name then ⟨path ++ '/' :: name, tree.fileRecords⟩ :: readings path es
    else readings path es
termination_by es => sizeOf es
decreasing_by
  · exact sizeOf_inner_lt name inner es
  · exact sizeOf_rest_lt (name, folder inner) es
  · exact sizeOf_rest_lt (name, tree) es
  · exact sizeOf_rest_lt (name, tree) es

end FileTree

end Hyperfiction
