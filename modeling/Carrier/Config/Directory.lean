import Carrier.Bytes
import Carrier.IoFault
import Carrier.Text.Search

/-!
# Files of a directory

- `Directory`: the files that can be read, by their paths from the directory.
- `Directory.read`: the content of the file that a path leads to. Steps of a path may be empty or
  `.`, which stay where they are, or `..`, which leads back.
-/

namespace Carrier

/-- The files of a directory and of those in it. -/
structure Directory where
  /-- The steps to each file, and its content. -/
  files : List (List String × Bytes)

namespace Directory

/-- The directory of files with paths. -/
def ofFiles (files : List (String × Bytes)) : Directory :=
  ⟨files.map fun (path, content) =>
    (((Text.fields '/' path.toList).map String.ofList).filter fun s => s ≠ "" ∧ s ≠ ".",
      content)⟩

/-- The file that is at the end of some steps. -/
def file? (d : Directory) (steps : List String) : Option Bytes := d.files.lookup steps

/-- Whether some steps lead to a directory. -/
def isDirectory (d : Directory) (steps : List String) : Bool :=
  steps.isEmpty || d.files.any fun (path, _) => steps.isPrefixOf path && steps ≠ path

/-- Follows the steps of a path from where some steps have led. -/
def follow (d : Directory) : List String → List String → Except IoFault Bytes
  | place, [] =>
    match d.file? place with
    | some content => .ok content
    | none => .error (.system (if d.isDirectory place then .isADirectory else .noSuchFile))
  | place, step :: rest =>
    if 255 < step.utf8ByteSize then .error (.system .nameTooLong)
    else if (d.file? place).isSome then .error (.system .notADirectory)
    else if ¬ d.isDirectory place then .error (.system .noSuchFile)
    else if step = "" ∨ step = "." then follow d place rest
    else if step = ".." then follow d place.dropLast rest
    else follow d (place ++ [step]) rest

/-- The content of the file that a path leads to. -/
def read (d : Directory) (path : String) : Except IoFault Bytes :=
  if path.toList.contains '\x00' then .error .nulInName
  else if path = "" then .error (.system .noSuchFile)
  else if 4095 < path.utf8ByteSize then .error (.system .nameTooLong)
  else if path.startsWith "/" then .error (.system .noSuchFile)
  else follow d [] ((Text.fields '/' path.toList).map String.ofList)

end Directory

end Carrier
