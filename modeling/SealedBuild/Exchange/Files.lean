import SealedBuild.FileTree
import SealedBuild.Json

/-!
# Files in JSON

The listing of the files below a directory: every directory with its path, every file with
its path, its size and its permissions in octal digits, in ascending order of paths.
-/

namespace SealedBuild.FileTree

/-- One line of a listing. -/
def listingLine (path : String) : FileNode → Json
  | .directory => .list [.text path, .text "dir"]
  | .file mode content =>
    .list [.text path, .integer content.length, .text (String.ofList (Nat.toDigits 8 mode))]

/-- What is below a location, with each path as `rename` shows it. -/
def listing (files : FileTree) (location : List String) (rename : String → String) : Json :=
  let entries := (files.below location).map fun (path, node) =>
    (rename (String.intercalate "/" path), node)
  .list <|
    (entries.mergeSort fun a b => decide (a.1 ≤ b.1)).map fun (path, node) =>
      listingLine path node

end SealedBuild.FileTree
