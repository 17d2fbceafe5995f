import PatternBuild.Fault

/-!
# Files as seen by the tool

`FileSystem` is all that the tool asks of files: what stands at a path, what a directory lists and
what a file holds.
-/

namespace PatternBuild

/-- one moment's view of files -/
structure FileSystem where
  isFile : String → Bool
  isDir : String → Bool
  /-- whether anything stands at a path -/
  isPresent : String → Bool
  /-- the entries of a directory, as paths that go on from the given one -/
  list : String → Except FileFault (List String)
  /-- the bytes of a file -/
  read : String → Except FileFault Text.Bytes
  /-- the text of a file -/
  readText : String → Except FileFault String

end PatternBuild
