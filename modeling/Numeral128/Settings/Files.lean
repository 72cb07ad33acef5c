import Numeral128.Text.Split

/-!
# Files with settings

A settings file is found under its path if that ends in `.toml`, else under the path with `.toml`
appended. What a path names is up to the file system; `Files` is one whose files are listed.
-/

namespace Numeral128

namespace FilePath

/-- The parts of `path`, without those that mean the directory they stand in. -/
def components (path : String) : List String :=
  (Text.partsOf '/' path).filter fun part => part ≠ "."

/-- Whether `path` begins at the root of the file system. -/
def isAbsolute (path : String) : Bool := path.toList.head? = some '/'

/-- Whether `path` can only name a directory. -/
def namesDirectory (path : String) : Bool := path.toList.getLast? = some '/'

/-- The path without parts that mean the directory they stand in. -/
def normal (path : String) : String :=
  (if isAbsolute path then "/" else "") ++ "/".intercalate (components path)

/-- Whether `path` has the extension of a settings file. A point at the start of a name begins no
extension. -/
def hasExtension (path : String) : Bool :=
  match (components path).getLast? with
  | some name => (".toml".toList.isSuffixOf name.toList) && name ≠ ".toml"
  | none => false

/-- The path that is tried when there is no file under `path` itself. A path that ends in no name
has none. -/
def withExtension? (path : String) : Option String :=
  let parts := components path
  if parts.isEmpty || parts.getLast? = some ".." then none else some (normal path ++ ".toml")

/-- The settings file for `path`: its name in messages and its content. A file with another
extension is none. -/
def find? (read? : String → Option String) (path : String) : Option (String × String) :=
  match read? path with
  | some content => if hasExtension path then some (normal path, content) else none
  | none => do
    let path ← withExtension? path
    return (path, ← read? path)

end FilePath

/-- The files of a file system by their names. Names that do not begin at the root are relative to
the working directory, of which it is not known where it lies. -/
structure Files where
  contents : List (String × String)

namespace Files

open FilePath

/-- Whether there is a directory with these `parts`, below the root or the working directory. -/
def isDirectory (files : Files) (absolute : Bool) (parts : List String) : Bool :=
  parts.isEmpty || files.contents.any fun (name, _) =>
    let file := components name
    isAbsolute name = absolute && parts.isPrefixOf file && parts.length < file.length

/-- Goes from the directory `parts` along the parts of a path. Every part but the last has to be a
directory. Nothing is above the root, and nothing is known of what is above the working
directory. -/
def resolve? (files : Files) (absolute : Bool) :
    (parts : List String) → List String → Option (List String)
  | parts, [] => some parts
  | parts, part :: rest =>
    if !files.isDirectory absolute parts then none
    else if part = ".." then
      if parts.isEmpty && !absolute then none else resolve? files absolute parts.dropLast rest
    else resolve? files absolute (parts ++ [part]) rest

/-- The content of the file that `path` names. -/
def content? (files : Files) (path : String) : Option String := do
  if namesDirectory path then none
  let parts ← files.resolve? (isAbsolute path) [] (components path)
  let (_, content) ← files.contents.find? fun (name, _) =>
    isAbsolute name = isAbsolute path && components name = parts
  return content

end Files

end Numeral128
