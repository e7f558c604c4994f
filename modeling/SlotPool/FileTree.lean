import SlotPool.Fault

/-!
# Trees of files

A directory holds named files and directories.  A path is a row of names between
slashes and is followed one name at a time from the working directory; a dot stays
where it is and two dots go one directory up.  Of what lies outside the working
directory nothing is known but that there are directories.

Main definitions:

- `FileTree.ofList`: a directory from the paths of its files.
- `FileTree.readPath`: the bytes of the file that a path leads to.
-/

namespace SlotPool

/-- A file, or a directory with its entries. -/
inductive FileTree where
  | file (content : ByteArray)
  | directory (entries : List (String × FileTree))

namespace FileTree

/-! ## Building -/

/-- The entry of a name. -/
def entry? (entries : List (String × FileTree)) (name : String) : Option FileTree :=
  entries.lookup name

/-- Replaces the entry of a name, or adds it. -/
def putEntry (name : String) (tree : FileTree) :
    List (String × FileTree) → List (String × FileTree)
  | [] => [(name, tree)]
  | (other, old) :: rest =>
    if other = name then (name, tree) :: rest else (other, old) :: putEntry name tree rest

/-- Puts a tree at the end of a row of names, making directories on the way. -/
def insert (tree : FileTree) : List String → List (String × FileTree) → List (String × FileTree)
  | [], entries => entries
  | [name], entries => putEntry name tree entries
  | name :: names, entries =>
    let inner :=
      match entry? entries name with
      | some (directory inner) => inner
      | _ => []
    putEntry name (directory (insert tree names inner)) entries

/-- The names of a path, those left empty included. -/
def names (path : String) : List String :=
  path.splitOn "/"

/-- A directory with a file of given bytes, or an empty directory, at every path. -/
def ofList (files : List (String × Option ByteArray)) : FileTree :=
  let add (entries : List (String × FileTree)) (item : String × Option ByteArray) :
      List (String × FileTree) :=
    let tree :=
      match item.2 with
      | some content => file content
      | none => directory []
    insert tree ((names item.1).filter (· != "")) entries
  directory (files.foldl add [])

/-! ## Following a path -/

/-- The largest number of bytes of a name. -/
def nameLimit : Nat :=
  255

/-- The number of bytes from which on a path is too long. -/
def pathLimit : Nat :=
  4096

/-- Where a path has led so far. -/
inductive Spot where
  /-- A tree, with the entries of the directories above it, the nearest first. -/
  | inside (above : List (List (String × FileTree))) (tree : FileTree)
  /-- A directory outside the working directory. -/
  | outside

/-- Follows one name of a path. -/
def follow (name : String) : Spot → Except FileFault Spot
  | .inside _ (file _) => .error .notDirectory
  | .inside above (directory entries) =>
    if name = "" ∨ name = "." then .ok (.inside above (directory entries))
    else if name = ".." then
      match above with
      | [] => .ok .outside
      | parent :: above => .ok (.inside above (directory parent))
    else if nameLimit < name.utf8ByteSize then .error .nameTooLong
    else
      match entry? entries name with
      | some tree => .ok (.inside (entries :: above) tree)
      | none => .error .missing
  | .outside =>
    if name = "" ∨ name = "." ∨ name = ".." then .ok .outside
    else if nameLimit < name.utf8ByteSize then .error .nameTooLong
    else .error .missing

/-- Follows the names of a path. -/
def followAll : List String → Spot → Except FileFault Spot
  | [], spot => .ok spot
  | name :: names, spot =>
    match follow name spot with
    | .ok spot => followAll names spot
    | .error fault => .error fault

/-- The bytes of the file that a path leads to from a working directory. -/
def readPath (tree : FileTree) (path : String) : Except FileFault ByteArray :=
  if path.toList.contains '\x00' then .error .nulInName
  else if path.isEmpty then .error .missing
  else if pathLimit ≤ path.utf8ByteSize then .error .nameTooLong
  else
    let start := if path.startsWith "/" then Spot.outside else .inside [] tree
    match followAll (names path) start with
    | .error fault => .error fault
    | .ok (.inside _ (file content)) => .ok content
    | .ok _ => .error .isDirectory

end FileTree

end SlotPool
