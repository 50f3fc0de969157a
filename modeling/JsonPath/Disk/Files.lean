import JsonPath.Disk

/-!
# Files in memory

A place is given by the names on the way to it from the root. A path is walked name by name: a
single dot stays, two dots go back, and whatever is gone through has to be a directory.
-/

namespace JsonPath.Disk

/-- The names on the way to a file or a directory. -/
abbrev Place := List String

/-- Directories and files that are held in memory. -/
structure Files where
  /-- all directories but the root -/
  directories : List Place
  files : List (Place × ByteArray)
  /-- the directory that relative paths start from -/
  current : Place

namespace Files

/-- Nothing but the directory that relative paths start from, and those it is in. -/
def empty (current : Place) : Files where
  directories := (List.range current.length).map fun n => current.take (n + 1)
  files := []
  current := current

/-! ## Paths -/

/-- Whether there is a directory at a place. -/
def isDirectory (fs : Files) (p : Place) : Bool := p.isEmpty || fs.directories.contains p

/-- The contents of the file at a place. -/
def content? (fs : Files) (p : Place) : Option ByteArray :=
  (fs.files.find? fun f => f.1 == p).map (·.2)

/-- Where a name leads to from a place, which has to be a directory. -/
def step (fs : Files) (p : Place) (name : String) : Option Place :=
  if !fs.isDirectory p then none
  else if name.isEmpty || name == "." then some p
  else if name == ".." then some p.dropLast
  else some (p ++ [name])

/-- Where a path starts. -/
def origin (fs : Files) (path : String) : Place := if path.startsWith "/" then [] else fs.current

/-- The place that a path stands for. There need not be anything. -/
def resolve? (fs : Files) (path : String) : Option Place :=
  (path.splitOn "/").foldlM fs.step (fs.origin path)

/-! ## Reading and writing -/

/-- What is at a path. -/
def read (fs : Files) (path : String) : Content :=
  match fs.resolve? path with
  | none => .absent
  | some p =>
    if fs.isDirectory p then .directory
    else match fs.content? p with
      | some data => .octets data
      | none => .absent

/-- Makes directories one inside the other, as far as that is possible. -/
def createAlong (fs : Files) (p : Place) : List String → Bool × Files
  | [] => (true, fs)
  | name :: names =>
    match fs.step p name with
    | none => (false, fs)
    | some q =>
      if fs.isDirectory q then fs.createAlong q names
      else if (fs.content? q).isSome then (false, fs)
      else { fs with directories := q :: fs.directories }.createAlong q names

/-- Makes a directory and all those it is in, and says whether it is there now. -/
def createDirectories (fs : Files) (path : String) : Bool × Files :=
  fs.createAlong (fs.origin path) (path.splitOn "/")

/-- Writes a file, in the place of one that is there, and says whether that was possible. -/
def createFile (fs : Files) (path : String) (data : ByteArray) : Bool × Files :=
  match fs.resolve? path with
  | none => (false, fs)
  | some p =>
    if fs.isDirectory p then (false, fs)
    else (true, { fs with files := (p, data) :: fs.files.filter fun f => f.1 != p })

/-- The path from the root to a place. -/
def absolute (p : Place) : String := "/" ++ "/".intercalate p

end Files

instance : Disk (StateM Files) where
  read path := return (← get).read path
  createDirectories path := modifyGet (·.createDirectories path)
  createFile path data := modifyGet (·.createFile path data)
  workingDirectory := return Files.absolute (← get).current

end JsonPath.Disk
