/-!
# Files

What a program does with files is written against `Disk`, so that the same program runs on the files
of the machine and on files held in memory. A path is a text; it is the disk that knows what it
stands for.
-/

namespace JsonPath

/-- What comes of reading a path. -/
inductive Disk.Content where
  /-- it cannot be opened -/
  | absent
  /-- it can be opened, but is no file with contents -/
  | directory
  | octets (data : ByteArray)

/-- What can be done with files. -/
class Disk (m : Type → Type) where
  /-- what is at a path -/
  read : String → m Disk.Content
  /-- makes a directory and all those it is in, and says whether it is there now -/
  createDirectories : String → m Bool
  /-- writes a file, which need not exist yet, and says whether that was possible -/
  createFile : String → ByteArray → m Bool
  /-- the path of the directory that relative paths start from -/
  workingDirectory : m String

/-- The path of a name in a directory. An absolute name stays as it is. -/
def Disk.join (directory name : String) : String :=
  if name.startsWith "/" || directory.isEmpty then name
  else if directory.endsWith "/" then directory ++ name
  else directory ++ "/" ++ name

end JsonPath
