import JsonPath.Disk

/-!
# Manual pages

Every command has a page, and so has every command below it. A page is named for all commands on the
way to its own, and comes before the pages of the commands below.
-/

namespace JsonPath.Manual

/-- A command and the commands below it. -/
structure Command where
  name : String
  commands : List Command
deriving Inhabited

mutual

/-- The names of the pages of a command whose own page has the given name. -/
def Command.pages (page : String) : Command → List String
  | ⟨_, commands⟩ => page :: pagesBelow page commands

/-- The names of the pages of commands below the one with the given page. -/
def pagesBelow (page : String) : List Command → List String
  | [] => []
  | ⟨name, commands⟩ :: rest =>
    Command.pages (page ++ "-" ++ name) ⟨name, commands⟩ ++ pagesBelow page rest

end

/-- The names of all pages of a command. -/
def Command.pageNames (c : Command) : List String := c.pages c.name

/-- The start of a page: its title and what it is about. -/
def pageText (page : String) : String := ".TH " ++ page ++ " 1\n.SH NAME\n" ++ page ++ "\n"

/-- Why pages are not written. -/
inductive PageError where
  /-- there is no directory for them, and none can be made -/
  | directory
  /-- a page cannot be made -/
  | page (path : String)

/-- What is said about an error. -/
def PageError.message : PageError → String
  | directory => "create output Man directories"
  | page path => "failed to create " ++ path

variable {m : Type → Type} [Monad m] [Disk m]

/-- Writes pages into a directory, one after the other, until one cannot be made. -/
def writePages (directory : String) : List String → ExceptT PageError m (List String)
  | [] => return []
  | page :: pages => do
    let path := Disk.join directory (page ++ ".1")
    unless ← (Disk.createFile path (pageText page).toUTF8 : m Bool) do throw (.page path)
    return path :: (← writePages directory pages)

/-- Writes the pages of a command into a directory, which is made if need be, or into the working
directory. The result is the paths of the pages in the order in which they were written. -/
def write (c : Command) (directory : Option String) : ExceptT PageError m (List String) := do
  let directory ← match directory with
    | some path => pure path
    | none => (Disk.workingDirectory : m String)
  unless ← (Disk.createDirectories directory : m Bool) do throw .directory
  writePages directory c.pageNames

end JsonPath.Manual
