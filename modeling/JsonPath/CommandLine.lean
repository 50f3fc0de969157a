import JsonPath.Json.Reader
import JsonPath.Output
import JsonPath.Prepared
import JsonPath.Usage

/-!
# The program

It prepares a query, reads a document from a file or from its input, and writes what the query
finds. It can also write its own manual pages. A mistake in how it is called is told apart from a
failure of what it is called for by the number it ends with.
-/

namespace JsonPath.CommandLine

/-! ## How the program is called -/

/-- Options that every command takes: how much is said about what is going on. -/
def commonSwitches : List Usage.Switch :=
  [⟨"verbose", some 'v', .count, []⟩, ⟨"quiet", some 'q', .count, ["verbose"]⟩,
    ⟨"help", some 'h', .help, []⟩]

/-- A path is anything but the empty text. -/
def isPath (text : String) : Bool := !text.isEmpty

/-- The shells that commands can be completed in. -/
def shells : List String := ["bash", "elvish", "fish", "powershell", "zsh"]

/-- The command that writes a script for a shell. -/
def shellUsage : Usage where
  name := "shell"
  switches := commonSwitches
  operands := [⟨"SHELL", true, shells.contains⟩]
  commands := []
  needsArgument := false
  needsCommand := false
  explains := false

/-- The command that writes manual pages. -/
def manualUsage : Usage where
  name := "man"
  switches := ⟨"output-dir", some 'o', .value isPath, []⟩ :: commonSwitches
  operands := []
  commands := []
  needsArgument := false
  needsCommand := false
  explains := false

/-- The command that writes about the program. -/
def generateUsage : Usage where
  name := "generate"
  switches := commonSwitches
  operands := []
  commands := [shellUsage, manualUsage]
  needsArgument := true
  needsCommand := true
  explains := true

/-- The program. -/
def usage : Usage where
  name := "jpq"
  switches :=
    [⟨"compact", none, .set, []⟩, ⟨"color", none, .set, []⟩, ⟨"count", none, .set, []⟩,
      ⟨"explain", none, .set, []⟩, ⟨"no-display", some 'n', .set, []⟩]
    ++ commonSwitches ++ [⟨"version", some 'V', .version, []⟩]
  operands := [⟨"QUERY", false, fun _ => true⟩, ⟨"FILE", false, isPath⟩]
  commands := [generateUsage]
  needsArgument := true
  needsCommand := false
  explains := false

/-- What the program is called for. -/
inductive Request where
  /-- to run a query on the document in a file, or on the input -/
  | query (given : Usage.Given)
  /-- to write a script for a shell -/
  | script (shell : String)
  /-- to write manual pages into a directory -/
  | manual (directory : Option String)

/-- What the program is called for. -/
def Request.ofArguments (arguments : List String) : Except Usage.Stop Request := do
  match ← usage.read arguments with
  | [_, _, ("shell", g)] => return .script (g.operands.headD "")
  | [_, _, ("man", g)] => return .manual (g.value? "output-dir")
  | calls => return .query ((calls.head?.map (·.2)).getD .nothing)

/-! ## What the program answers -/

/-- Why the program fails. -/
inductive Failure where
  | missingQuery
  | query (e : Query.ParseError)
  /-- the file of the document cannot be opened -/
  | opening (path : String)
  /-- what was opened is no file -/
  | mapping (path : String)
  /-- what was read is no document -/
  | document
  | function (d : Defect)
  | output (e : Output.WriteError)
  | manual (e : Manual.PageError)

/-- What is said about a failure. -/
def Failure.message : Failure → String
  | missingQuery => "Query string required unless using subcommand"
  | query e => "Failed to parse query: " ++ e.message
  | opening path => "Failed to open file " ++ path
  | mapping path => "Failed to map file " ++ path
  | document => "Failed to parse JSON"
  | function d => d.message
  | output e => e.message
  | manual e => e.message

/-- What comes of a call. -/
structure Outcome where
  /-- the number the program ends with -/
  code : UInt8
  output : ByteArray
  /-- what is said if the program fails -/
  error : Option String

/-- A line of output. -/
def line (text : String) : ByteArray := (text ++ "\n").toUTF8

/-- What is written about the nodes that a query has found. -/
def report (given : Usage.Given) (query : Query) (found : List Json) : Except Failure ByteArray :=
  let explanation :=
    if given.has "explain" then
      line ("Query: " ++ query.toText)
        ++ line ("Depth: " ++ .ofList (Text.digits 10 query.depth))
    else .empty
  let count :=
    if given.has "count" then line ("Found matches: " ++ .ofList (Text.digits 10 found.length))
    else .empty
  if given.has "no-display" then .ok (explanation ++ count)
  else
    let style : Output.Style := if given.has "color" then .highlighted true else .plain
    match Output.write style (!given.has "compact") found .unlimited with
    | (.ok (), sink) => .ok (explanation ++ count ++ ⟨sink.octets⟩)
    | (.error e, _) => .error (.output e)

variable {m : Type → Type} [Monad m] [Disk m]

/-- Reads the octets of a document, from a file if one is given. -/
def readDocument (input : m ByteArray) : Option String → ExceptT Failure m ByteArray
  | none => input
  | some path => do
    match ← (Disk.read path : m Disk.Content) with
    | .absent => throw (.opening path)
    | .directory => throw (.mapping path)
    | .octets data => return data

/-- Runs a query on a document. -/
def runQuery (input : m ByteArray) (given : Usage.Given) : ExceptT Failure m ByteArray := do
  let some text := given.operands[0]? | throw .missingQuery
  let prepared ← match Prepared.ofText text .builtin with
    | .ok p => pure p
    | .error e => throw (.query e)
  let some document := Json.ofBytes? (← readDocument input given.operands[1]?) | throw .document
  match prepared.execute document with
  | .error d => throw (.function d)
  | .ok found => match report given prepared.query found with
    | .ok output => return output
    | .error e => throw e

/-- A script that completes the commands and the options of the program. -/
def completion (shell : String) : String :=
  let words := " ".intercalate
    (usage.commands.map (·.name) ++ usage.switches.map fun s => "--" ++ s.name)
  match shell with
  | "bash" => "complete -W '" ++ words ++ "' jpq"
  | "zsh" => "compctl -k '(" ++ words ++ ")' jpq"
  | "fish" => "complete -c jpq -a '" ++ words ++ "'"
  | _ => "# " ++ words

/-- Does what the program is called for. -/
def serve (input : m ByteArray) : Request → ExceptT Failure m ByteArray
  | .query given => runQuery input given
  | .script shell => return line (completion shell)
  | .manual directory => do
    match ← (Manual.write (m := m) usage.command directory).run with
    | .ok paths => return paths.foldl (fun out path => out ++ line ("Generated: " ++ path)) .empty
    | .error e => throw (.manual e)

/-- The line that is written to whoever asks how the program is called. -/
def summary : String := "Usage: jpq [OPTIONS] [QUERY] [FILE] [COMMAND]"

/-- Runs the program with arguments. The input is read only if it is needed. -/
def run (input : m ByteArray) (arguments : List String) : m Outcome := do
  match Request.ofArguments arguments with
  | .error .misuse => return ⟨2, .empty, none⟩
  | .error .help => return ⟨0, line summary, none⟩
  | .error .version => return ⟨0, line "jpq 0.1.0", none⟩
  | .ok request =>
    match ← (serve input request).run with
    | .ok output => return ⟨0, output, none⟩
    | .error e => return ⟨1, .empty, some e.message⟩

end JsonPath.CommandLine
