import JsonPath.Manual

/-!
# How a command is called

A command takes options and operands, or it hands the rest of what it is called with over to a
command below it. Arguments are read from left to right, and the first one that does not fit ends
the reading. Whether an operand is acceptable, or whether an option has got its value, is found out
when the next argument is read.

Options have a long name behind two hyphens, and may have a letter behind one. Letters can be
written together, a value can be attached, and two hyphens alone end the options.
-/

namespace JsonPath

namespace Usage

/-- What an option is for. -/
inductive Effect where
  /-- something to be set, once -/
  | set
  /-- something to be repeated -/
  | count
  /-- a value, given once -/
  | value (accepts : String → Bool)
  /-- asks how the command is called -/
  | help
  /-- asks for the version of the program -/
  | version

/-- An option. -/
structure Switch where
  name : String
  letter : Option Char
  effect : Effect
  /-- the options that it does not go together with -/
  excludes : List String

/-- An operand. -/
structure Operand where
  name : String
  required : Bool
  accepts : String → Bool

end Usage

/-- How a command is called. -/
structure Usage where
  name : String
  switches : List Usage.Switch
  operands : List Usage.Operand
  commands : List Usage
  /-- whether it has to be called with something -/
  needsArgument : Bool
  /-- whether one of the commands below has to be named -/
  needsCommand : Bool
  /-- whether `help` explains the commands below -/
  explains : Bool

namespace Usage

/-! ## What a command is called with -/

/-- What a command is called with, apart from the commands below. -/
structure Given where
  /-- the names of the options, as often as they are given -/
  switches : List String
  /-- the values of options -/
  values : List (String × String)
  operands : List String

namespace Given

/-- Nothing at all. -/
def nothing : Given := ⟨[], [], []⟩

/-- Whether an option is given. -/
def has (g : Given) (name : String) : Bool := g.switches.contains name

/-- The value of an option. -/
def value? (g : Given) (name : String) : Option String :=
  (g.values.find? fun v => v.1 == name).map (·.2)

end Given

/-- Why a program does not go to work. -/
inductive Stop where
  /-- it is called in a wrong way -/
  | misuse
  /-- it is asked how a command is called -/
  | help
  /-- it is asked for its version -/
  | version
deriving Repr, DecidableEq

/-- What remains to be found out about the last argument. -/
inductive Pending where
  | nothing
  /-- an option waits for its value -/
  | value (s : Switch)
  /-- an operand is acceptable or not -/
  | operand (acceptable : Bool)

/-- What has been read so far. -/
structure Progress where
  given : Given
  pending : Pending

namespace Progress

/-- Nothing has been read. -/
def start : Progress := ⟨.nothing, .nothing⟩

/-- Finds out what remains to be found out about the last argument. -/
def settle (p : Progress) : Except Stop Progress :=
  match p.pending with
  | .nothing => .ok p
  | .value _ => .error .misuse
  | .operand true => .ok { p with pending := .nothing }
  | .operand false => .error .misuse

/-- Adds an option. -/
def addSwitch (p : Progress) (name : String) : Progress :=
  { p with given := { p.given with switches := p.given.switches ++ [name] } }

/-- Adds an option with a value, which has to be acceptable, and the only one. -/
def addValue (p : Progress) (s : Switch) (text : String) : Except Stop Progress :=
  match s.effect with
  | .value accepts =>
    if accepts text && !p.given.has s.name then
      let p := p.addSwitch s.name
      .ok ⟨{ p.given with values := p.given.values ++ [(s.name, text)] }, .nothing⟩
    else .error .misuse
  | _ => .error .misuse

/-- Reads an option without a value, or one whose value is the next argument. -/
def readSwitch (p : Progress) (s : Switch) : Except Stop Progress := do
  let p ← p.settle
  match s.effect with
  | .set => if p.given.has s.name then throw .misuse else return p.addSwitch s.name
  | .count => return p.addSwitch s.name
  | .value _ => return { p with pending := .value s }
  | .help => throw .help
  | .version => throw .version

/-- Reads the value that is attached to an option. -/
def readAttached (p : Progress) (s : Switch) (text : String) : Except Stop Progress := do
  match s.effect with
  | .value _ => (← p.settle).addValue s text
  | _ => throw .misuse

end Progress

/-! ## Reading -/

/-- The command of a name among those below. -/
def command? (u : Usage) (name : String) : Option Usage := u.commands.find? fun c => c.name == name

/-- Reads an option by its name, with a value attached behind an equals sign if there is one. -/
def readLong (u : Usage) (p : Progress) (text : List Char) : Except Stop Progress :=
  let name := String.ofList (text.takeWhile (· != '='))
  match u.switches.find? fun s => s.name == name, text.dropWhile (· != '=') with
  | none, _ => .error .misuse
  | some s, [] => p.readSwitch s
  | some s, _ :: value => p.readAttached s (.ofList value)

/-- Reads options by their letters. What stands behind the letter of an option that takes a value is
its value; an equals sign may come between. -/
def readLetters (u : Usage) (p : Progress) : List Char → Except Stop Progress
  | [] => .ok p
  | c :: cs =>
    match u.switches.find? fun s => s.letter == some c with
    | none => .error .misuse
    | some s =>
      match s.effect, cs with
      | .value _, '=' :: value => p.readAttached s (.ofList value)
      | .value _, v :: value => p.readAttached s (.ofList (v :: value))
      | _, cs => do u.readLetters (← p.readSwitch s) cs

/-- Reads an operand. -/
def readOperand (u : Usage) (p : Progress) (text : String) : Except Stop Progress := do
  let p ← p.settle
  match u.operands[p.given.operands.length]? with
  | none => throw .misuse
  | some o =>
    return ⟨{ p.given with operands := p.given.operands ++ [text] }, .operand (o.accepts text)⟩

/-- Reads a single argument in front of the end of the options. -/
def readArgument (u : Usage) (p : Progress) (text : String) : Except Stop Progress :=
  match text.toList with
  | '-' :: '-' :: cs => u.readLong p cs
  | '-' :: c :: cs => u.readLetters p (c :: cs)
  | _ => match p.pending with
    | .value s => Progress.addValue { p with pending := .nothing } s text
    | _ => u.readOperand p text

/-- What a command is called with, if nothing that it needs is left out. -/
def finish (u : Usage) (p : Progress) (hasCommand : Bool) : Except Stop Given := do
  let g := (← p.settle).given
  let nothing := g.switches.isEmpty && g.operands.isEmpty
  if !hasCommand && (u.needsArgument && nothing || u.needsCommand) then throw .misuse
  if u.switches.any fun s => g.has s.name && s.excludes.any g.has then throw .misuse
  if (u.operands.drop g.operands.length).any (·.required) then throw .misuse
  return g

/-- What is answered to the question how a command below is called. -/
def explain (u : Usage) : List String → Stop
  | [] => .help
  | name :: names => match u.command? name with
    | some c => c.explain names
    | none => if name == "help" && u.explains && names.isEmpty then .help else .misuse

/-- Reads all arguments. The result is what each command on the way is called with, from the
outermost on. -/
def readAll (u : Usage) (p : Progress) : List String → Except Stop (List (String × Given))
  | [] => do return [(u.name, ← u.finish p false)]
  | text :: rest =>
    let below := if p.pending matches .value _ then none else u.command? text
    match below with
    | some c => do
      let inner ← c.readAll .start rest
      return (u.name, ← u.finish p true) :: inner
    | none =>
      if u.explains && text == "help" && !(p.pending matches .value _) then .error (u.explain rest)
      else if text == "--" then do
        let p ← rest.foldlM u.readOperand p
        return [(u.name, ← u.finish p false)]
      else do
        u.readAll (← u.readArgument p text) rest

/-- Reads what a program is called with. -/
def read (u : Usage) (arguments : List String) : Except Stop (List (String × Given)) :=
  u.readAll .start arguments

mutual

/-- The commands that have manual pages. -/
def command : Usage → Manual.Command
  | ⟨name, _, _, commands, _, _, _⟩ => ⟨name, commandsBelow commands⟩

/-- The commands below that have manual pages. -/
def commandsBelow : List Usage → List Manual.Command
  | [] => []
  | c :: cs => c.command :: commandsBelow cs

end

end Usage

end JsonPath
