import ParkFusion.Unicode.Blank

namespace ParkFusion.CommandLine

/-- What is asked for. The ids of a park stand under their sources. -/
inductive Command
  | discover
  | entities (ids : List (String × String))
  | live (park : String) (ids : List (String × String))
  | health
  deriving DecidableEq, Repr

structure Invocation where
  config : Option String
  command : Command
  deriving DecidableEq, Repr

inductive Flag
  | config | sourceId | help | version
  deriving DecidableEq, Repr

namespace Flag

def all : List Flag := [config, sourceId, help, version]

def long : Flag → String
  | config => "config"
  | sourceId => "source-id"
  | help => "help"
  | version => "version"

def short : Flag → Char
  | config => 'c'
  | sourceId => 's'
  | help => 'h'
  | version => 'V'

def takesValue : Flag → Bool
  | config | sourceId => true
  | help | version => false

/-- The flag with its value, as messages name it. -/
def title : Flag → String
  | config => "--config <CONFIG>"
  | sourceId => "--source-id <SOURCE_IDS>"
  | help => "--help"
  | version => "--version"

end Flag

/-- The words before a command belong to the program, those after it to the command. -/
inductive Scope
  | program | discover | entities | live | health
  deriving DecidableEq, Repr

namespace Scope

def accepts : Scope → Flag → Bool
  | _, .config | _, .help => true
  | scope, .sourceId => scope = .entities || scope = .live
  | scope, .version => scope = .program

/-- The command that a word names. -/
def ofWord? : String → Option Scope
  | "discover" => some discover
  | "entities" => some entities
  | "live" => some live
  | "health" => some health
  | _ => none

end Scope

/-- What is wrong with a command line. -/
inductive Misuse
  | noCommand
  | unknownCommand (word : String)
  | missingArguments
  | unexpected (word : String)
  | unexpectedValue (flag : Flag) (value : String)
  | noValue (flag : Flag)
  | repeated (flag : Flag)
  | invalidPair (value : String)
  deriving DecidableEq, Repr

namespace Misuse

def message : Misuse → String
  | noCommand => "'parkfan-ingest' requires a subcommand but one was not provided"
  | unknownCommand word => "unrecognized subcommand '" ++ word ++ "'"
  | missingArguments => "the following required arguments were not provided:"
  | unexpected word => "unexpected argument '" ++ word ++ "' found"
  | unexpectedValue flag value =>
    "unexpected value '" ++ value ++ "' for '" ++ flag.title ++ "' found; no more were expected"
  | noValue flag => "a value is required for '" ++ flag.title ++ "' but none was supplied"
  | repeated flag => "the argument '" ++ flag.title ++ "' cannot be used multiple times"
  | invalidPair value =>
    "invalid value '" ++ value ++ "' for '" ++ Flag.title .sourceId ++
      "': Invalid input: expected SOURCE=EXTERNAL_ID, got '" ++ value ++ "'"

end Misuse

/-- What a command line comes to. -/
inductive Request
  | run (invocation : Invocation)
  | version
  | help
  /-- Nothing was given at all. -/
  | nothing
  | misuse (fault : Misuse)
  deriving DecidableEq, Repr

/-- A source and an external id, with an equals sign between them. Neither is blank. -/
def pair? (s : String) : Option (String × String) :=
  let cs := s.toList
  match cs.dropWhile (· ≠ '=') with
  | [] => none
  | _ :: rest =>
    let source := Unicode.trim (String.ofList (cs.takeWhile (· ≠ '=')))
    let id := Unicode.trim (String.ofList rest)
    if source.isEmpty || id.isEmpty then none else some (source, id)

/-- What was read so far in one scope. A flag is pending until the next one, or the end, settles its
value. -/
structure Reading where
  config : Option String := none
  ids : List (String × String) := []
  park : Option String := none
  pending : Option (Flag × Option String) := none
  trailing : Bool := false
  deriving DecidableEq, Repr

namespace Reading

def awaits (r : Reading) : Bool :=
  match r.pending with
  | some (_, none) => true
  | _ => false

/-- Settles the pending flag. -/
def settle (r : Reading) : Except Misuse Reading :=
  let done := { r with pending := none }
  match r.pending with
  | none => .ok r
  | some (flag, none) => .error (.noValue flag)
  | some (.config, some value) =>
    if r.config.isSome then .error (.repeated .config)
    else if value.isEmpty then .error (.noValue .config)
    else .ok { done with config := some value }
  | some (.sourceId, some value) =>
    match pair? value with
    | some pair => .ok { done with ids := r.ids ++ [pair] }
    | none => .error (.invalidPair value)
  | some _ => .ok done

end Reading

/-- The result of one word: the reading goes on, or the line is decided. -/
abbrev Step := Except Request Reading

def refuse (fault : Misuse) : Step :=
  .error (.misuse fault)

def ofExcept : Except Misuse Reading → Step
  | .ok r => .ok r
  | .error fault => refuse fault

/-- A flag with the value that is attached to it. -/
def readFlag (flag : Flag) (value : Option String) (r : Reading) : Step :=
  if flag.takesValue then do
    let r ← ofExcept r.settle
    match value with
    | none => return { r with pending := some (flag, none) }
    | some value => ofExcept ({ r with pending := some (flag, some value) } : Reading).settle
  else
    match value with
    | some value => refuse (.unexpectedValue flag value)
    | none => do
      let _ ← ofExcept r.settle
      .error (if flag = .version then .version else .help)

def readLong (scope : Scope) (word : List Char) (r : Reading) : Step :=
  let name := String.ofList (word.takeWhile (· ≠ '='))
  let value := match word.dropWhile (· ≠ '=') with
    | [] => none
    | _ :: rest => some (String.ofList rest)
  match Flag.all.find? fun flag ↦ flag.long = name && scope.accepts flag with
  | some flag => readFlag flag value r
  | none => refuse (.unexpected ("--" ++ name))

/-- A short flag; what follows its letter is its value, with or without an equals sign between
them. -/
def readShort (scope : Scope) (letter : Char) (rest : List Char) (r : Reading) : Step :=
  match Flag.all.find? fun flag ↦ flag.short = letter && scope.accepts flag with
  | some flag =>
    let value := match rest with
      | [] => none
      | '=' :: rest => some (String.ofList rest)
      | rest => some (String.ofList rest)
    readFlag flag (if flag.takesValue then value else none) r
  | none => refuse (.unexpected (String.ofList ['-', letter]))

def readPositional (scope : Scope) (word : String) (r : Reading) : Step :=
  if scope = .live && r.park.isNone then do
    let r ← ofExcept r.settle
    return { r with park := some word }
  else if scope = .program && !(r.trailing && (Scope.ofWord? word).isSome) then
    refuse (.unknownCommand word)
  else refuse (.unexpected word)

/-- Reads one word. After two hyphens alone every word stands for itself. -/
def readWord (scope : Scope) (word : String) (r : Reading) : Step :=
  if r.trailing then readPositional scope word r
  else
    match word.toList with
    | ['-', '-'] => .ok { r with trailing := true }
    | '-' :: '-' :: rest => readLong scope rest r
    | '-' :: letter :: rest => readShort scope letter rest r
    | _ =>
      match r.pending with
      | some (flag, none) => .ok { r with pending := some (flag, some word) }
      | _ => readPositional scope word r

def readWords (scope : Scope) (words : List String) (r : Reading) : Step :=
  words.foldlM (fun r word ↦ readWord scope word r) r

/-- The command of a scope, once all of it is read. -/
def commandOf (scope : Scope) (r : Reading) : Except Misuse Command :=
  match scope, r.park, r.ids with
  | .discover, _, _ => .ok .discover
  | .health, _, _ => .ok .health
  | .entities, _, id :: ids => .ok (.entities (id :: ids))
  | .live, some park, id :: ids => .ok (.live park (id :: ids))
  | _, _, _ => .error .missingArguments

/-- Reads what follows a command. -/
def readCommand (program : Reading) (scope : Scope) (words : List String) : Step :=
  match readWords scope words {} with
  | .error request => .error request
  | .ok r => do
    let r ← ofExcept r.settle
    match commandOf scope r with
    | .error fault => refuse fault
    | .ok command =>
      let program ← ofExcept program.settle
      .error (.run ⟨r.config.or program.config, command⟩)

/-- The command that a word names which can be one: no value of a flag, and not after two hyphens. -/
def commandWord? (word : String) (r : Reading) : Option Scope :=
  if r.trailing || r.awaits then none else Scope.ofWord? word

/-- Whether a word asks for help as a command would. -/
def isHelpWord (word : String) (r : Reading) : Bool :=
  word = "help" && !r.trailing && !r.awaits

def helpFor : List String → Request
  | [] => .help
  | word :: _ =>
    if word = "help" || (Scope.ofWord? word).isSome then .help
    else .misuse (.unknownCommand word)

/-- Reads the words up to the command, and then the command. -/
def readProgram (r : Reading) : List String → Step
  | [] => do
    let r ← ofExcept r.settle
    if r.config.isNone then .error .nothing else refuse .noCommand
  | word :: words =>
    if isHelpWord word r then .error (helpFor words)
    else
      match commandWord? word r with
      | some scope => readCommand r scope words
      | none =>
        match readWord .program word r with
        | .ok r => readProgram r words
        | .error request => .error request

/-- What the words of a command line ask for. -/
def parse (words : List String) : Request :=
  match readProgram {} words with
  | .error request => request
  | .ok _ => .nothing

end ParkFusion.CommandLine
