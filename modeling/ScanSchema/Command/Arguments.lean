/-!
# Command lines

A command line names one of three commands and gives its arguments, or asks for help. Options have a
long name and some a short one; the value of an option is attached to it or follows it. An argument
that looks like an option is never taken for a value, and `--` ends the options. The first fault
from left to right is reported; conflicts and missing arguments are looked for at the end.
-/

namespace ScanSchema.Command

/-- When to color output. -/
inductive ColorChoice where
  /-- When the errors go to a terminal. -/
  | auto
  /-- Always. -/
  | always
  /-- Never. -/
  | never
  deriving DecidableEq, Repr, Inhabited

/-- Whether to color output, when the errors go to a terminal or elsewhere. -/
def ColorChoice.decide (choice : ColorChoice) (isTerminal : Bool) : Bool :=
  match choice with
  | .auto => isTerminal
  | .always => true
  | .never => false

/-- The arguments of the command that lists tokens. -/
structure LexArguments where
  /-- The source file. -/
  input : Option String := none
  /-- The source itself. -/
  source : Option String := none
  /-- The file of the table. -/
  table : Option String := none
  /-- Whether to use the table for action code. -/
  action : Bool := false
  /-- The mode to start in. -/
  mode : Nat := 0
  /-- Whether to list skipped tokens too. -/
  all : Bool := false
  /-- When to color output. -/
  color : ColorChoice := .auto
  deriving DecidableEq, Repr, Inhabited

/-- The arguments of the command that unifies fields. -/
structure UnifyArguments where
  /-- The file of the nonterminals. -/
  input : String
  /-- Whether to print JSON. -/
  json : Bool := false
  /-- When to color output. -/
  color : ColorChoice := .auto
  deriving DecidableEq, Repr, Inhabited

/-- The arguments of the command for tables. -/
structure TableArguments where
  /-- The file of the table. -/
  input : String
  /-- The file to write the table to. -/
  output : Option String := none
  deriving DecidableEq, Repr, Inhabited

/-- The names of the commands. -/
inductive CommandName where
  /-- List the tokens of a source. -/
  | lex
  /-- Unify the fields of nonterminals. -/
  | unify
  /-- Check and convert a table. -/
  | table
  /-- Show a help text. -/
  | help
  deriving DecidableEq, Repr, Inhabited

/-- What a command line asks for. -/
inductive Invocation where
  /-- List the tokens of a source. -/
  | lex (arguments : LexArguments)
  /-- Unify the fields of nonterminals. -/
  | unify (arguments : UnifyArguments)
  /-- Check and convert a table. -/
  | table (arguments : TableArguments)
  /-- Show the help text of a command, or that of the program. -/
  | help (topic : Option CommandName)
  deriving DecidableEq, Repr, Inhabited

/-- What can be wrong with a command line. -/
inductive UsageFault where
  /-- There are no arguments. -/
  | nothingGiven
  /-- The command does not exist. -/
  | unknownCommand (name : String)
  /-- The argument does not exist. -/
  | unknownArgument (argument : String)
  /-- The value of an option is not what the option takes. -/
  | badValue (option value : String)
  /-- The value of an option is not one of those to choose from, or is missing or empty. -/
  | noValue (option : String)
  /-- An option that takes no value has one. -/
  | unneededValue (option : String)
  /-- A required argument is missing. -/
  | missing (argument : String)
  /-- Two arguments exclude each other, or one is given twice. -/
  | conflict (argument : String)
  deriving DecidableEq, Repr

/-- The wording of each fault. -/
def UsageFault.message : UsageFault → String
  | .nothingGiven => "a command is required"
  | .unknownCommand name => "unrecognized subcommand '" ++ name ++ "'"
  | .unknownArgument argument => "unexpected argument '" ++ argument ++ "' found"
  | .badValue option value => "invalid value '" ++ value ++ "' for '" ++ option ++ "'"
  | .noValue option => "a value is required for '" ++ option ++ "'"
  | .unneededValue option => "unexpected value for '" ++ option ++ "' found"
  | .missing argument => "the required argument '" ++ argument ++ "' was not provided"
  | .conflict argument => "the argument '" ++ argument ++ "' cannot be used here"

/-- The arguments of all commands. -/
inductive Argument where
  /-- The file that the command reads. -/
  | input
  /-- Source text. -/
  | source
  /-- The file of a table. -/
  | table
  /-- Take the table for action code. -/
  | action
  /-- The mode to start in. -/
  | mode
  /-- List skipped tokens too. -/
  | all
  /-- When to color output. -/
  | color
  /-- Print JSON. -/
  | json
  /-- The file to write. -/
  | output
  /-- Show a help text. -/
  | help
  deriving DecidableEq, Repr, Inhabited

namespace Argument

/-- The long name of an option; the file that a command reads has none. -/
def long? : Argument → Option String
  | .input => none
  | .source => some "source"
  | .table => some "table"
  | .action => some "action"
  | .mode => some "mode"
  | .all => some "all"
  | .color => some "color"
  | .json => some "json"
  | .output => some "output"
  | .help => some "help"

/-- The short name of an option. -/
def short? : Argument → Option Char
  | .source => some 's'
  | .table => some 't'
  | .output => some 'o'
  | .help => some 'h'
  | _ => none

/-- The name of an argument in messages. -/
def label (argument : Argument) : String :=
  match argument.long? with
  | some long => "--" ++ long
  | none => "<FILE>"

/-- Whether an option takes a value. -/
def takesValue : Argument → Bool
  | .source | .table | .mode | .color | .output => true
  | _ => false

end Argument

/-- The options of a command. -/
def CommandName.options : CommandName → List Argument
  | .lex => [.source, .table, .action, .mode, .all, .color, .help]
  | .unify => [.json, .color, .help]
  | .table => [.output, .help]
  | .help => [.help]

/-- The commands and their names. -/
def commandNames : List (String × CommandName) :=
  [("lex", .lex), ("unify", .unify), ("table", .table), ("help", .help)]

/-- A number in decimal, with a sign in front or without one, that fits 32 bits unsigned. -/
def readMode? (text : String) : Option Nat :=
  let (negative, digits) := match text.toList with
    | '+' :: rest => (false, rest)
    | '-' :: rest => (true, rest)
    | all => (false, all)
  if digits.isEmpty || !digits.all Char.isDigit then none
  else
    let value := digits.foldl (fun value c => value * 10 + (c.toNat - '0'.toNat)) 0
    if negative && value != 0 then none else if value < 0x100000000 then some value else none

/-- The choices of when to color output. -/
def colorChoices : List (String × ColorChoice) :=
  [("auto", .auto), ("always", .always), ("never", .never)]

/-- What was found on a command line so far. -/
structure Matches where
  /-- The arguments that were given, each with its value; a flag has an empty one. -/
  given : List (Argument × String) := []
  /-- The argument read last, with its value once that was found. -/
  pending : Option (Argument × Option String) := none
  /-- Whether the file to read was found. -/
  hasInput : Bool := false
  deriving DecidableEq, Repr, Inhabited

namespace Matches

/-- The value given for an argument. -/
def value? (found : Matches) (argument : Argument) : Option String := found.given.lookup argument

/-- Whether an argument was given. -/
def has (found : Matches) (argument : Argument) : Bool := (found.value? argument).isSome

/-- Check the value of an argument. Files need a name, modes are numbers, and colors are chosen from
three words. -/
def checkValue (argument : Argument) (value : String) : Except UsageFault Unit :=
  match argument with
  | .input | .table | .output =>
    if value.isEmpty then .error (.noValue argument.label) else .ok ()
  | .mode =>
    if (readMode? value).isNone then .error (.badValue argument.label value) else .ok ()
  | .color =>
    if (colorChoices.lookup value).isNone then .error (.noValue argument.label) else .ok ()
  | _ => .ok ()

/-- Add an argument that was not given before. -/
def store (found : Matches) (argument : Argument) (value : String) : Except UsageFault Matches :=
  if found.has argument then .error (.conflict argument.label)
  else do
    checkValue argument value
    return { found with given := found.given ++ [(argument, value)] }

/-- Add the argument read last. -/
def settle (found : Matches) : Except UsageFault Matches :=
  match found.pending with
  | none => .ok found
  | some (argument, none) => .error (.noValue argument.label)
  | some (argument, some value) => { found with pending := none }.store argument value

/-- What reading one argument leads to. -/
inductive Step where
  /-- Go on with the next argument. -/
  | more (found : Matches)
  /-- Show the help text. -/
  | help

/-- Take an option with the value attached to it, if there is one. -/
def takeOption (found : Matches) (option : Argument) (attached : Option String) :
    Except UsageFault Step := do
  let settled ← found.settle
  if option = .help then return .help
  if option.takesValue then
    match attached with
    | some value => return .more (← settled.store option value)
    | none => return .more { settled with pending := some (option, none) }
  return .more (← settled.store option "")

/-- Take an option by its long name. -/
def takeLong (options : List Argument) (found : Matches) (text : List Char) :
    Except UsageFault Step :=
  let name := String.ofList (text.takeWhile (· ≠ '='))
  let attached := match text.dropWhile (· ≠ '=') with
    | [] => none
    | _ :: value => some (String.ofList value)
  match options.find? fun option => option.long? == some name with
  | none => .error (.unknownArgument ("--" ++ name))
  | some option =>
    if attached.isSome && !option.takesValue then .error (.unneededValue option.label)
    else found.takeOption option attached

/-- Take options by their short names, several behind one dash. What follows an option with a value
is its value; an equals sign in front of the value does not count. -/
def takeShort (options : List Argument) (found : Matches) : List Char → Except UsageFault Step
  | [] => .ok (.more found)
  | c :: rest =>
    match options.find? fun option => option.short? == some c with
    | none => .error (.unknownArgument ("-" ++ c.toString))
    | some option =>
      if option.takesValue then
        let attached := match rest with
          | [] => none
          | '=' :: value => some (String.ofList value)
          | value => some (String.ofList value)
        found.takeOption option attached
      else
        match found.takeOption option none with
        | .ok (.more longer) => takeShort options longer rest
        | other => other

/-- Take the file that the command reads. -/
def takeInput (found : Matches) (value : String) : Except UsageFault Matches :=
  if found.hasInput then .error (.unknownArgument value)
  else do
    let settled ← found.settle
    return { settled with pending := some (.input, some value), hasInput := true }

/-- Read arguments behind `--`: only the file to read can follow. -/
def readTrailing (found : Matches) : List String → Except UsageFault Matches
  | [] => found.settle
  | value :: rest => do
    let longer ← found.takeInput value
    readTrailing longer rest

/-- Read the arguments of a command; the answer is empty if they ask for help. -/
def read (options : List Argument) (found : Matches) :
    List String → Except UsageFault (Option Matches)
  | [] => some <$> found.settle
  | argument :: rest =>
    match argument.toList with
    | ['-', '-'] => some <$> found.readTrailing rest
    | '-' :: '-' :: name => do
      match ← found.takeLong options name with
      | .help => return none
      | .more longer => read options longer rest
    | '-' :: c :: names => do
      match ← found.takeShort options (c :: names) with
      | .help => return none
      | .more longer => read options longer rest
    | _ =>
      match found.pending with
      | some (option, none) =>
        read options { found with pending := some (option, some argument) } rest
      | _ => do
        let longer ← found.takeInput argument
        read options longer rest

/-- The mode that was given, or else mode 0. -/
def mode (found : Matches) : Nat := ((found.value? .mode).bind readMode?).getD 0

/-- The choice of color that was given, or else the automatic one. -/
def color (found : Matches) : ColorChoice :=
  ((found.value? .color).bind fun word => colorChoices.lookup word).getD .auto

/-- Two arguments may not be given together. -/
def exclude (found : Matches) (first second : Argument) : Except UsageFault Unit :=
  if found.has first && found.has second then .error (.conflict second.label) else .ok ()

/-- A file to read must be given. -/
def requireInput (found : Matches) : Except UsageFault String :=
  match found.value? .input with
  | some input => .ok input
  | none => .error (.missing Argument.input.label)

/-- What a command is asked to do, once its arguments were read. -/
def invocation (found : Matches) : CommandName → Except UsageFault Invocation
  | .lex => do
    found.exclude .input .source
    found.exclude .table .action
    return .lex {
      input := found.value? .input, source := found.value? .source
      table := found.value? .table, action := found.has .action
      mode := found.mode, all := found.has .all, color := found.color }
  | .unify => do
    return .unify { input := ← found.requireInput, json := found.has .json, color := found.color }
  | .table => do
    return .table { input := ← found.requireInput, output := found.value? .output }
  | .help => .ok (.help none)

end Matches

/-- What a request for help is about: the program, a command, or something unknown. -/
def helpTopic : List String → Except UsageFault Invocation
  | [] => .ok (.help none)
  | name :: rest =>
    match commandNames.lookup name, rest with
    | some command, [] => .ok (.help (some command))
    | some _, other :: _ => .error (.unknownCommand other)
    | none, _ => .error (.unknownCommand name)

/-- Read an argument in front of which no command stands. -/
def readFront (argument : String) : Except UsageFault Invocation := do
  let step ← match argument.toList with
    | '-' :: '-' :: name => Matches.takeLong [.help] {} name
    | '-' :: c :: names => Matches.takeShort [.help] {} (c :: names)
    | _ => throw (.unknownCommand argument)
  match step with
  | .help => return .help none
  | .more _ => throw (.unknownArgument argument)

/-- Read a command line, without the name of the program. -/
def readCommandLine : List String → Except UsageFault Invocation
  | [] => .error .nothingGiven
  | ["--"] => .error .nothingGiven
  | "--" :: name :: _ =>
    if (commandNames.lookup name).isSome then .error (.unknownArgument name)
    else .error (.unknownCommand name)
  | first :: rest =>
    match commandNames.lookup first with
    | some .help => helpTopic rest
    | some command => do
      match ← Matches.read command.options {} rest with
      | none => return .help (some command)
      | some found => found.invocation command
    | none => readFront first

end ScanSchema.Command
