import ScanSchema.Command.Help
import ScanSchema.Command.Path
import ScanSchema.Command.Process
import ScanSchema.Diagnostic.Excerpt
import ScanSchema.Scan.Listing
import ScanSchema.Schema.Nonterminal
import ScanSchema.Table.Braces
import ScanSchema.Table.Load
import ScanSchema.Table.Summary

/-!
# The program

What each command does: which files it reads, what it prints, and with which code it ends. Code 0
means that all went well, 1 that an input is faulty, 2 that the command line is, and 101 that the
program broke off: the faults of a source could not be shown, or a rule was too long for its spans.
-/

namespace ScanSchema.Command

/-- What a run of the program leaves. -/
structure Report where
  /-- The exit code. -/
  code : Nat := 0
  /-- What was printed. -/
  output : String := ""
  /-- What was printed to standard error. -/
  errors : String := ""
  deriving DecidableEq, Repr, Inhabited

/-- Why a command stopped. -/
inductive CommandFault where
  /-- There is no source. -/
  | noInput
  /-- There is no table. -/
  | noTable
  /-- Standard input could not be read. -/
  | standardInput (fault : FileFault)
  /-- A file could not be read. -/
  | unreadable (path : String) (fault : FileFault)
  /-- A file could not be written. -/
  | unwritable (path : String) (fault : FileFault)
  /-- A file does not hold a table. -/
  | badTable (path : String) (fault : LoadFault)
  /-- A file does not hold nonterminals. -/
  | badNonterminals (path : String) (fault : Json.LocatedFault)
  /-- The table does not have the mode. -/
  | unknownMode (fault : UnknownMode)
  /-- A field has no types. -/
  | emptyTypes (fault : EmptyTypes)
  deriving DecidableEq, Repr

/-- The wording of each fault. -/
def CommandFault.message : CommandFault → String
  | .noInput => "input is required: use positional argument or -s/--source"
  | .noTable => "table is required: use -t/--table or --action"
  | .standardInput fault => "failed to read stdin: " ++ fault.message
  | .unreadable path fault => "failed to read '" ++ path ++ "': " ++ fault.message
  | .unwritable path fault => "failed to write '" ++ path ++ "': " ++ fault.message
  | .badTable path fault => "invalid table '" ++ path ++ "': " ++ fault.message
  | .badNonterminals path fault => "invalid input '" ++ path ++ "': " ++ fault.message
  | .unknownMode fault => fault.message
  | .emptyTypes fault => fault.message

/-- A command at work. -/
abbrev Job := ExceptT CommandFault Process

/-- The text of some bytes. -/
def decodeText (bytes : List UInt8) : Except FileFault String :=
  match String.fromUTF8? ⟨bytes.toArray⟩ with
  | some text => .ok text
  | none => .error .notText

/-- The bytes of a file. -/
def readBytes (path : String) : Job (List UInt8) := do
  ExceptT.mk (return (← Process.file path).mapError (.unreadable path))

/-- The text of a file. -/
def readText (path : String) : Job String := do
  ExceptT.mk (return ((← Process.file path) >>= decodeText).mapError (.unreadable path))

/-- The text of standard input. -/
def readInputText : Job String := do
  ExceptT.mk (return ((← Process.input) >>= decodeText).mapError .standardInput)

/-- The source to list: the text given, or that of a file; the path `-` means standard input. -/
def readSource (arguments : LexArguments) : Job String :=
  match arguments.source, arguments.input with
  | some source, _ => return source
  | none, none => throw .noInput
  | none, some path => if path = "-" then readInputText else readText path

/-- The table in a file: JSON if the name says so, and bytes otherwise. -/
def readTable (path : String) : Job Table := do
  let loaded ←
    if isJsonPath path then Table.ofJsonText <$> readText path
    else Table.ofBlob <$> readBytes path
  ExceptT.mk (return loaded.mapError (.badTable path))

/-- Write a table to a file: as JSON if the name says so, and as bytes otherwise. -/
def writeTable (table : Table) (path : String) : Job Unit := do
  let bytes := if isJsonPath path then table.toJsonText.toUTF8.data.toList else table.toBlob
  ExceptT.mk (return (← Process.write path bytes).mapError (.unwritable path))

/-- The style of excerpts. -/
def excerptStyle (color : ColorChoice) (isTerminal : Bool) : Excerpt.Style :=
  if color.decide isTerminal then .colored else .plain

/-- The table that the arguments name. A file wins over the table for action code. -/
def chooseTable (arguments : LexArguments) : Job Table :=
  match arguments.table, arguments.action with
  | some path, _ => readTable path
  | none, true => return Table.braces
  | none, false => throw .noTable

/-- The report that ends with what was misused. -/
def brokenOff (output errors : String) (misuse : Misuse) : Report :=
  { code := 101, output, errors := errors ++ misuse.message ++ "\n" }

/-- List the tokens of a source. -/
def runLex (arguments : LexArguments) (isTerminal : Bool) : Job Report := do
  let source ← readSource arguments
  let table ← chooseTable arguments
  match Listing.ofSource table source arguments.mode arguments.all with
  | .error fault => throw (.unknownMode fault)
  | .ok listing =>
    let style := excerptStyle arguments.color isTerminal
    let output := textOfLines listing.lines
    match listing.diagnostics.excerpts style source none with
    | .ok errors => return { code := if listing.diagnostics.isEmpty then 0 else 1, output, errors }
    | .error misuse => return brokenOff output "" misuse

/-- The schemas as text: one line for each. -/
def schemaLines (schemas : List Schema) : String :=
  textOfLines (schemas.map fun schema => schema.name ++ ": " ++ schema.phrase.toText)

/-- The schemas as JSON text. -/
def schemaJson (schemas : List Schema) : String := (Json.array (schemas.map Schema.toJson)).pretty

/-- The diagnostics of a schema, as excerpts of its rule. -/
def schemaExcerpts (style : Excerpt.Style) (path : String) (schema : Schema) :
    Except Misuse String :=
  schema.diagnostics.excerpts style schema.rule (some path)

/-- The report on some schemas, of which the excerpts in `errors` were printed already. -/
def reportFailed (style : Excerpt.Style) (path output errors : String) : List Schema → Report
  | [] => { code := 1, output, errors }
  | schema :: rest =>
    match schemaExcerpts style path schema with
    | .ok excerpts => reportFailed style path output (errors ++ excerpts) rest
    | .error misuse => brokenOff output errors misuse

/-- Unify the fields of nonterminals. -/
def runUnify (arguments : UnifyArguments) (isTerminal : Bool) : Job Report := do
  let path := arguments.input
  let text ← readText path
  match Nonterminal.listOfJsonText text with
  | .error fault => throw (.badNonterminals path fault)
  | .ok nonterminals =>
    match Schema.ofNonterminals nonterminals with
    | .error (.refused fault) => throw (.emptyTypes fault)
    | .error (.misused misuse) => return brokenOff "" "" misuse
    | .ok schemas =>
      let failed := schemas.filter fun schema => !schema.diagnostics.isEmpty
      let output := if arguments.json then schemaJson schemas ++ "\n" else schemaLines schemas
      if failed.isEmpty then return { output }
      else return reportFailed (excerptStyle arguments.color isTerminal) path output "" failed

/-- Check a table, and write it to a file or print its summary. -/
def runTable (arguments : TableArguments) : Job Report := do
  let table ← readTable arguments.input
  match arguments.output with
  | some path => do
    writeTable table path
    return {}
  | none => return { output := table.summary ++ "\n" }

/-- Do what a command line asks for. -/
def runInvocation (invocation : Invocation) (isTerminal : Bool) : Job Report :=
  match invocation with
  | .lex arguments => runLex arguments isTerminal
  | .unify arguments => runUnify arguments isTerminal
  | .table arguments => runTable arguments
  | .help topic => return { output := helpText topic }

/-- Run the program on a command line; `isTerminal` says whether standard error is a terminal. -/
def run (arguments : List String) (isTerminal : Bool) : Process Report :=
  match readCommandLine arguments with
  | .error fault => return { code := 2, errors := "error: " ++ fault.message ++ "\n" }
  | .ok invocation => do
    match ← (runInvocation invocation isTerminal).run with
    | .ok report => return report
    | .error fault => return { code := 1, errors := "error: " ++ fault.message ++ "\n" }

end ScanSchema.Command
