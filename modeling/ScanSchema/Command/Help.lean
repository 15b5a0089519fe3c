import ScanSchema.Command.Arguments

/-!
# Help texts

The texts that the program shows when it is asked for help, on the whole or on one command.
-/

namespace ScanSchema.Command

/-- Some lines, with a line end behind each. -/
def textOfLines (lines : List String) : String := String.join (lines.map (· ++ "\n"))

/-- Help on the program. -/
def programHelp : List String := [
  "Table-driven scanning and AST field unification",
  "",
  "Usage: tessel <COMMAND>",
  "",
  "Commands:",
  "  lex    Tokenize a source file",
  "  unify  Unify the fields of nonterminal alternatives",
  "  table  Validate a scanner table and convert between JSON and binary",
  "  help   Print this message or the help of the given subcommand(s)",
  "",
  "Options:",
  "  -h, --help  Print help"]

/-- Help on listing tokens. -/
def lexHelp : List String := [
  "Tokenize a source file",
  "",
  "Usage: tessel lex <FILE> --table <TABLE>",
  "  tessel lex <FILE> --action",
  "  tessel lex -s <TEXT> --action",
  "",
  "Arguments:",
  "  [FILE]  Source file to tokenize",
  "",
  "Options:",
  "  -s, --source <TEXT>  Inline source text",
  "  -t, --table <TABLE>  Scanner table (.json, anything else is read as binary)",
  "      --action         Use the built-in table for brace-delimited action code",
  "      --mode <N>       Initial lexer mode [default: 0]",
  "      --all            Also print tokens of skip rules",
  "      --color <WHEN>   Colorize output [default: auto] [possible values: auto, always, never]",
  "  -h, --help           Print help",
  "",
  "EXAMPLES:",
  "  tessel lex input.txt -t lexer.json  # JSON table",
  "  tessel lex input.txt -t lexer.bin   # binary table",
  "  tessel lex -s '\x7b a \x7d' --action      # built-in action code table",
  "  tessel lex input.txt -t lexer.json --mode 1 --all"]

/-- Help on unifying fields. -/
def unifyHelp : List String := [
  "Unify the fields of nonterminal alternatives",
  "",
  "Usage: tessel unify [OPTIONS] <FILE>",
  "",
  "Arguments:",
  "  <FILE>  Nonterminal alternatives (JSON)",
  "",
  "Options:",
  "      --json          Print results as JSON",
  "      --color <WHEN>  Colorize output [default: auto] [possible values: auto, always, never]",
  "  -h, --help          Print help",
  "",
  "INPUT:",
  "  A JSON array of nonterminals:",
  "  [\x7b \"name\": \"Expr\", " ++
    "\"alternatives\": [[\x7b \"name\": \"lhs\", \"types\": [\"Expr\"] \x7d], ...] \x7d]",
  "",
  "EXAMPLES:",
  "  tessel unify fields.json",
  "  tessel unify fields.json --json"]

/-- Help on tables. -/
def tableHelp : List String := [
  "Validate a scanner table and convert between JSON and binary",
  "",
  "Usage: tessel table [OPTIONS] <FILE>",
  "",
  "Arguments:",
  "  <FILE>  Scanner table (.json or binary)",
  "",
  "Options:",
  "  -o, --output <FILE>  Write the table to file (.json, anything else is written as binary)",
  "  -h, --help           Print help",
  "",
  "EXAMPLES:",
  "  tessel table lexer.json             # validate, print summary",
  "  tessel table lexer.json -o lexer.bin",
  "  tessel table lexer.bin -o lexer.json"]

/-- Help on help. -/
def helpHelp : List String := [
  "Print this message or the help of the given subcommand(s)",
  "",
  "Usage: tessel help [COMMAND]...",
  "",
  "Arguments:",
  "  [COMMAND]...  Print help for the subcommand(s)"]

/-- The help text on a topic. -/
def helpText : Option CommandName → String
  | none => textOfLines programHelp
  | some .lex => textOfLines lexHelp
  | some .unify => textOfLines unifyHelp
  | some .table => textOfLines tableHelp
  | some .help => textOfLines helpHelp

end ScanSchema.Command
