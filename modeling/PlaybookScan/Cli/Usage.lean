import PlaybookScan.Cli.Options
import PlaybookScan.Text.Escape

/-!
# Usage

The names of the options, what is wrong with a command line, and the texts that tell so.
-/

set_option autoImplicit false

namespace PlaybookScan

def programName : String := "ansible-lint-scan"

/-- The options with a value. -/
inductive OptionName where
  | baseDir
  | property
  | rules
  | logFilter
  | logFormat
  deriving DecidableEq, Repr

/-- The options without a value. Each ends the program with a text. -/
inductive Flag where
  | help
  | version
  deriving DecidableEq, Repr

inductive Switch where
  | option (name : OptionName)
  | flag (name : Flag)
  deriving DecidableEq, Repr

namespace Switch

def all : List Switch :=
  [.option .baseDir, .option .property, .option .rules, .option .logFilter, .option .logFormat,
    .flag .help, .flag .version]

def long? : Switch → Option String
  | option .baseDir => some "base-dir"
  | option .property => none
  | option .rules => some "rules"
  | option .logFilter => some "log-filter"
  | option .logFormat => some "log-format"
  | flag .help => some "help"
  | flag .version => some "version"

def short? : Switch → Option Char
  | option .property => some 'D'
  | flag .help => some 'h'
  | flag .version => some 'V'
  | _ => none

def ofLong? (name : String) : Option Switch := all.find? (·.long? == some name)

def ofShort? (c : Char) : Option Switch := all.find? (·.short? == some c)

def display : Switch → String
  | option .baseDir => "--base-dir <DIR>"
  | option .property => "-D <KEY=VALUE>"
  | option .rules => "--rules <IDS>"
  | option .logFilter => "--log-filter <FILTER>"
  | option .logFormat => "--log-format <FORMAT>"
  | flag .help => "--help"
  | flag .version => "--version"

end Switch

/-- What is wrong with a command line. -/
inductive UsageError where
  /-- `asValue`: the argument could be meant for the linter. `used` are the switches before it. -/
  | unknownArgument (arg : String) (similar : Option Switch) (asValue : Bool) (used : List Switch)
  | missingValue (option : OptionName)
  | badValue (option : OptionName) (value : String) (reason : String)
  | repeated (option : OptionName)
  /-- `amongOthers`: other options stand before the flag. -/
  | unexpectedValue (flag : Flag) (value : String) (amongOthers : Bool)
  deriving DecidableEq, Repr

/-- Why a command line gives no options: a text is asked for, or something is wrong. -/
inductive Stop where
  | show (flag : Flag)
  | error (e : UsageError)
  deriving DecidableEq, Repr

namespace Usage

def ofParts (parts : List String) : String := "Usage: " ++ " ".intercalate (programName :: parts)

/-- The shape of a command line, or of one that uses `used`. -/
def line (used : List Switch) : String :=
  let options := if used.isEmpty then ["[OPTIONS]"] else used.map Switch.display
  ofParts (options ++ ["[-- <LINT_ARG>...]"])

/-- The shape of a command line with `flag`, which is all that the user wants; if there are other
arguments before it, all that could be among them are listed. -/
def flagLine (flag : Flag) (amongOthers : Bool) : String :=
  let others := (Switch.all.filter fun s => s matches .option _).map Switch.display ++ ["LINT_ARG"]
  ofParts [(Switch.flag flag).display,
    if amongOthers then "<" ++ "|".intercalate others ++ ">" else "[-- <LINT_ARG>...]"]

def help : String :=
  "Runs \x60ansible-lint\x60 over the YAML files of a directory and prints the issues found as " ++
    "JSON lines\n\n" ++ line [] ++ "\n\n" ++
  "Arguments:\n" ++
  "  [LINT_ARG]...  Arguments appended to every \x60ansible-lint\x60 command line\n\n" ++
  "Options:\n" ++
  "      --base-dir <DIR>       Directory whose \x60.yml\x60 and \x60.yaml\x60 files are " ++
    "analysed [default: .]\n" ++
  "  -D <KEY=VALUE>             Analysis property, for example " ++
    "\x60-D sonar.ansible.ansible-lint.path=/usr/bin/ansible-lint\x60\n" ++
  "      --rules <IDS>          Comma-separated ids of the active rules. Every rule is active " ++
    "when omitted\n" ++
  "      --log-filter <FILTER>  Tracing filter directives [default: info]\n" ++
  "      --log-format <FORMAT>  Log output format, \x60json\x60 or \x60compact\x60 " ++
    "[default: compact]\n" ++
  "  -h, --help                 Print help\n" ++
  "  -V, --version              Print version\n"

def version : String := programName ++ " 0.1.0\n"

def text : Flag → String
  | .help => help
  | .version => version

end Usage

namespace UsageError

/-- What the user wrote, or could write, between quotes. -/
def cited (s : String) : String := "'" ++ Text.emphasized s ++ "'"

def citedOption (option : OptionName) : String := cited (Switch.option option).display

/-- What is wrong, in words. -/
def summary : UsageError → String
  | unknownArgument arg .. => "unexpected argument " ++ cited arg ++ " found"
  | missingValue option =>
    "a value is required for " ++ citedOption option ++ " but none was supplied"
  | badValue option value reason =>
    "invalid value " ++ cited value ++ " for " ++ citedOption option ++ ": " ++ reason
  | repeated option => "the argument " ++ citedOption option ++ " cannot be used multiple times"
  | unexpectedValue flag value _ =>
    "unexpected value " ++ cited value ++ " for " ++ cited (Switch.flag flag).display ++
      " found; no more were expected"

/-- What could have been meant. -/
def tips : UsageError → List String
  | unknownArgument arg similar asValue _ =>
    (match similar.bind Switch.long? with
      | some name => ["a similar argument exists: " ++ cited ("--" ++ name)]
      | none => []) ++
    if asValue then ["to pass " ++ cited arg ++ " as a value, use " ++ cited ("-- " ++ arg)]
    else []
  | _ => []

/-- The shape of the command line, where it helps. -/
def usage? : UsageError → Option String
  | unknownArgument _ _ _ used => some (Usage.line used)
  | unexpectedValue flag _ amongOthers => some (Usage.flagLine flag amongOthers)
  | repeated _ => some (Usage.line [])
  | missingValue _ | badValue .. => none

/-- The whole text about the error. What the user wrote is set off from the rest, so that an escape
sequence in it ends where it ends; the reason that is given for a bad value is not. -/
def message (e : UsageError) : String :=
  let tips := if e.tips.isEmpty then ""
    else "\n" ++ String.join (e.tips.map fun tip => "\n  tip: " ++ tip)
  let usage := match e.usage? with
    | some usage => "\n\n" ++ usage
    | none => ""
  Text.withoutEscapes
    ("error: " ++ e.summary ++ tips ++ usage ++ "\n\nFor more information, try " ++
      cited "--help" ++ ".\n")

end UsageError

end PlaybookScan
