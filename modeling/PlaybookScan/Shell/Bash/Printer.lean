import PlaybookScan.Shell.Bash.Command

/-!
# The text of commands

How the large shell shows a command: on one line, or on several with indentation where the command
is part of a function.
-/

set_option autoImplicit false

namespace PlaybookScan.Shell.Bash

namespace Printer

/-- How lines are laid out. -/
structure Layout where
  /-- Blanks in front of a line. -/
  indent : Nat
  /-- More blanks for each level. -/
  step : Nat
  /-- The command is part of a function. -/
  multiline : Bool

namespace Layout

def deeper (l : Layout) : Layout := { l with indent := l.indent + l.step }

def blanks (l : Layout) : String := "".pushn ' ' l.indent

/-- A new line that begins with a text. -/
def line (l : Layout) (text : String) : String := "\n" ++ l.blanks ++ text

end Layout

/-- A text with a semicolon behind it, unless it ends in something that ends a command itself. -/
def closed (text : String) : String :=
  if text.endsWith "&" ∨ text.endsWith "\n" then text else text ++ ";"

def word (w : Word) : String := String.ofList w.source

def words (separator : String) (ws : List Word) : String := separator.intercalate (ws.map word)

def index : Index Word → String
  | .whole => ""
  | .every star => if star then "[*]" else "[@]"
  | .element w => "[" ++ word w ++ "]"

def element (e : Element Word) : String :=
  match e.key with
  | .whole => word e.value
  | key => index key ++ (if e.appends then "+=" else "=") ++ word e.value

def assignment (a : Assignment Word) : String :=
  a.name ++ index a.key ++ (if a.appends then "+=" else "=") ++ match a.content with
    | .text w => word w
    | .elements es => "(" ++ " ".intercalate (es.map element) ++ ")"

def argument : Argument Word → String
  | .word w => word w
  | .assignment a => assignment a

/-- A redirection. The number of the descriptor is left out if it is `usual`. -/
def redirect (r : Redirect Word) : String :=
  let named (usual : Option Nat) : String := match r.target with
    | .named name => "\x7b" ++ name ++ "\x7d"
    | .number n => if usual = some n then "" else toString n
  let operand := word r.operand
  match r.kind with
  | .read => named (some 0) ++ "< " ++ operand
  | .readWrite => named none ++ "<> " ++ operand
  | .write => named (some 1) ++ "> " ++ operand
  | .clobber => named (some 1) ++ ">| " ++ operand
  | .append => named (some 1) ++ ">> " ++ operand
  | .duplicate input =>
    named none ++ (if input && operand != "-" then "<&" else ">&") ++ operand
  | .both append => (if append then "&>> " else "&> ") ++ operand
  | .document => named (some 0) ++ "<<EOF\n" ++ operand ++ "EOF\n"
  | .line => named (some 0) ++ "<<< " ++ operand

def redirects (rs : List (Redirect Word)) : String := " ".intercalate (rs.map redirect)

def condition : Test Word → String
  | .word w => "-n " ++ word w
  | .unary op w => op ++ " " ++ word w
  | .binary op a b => word a ++ " " ++ op ++ " " ++ word b
  | .negate t => "! " ++ condition t
  | .both a b => condition a ++ " && " ++ condition b
  | .either a b => condition a ++ " || " ++ condition b
  | .group t => "( " ++ condition t ++ " )"

mutual

/-- A command, at the start of a line unless it is `inline`; `fuel` bounds its depth. -/
def command (fuel : Nat) (l : Layout) (inline : Bool) (c : Command) : String :=
  match fuel with
  | 0 => ""
  | fuel + 1 =>
    let lead := if inline then "" else l.blanks
    let within (c : Command) : String := command fuel l true c
    lead ++ match c with
    | .simple _ assigns args rs =>
      " ".intercalate (assigns.map assignment ++ args.map argument ++ rs.map redirect)
    | .sequence cs => sequence fuel l cs
    | .background c => within c ++ " &"
    | .both a b => within a ++ " && " ++ within b
    | .either a b => within a ++ " || " ++ within b
    | .negate c => "! " ++ within c
    | .timed c => "time " ++ within c
    | .pipeline cs => " | ".intercalate (cs.map (command fuel l true))
    | .redirected c rs => within c ++ " " ++ redirects rs
    | .group body =>
      if l.multiline then
        "\x7b \n" ++ command fuel l.deeper false body ++ l.line "\x7d"
      else "\x7b " ++ closed (within body) ++ " \x7d"
    | .subshell _ body => "( " ++ within body ++ " )"
    | .choose branches otherwise => choose fuel l branches otherwise
    | .loop inverted condition body =>
      (if inverted then "until " else "while ") ++ closed (within condition) ++ " do\n" ++
        loopEnd fuel l body
    | .each _ name ws body =>
      "for " ++ overWords name ws ++ loopBody fuel l body
    | .menu _ name ws body =>
      "select " ++ overWords name ws ++ loopBody fuel l body
    | .count _ a b s body =>
      "for ((" ++ "; ".intercalate ([a, b, s].map word) ++ "))" ++ loopBody fuel l body
    | .select _ subject arms =>
      "case " ++ word subject ++ " in " ++
        String.join (arms.map (arm fuel l.deeper)) ++ l.line "esac"
    | .arithmetic _ body => "((" ++ word body ++ "))"
    | .condition _ t => "[[ " ++ condition t ++ " ]]"
    | .define _ name body =>
      "function " ++ String.ofList name ++ " () \n" ++ l.blanks ++ "\x7b \n" ++
        body_ fuel { l with multiline := true } body
    | .coprocess _ name body => "coproc " ++ name ++ " " ++ within body

/-- The words of a loop behind its name. -/
def overWords (name : List Char) (ws : Option (List Word)) : String :=
  String.ofList name ++ " in " ++ (ws.map (words " ")).getD "\"$@\"" ++ ";"

/-- The body of a loop with its keywords. -/
def loopBody (fuel : Nat) (l : Layout) (body : Command) : String :=
  match fuel with
  | 0 => ""
  | fuel + 1 => l.line "do\n" ++ loopEnd fuel l body

/-- The body of a loop behind the first keyword. -/
def loopEnd (fuel : Nat) (l : Layout) (body : Command) : String :=
  match fuel with
  | 0 => ""
  | fuel + 1 => closed (command fuel l.deeper false body) ++ l.line "done"

/-- Commands one after the other. -/
def sequence (fuel : Nat) (l : Layout) (cs : List Command) : String :=
  match fuel, cs with
  | 0, _ | _, [] => ""
  | fuel + 1, [c] => command fuel l true c
  | fuel + 1, c :: cs =>
    let first := command fuel l true c
    first ++ match c with
    | .background _ => " " ++ sequence fuel l cs
    | _ =>
      let stop := if first.endsWith "\n" then "" else ";"
      if l.multiline then stop ++ "\n" ++ l.blanks ++ sequence fuel l cs
      else stop ++ " " ++ sequence fuel l cs

/-- A choice. A further condition is a choice in the other branch. -/
def choose (fuel : Nat) (l : Layout) (branches : List (Command × Command))
    (otherwise : Option Command) : String :=
  match fuel, branches with
  | 0, _ | _, [] => ""
  | fuel + 1, (condition, body) :: rest =>
    let first := closed (command fuel l true condition) ++ " then\n" ++
      closed (command fuel l.deeper false body)
    let last := match rest, otherwise with
      | [], none => ""
      | [], some body => l.line "else\n" ++ closed (command fuel l.deeper false body)
      | rest, otherwise =>
        l.line "else\n" ++ l.deeper.blanks ++ choose fuel l.deeper rest otherwise ++ ";"
    "if " ++ first ++ last ++ l.line "fi"

/-- An arm of a selection. -/
def arm (fuel : Nat) (l : Layout) (a : Arm Word Command) : String :=
  match fuel with
  | 0 => ""
  | fuel + 1 =>
    let stop := match a.ends with
      | .leave => ";;"
      | .fall => ";&"
      | .resume => ";;&"
    l.line "" ++ words " | " a.patterns ++ ")\n" ++
      (match a.body with
        | .sequence [] => ""
        | body => command fuel l.deeper false body) ++ l.line stop

/-- The body of a function behind its opening brace, with the closing one. -/
def body_ (fuel : Nat) (l : Layout) (body : Command) : String :=
  match fuel with
  | 0 => ""
  | fuel + 1 =>
    match body with
    | .group inner => command fuel l.deeper false inner ++ l.line "\x7d"
    | .redirected (.group inner) rs =>
      command fuel l.deeper false inner ++ l.line "\x7d " ++ redirects rs
    | other => command fuel l.deeper false other ++ l.line "\x7d"

end

/-- The depth of commands at most. -/
def depth : Nat := 10000

end Printer

/-- The text of a command on its own. -/
def Command.shown (c : Command) : String := Printer.command Printer.depth ⟨0, 4, false⟩ true c

/-- The definition of a function. -/
def Command.definition (name : String) (body : Command) : String :=
  name ++ " () \n\x7b \n" ++ Printer.body_ Printer.depth ⟨0, 4, true⟩ body

/-- The value of a variable that hands a function on. -/
def Command.handedOn (body : Command) : String :=
  let inside (c : Command) : String := Printer.command Printer.depth ⟨1, 0, true⟩ false c
  "() \x7b " ++ match body with
    | .group inner => inside inner ++ "\n\x7d"
    | .redirected (.group inner) rs => inside inner ++ "\n\x7d " ++ Printer.redirects rs
    | other => inside other ++ "\n\x7d"

end PlaybookScan.Shell.Bash
