import PlaybookScan.Shell.Bash.Eval
import PlaybookScan.Shell.Batch
import PlaybookScan.Shell.Launch
import PlaybookScan.Shell.Scope
import PlaybookScan.Shell.Utility.Table

/-!
# Running commands

Commands change the state and end in a flow. Every function here gets fuel, which bounds the depth
of calls and the rounds of loops; a run that uses it up counts as one that does not end. Where a
command is `tested`, its failure does not end the shell.
-/

set_option autoImplicit false

namespace PlaybookScan.Shell

/-- How a simple command is run. -/
structure Manner where
  /-- The process has nothing to do behind the command. -/
  last : Bool
  /-- The name may be that of a function. -/
  functions : Bool
  /-- Faults of a special command end the shell. -/
  strict : Bool
  /-- The program is looked for in the system's directories. -/
  standard : Bool

/-- The arguments are assignments, where the words `done` stand before them. -/
def declaring (s : State) (done : List String) : Bool :=
  match done.dropWhile fun w => ["command", "-p", "--"].contains w with
  | name :: _ => Builtin.declares name && !s.functions.any fun (f, _) => done.head? == some f
  | [] => false

/-- The process can be given up for the last command. -/
def mayEnd (s : State) : Bool := s.traps.isEmpty

mutual

/-- The output of commands. -/
def capture (fuel : Nat) (source : List Char) (s : State) : List Char × State :=
  match fuel with
  | 0 => ([], s)
  | fuel + 1 =>
    let (n, s) := s.newPipe
    let inner := { s.fork.open_ 1 (.pipe n) with status := s.status }
    let ended := finish fuel (script fuel false true (Token.ofSource source s.line) inner)
    let (_, t) := reap true s ended
    let t := { t with clock := t.pipeEnd n t.clock, captured := some t.status }
    let (text, cycle) := t.pipeContent n
    (text ++ State.cycled State.flood cycle, t)

/-- Runs the lines of a script. If `ends`, the process has nothing to do behind it. -/
def script (fuel : Nat) (tested ends : Bool) (tokens : List Token) (s : State) : Flow × State :=
  match fuel with
  | 0 => (.stalled, s)
  | fuel + 1 =>
    match Command.next? s.aliases tokens with
    | .error e =>
      let s := { s with line := e.line }
      (.exit, { s.report ("Syntax error: " ++ e.message) with status := 2 })
    | .ok (none, _) => (.next, s)
    | .ok (some command, tokens) =>
      let atEnd := match tokens with
        | [] | [⟨_, .theEnd⟩] => true
        | _ => false
      match run fuel tested (if ends && atEnd then command.ending else command) s with
      | (.next, s) => script fuel tested ends tokens s
      | found => found

/-- Runs a shell with its arguments, the first of which is its name. -/
def shell (fuel : Nat) (args : List String) (s : State) : Flow × State :=
  match fuel with
  | 0 => (.stalled, s)
  | fuel + 1 =>
    let name := args.headD "sh"
    let fault (message : String) (s : State) : Flow × State :=
      (.exit, { s.complain (name ++ ": 0: " ++ message) with status := 2 })
    let start (source : List Char) (s : State) : Flow × State :=
      finish fuel (script fuel false false (Token.ofSource source 1) s)
    match Builtin.start args.tail (newShell s name) with
    | .error message => fault message s
    | .ok (.text source, s) => start source.toList s
    | .ok (.input, s) =>
      let (source, s) := s.readAll 0
      start (source.getD []) s
    | .ok (.file file, s) =>
      match s.disk.node s.cwd (State.path file) with
      | .ok (.file content _) => start (Octets.ofBytes content) s
      | .ok (.closed _ e) | .error e => fault (openingFault "cannot open" "No such file" file e) s
      | .ok _ => (.exit, { s with status := 0 })

/-- Runs the command that is set for the end of the shell. -/
def finish (fuel : Nat) (ending : Flow × State) : Flow × State :=
  match fuel, ending with
  | 0, (_, s) => (.stalled, s)
  | _, (.signalled n, s) => (.signalled n, s)
  | _, (.stalled, s) => (.stalled, s)
  | fuel + 1, (_, s) =>
    match s.traps.lookup "EXIT" with
    | none => (.exit, s)
    | some action =>
      let status := s.status
      let s := { s with traps := s.traps.filter (·.1 != "EXIT") }
      match script fuel false false (Token.ofSource action.toList 1) s with
      | (.exit, s) => (.exit, s)
      | (.signalled n, s) => (.signalled n, s)
      | (.stalled, s) => (.stalled, s)
      | (_, s) => (.exit, { s with status })

/-- Runs a program in a process of its own state. -/
def program (fuel : Nat) (p : Invocation) (s : State) : Flow × State :=
  match fuel with
  | 0 => (.stalled, s)
  | fuel + 1 =>
    let s := { s with
      bindings := s.environment, name := p.args.headD p.program, broken := false, jobs := [] }
    match Utility.named? p.program, Launch.named? p.program with
    | some u, _ => u.carryOut p.program p.args.tail s
    | none, some plan =>
      match (plan p.args.tail).run s with
      | (.ok l, s) => launch fuel p.program l s
      | (.error status, s) => (.exit, { s with status })
    | none, none =>
      match Utility.hosted.lookup p.program with
      | some u => (u (host fuel)).carryOut p.program p.args.tail s
      | none =>
      match p.program with
      | "sh" | "dash" => shell fuel p.args s
      | "bash" => Bash.shell (program fuel) fuel p.args s
      | "test" | "[" =>
        let (_, s) := Builtin.test p.program p.args.tail s
        (.exit, s)
      | "xargs" =>
        let refuse (status : Nat) (message : String) (s : State) : Flow × State :=
          (.exit, { s.complain (s.name ++ ": " ++ message) with status })
        match (Batch.options.read p.args.tail).mapError (·, true) >>= Batch.ofArguments with
        | .error (message, true) =>
          let (status, s) := (Utility.misuse 1 message).run s
          (.exit, { s with status })
        | .error (message, false) => refuse 1 message s
        | .ok (b, warnings) =>
          let s := warnings.foldl (fun s w => s.complain (s.name ++ ": " ++ w)) s
          match (Utility.readOperand (b.file.getD "-")).run s with
          | (.error e, s) =>
            match b.file with
            | some file => refuse 1 ("Cannot open input file " ++ Utility.quoted file ++ ": " ++
                Utility.cause e) s
            | none => refuse 1 ("read error: " ++ Utility.cause e) s
          | (.ok text, s) =>
            let s := match b.nullWarning? text with
              | some w => s.complain (s.name ++ ": " ++ w)
              | none => s
            let (commands, fault) := b.commands text
            let s := match fault with
              | some message => s.complain (s.name ++ ": " ++ message)
              | none => s
            let s := if b.file.isNone then s.open_ 0 .null else s
            batch fuel b (if fault.isSome then 1 else 0) s commands
      | _ => match Builtin.kill p.args.tail s with
        | (.next, s) => (.exit, s)
        | found => found

/-- Runs what another program launches, in its process. -/
def launch (fuel : Nat) (launcher : String) (l : Launch) (s : State) : Flow × State :=
  match fuel with
  | 0 => (.stalled, s)
  | fuel + 1 =>
    match l.args with
    | [] => (.exit, { s with status := 0 })
    | name :: args =>
    let start (s : State) : Flow × State := match s.launched name with
      | .ok p =>
        let own := if p.args = [Octets.toText name] then [name] else p.args.map Octets.ofText
        program fuel ⟨p.program, own ++ args⟩ s
      | .error e =>
        if e = .notExecutableFormat then program fuel ⟨"sh", "sh" :: name :: args⟩ s
        else
          let status := if e = .noSuchFile ∨ e = .notADirectory then 127 else 126
          (.exit, { s.complain (s.name ++ ": " ++ Launch.complaint launcher name e) with status })
    match l.limit with
    | none => start s
    | some limit =>
      let deadline := s.clock + limit
      let inner := if s.job = 0 then { s with job := s.nextPid, nextPid := s.nextPid + 1 } else s
      let (flow, t) := start inner
      if flow ≠ .stalled ∧ t.clock ≤ deadline then (flow, t)
      else
        let signal := Builtin.signalName l.signal
        let tell (signal : String) (t : State) : State :=
          if l.tells then t.complain (s.name ++ ": sending signal " ++ signal ++ " to command " ++
            Utility.quoted name)
          else t
        let cut (clock : Nat) : State :=
          { { t with clock }.silence inner.job with name := s.name }
        let survives : Bool := l.signal != 9 &&
          (t.ignored.contains signal || t.traps.lookup signal == some "")
        if survives then
          match l.grace with
          | some n =>
            if flow ≠ .stalled ∧ t.clock ≤ deadline + n then
              (flow, { tell signal t with status := if l.preserves then t.status else 124 })
            else (.signalled 9, tell "KILL" (tell signal (cut (deadline + n))))
          | none => (flow, { tell signal t with status := if l.preserves then t.status else 124 })
        else
          let t := tell signal (cut deadline)
          if l.signal = 9 then (.signalled 9, t)
          else (.exit, { t with status := if l.preserves then 128 + l.signal else 124 })

/-- Runs a command line in a process of its own. -/
def host (fuel : Nat) : Host := fun args s =>
  match fuel with
  | 0 => (.stalled, s)
  | fuel + 1 =>
    let inner := { s.fork with
      pid := s.nextPid, nextPid := s.nextPid + 1, ancestors := s.pid :: s.ancestors }
    match s.launched (args.headD "") with
    | .error .notExecutableFormat | .ok _ => finished s (launch fuel "" (.plain args) inner)
    | .error e => (.refused e, s)

/-- Runs command lines one after the other. -/
def batch (fuel : Nat) (b : Batch) (status : Nat) (s : State) (commands : List (List String)) :
    Flow × State :=
  match fuel, commands with
  | 0, _ => (.stalled, s)
  | _, [] => (.exit, { s with status })
  | fuel + 1, command :: rest =>
    let shown := " ".intercalate (command.map Utility.fileTitle)
    let refuse (message : String) (status : Nat) (s : State) : Flow × State :=
      (.exit, { s.complain (s.name ++ ": " ++ message) with status })
    if b.asks then
      refuse "failed to open /dev/tty for reading: No such device or address" 1
        (s.writeText 2 shown)
    else
    let s := if b.tells then s.complain shown else s
    let name := command.headD ""
    match host fuel command s with
    | (.refused e, s) =>
      let missing : Bool := e == .noSuchFile || e == .notADirectory
      refuse (name ++ ": " ++ Utility.cause e) (if missing then 127 else 126) s
    | (.stalled, s) => (.stalled, s)
    | (.signalled n, s) => refuse (name ++ ": terminated by signal " ++ toString n) 125 s
    | (.exited 255, s) => refuse (name ++ ": exited with status 255; aborting") 124 s
    | (.exited code, s) => batch fuel b (if code = 0 then status else 123) s rest

/-- Runs the program of this name, in the place of the shell if it `replaces` it. -/
def external (fuel : Nat) (manner : Manner) (replaces : Bool) (name : String) (args : List String)
    (s : State) : Flow × State :=
  match fuel with
  | 0 => (.stalled, s)
  | fuel + 1 =>
    let start (p : Invocation) (s : State) : Flow × State :=
      let process := { s.fork with bindings := Builtin.byRows 39 s.environment }
      if replaces || (manner.last && mayEnd s) then
        match program fuel p process with
        | (.exit, t) => (.exit, { s.resume t with status := t.status, traps := [] })
        | (flow, t) => (flow, s.resume t)
      else
        reap true s (program fuel p { process with
          pid := s.nextPid
          nextPid := s.nextPid + 1
          ancestors := s.pid :: s.ancestors })
    let place := if manner.standard then
        (s.programPath? Builtin.standardPath name).getD name
      else name
    match s.lookUp place with
    | .ok p =>
      let own := if p.args = [Octets.toText place] then [name] else p.args.map Octets.ofText
      start ⟨p.program, own ++ args⟩ (s.remember name)
    | .error e =>
      if e = .notExecutableFormat then start ⟨"sh", "sh" :: name :: args⟩ (s.remember name)
      else
        let (message, status) := notRunnable name e
        if replaces then (.exit, { s.report ("exec: " ++ message) with status })
        else (.next, { s.report message with status })

/-- Runs a command by its words. -/
def call (fuel : Nat) (tested : Bool) (manner : Manner) (name : String) (args : List String)
    (s : State) : Flow × State :=
  match fuel with
  | 0 => (.stalled, s)
  | fuel + 1 =>
    match if manner.functions then s.functions.lookup name else none with
    | some body =>
      if maxDepth ≤ s.depth then
        failed (.told ("Maximum function recursion depth (" ++ toString maxDepth ++ ") reached")) s
      else leaveFunction s (run fuel tested body (enterFunction args s))
    | none =>
      let lenient (found : Flow × State) : Flow × State :=
        if manner.strict then found else (.next, found.2)
      match name, args, Builtin.named? name with
      | "eval", args, _ =>
        if maxDepth ≤ s.depth then (.signalled 11, s)
        else
          let tokens := Token.ofSource (" ".intercalate args).toList s.line
          let status := if hasNoCommand tokens then 0 else s.status
          leaveScript s (script fuel tested false tokens { enterScript "eval: " s with status })
      | ".", name :: _, _ =>
        match scriptText s name with
        | .ok (path, source) =>
          let tokens := Token.ofSource source 1
          let status := if hasNoCommand tokens then 0 else s.status
          let inner := { enterScript (path ++ ": ") s with status }
          match script fuel tested false tokens inner with
          | (.back, t) => leaveScript s (.next, t)
          | found => leaveScript s found
        | .error message => lenient (.exit, Builtin.fault "." message s)
      | "exec", name :: args, _ => external fuel manner true name args s
      | "command", args, _ =>
        match if args.all (·.startsWith "-") && !args.contains "-" then none
          else Builtin.commandArguments false args.length args with
        | some (standard, name :: args) =>
          let manner := { manner with functions := false, strict := false, standard }
          call fuel tested manner name args s
        | _ => Builtin.carryOut "command" Builtin.commandNames args s
      | _, args, some builtin =>
        match deliver fuel (Builtin.carryOut name builtin args s) with
        | (.exit, s) => if manner.strict || name == "exit" then (.exit, s) else (.next, s)
        | found => found
      | ".", [], _ | "exec", [], _ => (.next, { s with status := 0 })
      | name, args, none => external fuel manner false name args s

/-- Lets the shell get a signal. -/
def deliver (fuel : Nat) (found : Flow × State) : Flow × State :=
  match fuel, found with
  | fuel + 1, (.signalled n, s) =>
    match if n = 9 ∨ n = 19 then none
      else if s.ignored.contains (Builtin.signalName n) then some ""
      else s.traps.lookup (Builtin.signalName n) with
    | some "" => (.next, s)
    | some action =>
      let status := s.status
      match script fuel false false (Token.ofSource action.toList s.line) s with
      | (.next, s) => (.next, { s with status })
      | found => found
    | none =>
      if Builtin.isHarmless n then (.next, s)
      else if Builtin.isStopping n then (.stalled, s)
      else (.signalled n, s)
  | _, found => found

/-- Lets the shell get the signals that were sent to it while it ran a command. -/
def settle (fuel : Nat) (found : Flow × State) : Flow × State :=
  match fuel, found with
  | fuel + 1, (.next, s) =>
    match Builtin.received? s with
    | some (n, s) => settle fuel (deliver fuel (.signalled n, s))
    | none => (.next, s)
  | _, found => found

/-- Gives variables their values. -/
def assignAll (fuel : Nat) (assigns : List (String × Word)) (s : State) :
    Except Fault (List String) × State :=
  match fuel, assigns with
  | 0, _ | _, [] => (.ok [], s)
  | fuel + 1, (name, w) :: rest =>
    match (Expand.value (capture fuel) w).run s with
    | (.error fault, s) => (.error fault, s)
    | (.ok value, s) =>
      match s.assign? name value with
      | .error message => (.error (.told message), s)
      | .ok s =>
        match assignAll fuel rest s with
        | (.ok shown, s) => (.ok ((name ++ "=" ++ value) :: shown), s)
        | found => found

/-- Shows a command before it is run, if that is so set. It goes where messages went before the
command's redirections. -/
def trace (fuel : Nat) (channels : List (Nat × Channel)) (words : List String) (s : State) :
    State :=
  match fuel with
  | 0 => s
  | fuel + 1 =>
    if s.options.contains 'x' then
      let mark := ((s.valueOf? "PS4").getD "").toList
      let pieces := match Lexer.pieces (2 * mark.length + 2) .document ⟨mark, s.line⟩ [] with
        | .ok (done, _) => Lexer.finish done
        | .error _ => [.text mark true]
      let quiet := { s with options := s.options.filter (· != 'x') }
      match (Expand.pieces (capture fuel) false false pieces).run quiet with
      | (.ok mark, t) =>
        let line := Expand.text mark ++ " ".intercalate words
        let t := { t with channels }.complain line
        { t with channels := s.channels, options := s.options }
      | (.error _, _) => s
    else s

/-- Runs a simple command. -/
def simple (fuel : Nat) (tested last : Bool) (assigns : List (String × Word)) (words : List Word)
    (redirects : List Redirect) (s : State) : Flow × State :=
  match fuel with
  | 0 => (.stalled, s)
  | fuel + 1 =>
    match (Expand.wordsOnto (capture fuel) (declaring s) [] words).run
        { s with captured := none } with
    | (.error fault, s) => failed fault s
    | (.ok words, s) =>
      let channels := s.channels
      let special := (words.head?.map Builtin.isSpecial).getD false &&
        !s.functions.any fun (f, _) => words.head? == some f
      match redirect (capture fuel) redirects s with
      | .error (.next, t) => if special then (.exit, t) else errexit tested (.next, t)
      | .error found => found
      | .ok t =>
        let before := t.bindings
        match assignAll fuel assigns t, words with
        | (.error fault, t), _ => failed fault t
        | (.ok shown, t), [] =>
          let t := trace fuel channels shown t
          errexit tested (.next, { t with channels, status := t.captured.getD 0 })
        | (.ok shown, t), name :: args =>
          let names := assigns.map Prod.fst
          let exports := !special || (name == "exec" && args != [])
          let t := if exports then names.foldl State.exportVariable t else t
          let t := trace fuel channels (shown ++ words) t
          let (flow, t) := call fuel tested ⟨last, true, true, false⟩ name args t
          let t := if special then t else giveBack before names t
          let kept := name = "exec" ∨ name = "command" ∧ args.head? = some "exec"
          let t := if kept then t else { t with channels }
          errexit tested (settle fuel (flow, t))

/-- Runs the stages of a pipeline side by side; `input` is what the first one reads. -/
def stages (fuel : Nat) (tested : Bool) (status start finished : Nat) (input : Option Nat)
    (s : State) (commands : List Command) : Flow × State :=
  match fuel, commands with
  | 0, _ => (.stalled, s)
  | _, [] => (.next, s)
  | fuel + 1, command :: rest =>
    let inner := match input with
      | some n => s.open_ 0 (.input n)
      | none => s
    let inner := { inner.fork with clock := start, status }
    match rest with
    | [] =>
      match reap true s (finish fuel (run fuel tested command.ending inner)) with
      | (flow, t) => (flow, { t with clock := max finished t.clock })
    | rest =>
      let (n, inner) := inner.newPipe
      let (flow, inner) := finish fuel (run fuel tested command.ending (inner.open_ 1 (.pipe n)))
      let (_, t) := reap true s (flow, inner)
      let ended := if flow = .stalled then start else t.clock
      let (text, cycle) := t.pipeContent n
      let (m, t) := t.addInput ⟨text, cycle, t.pipeEnd n ended, false⟩
      stages fuel tested status start (max finished ended) (some m) t rest

/-- Runs a body for each value. -/
def each (fuel : Nat) (tested : Bool) (name : String) (body : Command) (s : State)
    (values : List String) : Flow × State :=
  match fuel, values with
  | 0, _ => (.stalled, s)
  | _, [] => (.next, s)
  | fuel + 1, value :: rest =>
    match s.assign? name value with
    | .error message => failed (.told message) s
    | .ok s =>
    match run fuel tested body s with
    | (.next, s) | (.again 1, s) => each fuel tested name body s rest
    | (.leave 1, s) => (.next, s)
    | (.leave n, s) => (.leave (n - 1), s)
    | (.again n, s) => (.again (n - 1), s)
    | found => found

/-- Runs a body as long as its condition tells; `status` is that of the last round. -/
def loop (fuel : Nat) (tested : Bool) (inverted : Bool) (condition body : Command) (status : Nat)
    (s : State) : Flow × State :=
  match fuel with
  | 0 => (.stalled, s)
  | fuel + 1 =>
    match run fuel true condition s with
    | (.next, s) =>
      if horizon ≤ s.clock then (.stalled, s)
      else if (s.status == 0) == inverted then (.next, { s with status })
      else
        match run fuel tested body s with
        | (.next, s) => loop fuel tested inverted condition body s.status s
        | (.again 1, s) => loop fuel tested inverted condition body s.status s
        | (.leave 1, s) => (.next, s)
        | (.leave n, s) => (.leave (n - 1), s)
        | (.again n, s) => (.again (n - 1), s)
        | found => found
    | (.leave 1, s) => (.next, s)
    | (.leave n, s) => (.leave (n - 1), s)
    | found => found

/-- Runs the first branch whose condition holds. -/
def choose (fuel : Nat) (tested : Bool) (otherwise : Option Command) (s : State)
    (branches : List (Command × Command)) : Flow × State :=
  match fuel, branches with
  | 0, _ => (.stalled, s)
  | fuel + 1, [] =>
    match otherwise with
    | some body => run fuel tested body s
    | none => (.next, { s with status := 0 })
  | fuel + 1, (condition, body) :: rest =>
    match run fuel true condition s with
    | (.next, s) => if s.status = 0 then run fuel tested body s
        else choose fuel tested otherwise s rest
    | found => found

/-- Runs the first arm with a pattern that matches. -/
def select (fuel : Nat) (tested : Bool) (subject : List Char) (s : State)
    (arms : List (List Word × Command)) : Flow × State :=
  match fuel, arms with
  | 0, _ => (.stalled, s)
  | _, [] => (.next, { s with status := 0 })
  | fuel + 1, (patterns, body) :: rest =>
    let matching : Except Fault Bool × State := patterns.foldl (fun (found, s) w =>
      match found with
      | .ok false =>
        match (Expand.pattern (capture fuel) w).run s with
        | (.ok p, s) => (.ok (p.isMatch subject), s)
        | (.error e, s) => (.error e, s)
      | found => (found, s)) (.ok false, s)
    match matching with
    | (.error fault, s) => failed fault s
    | (.ok true, s) => run fuel tested body (if body.isNothing then { s with status := 0 } else s)
    | (.ok false, s) => select fuel tested subject s rest

/-- Runs commands one after the other. -/
def sequence (fuel : Nat) (tested : Bool) (s : State) (commands : List Command) : Flow × State :=
  match fuel, commands with
  | 0, _ => (.stalled, s)
  | _, [] => (.next, s)
  | fuel + 1, [only] => run fuel tested only s
  | fuel + 1, command :: rest =>
    match run fuel tested command s with
    | (.next, s) => sequence fuel tested s rest
    | found => found

/-- Runs a command. -/
def run (fuel : Nat) (tested : Bool) (command : Command) (s : State) : Flow × State :=
  match fuel with
  | 0 => (.stalled, s)
  | fuel + 1 =>
    if s.options.contains 'n' then (.next, s)
    else match command with
    | .simple line assigns words redirects =>
      simple fuel tested false assigns words redirects { s with line }
    | .final (.simple line assigns words redirects) =>
      simple fuel tested true assigns words redirects { s with line }
    | .final command => run fuel tested command s
    | .sequence commands => sequence fuel tested s commands
    | .background command =>
      let pid := s.nextPid
      let (n, inner) := { s with nextPid := pid + 1 }.newInput [] 0
      let inner := { inner.fork with job := pid }.open_ 0 (.input n)
      let (flow, inner) := finish fuel (run fuel false command.ending inner)
      let (_, t) := reap false s (flow, inner)
      let endsAt := if flow = .stalled then t.clock + 2 ^ 40 else t.clock
      let job : Job := ⟨pid, endsAt, t.status, flow.signal?⟩
      (.next, { t with
        clock := s.clock, status := 0, background := some pid, jobs := job :: s.jobs })
    | .both first second =>
      match run fuel true first s with
      | (.next, s) => if s.status = 0 then run fuel tested second s else (.next, s)
      | found => found
    | .either first second =>
      match run fuel true first s with
      | (.next, s) => if s.status = 0 then (.next, s) else run fuel tested second s
      | found => found
    | .negate command =>
      match run fuel true command s with
      | (.next, s) => (.next, { s with status := if s.status = 0 then 1 else 0 })
      | found => found
    | .pipeline commands =>
      errexit tested (settle fuel (stages fuel tested s.status s.clock s.clock none s commands))
    | .group body redirects => redirected (capture fuel) redirects tested (run fuel tested body) s
    | .subshell body redirects =>
      redirected (capture fuel) redirects tested (fun s =>
        let ended := finish fuel (run fuel tested body.ending s.fork)
        errexit tested (settle fuel (reap true s ended))) s
    | .choose branches otherwise redirects =>
      redirected (capture fuel) redirects tested
        (fun s => choose fuel tested otherwise s branches) s
    | .loop inverted condition body redirects =>
      redirected (capture fuel) redirects tested
        (fun s => leaveLoop s (loop fuel tested inverted condition body 0 (enterLoop s))) s
    | .each name words body redirects =>
      redirected (capture fuel) redirects tested (fun s =>
        match words with
        | none => leaveLoop s (each fuel tested name body (enterLoop s) s.args)
        | some words =>
          match (Expand.words (capture fuel) words).run s with
          | (.ok [], s) => (.next, { s with status := 0 })
          | (.ok values, s) => leaveLoop s (each fuel tested name body (enterLoop s) values)
          | (.error fault, s) => failed fault s) s
    | .select subject arms redirects =>
      redirected (capture fuel) redirects tested (fun s =>
        match (Expand.whole (capture fuel) subject).run s with
        | (.ok text, s) => select fuel tested text.toList s arms
        | (.error fault, s) => failed fault s) s
    | .define name body =>
      let others := s.functions.filter fun (f, _) => f != name
      (.next, { s with functions := (name, body) :: others, status := 0 })

end

end PlaybookScan.Shell
