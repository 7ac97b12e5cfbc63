import PlaybookScan.Shell.Awk.Builtin
import PlaybookScan.Shell.Awk.Parser

/-!
# Running record programs

Expressions and statements work on a machine. Every function here gets fuel, which bounds the depth
of calls; the number of rounds of a loop is bounded too.
-/

set_option autoImplicit false

namespace PlaybookScan.Shell.Awk

/-- What an assignment changes. -/
inductive Place where
  | name (x : Name)
  | element (table : Nat) (key : Table.Key)
  | field (n : Int)

namespace Place

open Act

def get : Place → Act Value
  | name x => value x
  | element n key => onTable n fun t => t.get key
  | field n => Act.field n

def set (v : Value) : Place → Act Unit
  | name x => assign x v
  | element n key => onTable n fun t => ((), t.set key v)
  | field n => setField n v

end Place

/-- Calls within each other. -/
def maxCalls : Nat := 1000

/-- Rounds after which a loop counts as one that does not end. -/
def maxRounds : Nat := 2 ^ 20

/-- The body of a loop: whether the loop goes on behind it. -/
def caught (act : Act Unit) : Act Bool := fun m =>
  match act m with
  | (.ok (), m) | (.error .again, m) => (.ok true, m)
  | (.error .leave, m) => (.ok false, m)
  | (.error e, m) => (.error e, m)

/-- Repeats a round until it tells to stop. -/
def rounds (fuel : Nat) (round : Act Bool) (m : Machine) : Except Stop Unit × Machine :=
  match fuel with
  | 0 => (.error .stalled, m)
  | fuel + 1 =>
    match round m with
    | (.ok true, m) => rounds fuel round m
    | (.ok false, m) => (.ok (), m)
    | (.error e, m) => (.error e, m)

/-- A binary operator on numbers. -/
def calculate (op : Char) (x y : Float) : Float :=
  match op with
  | '+' => x + y
  | '-' => x - y
  | '*' => x * y
  | '/' => x / y
  | '%' => remainder x y
  | _ => Float.pow x y

open Act

mutual

def eval (fuel : Nat) (e : Expr) : Act Value := do
  match fuel with
  | 0 => throw .stalled
  | fuel + 1 =>
    match e with
    | .number x => return .number x
    | .text s => return .text s
    | .pattern f => return .ofBool (f.find? (← recordText).toList 0).isSome
    | .name x => value x
    | .element x keys =>
      let key ← keyOf fuel keys
      let n ← tableOf x
      onTable n fun t => t.get key
    | .field index => field (clipped (← eval fuel index).toNumber)
    | .assign target none e =>
      let p ← place fuel target
      let v ← eval fuel e
      p.set v
      return v
    | .assign target (some op) e =>
      let p ← place fuel target
      let y := (← eval fuel e).toNumber
      let v := Value.number (calculate op (← p.get).toNumber y)
      p.set v
      return v
    | .step before up target =>
      let p ← place fuel target
      let old := (← p.get).toNumber
      let new := if up then old + 1 else old - 1
      p.set (.number new)
      return .number (if before then new else old)
    | .unary '!' e => return .ofBool (!(← eval fuel e).truth)
    | .unary '-' e => return .number (-(← eval fuel e).toNumber)
    | .unary _ e => return .number (← eval fuel e).toNumber
    | .arithmetic op left right =>
      let x := (← eval fuel left).toNumber
      let y := (← eval fuel right).toNumber
      return .number (calculate op x y)
    | .concat left right =>
      let a ← shown (← eval fuel left)
      let b ← shown (← eval fuel right)
      return .text (a ++ b)
    | .compare op left right =>
      let a ← eval fuel left
      let b ← eval fuel right
      return .ofBool (a.compare (← format) op.holds b)
    | .matches negated subject pattern =>
      let text ← shown (← eval fuel subject)
      let f ← finderOf fuel pattern
      return .ofBool ((f.find? text.toList 0).isSome != negated)
    | .both left right =>
      if (← eval fuel left).truth then return .ofBool (← eval fuel right).truth
      else return .number 0
    | .either left right =>
      if (← eval fuel left).truth then return .number 1
      else return .ofBool (← eval fuel right).truth
    | .choose condition yes no =>
      if (← eval fuel condition).truth then eval fuel yes else eval fuel no
    | .member keys x =>
      let key ← keyOf fuel keys
      let n ← tableOf x
      return .ofBool (← onTable n fun t => t.find key)
    | .call name args =>
      let slots ← args.mapM (argument fuel)
      call fuel name slots
    | .builtin name args => builtinCall fuel name args
    | .read target =>
      match ← nextRecord (← fileCount) with
      | some line => received fuel target line
      | none => return .number 0
    | .readFile target file =>
      let name ← shown (← eval fuel file)
      match ← recordFrom false name with
      | .ok (some line) => received fuel target line
      | .ok none => return .number 0
      | .error () => return .number (-1)
    | .readOutput target command =>
      let name ← shown (← eval fuel command)
      match ← recordFrom true name with
      | .ok (some line) => received fuel target line
      | .ok none => return .number 0
      | .error () => return .number (-1)
    | .group [e] => eval fuel e
    | .group _ => return .missing

/-- Puts a record that was read into its place. -/
def received (fuel : Nat) (target : Option Expr) (line : String) : Act Value := do
  match fuel with
  | 0 => throw .stalled
  | fuel + 1 =>
    match target with
    | none => setRecord line
    | some e => (← place fuel e).set (.input line)
    return .number 1

/-- The key that expressions stand for. -/
def keyOf (fuel : Nat) (keys : List Expr) : Act Table.Key := do
  match fuel with
  | 0 => throw .stalled
  | fuel + 1 =>
    match keys with
    | [e] =>
      let v ← eval fuel e
      match v with
      | .text s | .input s => return ⟨none, s⟩
      | v => return .of (← format) v
    | keys =>
      let texts ← keys.mapM fun e => do shown (← eval fuel e)
      return ⟨none, (← globalText "SUBSEP").intercalate texts⟩

/-- What an expression names. -/
def place (fuel : Nat) (e : Expr) : Act Place := do
  match fuel with
  | 0 => throw .stalled
  | fuel + 1 =>
    match e with
    | .element x keys =>
      let key ← keyOf fuel keys
      return .element (← tableOf x) key
    | .field index => return .field (clipped (← eval fuel index).toNumber)
    | .name x => return .name x
    | _ => return .name (.global "")

/-- The regular expression that an expression stands for. -/
def finderOf (fuel : Nat) (e : Expr) : Act Regex.Finder := do
  match fuel with
  | 0 => throw .stalled
  | fuel + 1 =>
    match e with
    | .pattern f => return f
    | e => finder (← shown (← eval fuel e))

/-- What a function gets for an argument. A name that has no value yet may become a table. -/
def argument (fuel : Nat) (e : Expr) : Act Slot := do
  match fuel with
  | 0 => throw .stalled
  | fuel + 1 =>
    match e with
    | .name (.global "NF") => return .scalar (← value (.global "NF"))
    | .name x =>
      match ← slot x with
      | some (.scalar .missing) | none =>
        let s := Slot.open_ (← newTable)
        setSlot x s
        return s
      | some s => return s
    | e => return .scalar (← eval fuel e)

/-- Calls a function. -/
def call (fuel : Nat) (name : String) (args : List Slot) : Act Value := do
  match fuel with
  | 0 => throw .stalled
  | fuel + 1 =>
    let m ← get
    match m.functions[name]? with
    | none => return .missing
    | some f =>
      if maxCalls ≤ m.depth then
        throw (.fault false "program limit exceeded: eval stack size=1024")
      let own := List.replicate (f.arity - args.length) (Slot.scalar .missing)
      let old := m.locals
      set { m with locals := (args ++ own).toArray, depth := m.depth + 1 }
      let v ← (do execute fuel f.body; return .missing : Act Value).tryCatch fun
        | .give v => return v
        | stop => throw stop
      modify fun n => { n with locals := old, depth := m.depth }
      return v

/-- Calls a function that every program has. -/
def builtinCall (fuel : Nat) (name : String) (args : List Expr) : Act Value := do
  match fuel with
  | 0 => throw .stalled
  | fuel + 1 =>
    match name, args with
    | "length", [.name x] =>
      match ← slot x with
      | some (.table n) | some (.open_ n) =>
        return .number (Float.ofNat (← onTable n fun t => (t.size, t)))
      | _ => builtin "length" [← value x]
    | "match", [e, pattern] =>
      let text := (← shown (← eval fuel e)).toList
      let f ← finderOf fuel pattern
      let (start, size) : Float × Float := match f.find? text 0 with
        | some found => (Float.ofNat (found.start + 1), Float.ofNat (found.stop - found.start))
        | none => (0, -1)
      setGlobal "RSTART" (.number start)
      setGlobal "RLENGTH" (.number size)
      return .number start
    | "split", e :: .name x :: rest =>
      let text ← shown (← eval fuel e)
      let s ← match rest with
        | .pattern f :: _ => pure (Splitter.expression f)
        | e :: _ => do splitter (← shown (← eval fuel e))
        | [] => do splitter (← globalText "FS")
      let pieces := s.split (rest.isEmpty && (← get).linesSplit) text
      let n ← tableOf x
      onTable n fun _ => ((), .ofList (pieces.map .input))
      return .number (Float.ofNat pieces.length)
    | "sub", pattern :: new :: rest | "gsub", pattern :: new :: rest =>
      let f ← finderOf fuel pattern
      let new := (← shown (← eval fuel new)).toList
      let p ← match rest with
        | e :: _ => place fuel e
        | [] => pure (.field 0)
      let text := (← shown (← p.get)).toList
      let most := if name = "sub" then some 1 else none
      let (pieces, n) := replaced f (parts new.length new) text (2 * text.length + 3) most 0 none
      if n ≠ 0 then p.set (.text (String.ofList pieces.flatten))
      return .number (Float.ofNat n)
    | name, args =>
      let values ← args.mapM (eval fuel)
      builtin name values

/-- Runs a statement. -/
def execute (fuel : Nat) (s : Statement) : Act Unit := do
  match fuel with
  | 0 => throw .stalled
  | fuel + 1 =>
    match s with
    | .nothing => return
    | .expr e =>
      let _ ← eval fuel e
    | .print isFormat args target =>
      let values ← args.mapM (eval fuel)
      let (text, fault) ← if isFormat then
          match values with
          | f :: values => do
            let f ← shown f
            let numbers ← format
            match formatted (Value.shown numbers) f.length 0 values f.toList with
            | (cs, fault) => pure (cs, fault.map (f, ·))
          | [] => pure ([], none)
        else do
          let texts ← if values.isEmpty then do pure [← recordText]
            else do
              let numbers ← globalText "OFMT"
              pure (values.map (Value.shown numbers))
          let text := (← globalText "OFS").intercalate texts ++ (← globalText "ORS")
          pure (text.toList, none)
      match target with
      | none => modify fun m => { m with out := text :: m.out }
      | some (kind, e) => writeTo kind (← shown (← eval fuel e)) text
      match fault with
      | some (f, fault) =>
        let _ ← builtin.formatFault "printf" f fault
      | none => return
    | .block body => body.forM (execute fuel)
    | .choose condition yes no =>
      if (← eval fuel condition).truth then execute fuel yes else execute fuel no
    | .while condition body => rounds maxRounds do
        if (← eval fuel condition).truth then caught (execute fuel body) else return false
    | .doWhile body condition => rounds maxRounds do
        if ← caught (execute fuel body) then return (← eval fuel condition).truth
        else return false
    | .loop start condition step body =>
      execute fuel start
      rounds maxRounds do
        let holds ← match condition with
          | some e => do pure (← eval fuel e).truth
          | none => pure true
        if !holds then return false
        let goesOn ← caught (execute fuel body)
        if goesOn then execute fuel step
        return goesOn
    | .each x t body =>
      let n ← tableOf t
      let keys ← onTable n Table.keys
      let _ ← keys.foldlM (fun goesOn key => do
        if goesOn then
          assign x (.text key)
          caught (execute fuel body)
        else return false) true
    | .leave => throw .leave
    | .again => throw .again
    | .next => throw .next
    | .nextFile => throw .nextFile
    | .exit none => throw .exit
    | .exit (some e) =>
      let status := clipped (← eval fuel e).toNumber
      modify fun m => { m with status := (status % 256).toNat }
      throw .exit
    | .give none => throw (.give .missing)
    | .give (some e) => throw (.give (← eval fuel e))
    | .delete t none =>
      let n ← tableOf t
      onTable n fun _ => ((), .empty)
    | .delete t (some keys) =>
      let key ← keyOf fuel keys
      let n ← tableOf t
      onTable n fun t => ((), t.erase key)

end

/-! ## Programs -/

/-- A bound for the depth of calls. -/
def maxDepth : Nat := 2 ^ 20

/-- Whether a rule is followed for the record. -/
def Rule.applies (r : Rule) (index : Nat) : Act Bool := do
  let holds (e : Expr) : Act Bool := do return (← eval maxDepth e).truth
  match r.condition with
  | .start | .finish => return false
  | .always => return true
  | .when e => holds e
  | .range first last =>
    let isActive := (← get).active.contains index
    if !isActive then
      if !(← holds first) then return false
    let ends ← holds last
    modify fun m =>
      let others := m.active.filter (· != index)
      { m with active := if ends then others else index :: others }
    return true

/-- Follows the rules for the record. -/
def followRules (p : Program) : Act Unit := do
  (p.rules.zipIdx).forM fun (r, i) => do
    if ← r.applies i then execute maxDepth r.body

/-- Reads a record and follows the rules for it; answers whether there was one. -/
def nextRound (p : Program) : Act Bool := do
  match ← nextRecord (← fileCount) with
  | none => return false
  | some line =>
    setRecord line
    (followRules p).tryCatch fun
      | .next => return
      | .nextFile => modify fun m => { m with input := none }
      | stop => throw stop
    return true

/-- Records after which a run counts as one that does not end. -/
def maxRecords : Nat := 2 ^ 30

/-- Runs a program. Even if it exits, the rules for the end are followed. -/
def Program.run (p : Program) : Act Unit := do
  let start := p.rules.filter fun r => r.condition matches .start
  let finish := p.rules.filter fun r => r.condition matches .finish
  let reads : Bool := start.length < p.rules.length
  let untilExit (act : Act Unit) : Act Unit := act.tryCatch fun
    | .exit => return
    | stop => throw stop
  untilExit do
    start.forM fun r => execute maxDepth r.body
    if reads then rounds maxRecords (nextRound p)
  modify fun m => { m with depth := 0 }
  untilExit (finish.forM fun r => execute maxDepth r.body)

end PlaybookScan.Shell.Awk
