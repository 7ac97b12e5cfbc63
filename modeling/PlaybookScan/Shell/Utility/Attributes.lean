import PlaybookScan.Shell.Utility.Files

/-!
# Attributes of files

Permissions, sizes and kinds of what is on the disk: how they are shown and changed.
-/

set_option autoImplicit false

namespace PlaybookScan.Shell.Utility

/-! ## Permissions -/

namespace Mode

/-- The bits that the letter of a class of users stands for. -/
def affected (letter : Char) : Nat :=
  match letter with
  | 'u' => 0o4700
  | 'g' => 0o2070
  | 'o' => 0o1007
  | _ => 0o7777

/-- A change of permissions: the bits that it may concern, or none if it concerns all but those of
the mask, its sign, and the bits for what the permissions were before. -/
structure Change where
  who : Option Nat
  sign : Char
  bits : Nat → Nat

def Change.apply (mask : Nat) (mode : Nat) (c : Change) : Nat :=
  let among := match c.who with
    | some who => who
    | none => 0o7777 - (0o7777 &&& mask)
  let bits := c.bits mode &&& among
  match c.sign with
  | '+' => mode ||| bits
  | '-' => mode - (mode &&& bits)
  | _ => (mode - (mode &&& c.who.getD 0o7777)) ||| bits

/-- The bits that letters stand for. -/
def letterBits (mode : Nat) (letters : List Char) : Nat :=
  letters.foldl (fun bits c => bits ||| match c with
    | 'r' => 0o444
    | 'w' => 0o222
    | 'x' => 0o111
    | 'X' => if mode &&& 0o111 = 0 then 0 else 0o111
    | 's' => 0o6000
    | _ => 0o1000) 0

/-- The signs of a clause with what stands behind them; `fuel` bounds their number. -/
def actions (who : Option Nat) : Nat → List Char → Option (List Change)
  | _, [] => some []
  | 0, _ => none
  | fuel + 1, sign :: cs =>
    if !"+-=".contains sign then none
    else
      let digits := cs.takeWhile fun c => '0' ≤ c && c ≤ '7'
      let letters := cs.takeWhile "rwxXst".toList.contains
      let (bits, rest) : (Nat → Nat) × List Char := match digits, cs with
        | _ :: _, _ => (fun _ => Printf.number 8 digits, cs.drop digits.length)
        | [], 'u' :: rest => (fun mode => mode / 64 % 8 * 0o111, rest)
        | [], 'g' :: rest => (fun mode => mode / 8 % 8 * 0o111, rest)
        | [], 'o' :: rest => (fun mode => mode % 8 * 0o111, rest)
        | [], cs => (fun mode => letterBits mode letters, cs.drop letters.length)
      (actions who fuel rest).map (⟨who, sign, bits⟩ :: ·)

/-- Changes with commas between them, each behind the letters of those whom it concerns. -/
def clause? (cs : List Char) : Option (List Change) :=
  let who := cs.takeWhile "ugoa".toList.contains
  let rest := cs.drop who.length
  if rest = [] then none
  else actions (if who = [] then none else some (who.foldl (fun n c => n ||| affected c) 0))
    rest.length rest

/-- What a text makes of permissions, if it is a mode. -/
def parse? (mask : Nat) (text : String) : Option (Nat → Nat) :=
  let cs := text.toList
  if cs ≠ [] ∧ cs.all fun c => '0' ≤ c && c ≤ '7' then
    let n := Printf.number 8 cs
    if n < 0o10000 then some fun _ => n else none
  else
    ((cs.splitOn ',').mapM clause?).map fun changes mode =>
      changes.flatten.foldl (Change.apply mask) mode

/-- Nine letters for the permissions. -/
def letters (mode : Nat) : String :=
  let part (bits : Nat) (special : Bool) (mark : Char) : List Char :=
    [if bits / 4 % 2 = 1 then 'r' else '-', if bits / 2 % 2 = 1 then 'w' else '-',
      match special, bits % 2 == 1 with
        | true, true => mark
        | true, false => mark.toUpper
        | false, true => 'x'
        | false, false => '-']
  String.ofList (part (mode / 64) (mode &&& 0o4000 != 0) 's' ++
    part (mode / 8) (mode &&& 0o2000 != 0) 's' ++ part mode (mode &&& 0o1000 != 0) 't')

/-- Four digits for the permissions, in base 8. -/
def digits (mode : Nat) : String :=
  String.ofList (Printf.pad false '0' 4 (Nat.toDigits 8 mode))

end Mode

/-- The permissions of what is on the disk. -/
def modeOf : Node → Nat
  | .file _ mode => mode
  | .link _ => 0o777
  | .device _ => 0o666
  | _ => 0o755

/-- The letter for the kind of a thing. -/
def kindLetter : Node → Char
  | .directory _ | .closed true _ => 'd'
  | .link _ => 'l'
  | .device _ => 'c'
  | _ => '-'

def sizeOf : Node → Nat
  | .file content _ => content.length
  | .link target => target.utf8ByteSize
  | .directory _ | .closed true _ => 4096
  | _ => 0

/-- All paths at and below an operand, with what is there. -/
def everything (place : String) (node : Node) : List (String × Node) :=
  (place, node) :: match node with
    | .directory entries => below entries
    | _ => []
where
  below : List (String × Node) → List (String × Node)
    | [] => []
    | (name, node) :: entries =>
      let path := place ++ "/" ++ Octets.ofText name
      everything path node ++ below entries

/-- Changes permissions. -/
def chmod : Utility := fun args => do
  -- a mode may begin with a hyphen
  let isMode (arg : String) : Bool := match arg.toList with
    | '-' :: c :: _ => "rwxXstugoa01234567,=+".contains c
    | _ => false
  let modes := (args.takeWhile (· != "--")).filter isMode
  let dashed := ",".intercalate modes
  match (Options.of "cfRvρ:" [("changes", 'c'), ("silent", 'f'), ("quiet", 'f'),
      ("recursive", 'R'), ("verbose", 'v'), ("reference", 'ρ')]).read
      (args.filter fun x => !modes.contains x) with
  | .error message => misuse 1 message
  | .ok a => do
    let operands := if dashed = "" ∨ a.has 'ρ' then a.operands else dashed :: a.operands
    let s ← get
    let (mode?, files) : Option (Nat → Nat) × List String ← match a.value? 'ρ', operands with
      | some file, operands =>
        match s.disk.node s.cwd (State.path file) with
        | .ok node => pure (some fun _ => modeOf node, operands)
        | .error e =>
          complain ("failed to get attributes of " ++ quotedFile file ++ ": " ++ cause e)
          return 1
      | none, mode :: files =>
        match Mode.parse? s.mask mode with
        | some change => pure (some change, files)
        | none =>
          if files = [] then pure (none, files)
          else return ← misuse 1 ("invalid mode: " ++ quoted mode)
      | none, [] => pure (none, [])
    match mode?, files, operands with
    | _, [], [] => misuse 1 "missing operand"
    | _, [], last :: _ => misuse 1 ("missing operand after " ++ quoted last)
    | none, _, _ => return 1
    | some change, files, _ =>
      files.foldlM (fun status operand => do
        let s ← get
        match s.disk.node s.cwd (State.path operand) with
        | .error e =>
          if !a.has 'f' then
            complain ("cannot access " ++ quotedFile operand ++ ": " ++ cause e)
          return 1
        | .ok node =>
          let all := if a.has 'R' then everything operand node else [(operand, node)]
          all.forM fun (place, node) => do
            let old := modeOf node
            let new := change old
            match node with
            | .file content _ =>
              let s ← get
              match s.disk.put s.cwd (State.path place) (.file content new) with
              | .ok disk => set { s with disk }
              | .error _ => return
            | _ => pure ()
            let shown (mode : Nat) : String := Mode.digits mode ++ " (" ++ Mode.letters mode ++ ")"
            if old = new then
              if a.has 'v' then
                writeLine ("mode of " ++ quotedFile place ++ " retained as " ++ shown old)
            else if a.has 'v' || a.has 'c' then
              writeLine ("mode of " ++ quotedFile place ++ " changed from " ++ shown old ++
                " to " ++ shown new)
          return status) 0

/-! ## Descriptions -/

/-- What a letter stands for; `none` if it is no directive. -/
def property? (operand : String) (node : Node) (letter : Char) : Option String :=
  let now := Calendar.Moment.ofSeconds Calendar.beginning 0
  match letter with
  | 'n' => some operand
  | 'N' => some (Quoting.always operand ++ match node with
    | .link target => " -> " ++ Quoting.always (Octets.ofText target)
    | _ => "")
  | 's' => some (toString (sizeOf node))
  | 'F' => some (kindOf node)
  | 'a' => some (String.ofList (Nat.toDigits 8 (modeOf node)))
  | 'A' => some (String.singleton (kindLetter node) ++ Mode.letters (modeOf node))
  | 'f' =>
    let kind := match kindLetter node with
      | 'd' => 0x4000
      | 'l' => 0xa000
      | 'c' => 0x2000
      | _ => 0x8000
    some (String.ofList (Nat.toDigits 16 (kind ||| modeOf node)))
  | 'h' => some "1"
  | 'u' | 'g' => some "0"
  | 'U' | 'G' => some "root"
  | 'o' => some "4096"
  | 'b' => some (if kindLetter node = 'l' then "0" else toString ((sizeOf node + 4095) / 4096 * 8))
  | 'B' => some "512"
  | 't' => some (if node matches .device _ then "1" else "0")
  | 'T' => some (match node with
    | .device .null => "3"
    | .device .zero => "5"
    | _ => "0")
  | 'd' => some "66304"
  | 'D' => some "10300"
  | 'i' => some "1"
  | 'm' => some "/"
  | 'w' | 'x' | 'y' | 'z' => some (now.show_ "%Y-%m-%d %H:%M:%S.%N %z")
  | 'W' | 'X' | 'Y' | 'Z' => some (now.show_ "%s")
  | _ => none

/-- A description by a format; where `escapes` are read, backslashes have a meaning. `fuel` bounds
the number of directives. -/
def describe (operand : String) (node : Node) (escapes : Bool) : Nat → List Char → List Char
  | 0, cs => cs
  | _, [] => []
  | fuel + 1, '%' :: cs =>
    let flags := cs.takeWhile "-+ #0'".toList.contains
    let rest := cs.drop flags.length
    let width := rest.takeWhile Char.isDigit
    let rest := rest.drop width.length
    let (precision, rest) := match rest with
      | '.' :: rest =>
        (some (Printf.number 10 (rest.takeWhile Char.isDigit)), rest.dropWhile Char.isDigit)
      | rest => (none, rest)
    match rest with
    | [] => ['%']
    | '%' :: rest => '%' :: describe operand node escapes fuel rest
    | c :: rest =>
      let text := match property? operand node c with
        | some text => text.toList
        | none => ['?']
      let text := match precision with
        | some n => text.take n
        | none => text
      let left := flags.contains '-'
      let fill := if flags.contains '0' && !left then '0' else ' '
      Printf.pad left fill (Printf.number 10 width) text ++ describe operand node escapes fuel rest
  | fuel + 1, '\\' :: c :: cs =>
    if !escapes then '\\' :: describe operand node escapes fuel (c :: cs)
    else if '0' ≤ c ∧ c ≤ '7' then
      let ds := ((c :: cs).take 3).takeWhile fun c => '0' ≤ c && c ≤ '7'
      Char.ofNat (Printf.number 8 ds % 256) ::
        describe operand node escapes fuel ((c :: cs).drop ds.length)
    else if c = 'x' ∧ (cs.head?.map Printf.isHex).getD false then
      let ds := (cs.take 2).takeWhile Printf.isHex
      Char.ofNat (Printf.number 16 ds) :: describe operand node escapes fuel (cs.drop ds.length)
    else (Printf.letter? c).getD c :: describe operand node escapes fuel cs
  | fuel + 1, c :: cs => c :: describe operand node escapes fuel cs

/-- Describes files. -/
def stat : Utility :=
  withOptions (.of "c:fLtπ:" [("format", 'c'), ("printf", 'π'), ("dereference", 'L'),
    ("file-system", 'f'), ("terse", 't')]) 1 fun a => do
    if a.operands = [] then return ← misuse 1 "missing operand"
    let usual := "  File: %N\n  Size: %-10s\tBlocks: %-10b IO Block: %-6o %F\n" ++
      "Device: %D\tInode: %-11i Links: %h\n" ++
      "Access: (%04a/%10.10A)  Uid: (%5u/%8U)   Gid: (%5g/%8G)\n" ++
      "Access: %x\nModify: %y\nChange: %z\n Birth: %w"
    let terse := "%n %s %b %f %u %g %D %i %h %t %T %X %Y %Z %W %o"
    let (format, escapes) := match a.value? 'π', a.value? 'c' with
      | some text, _ => (text, true)
      | none, some text => (text, false)
      | none, none => (if a.has 't' then terse else usual, false)
    a.operands.foldlM (fun status operand => do
      let s ← get
      let found := if a.has 'L' then s.disk.node s.cwd (State.path operand) else s.itself operand
      match found with
      | .ok node =>
        write (describe operand node escapes (format.length + 1) format.toList ++
          if escapes then [] else ['\n'])
        return status
      | .error e =>
        complain ("cannot statx " ++ quotedFile operand ++ ": " ++ cause e)
        return 1) 0

/-! ## Sizes -/

/-- The size that a text asks for, where the file has the size `old`. -/
def newSize? (old : Nat) (text : String) : Except String Nat :=
  let cs := text.toList
  let sign := cs.head?.filter "+-<>/%".toList.contains
  match Sizes.read false (if sign.isSome then cs.tail else cs) with
  | .error _ => .error ("Invalid number: " ++ quoted text)
  | .ok n =>
    match sign with
    | some '+' => .ok (old + n)
    | some '-' => .ok (old - n)
    | some '<' => .ok (min old n)
    | some '>' => .ok (max old n)
    | some '/' => if n = 0 then .error "division by zero" else .ok (old / n * n)
    | some '%' => if n = 0 then .error "division by zero" else .ok ((old + n - 1) / n * n)
    | _ => .ok n

/-- Largest file that is made. -/
def largest : Nat := 2 ^ 24

/-- Cuts files off, or makes them longer with zeros. -/
def truncate : Utility :=
  withOptions (.of "cor:s:" [("no-create", 'c'), ("io-blocks", 'o'), ("reference", 'r'),
    ("size", 's')]) 1 fun a => do
    match a.value? 's', a.value? 'r' with
    | none, none => misuse 1 "you must specify either '--size' or '--reference'"
    | size, reference =>
      match (size.map (newSize? 0)).bind fun
          | .error message => some message
          | .ok _ => none with
      | some message => complain message; return 1
      | none =>
      if a.operands = [] then return ← misuse 1 "missing file operand"
      let s ← get
      let base ← match reference with
        | none => pure none
        | some file => match s.disk.node s.cwd (State.path file) with
          | .ok node => pure (some (sizeOf node))
          | .error e =>
            complain ("cannot stat " ++ quotedFile file ++ ": " ++ cause e)
            return 1
      a.operands.foldlM (fun status operand => do
        let s ← get
        let p := State.path operand
        let found := s.disk.node s.cwd p
        if a.has 'c' ∧ found matches .error .noSuchFile then return status
        let (content, old) : List UInt8 × Nat := match found with
          | .ok (.file content _) => (content, content.length)
          | _ => ([], 0)
        let wanted := match size with
          | some text => (newSize? (base.getD old) text).toOption.getD 0
          | none => base.getD 0
        let wanted := min wanted largest
        match s.disk.writeFile s.cwd p s.newMode false
            (content.take wanted ++ List.replicate (wanted - old) 0) with
        | .ok disk => set { s with disk }; return status
        | .error e =>
          complain ("cannot open " ++ quotedFile operand ++ " for writing: " ++ cause e)
          return 1) 0

end PlaybookScan.Shell.Utility
