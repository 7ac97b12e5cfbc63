import PlaybookScan.Shell.Pattern
import PlaybookScan.Shell.Utility.Attributes
import PlaybookScan.Shell.Utility.Order

/-!
# Lists of files

The names in directories are put into an order, and shown in columns or with the attributes of the
files.
-/

set_option autoImplicit false

namespace PlaybookScan.Shell.Utility

namespace Listing

/-- A file with the name by which it is listed. -/
structure Item where
  name : String
  node : Node
  /-- What a link leads to. -/
  target : Option Node

/-- What is listed, and how. -/
structure Manner where
  has : Char → Bool
  /-- The last of the letters that choose an order. -/
  order : Char
  /-- The last of the letters that choose a form. -/
  form : Char
  hidden : List Pattern
  width : Nat
  /-- The time format of the long form. -/
  time : String

/-- The order of the bytes. -/
def inOrder (a b : String) : Bool := a.toList ≤ b.toList

/-- What stands behind the last point of a name. -/
def extension (name : String) : String :=
  let cs := name.toList
  if cs.contains '.' then String.ofList (cs.reverse.takeWhile (· != '.')).reverse else ""

/-- Puts files into their order. -/
def Manner.sorted (m : Manner) (items : List Item) : List Item :=
  let byName := items.mergeSort fun x y => inOrder x.name y.name
  let items := match m.order with
    | 'U' => items
    | 'S' => byName.mergeSort fun x y => sizeOf y.node ≤ sizeOf x.node
    | 'X' => byName.mergeSort fun x y => inOrder (extension x.name) (extension y.name)
    | 'v' => byName.mergeSort fun x y => Order.versionCompare x.name.toList y.name.toList != .gt
    | _ => byName
  let items := if m.has 'r' ∧ m.order ≠ 'U' then items.reverse else items
  if m.has 'γ' then
    let isDirectory (i : Item) : Bool := (i.target.getD i.node).isDirectory
    items.filter isDirectory ++ items.filter (!isDirectory ·)
  else items

/-- What is shown behind the name of a file. -/
def Manner.mark (m : Manner) (node : Node) : String :=
  if m.has 'F' || m.has 'p' || m.has 'φ' then
    match node with
    | .directory _ | .closed true _ => "/"
    | .link _ => if m.has 'F' || m.has 'φ' then "@" else ""
    | .file _ mode => if m.has 'F' && Node.isExecutable mode then "*" else ""
    | .utility _ => if m.has 'F' then "*" else ""
    | _ => ""
  else ""

/-- The name of a file as it is shown. -/
def Manner.title (m : Manner) (name : String) : String :=
  let cs := name.toList
  if m.has 'Q' then
    let shown (c : Char) : List Char :=
      if c = '"' ∨ c = '\\' then ['\\', c] else if Quoting.isPrintable c then [c]
      else Quoting.escaped c
    "\"" ++ String.ofList (cs.flatMap shown) ++ "\""
  else if m.has 'b' then
    let shown (c : Char) : List Char :=
      if c = ' ' ∨ c = '\\' then ['\\', c] else if Quoting.isPrintable c then [c]
      else Quoting.escaped c
    String.ofList (cs.flatMap shown)
  else if m.has 'q' then
    String.ofList (cs.map fun c => if Quoting.isPrintable c then c else '?')
  else name

/-- The blocks of a file, in units of 1024 bytes. -/
def kilobytes (node : Node) : Nat := ((property? "" node 'b').bind String.toNat?).getD 0 / 2

/-- The name with its mark, and the number of blocks before it, if it is wanted. -/
def Manner.entry (m : Manner) (blocks : Nat) (i : Item) : String :=
  (if m.has 's' then
    String.ofList (Printf.pad false ' ' blocks (toString (kilobytes i.node)).toList) ++ " "
  else "") ++ m.title i.name ++ m.mark i.node

/-- A size in a few characters. -/
def shortSize (n : Nat) : String :=
  if n < 1024 then toString n
  else
    let step := (List.range 8).find? fun i => n < 1024 ^ (i + 2)
    let unit := 1024 ^ (step.getD 7 + 1)
    let tenths := (n * 10 + unit - 1) / unit
    (if tenths < 100 then toString (tenths / 10) ++ "." ++ toString (tenths % 10)
      else toString ((n + unit - 1) / unit)) ++
      String.singleton (Sizes.powerLetters.getD (step.getD 7) 'E')

/-- Names side by side: the width of each column is that of its longest name and two more. -/
def Manner.columns (m : Manner) (names : List String) : String :=
  let count := names.length
  let sizes := (names.map String.length).toArray
  let across : Bool := m.form == 'x'
  let fits (n : Nat) : Option (Nat × List Nat) :=
    let rows := (count + n - 1) / n
    let column (i : Nat) : Nat := if across then i % n else i / rows
    let widths := (List.range n).map fun c =>
      ((List.range count).filter fun i => column i == c).foldl (fun w i =>
        max w (sizes.getD i 0 + if c + 1 = n then 0 else 2)) 0
    if widths.foldl (· + ·) 0 < m.width ∧ column (count - 1) < n then some (rows, widths) else none
  let best := ((List.range count).reverse.map (· + 1)).findSome? fun n => (fits n).map (n, ·)
  let (n, rows, widths) := best.getD (1, count, [0])
  let index (r c : Nat) : Nat := if across then r * n + c else c * rows + r
  let indent (from_ to_ : Nat) : String := blanks (to_ - from_ + 1) from_ to_
  String.join ((List.range rows).map fun r =>
    let cells := (List.range n).filterMap fun c => (names[index r c]?).map fun name => (c, name)
    let (text, _, _) := cells.foldl (fun ((text, at_, start) : String × Nat × Nat) (c, name) =>
      (text ++ indent at_ start ++ name, start + name.length, start + widths.getD c 0)) ("", 0, 0)
    text ++ "\n")
where
  /-- Blanks and tabs from one column to another. -/
  blanks : Nat → Nat → Nat → String
    | 0, _, _ => ""
    | fuel + 1, at_, to_ =>
      if to_ ≤ at_ then ""
      else if (at_ + 1) / 8 < to_ / 8 then "\t" ++ blanks fuel (at_ + (8 - at_ % 8)) to_
      else " " ++ blanks fuel (at_ + 1) to_

/-- Names with commas between them, in lines that are not too long. -/
def Manner.commas (m : Manner) (names : List String) : String :=
  let (text, _) := names.foldl (fun ((text, at_) : String × Nat) name =>
    if text = "" then (name, name.length)
    else if at_ + 2 + name.length < m.width then
      (text ++ ", " ++ name, at_ + 2 + name.length)
    else (text ++ ",\n" ++ name, name.length)) ("", 0)
  text ++ "\n"

/-- Lines with the attributes of files, in columns. -/
def Manner.long (m : Manner) (items : List Item) : String :=
  let links (node : Node) : Nat := match node with
    | .directory entries => 2 + (entries.filter (·.2.isDirectory)).length
    | _ => 1
  let time := Calendar.Moment.ofSeconds Calendar.beginning 0
  let owner := if m.has 'n' then "0" else "root"
  let cells (i : Item) : List String :=
    [String.singleton (kindLetter i.node) ++ Mode.letters (modeOf i.node),
      toString (links i.node)] ++
      (if m.has 'g' then [] else [owner]) ++ (if m.has 'o' || m.has 'G' then [] else [owner]) ++
      [if m.has 'h' then shortSize (sizeOf i.node) else toString (sizeOf i.node)]
  let rows := items.map cells
  let width (k : Nat) : Nat := (rows.map fun r => (r.getD k "").length).foldl max 0
  let blocks := (items.map fun i => (toString (kilobytes i.node)).length).foldl max 0
  String.join ((items.zip rows).map fun (i, row) =>
    let last := row.length - 1
    let fields := ((List.range row.length).zip row).map fun (k, text) =>
      String.ofList (Printf.pad (k != 1 && k != last) ' ' (width k) text.toList)
    let tail := match i.node with
      | .link target => " -> " ++ Octets.ofText target ++ (i.target.map m.mark).getD ""
      | node => m.mark node
    (if m.has 's' then
      String.ofList (Printf.pad false ' ' blocks (toString (kilobytes i.node)).toList) ++ " "
    else "") ++ " ".intercalate fields ++ " " ++ time.show_ m.time ++ " " ++ m.title i.name ++
      tail ++ "\n")

/-- Shows files in their order. -/
def Manner.show_ (m : Manner) (items : List Item) : String :=
  let items := m.sorted items
  let blocks := (items.map fun i => (toString (kilobytes i.node)).length).foldl max 0
  let names := items.map (m.entry blocks)
  if items = [] then ""
  else match m.form with
    | 'l' => m.long items
    | 'm' => m.commas names
    | 'C' | 'x' => m.columns names
    | _ => String.join (names.map (· ++ "\n"))

/-- What a name is listed with. -/
def item (s : State) (dereferences : Bool) (place name : String) (node : Node) : Item :=
  let target := match s.disk.node s.cwd (State.path place) with
    | .ok node => some node
    | .error _ => none
  ⟨name, if dereferences then target.getD node else node, target⟩

/-- The files of a directory that are shown. -/
def Manner.contents (m : Manner) (s : State) (place : String) (entries : List (String × Node)) :
    List Item :=
  let all := m.has 'a' || m.has 'A' || m.has 'f'
  let join (name : String) : String :=
    if place.endsWith "/" then place ++ name else place ++ "/" ++ name
  let parent : Node := match s.disk.node s.cwd (State.path (join "..")) with
    | .ok node => node
    | .error _ => .directory entries
  let dots := if m.has 'a' || m.has 'f' then
      [⟨".", .directory entries, none⟩, ⟨"..", parent, none⟩]
    else []
  let named := (entries.map fun (name, node) => (Octets.ofText name, node)).filter fun (n, _) =>
    (all || !n.startsWith ".") && !m.hidden.any (·.isMatch n.toList)
  dots ++ named.map fun (n, node) => item s (m.has 'L') (join n) n node

/-- Lists a directory and, if so wanted, those in it; `fuel` bounds their depth. -/
def Manner.directory (m : Manner) : Nat → Bool → String → List (String × Node) →
    StateM State Unit
  | 0, _, _, _ => return
  | fuel + 1, titled, place, entries => do
    let s ← get
    if titled then writeLine (m.title place ++ ":")
    let items := m.contents s place entries
    if m.form = 'l' ∨ m.has 's' then
      writeLine ("total " ++ toString (items.foldl (fun n i => n + kilobytes i.node) 0))
    write (m.show_ items).toList
    if m.has 'R' then
      (m.sorted items).forM fun i => do
        match i.node with
        | .directory entries =>
          if i.name ≠ "." ∧ i.name ≠ ".." then
            writeLine ""
            let inner := if place.endsWith "/" then place ++ i.name else place ++ "/" ++ i.name
            m.directory fuel true inner entries
        | _ => return

/-- The last of some letters among the options. -/
def lastOf (a : Arguments) (letters : String) (usual : Char) : Char :=
  ((a.options.map Prod.fst).filter fun c => letters.contains c).getLastD usual

/-- The one of some words that an option's argument is the beginning of, as a letter. -/
def choice (option : String) (words : List (String × Char)) (text : String) :
    Except String Char :=
  match words.filter fun (w, _) => w.startsWith text with
  | (_, c) :: _ => .ok c
  | [] => .error ("invalid argument " ++ quoted text ++ " for '" ++ option ++
      "'\nValid arguments are:" ++ String.join (words.map fun (w, _) => "\n  - '" ++ w ++ "'"))

/-- Puts the letters of words into the options. -/
def spelled (a : Arguments) : Except String Arguments := do
  let options ← a.options.mapM fun (c, v) => do
    match c with
    | 'ς' => return (← choice "--sort" [("none", 'U'), ("time", 't'), ("size", 'S'),
        ("extension", 'X'), ("version", 'v'), ("width", 'ω')] v, "")
    | 'μ' => return (← choice "--format" [("verbose", 'l'), ("long", 'l'), ("commas", 'm'),
        ("horizontal", 'x'), ("across", 'x'), ("vertical", 'C'), ("single-column", '1')] v, "")
    | 'ι' => return (← choice "--indicator-style" [("none", 'ν'), ("slash", 'p'),
        ("file-type", 'φ'), ("classify", 'F')] v, "")
    | c => return (c, v)
  return { a with options }

end Listing

def ls : Utility := fun args =>
  match (Options.of "1aAbBCdfFgGhHiI:klLmnNopqQrRsStT:uUvw:xXZγφκ::ς:μ:ι:θ:η:δ" [("all", 'a'),
      ("almost-all", 'A'), ("escape", 'b'), ("directory", 'd'), ("classify", 'F'),
      ("file-type", 'φ'), ("format", 'μ'), ("group-directories-first", 'γ'), ("color", 'κ'),
      ("no-group", 'G'), ("human-readable", 'h'), ("indicator-style", 'ι'), ("hide", 'η'),
      ("ignore", 'I'), ("dereference", 'L'), ("numeric-uid-gid", 'n'), ("literal", 'N'),
      ("hide-control-chars", 'q'), ("quote-name", 'Q'), ("reverse", 'r'), ("recursive", 'R'),
      ("size", 's'), ("sort", 'ς'), ("time-style", 'θ'), ("full-time", 'δ'),
      ("width", 'w')]).read args with
  | .error message => misuse 2 message
  | .ok a => do
    match Listing.spelled a with
    | .error message => misuse 1 message
    | .ok a =>
    let form := Listing.lastOf a "1lmCxgnoδ" '1'
    let isLong : Bool := "gnoδ".contains form ||
      (form == '1' && (a.has 'l' || a.has 'g' || a.has 'n'))
    let form := if isLong then 'l' else form
    let order := Listing.lastOf a "StUXvf" 'n'
    let hides := (a.values 'I') ++ if a.has 'a' || a.has 'A' then [] else a.values 'η'
    let time := if a.has 'δ' then "%Y-%m-%d %H:%M:%S.%N %z" else match a.value? 'θ' with
      | some "long-iso" => "%Y-%m-%d %H:%M"
      | some "full-iso" => "%Y-%m-%d %H:%M:%S.%N %z"
      | some "iso" => "%m-%d %H:%M"
      | some text => if text.startsWith "+" then String.ofList text.toList.tail else "%b %e %H:%M"
      | none => "%b %e %H:%M"
    let m : Listing.Manner := ⟨a.has, if order = 'f' then 'U' else order, form,
      hides.map fun p => Pattern.ofText p.toList, ((a.value? 'w').bind String.toNat?).getD 80,
      time⟩
    let s ← get
    let place (x : String) : Except IoError Node :=
      match s.itself x with
      | .ok (.link target) => if a.has 'L' then s.disk.node s.cwd (State.path x)
        else .ok (.link target)
      | found => found
    let operands := if a.operands = [] then ["."] else a.operands
    let status ← operands.foldlM (fun status operand => do
      match place operand with
      | .ok _ => return status
      | .error e =>
        complain ("cannot access " ++ quotedFile operand ++ ": " ++ cause e)
        return 2) 0
    let known := operands.filterMap fun x => (place x).toOption.map fun node =>
      Listing.item s (a.has 'L' || (a.has 'H' && m.form == 'l')) x x node
    let follows := !a.has 'd' && ((m.form ≠ 'l' && !a.has 'F') || a.has 'H' || a.has 'L')
    let isDirectory (i : Listing.Item) : Bool :=
      !a.has 'd' && (i.node.isDirectory || (follows && (i.target.map Node.isDirectory).getD false))
    let files := known.filter (!isDirectory ·)
    let directories := m.sorted (known.filter isDirectory)
    write (m.show_ files).toList
    let titled := operands.length > 1 || a.has 'R'
    let (status, _) ← directories.foldlM (fun ((status, gap) : Nat × Bool) i => do
      match s.disk.node s.cwd (State.path i.name) with
      | .ok (.directory entries) =>
        if gap then writeLine ""
        m.directory 1000 titled i.name entries
        return (status, true)
      | .ok (.closed _ e) | .error e =>
        complain ("cannot open directory " ++ quotedFile i.name ++ ": " ++ cause e)
        return (2, gap)
      | .ok _ => return (status, gap)) (status, !files.isEmpty)
    return status

end PlaybookScan.Shell.Utility
