import Std.Data.HashMap
import PlaybookScan.Shell.Awk.Value

/-!
# Tables of record programs

A table gives values to texts. The order in which its keys are visited is that of two lists for each
of its buckets: one for the keys that were used as numbers, and one for those that were used as
texts. A key that is looked up comes to the front of its list.
-/

set_option autoImplicit false

namespace PlaybookScan.Shell.Awk

structure Entry where
  value : Value
  /-- The number that the key was used as, and when it was last looked up by it. -/
  byNumber : Option (Int × Nat)
  /-- When the key was last looked up as a text. -/
  byText : Option Nat
  deriving Inhabited

structure Table where
  entries : Std.HashMap String Entry
  /-- Number of lookups. -/
  clock : Nat
  buckets : Nat
  /-- All keys are in the lists for texts. -/
  complete : Bool
  /-- The keys are the numbers from one on, and were never used otherwise. -/
  dense : Bool

namespace Table

/-- Number of buckets of a new table. -/
def fewest : Nat := 64

/-- Keys for each bucket, at most, before there are twice as many buckets. -/
def load : Nat := 12

def empty : Table := ⟨∅, 0, fewest, false, false⟩

instance : Inhabited Table := ⟨empty⟩

/-- The number that tells the bucket of a key. -/
def hash (key : String) : Nat :=
  key.foldl (fun h c => ((h ^^^ c.toNat) * 16777619) % 2 ^ 32) 2166136261

/-- A key as a number and as a text. -/
structure Key where
  number : Option Int
  text : String

/-- The key that a value stands for. -/
def Key.of (format : String) : Value → Key
  | .number x => match wholeOf? x with
    | some n => ⟨some n, toString n⟩
    | none => ⟨none, numberShown format x⟩
  | v => ⟨none, v.shown format⟩

def size (t : Table) : Nat := t.entries.size

/-- The position of an entry in its list: what was looked up last comes first. -/
def later (a b : Nat) : Bool := b ≤ a

/-- Puts all keys into the lists for texts. -/
def completed (t : Table) : Table :=
  if t.complete then t
  else
    let numbered := t.entries.toList.filterMap fun (key, e) =>
      e.byNumber.map fun (n, time) => ((n % t.buckets).toNat, time, key)
    let sorted := numbered.mergeSort fun (b, time, _) (b', time', _) =>
      b < b' || (b == b' && later time time')
    let note := fun (t : Table) ((_, _, key) : Nat × Nat × String) =>
      let entries := t.entries.modify key fun e => { e with byText := e.byText.or (some t.clock) }
      { t with clock := t.clock + 1, entries }
    sorted.foldl note { t with complete := true, dense := false }

/-- More buckets where there are many keys. -/
def grown (t : Table) : Table :=
  if t.buckets * load < t.size then { t with buckets := 2 * t.buckets } else t

/-- Notes that a key was looked up, which is put in if it was not there. -/
def touch (t : Table) (key : Key) : Table :=
  match key.number with
  | some n =>
    if t.dense ∧ 1 ≤ n ∧ n ≤ t.size then t
    else
      let t := { t with dense := false, clock := t.clock + 1 }
      match t.entries[key.text]? with
      | some e =>
        let byText := if e.byNumber.isNone then some t.clock else e.byText
        let e := { e with byNumber := some (n, t.clock), byText }
        { t with entries := t.entries.insert key.text e }
      | none =>
        let byText := if t.complete then some t.clock else none
        grown { t with entries := t.entries.insert key.text ⟨.missing, some (n, t.clock), byText⟩ }
  | none =>
    let t := t.completed
    let t := { t with clock := t.clock + 1 }
    match t.entries[key.text]? with
    | some e =>
      let e := { e with byText := some t.clock }
      { t with entries := t.entries.insert key.text e }
    | none =>
      grown { t with entries := t.entries.insert key.text ⟨.missing, none, some t.clock⟩ }

/-- Whether there is a key; if so, it counts as looked up. -/
def find (t : Table) (key : Key) : Bool × Table :=
  if t.entries.contains key.text then (true, t.touch key)
  else (false, if key.number.isNone && t.size != 0 then t.completed else t)

/-- The value of a key, which is put in if it was not there. -/
def get (t : Table) (key : Key) : Value × Table :=
  let t := t.touch key
  ((t.entries[key.text]?.map Entry.value).getD .missing, t)

/-- Gives a key a value. -/
def set (t : Table) (key : Key) (value : Value) : Table :=
  let t := t.touch key
  { t with entries := t.entries.modify key.text fun e => { e with value } }

def erase (t : Table) (key : Key) : Table :=
  let (found, t) := t.find key
  if !found then t
  else
    let t := { t with entries := t.entries.erase key.text, dense := false }
    if t.size = 0 then empty else t

/-- The keys in the order in which they are visited. -/
def keys (t : Table) : List String × Table :=
  let t := t.completed
  let placed := t.entries.toList.map fun (key, e) =>
    (hash key % t.buckets, e.byText.getD 0, key)
  let sorted := placed.mergeSort fun (b, time, _) (b', time', _) =>
    b < b' || (b == b' && later time time')
  (sorted.map fun (_, _, key) => key, t)

/-- The table of the values of the numbers from one on. -/
def ofList (values : List Value) : Table :=
  let step := fun ((n, entries) : Nat × Std.HashMap String Entry) (v : Value) =>
    (n + 1, entries.insert (toString n) ⟨v, some ((n : Int), n), none⟩)
  let (_, entries) := values.foldl step (1, ∅)
  let count := values.length
  let buckets := (List.range 64).foldl (fun b _ => if b * load < count then 2 * b else b) fewest
  ⟨entries, count + 1, buckets, false, true⟩

end Table

end PlaybookScan.Shell.Awk
