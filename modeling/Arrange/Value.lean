import Arrange.Calendar
import Arrange.Decimal.Shortest
import Arrange.Fault

/-!
# Arrange.Value

Values of documents: what a note's metadata and a specification are made of.  Their text follows one
style: a value on its own reads plainly, a value inside a list or table reads as it would be written
down (texts between quotes, dates spelled out).

Numbers are told apart by value and not by kind: `1`, `1.0` and `true` are the same key.
-/

namespace Arrange

open Calendar

/-- A value of a document. -/
inductive Value
  | null
  | bool (b : Bool)
  | int (n : Int)
  | float (x : Float)
  | text (s : String)
  | date (d : Date)
  | clock (c : Clock)
  | moment (m : Moment)
  | bytes (bs : List UInt8)
  | list (xs : List Value)
  | pair (a b : Value)
  | set (xs : List Value)
  | map (entries : List (Value × Value))
deriving Repr, Inhabited

namespace Value

/-- The longest number that is read or written in decimal digits. -/
def maxDigits : Nat := 4300

/-- The decimal digits of an integer, if they are not too many. -/
def intText (n : Int) : Except Fault String :=
  let ds := Nat.repr n.natAbs
  if ds.length > maxDigits then .error .tooManyDigits
  else .ok (if n < 0 then "-" ++ ds else ds)

/-! ## text -/

def commaList : List String → String
  | [] => ""
  | [s] => s
  | s :: rest => s ++ ", " ++ commaList rest

mutual

/-- The value as it would be written down. -/
def spelled : Value → Except Fault String
  | .null => .ok "None"
  | .bool b => .ok (if b then "True" else "False")
  | .int n => intText n
  | .float x => .ok (Decimal.text x)
  | .text s => .ok (Text.quoted s)
  | .date d => .ok d.spelled
  | .clock c => .ok c.spelled
  | .moment m => .ok m.spelled
  | .bytes bs => .ok (Text.quotedBytes bs)
  | .list xs => do return "[" ++ commaList (← spelledAll xs) ++ "]"
  | .pair a b => do return "(" ++ (← spelled a) ++ ", " ++ (← spelled b) ++ ")"
  | .set [] => .ok "set()"
  | .set (x :: xs) => do
    return "\x7b" ++ commaList ((← spelled x) :: (← spelledAll xs)) ++ "\x7d"
  | .map entries => do return "\x7b" ++ commaList (← spelledEntries entries) ++ "\x7d"

def spelledAll : List Value → Except Fault (List String)
  | [] => .ok []
  | x :: xs => do return (← spelled x) :: (← spelledAll xs)

/-- All entries of a table, written down with a colon between key and value. -/
def spelledEntries : List (Value × Value) → Except Fault (List String)
  | [] => .ok []
  | (k, v) :: rest => do
    return ((← spelled k) ++ ": " ++ (← spelled v)) :: (← spelledEntries rest)

end

/-- The value on its own as a text. -/
def shown : Value → Except Fault String
  | .text s => .ok s
  | .date d => .ok d.text
  | .clock c => .ok c.text
  | .moment m => .ok m.text
  | v => spelled v

/-! ## truth and equality -/

/-- Does the value count as present: neither null, nor false, nor zero, nor empty? -/
def isTruthy : Value → Bool
  | .null => false
  | .bool b => b
  | .int n => n != 0
  | .float x => x != 0
  | .text s => s != ""
  | .bytes bs => !bs.isEmpty
  | .list xs => !xs.isEmpty
  | .set xs => !xs.isEmpty
  | .map entries => !entries.isEmpty
  | _ => true

/-- May the value be a key?  Lists, sets and tables may not. -/
def isKey : Value → Bool
  | .list _ => false
  | .set _ => false
  | .map _ => false
  | .pair a b => a.isKey && b.isKey
  | _ => true

/-- The integer value of a number, a truth value counting as zero or one. -/
def integer? : Value → Option Int
  | .bool b => some (if b then 1 else 0)
  | .int n => some n
  | _ => none

/-- Has the double exactly the given integer value? -/
def floatIs (x : Float) (n : Int) : Bool :=
  match Decimal.decode x with
  | .finite negative m q =>
    let signed : Int := if negative then -(m : Int) else m
    if q ≥ 0 then signed * Nat.pow 2 q.toNat == n else signed == n * Nat.pow 2 (-q).toNat
  | _ => false

def sameKey : Value → Value → Bool
  | .null, .null => true
  | .text s, .text t => s == t
  | .date d, .date e => d == e
  | .clock c, .clock d => c == d
  | .moment m, .moment n => m.same n
  | .bytes a, .bytes b => a == b
  | .pair a b, .pair c d => sameKey a c && sameKey b d
  | .float x, .float y => x == y
  | .float x, v => match v.integer? with | some n => floatIs x n | none => false
  | v, .float x => match v.integer? with | some n => floatIs x n | none => false
  | v, w => match v.integer?, w.integer? with | some m, some n => m == n | _, _ => false

end Value

/-- A table: entries in the order in which their keys first occurred, each key once. -/
abbrev Entries := List (Value × Value)

namespace Entries

/-- The value of a key. -/
def get? (entries : Entries) (key : Value) : Option Value :=
  match entries with
  | [] => none
  | (k, v) :: rest => if k.sameKey key then some v else get? rest key

def find? (entries : Entries) (key : String) : Option Value := get? entries (.text key)

/-- Gives a key a value: in the place of the key if it occurs, else at the end. -/
def put (entries : Entries) (key value : Value) : Entries :=
  match entries with
  | [] => [(key, value)]
  | (k, v) :: rest => if k.sameKey key then (k, value) :: rest else (k, v) :: put rest key value

end Entries

mutual

/-- Are two values equal?  Lists are equal element by element; tables are equal if they have the same
keys with equal values, in any order; all else is equal as keys are the same. -/
def Value.same : Value → Value → Bool
  | .list xs, .list ys => sameAll xs ys
  | .map es, .map fs => es.length == fs.length && sameEntries es fs
  | v, w => v.sameKey w

/-- Are two lists equal element by element? -/
def Value.sameAll : List Value → List Value → Bool
  | [], [] => true
  | x :: xs, y :: ys => x.same y && sameAll xs ys
  | _, _ => false

/-- Has a table all entries of a list? -/
def Value.sameEntries : Entries → Entries → Bool
  | [], _ => true
  | (k, v) :: rest, table =>
    (match table.get? k with
      | some w => v.same w
      | none => false) && sameEntries rest table

end

end Arrange
