import Typology.Decimal.Layout
/-!
Log records: named fields of an event, with its level and the part of the program that it comes
from.
-/

namespace Typology.Log

/-- The levels of events, the gravest first. -/
inductive Level where
  | error
  | warn
  | info
  | debug
  | trace
deriving DecidableEq, Repr

namespace Level

/-- The levels, the gravest first. -/
def all : List Level := [error, warn, info, debug, trace]

/-- The rank of a level: the gravest one has the least. -/
def rank : Level → Nat
  | error => 1
  | warn => 2
  | info => 3
  | debug => 4
  | trace => 5

/-- The name of a level. -/
def label : Level → String
  | error => "error"
  | warn => "warn"
  | info => "info"
  | debug => "debug"
  | trace => "trace"

end Level

/-- Puts a comma after every third digit; the digits come last one first. -/
def groupDigits : List Char → List Char
  | a :: b :: c :: d :: rest => a :: b :: c :: ',' :: groupDigits (d :: rest)
  | digits => digits

/-- The decimal digits of `n` in groups of three: `1234567` is written `1,234,567`. -/
def grouped (n : Nat) : String :=
  String.ofList (groupDigits (Nat.toDigits 10 n).reverse).reverse

/-- The value of a field. -/
inductive Field where
  | count (n : Nat)
  | flag (b : Bool)
  | text (s : String)
deriving DecidableEq, Repr

/-- A field as lines show it. -/
def Field.render : Field → String
  | .count n => grouped n
  | .flag b => if b then "true" else "false"
  | .text s => s

/-- What an event says: its name, its message, and its other fields in order. -/
structure Record where
  event : Option String
  message : Option String
  fields : List (String × Field)
deriving DecidableEq, Repr

namespace Record

/-- The record without fields. -/
def empty : Record := ⟨none, none, []⟩

/-- Adds a field. -/
def push (r : Record) (name : String) (field : Field) : Record :=
  { r with fields := r.fields ++ [(name, field)] }

/-- Adds a text, unless it is the name of the event or its message. -/
def text (r : Record) (name value : String) : Record :=
  if name = "event" then { r with event := some value }
  else if name = "message" then { r with message := some value }
  else r.push name (.text value)

/-- Adds a count. -/
def count (r : Record) (name : String) (n : Nat) : Record := r.push name (.count n)

/-- Adds a number that may be negative; there is no count below zero. -/
def signed (r : Record) (name : String) (n : Int) : Record := r.count name n.toNat

/-- Adds a truth value. -/
def flag (r : Record) (name : String) (b : Bool) : Record := r.push name (.flag b)

/-- A text without the quotes around it. -/
def unquoted (s : String) : String :=
  String.ofList (((s.toList.dropWhile (· == '"')).reverse.dropWhile (· == '"')).reverse)

/-- Adds a value by its description, without the quotes around it. -/
def shown (r : Record) (name description : String) : Record := r.text name (unquoted description)

/-- Adds a float. -/
def float (r : Record) (name : String) (x : Float) : Record :=
  r.shown name (Decimal.Layout.logged.render x)

/-- The first count under a name, or zero. -/
def countOf (r : Record) (name : String) : Nat :=
  (r.fields.findSome? fun (other, field) =>
    match field with
    | .count n => if other = name then some n else none
    | _ => none).getD 0

/-- The first field under a name, as lines show it. -/
def textOf? (r : Record) (name : String) : Option String :=
  (r.fields.find? (·.1 == name)).map fun entry => entry.2.render

/-- The names of all fields, of which the name of the event and its message are two. -/
def fieldNames (r : Record) : List String :=
  (r.event.map fun _ => "event").toList ++ (r.message.map fun _ => "message").toList ++
    r.fields.map (·.1)

/-- What a line starts with: the name of the event, or else its message. -/
def headline (r : Record) : String := ((r.event <|> r.message).getD "")

end Record

/-- An event: how grave it is, which part of the program it comes from, and what it says. -/
structure Event where
  level : Level
  target : String
  record : Record
deriving DecidableEq, Repr

end Typology.Log
