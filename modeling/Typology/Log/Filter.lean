import Typology.Log.Pattern
import Typology.Log.Record
import Typology.Text.Blank
import Typology.Text.Utf8
import Typology.Decimal.Reading
/-!
Log filters: which events are shown. A filter is a list of rules, and of those that apply to an
event the narrowest one decides.
-/

namespace Typology.Log

/-- A rule: the least grave level that is shown for targets that start with a text, and for events
that have a field. -/
structure Rule where
  /-- What targets start with; a rule without it applies to all. -/
  target : Option String
  /-- The field that events must have, if there is one. -/
  field : Option String
  /-- The least grave level that is shown, if any is. -/
  level : Option Level
  /-- Whether the rule is about spans of time, of which the program has none. -/
  spansOnly : Bool
deriving DecidableEq, Repr

/-- The level of a rank; rank zero shows nothing. -/
def levelOfRank? : Nat → Option (Option Level)
  | 0 => some none
  | n => (Level.all.find? (·.rank == n)).map some

/-- A level by its name or its rank; `off` is no level at all. -/
def levelOf? (s : String) : Option (Option Level) :=
  let digits := if s.toList.head? = some '+' then s.toList.drop 1 else s.toList
  if !digits.isEmpty && digits.all Char.isDigit then levelOfRank? (Decimal.valueOf digits)
  else
    let word := Text.asciiLower s
    if word = "off" then some none else (Level.all.find? (·.label == word)).map some

namespace Rule

/-! ## Reading -/

/-- The rule about all events. -/
def everything : Rule := ⟨none, none, some .trace, false⟩

/-- Whether a rule may start with a character, if it starts with no bracket. -/
def startsWith (c : Char) : Bool := c == '-' || c == ':' || c == '_' || Text.isAlphanumeric c

/-- Adds the condition on a field: its name, and perhaps its value, which is a number or a pattern.
No event is compared with a value. -/
def withField? (r : Rule) (condition : List Char) : Option Rule :=
  let name := String.ofList (condition.takeWhile (· ≠ '='))
  match condition.dropWhile (· ≠ '=') with
  | [] => some { r with field := some name }
  | _ :: rest =>
    let value := rest.takeWhile (· ≠ '=')
    if (Decimal.float? (String.ofList value)).isSome || Pattern.isPattern value then
      some { r with field := some name, spansOnly := true }
    else none

/-- Sets the level of a rule; none is given where everything is shown. -/
def withLevel? (r : Rule) (text : List Char) : Option Rule :=
  if text = [] then some r else (levelOf? (String.ofList text)).map fun level => { r with level }

/-- The rule that is a level, or else a target that is shown at all levels. -/
def ofWord (word : List Char) : Rule :=
  let text := String.ofList word
  match levelOf? text with
  | some level => { everything with level }
  | none => { everything with target := some text }

/-- The part of a rule that is read; a part that is cut out later knows its first byte. -/
inductive Part where
  | start
  | word (first : Nat)
  | span (first : Nat)
  | field (first : Nat)
  | fieldEnd
  | spanEnd
  | level (first : Nat)
deriving DecidableEq, Repr

/-- Reads a character at a place, where `cut` gives the text between two places. -/
def step? (cut : Nat → Nat → List Char) (place : Nat) (c : Char) :
    Part × Rule → Option (Part × Rule)
  | (.start, r) =>
    if c = '[' then some (.span (place + 1), r)
    else if startsWith c then some (.word place, r)
    else none
  | (.word first, r) =>
    let r' := { r with target := some (String.ofList (cut first place)) }
    if c = '=' then some (.level (place + 1), r')
    else if c = '[' then some (.span (place + 1), r')
    else some (.word first, r)
  | (.span first, r) =>
    if c = ']' then some (.spanEnd, { r with spansOnly := true })
    else if c = '\x7b' then some (.field (place + 1), { r with spansOnly := cut first place ≠ [] })
    else some (.span first, r)
  | (.field first, r) =>
    if c = '\x7d' then
      if cut first place = [] then none
      else (r.withField? (cut first place)).map fun r => (.fieldEnd, r)
    else some (.field first, r)
  | (.fieldEnd, r) => if c = ']' then some (.spanEnd, r) else none
  | (.spanEnd, r) => if c = '=' then some (.level (place + 1), r) else none
  | (.level first, r) => some (.level first, r)

/-- Reads characters from a place on. -/
def run? (cut : Nat → Nat → List Char) : Nat → List Char → Part × Rule → Option (Part × Rule)
  | _, [], state => some state
  | place, c :: rest, state => do run? cut (place + c.utf8Size) rest (← step? cut place c state)

/-- Reads a rule: a level, a target, or a target with its level after an equals sign; a target can
have a span and a field in brackets. The blanks around a rule are not read, but they count where it
is cut into parts. -/
def parse? (text : List Char) : Option Rule := do
  let bytes := Text.encodeUtf8 text
  let cut := fun first last => Text.decodeUtf8 ((bytes.take last).drop first)
  match ← run? cut 0 (Text.trimChars text) (.start, everything) with
  | (.word first, _) => return ofWord (cut first bytes.length)
  | (.level first, r) => r.withLevel? (cut first bytes.length)
  | (.spanEnd, r) => return r
  | _ => none

/-! ## Applying -/

/-- Whether a rule applies to an event. -/
def applies (r : Rule) (e : Event) : Bool :=
  !r.spansOnly && r.target.all (fun t => t.toList.isPrefixOf e.target.toList) &&
    r.field.all e.record.fieldNames.contains

/-- The length of the target in bytes; a rule without target comes before all others. -/
def breadth (r : Rule) : Nat := (r.target.map fun t => t.utf8ByteSize + 1).getD 0

/-- Whether a rule decides in place of another one that applies as well, and stands before it: its
target is longer, or as long and its field comes later in the alphabet or is the same. No field
comes before all fields. -/
def replaces (r other : Rule) : Bool :=
  if r.breadth = other.breadth then
    match r.field, other.field with
    | _, none => true
    | none, some _ => false
    | some a, some b => decide (b ≤ a)
  else decide (other.breadth < r.breadth)

/-- Whether a rule shows a level. -/
def shows (r : Rule) (level : Level) : Bool := r.level.any fun l => decide (level.rank ≤ l.rank)

end Rule

/-- A filter of events. -/
structure Filter where
  rules : List Rule
deriving DecidableEq, Repr

namespace Filter

/-- Splits a text at its commas. -/
def pieces : List Char → List (List Char)
  | [] => [[]]
  | c :: rest =>
    match pieces rest with
    | [] => [[c]]
    | piece :: others => if c = ',' then [] :: piece :: others else (c :: piece) :: others

/-- Reads a filter: rules between commas. A filter without rules shows errors. -/
def parse? (s : String) : Option Filter :=
  (((pieces s.toList).filter (!·.isEmpty)).mapM Rule.parse?).map fun rules =>
    if rules.isEmpty then ⟨[{ Rule.everything with level := some .error }]⟩ else ⟨rules⟩

/-- What is shown where nothing usable is said. -/
def fallback : String := "lingdb=info"

/-- The filter of the first text that is there and can be read. -/
def choose (candidates : List (Option String)) : Filter :=
  ((candidates ++ [some fallback]).findSome? fun s => s.bind parse?).getD ⟨[]⟩

/-- The rule that decides for an event: the narrowest, and the last of equally narrow ones. -/
def ruleFor? (f : Filter) (e : Event) : Option Rule :=
  (f.rules.filter (·.applies e)).foldl (fun best r =>
    match best with
    | some b => if r.replaces b then some r else best
    | none => some r) none

/-- Whether a filter shows an event. -/
def shows (f : Filter) (e : Event) : Bool := (f.ruleFor? e).any (·.shows e.level)

end Filter

end Typology.Log
