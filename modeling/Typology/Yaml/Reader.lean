import Typology.Yaml.Token
import Typology.Dictionary
/-!
Reading YAML documents from their tokens. What is left out, such as the value of a key at the end
of a collection, is an empty plain scalar.
-/

namespace Typology.Yaml

/-- Takes something from the beginning of a list of tokens. -/
abbrev Reading (α : Type) := List Token → Option (α × List Token)

/-! ## Tags and names -/

/-- The texts that handles stand for. -/
abbrev Handles := List (String × String)

/-- The handles that every document has, unless it says otherwise. -/
def standardHandles : Handles := [("!", "!"), ("!!", "tag:yaml.org,2002:")]

/-- The text of a tag. A tag without a handle is its suffix. -/
def Tag.text? (handles : Handles) (tag : Tag) : Option String :=
  if tag.handle = "" then some tag.suffix
  else (Dictionary.lookup tag.handle handles).map (· ++ tag.suffix)

/-- What stands before a value: its name, and the text of its tag. -/
structure Properties where
  name : Option Nat
  tag : Option String

/-- Takes what stands before a value, at most one of each kind. -/
def properties? (handles : Handles) : Reading Properties
  | .name n :: .tag t :: rest | .tag t :: .name n :: rest =>
    (t.text? handles).map fun text => (⟨some n, some text⟩, rest)
  | .name n :: rest => some (⟨some n, none⟩, rest)
  | .tag t :: rest => (t.text? handles).map fun text => (⟨none, some text⟩, rest)
  | rest => some (⟨none, none⟩, rest)

namespace Properties

/-- The value with the name that stands before it. -/
def attach (p : Properties) (value : Yaml) : Yaml :=
  match p.name with
  | some name => .named name value
  | none => value

/-- The scalar with the tag that stands before it. The tag that is only a mark says nothing. -/
def scalar (p : Properties) (style : Style) (text : String) : Yaml :=
  p.attach (.scalar (p.tag.filter (· != "!")) style text)

/-- The value where only a name or a tag is written. -/
def absent? (p : Properties) : Option Yaml :=
  if p.name.isNone ∧ p.tag.isNone then none else some (p.attach (.scalar p.tag .plain ""))

end Properties

/-! ## Values -/

/-- Reads a value, unless it is left out before one of some tokens. -/
def orNothing (ends : List Token) (node? : Reading Yaml) : Reading Yaml := fun tokens =>
  if tokens.head?.any ends.contains then some (nothing, tokens) else node? tokens

/-- Reads the value of a key, if there is a colon: nothing may stand before one of some tokens. -/
def valueOf? (ends : List Token) (node? : Reading Yaml) : Reading Yaml
  | .value :: rest => orNothing ends node? rest
  | tokens => some (nothing, tokens)

/-- Reads a key after a question mark between square brackets. A key that is left out takes the
token after it along. -/
def pairKey? (node? : Reading Yaml) : Reading Yaml
  | .value :: rest | .comma :: rest | .closeBracket :: rest => some (nothing, rest)
  | tokens => node? tokens

/-- Takes the comma between two items, which the first one does not need. -/
def separator? (first : Bool) : List Token → Option (List Token)
  | .comma :: rest => if first then some (.comma :: rest) else some rest
  | tokens => if first then some tokens else none

/-- The tokens before which a key or a value of a block mapping is left out. -/
def entryEnds : List Token := [.key, .value, .blockEnd]

mutual

/-- Reads a value, `fuel` steps deep at most. A block collection is read only where `block` says
so, and a list whose dashes stand in the column of the key before it only where `level` does. -/
def node? (handles : Handles) : Nat → (block level : Bool) → Reading Yaml
  | 0, _, _, _ => none
  | _ + 1, _, _, .reference name :: rest => some (.reference name, rest)
  | fuel + 1, block, level, tokens => do
    let (p, tokens) ← properties? handles tokens
    match tokens, block, level with
    | .scalar style text :: rest, _, _ => return (p.scalar style text, rest)
    | .openBracket :: rest, _, _ =>
      let (items, rest) ← flowItems? handles fuel true rest
      return (p.attach (.sequence items), rest)
    | .openBrace :: rest, _, _ =>
      let (entries, rest) ← flowEntries? handles fuel true rest
      return (p.attach (.mapping entries), rest)
    | .blockSequence :: rest, true, _ =>
      let (items, rest) ← blockItems? handles fuel rest
      return (p.attach (.sequence items), rest)
    | .blockMapping :: rest, true, _ =>
      let (entries, rest) ← blockEntries? handles fuel rest
      return (p.attach (.mapping entries), rest)
    | .dash :: rest, _, true =>
      let (items, rest) ← levelItems? handles fuel (.dash :: rest)
      return (p.attach (.sequence items), rest)
    | tokens, _, _ => return (← p.absent?, tokens)

/-- Reads the items of a list of lines. -/
def blockItems? (handles : Handles) : Nat → Reading (List Yaml)
  | fuel + 1, .dash :: rest => do
    let (first, rest) ← orNothing [.dash, .blockEnd] (node? handles fuel true false) rest
    let (others, rest) ← blockItems? handles fuel rest
    return (first :: others, rest)
  | _ + 1, .blockEnd :: rest => some ([], rest)
  | _, _ => none

/-- Reads the items of a list of lines in the column of the key before it, which ends with its last
item. -/
def levelItems? (handles : Handles) : Nat → Reading (List Yaml)
  | fuel + 1, .dash :: rest => do
    let (first, rest) ← orNothing (.dash :: entryEnds) (node? handles fuel true false) rest
    let (others, rest) ← levelItems? handles fuel rest
    return (first :: others, rest)
  | _ + 1, tokens => some ([], tokens)
  | 0, _ => none

/-- Reads the entries of a mapping of lines. -/
def blockEntries? (handles : Handles) : Nat → Reading (List (Yaml × Yaml))
  | fuel + 1, .key :: rest => do
    let (key, rest) ← orNothing entryEnds (node? handles fuel true true) rest
    let (value, rest) ← valueOf? entryEnds (node? handles fuel true true) rest
    let (others, rest) ← blockEntries? handles fuel rest
    return ((key, value) :: others, rest)
  | _ + 1, .blockEnd :: rest => some ([], rest)
  | _, _ => none

/-- Reads the items of a sequence between brackets. A key with its value makes a mapping of one
entry. -/
def flowItems? (handles : Handles) : Nat → (first : Bool) → Reading (List Yaml)
  | 0, _, _ => none
  | _ + 1, _, .closeBracket :: rest => some ([], rest)
  | fuel + 1, first, tokens => do
    match ← separator? first tokens with
    | .closeBracket :: rest => return ([], rest)
    | .key :: rest =>
      let (key, rest) ← pairKey? (node? handles fuel false false) rest
      let (value, rest) ← valueOf? [.comma, .closeBracket] (node? handles fuel false false) rest
      let (others, rest) ← flowItems? handles fuel false rest
      return (.mapping [(key, value)] :: others, rest)
    | tokens =>
      let (item, rest) ← node? handles fuel false false tokens
      let (others, rest) ← flowItems? handles fuel false rest
      return (item :: others, rest)

/-- Reads the entries of a mapping between braces. An item that is no key is a key without value. -/
def flowEntries? (handles : Handles) : Nat → (first : Bool) → Reading (List (Yaml × Yaml))
  | 0, _, _ => none
  | _ + 1, _, .closeBrace :: rest => some ([], rest)
  | fuel + 1, first, tokens => do
    match ← separator? first tokens with
    | .closeBrace :: rest => return ([], rest)
    | .key :: rest =>
      let (key, rest) ←
        orNothing [.value, .comma, .closeBrace] (node? handles fuel false false) rest
      let (value, rest) ← valueOf? [.comma, .closeBrace] (node? handles fuel false false) rest
      let (others, rest) ← flowEntries? handles fuel false rest
      return ((key, value) :: others, rest)
    | tokens =>
      let (key, rest) ← node? handles fuel false false tokens
      let (others, rest) ← flowEntries? handles fuel false rest
      return ((key, nothing) :: others, rest)

end

/-! ## Documents -/

/-- Takes the directives of a document: at most one version, which must be known, and at most one
text for each handle. -/
def directives? (versioned : Bool) (handles : Handles) : Reading Handles
  | .directive (.version major minor) :: rest =>
    if versioned ∨ ¬ (major = 1 ∧ (minor = 1 ∨ minor = 2)) then none
    else directives? true handles rest
  | .directive (.handle handle text) :: rest =>
    if (Dictionary.lookup handle handles).isSome then none
    else directives? versioned ((handle, text) :: handles) rest
  | tokens => some (handles, tokens)

/-- Reads a value that stands alone in a document. -/
def rootNode? (handles : Handles) (tokens : List Token) : Option (Yaml × List Token) :=
  node? handles (2 * tokens.length + 2) true false tokens

/-- Whether a document has no value: nothing follows, or its end, or another document. -/
def isBare : List Token → Bool
  | [] | .directive _ :: _ | .documentStart :: _ | .documentEnd :: _ => true
  | _ => false

/-- Reads the value of a document. Directives stand before the mark of its beginning; without them
the mark can be left out. -/
def root? (tokens : List Token) : Option (Yaml × List Token) := do
  match tokens with
  | [] => some (nothing, [])
  | .directive _ :: _ | .documentStart :: _ =>
    let (handles, rest) ← directives? false [] tokens
    match rest with
    | .documentStart :: rest =>
      if isBare rest then some (nothing, rest) else rootNode? (handles ++ standardHandles) rest
    | _ => none
  | tokens => rootNode? standardHandles tokens

/-- Reads a text with one document. -/
def read? (text : String) : Option Document := do
  let (tokens, names) ← tokens? text
  let (root, rest) ← root? tokens
  if rest.all (· == .documentEnd) then return ⟨root, names⟩ else none

end Typology.Yaml
