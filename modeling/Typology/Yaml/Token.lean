import Typology.Yaml.Scalar
import Typology.Yaml.Tag
/-!
The tokens of YAML documents. Indentation shows in them as the beginnings and ends of block
collections. That a key has come is known only at the colon after it, so the token that announces
the key is then put in front of the key's own tokens.
-/

namespace Typology.Yaml

/-- A token. The name given to a value, and a reference to it, are the position of that name among
all names that are given. -/
inductive Token where
  | directive (directive : Directive)
  | documentStart
  | documentEnd
  | blockSequence
  | blockMapping
  | blockEnd
  | openBracket
  | closeBracket
  | openBrace
  | closeBrace
  | comma
  | dash
  | key
  | value
  | name (name : Nat)
  | reference (name : Nat)
  | tag (tag : Tag)
  | scalar (style : Style) (text : String)
deriving DecidableEq, Repr

/-- A place where a key may have started: the number of tokens before it, its spot, and whether
there must be a key, since nothing else can start in that column. -/
structure Candidate where
  before : Nat
  spot : Spot
  required : Bool

/-- Whether a key that started at a candidate can no longer end at a spot: it stands on one line
and has at most 1024 characters. -/
def Candidate.isPast (k : Candidate) (spot : Spot) : Bool :=
  k.spot.line < spot.line || k.spot.index + 1024 < spot.index

/-- What is known in the middle of a text. -/
structure Scan where
  /-- The text to come. -/
  rest : List Spot
  /-- The tokens so far. -/
  tokens : Array Token
  /-- The columns of the block collections around the place, the innermost first. -/
  blocks : List Nat
  /-- The candidate for the next colon in the innermost brackets. -/
  candidate : Option Candidate
  /-- The candidates in the brackets around those, the innermost first. -/
  outer : List (Option Candidate)
  /-- Whether a key may start here. -/
  keyAllowed : Bool
  /-- The names given so far, the last one first. -/
  names : List String

namespace Scan

/-- The beginning of a text. -/
def start (spots : List Spot) : Scan := ⟨spots, #[], [], none, [], true, []⟩

/-- Whether the place is between brackets, where indentation means nothing. -/
def inBrackets (s : Scan) : Bool := !s.outer.isEmpty

/-- The column of the innermost block collection. -/
def block? (s : Scan) : Option Nat := s.blocks.head?

/-- Adds a token, and goes on to the text after it. -/
def emit (s : Scan) (token : Token) (rest : List Spot) : Scan :=
  { s with tokens := s.tokens.push token, rest }

/-- Says whether a key may start here. -/
def allowKey (s : Scan) (keyAllowed : Bool) : Scan := { s with keyAllowed }

/-! ## Block collections -/

/-- Starts a block collection in a column, unless it is there already; its token is put after the
first `count` tokens. -/
def openBlock (s : Scan) (column : Nat) (token : Token) (count : Nat) : Scan :=
  if s.inBrackets || s.block?.any (column ≤ ·) then s
  else { s with
    blocks := column :: s.blocks
    tokens := s.tokens.insertIdxIfInBounds count token }

/-- Ends the block collections that `ends` picks by their columns. -/
def closeBlocks (s : Scan) (ends : Nat → Bool) : Scan :=
  if s.inBrackets then s
  else { s with
    blocks := s.blocks.dropWhile ends
    tokens := s.tokens ++ (s.blocks.takeWhile ends).map fun _ => Token.blockEnd }

/-! ## Candidates -/

/-- Gives up the candidate, unless a key is required there. -/
def dropCandidate? (s : Scan) : Option Scan :=
  if s.candidate.any (·.required) then none else some { s with candidate := none }

/-- Makes a spot the candidate, if a key may start there. -/
def addCandidate? (s : Scan) (spot : Spot) : Option Scan :=
  if !s.keyAllowed then some s
  else s.dropCandidate?.map fun s =>
    let required := !s.inBrackets && s.block? == some spot.column
    { s with candidate := some ⟨s.tokens.size, spot, required⟩ }

/-- Gives up a candidate that is past. -/
def current? (spot : Spot) : Option Candidate → Option (Option Candidate)
  | none => some none
  | some k => if !k.isPast spot then some (some k) else if k.required then none else some none

/-- Gives up all candidates that are past. -/
def dropPast? (s : Scan) (spot : Spot) : Option Scan := do
  return { s with
    candidate := ← current? spot s.candidate, outer := ← s.outer.mapM (current? spot) }

/-! ## Tokens -/

/-- Drops blanks, comments and line breaks. A key may start after a line break. Where one may start,
a tab is no blank, except between brackets. -/
def skipGap (flow : Bool) : (keyAllowed comment : Bool) → List Spot → Bool × List Spot
  | keyAllowed, _, [] => (keyAllowed, [])
  | keyAllowed, comment, s :: rest =>
    if isBreak s.char then skipGap flow (keyAllowed || !flow) false rest
    else if comment || s.char == ' ' || (s.char == '\t' && (flow || !keyAllowed)) ||
        (s.index == 0 && s.char == '\uFEFF') then
      skipGap flow keyAllowed comment rest
    else if s.char = '#' then skipGap flow keyAllowed true rest
    else (keyAllowed, s :: rest)

/-- Goes on to the next token. -/
def skip (s : Scan) : Scan :=
  let (keyAllowed, rest) := skipGap s.inBrackets s.keyAllowed false s.rest
  { s with keyAllowed, rest }

/-- Adds the mark of the beginning or the end of a document: all block collections end. -/
def mark? (s : Scan) (token : Token) (rest : List Spot) : Option Scan :=
  (s.closeBlocks fun _ => true).dropCandidate?.map fun s => (s.emit token rest).allowKey false

/-- Adds the beginning of a bracketed collection. -/
def openBrackets? (s : Scan) (token : Token) (spot : Spot) (rest : List Spot) : Option Scan :=
  (s.addCandidate? spot).map fun s =>
    { (s.emit token rest).allowKey true with candidate := none, outer := s.candidate :: s.outer }

/-- Adds the end of a bracketed collection. -/
def closeBrackets? (s : Scan) (token : Token) (rest : List Spot) : Option Scan :=
  s.dropCandidate?.map fun s =>
    { (s.emit token rest).allowKey false with
      candidate := s.outer.head?.getD none, outer := s.outer.tail }

/-- Adds the dash of an item, or the question mark of a key. Outside brackets it stands where a key
may start, and its column is that of a block collection. -/
def entry? (s : Scan) (token collection : Token) (keyAllowed : Bool) (spot : Spot)
    (rest : List Spot) : Option Scan :=
  if !s.inBrackets && !s.keyAllowed then none
  else
    let s := s.openBlock spot.column collection s.tokens.size
    s.dropCandidate?.map fun s => (s.emit token rest).allowKey keyAllowed

/-- Adds the colon of a value. If there is a candidate, the key started there; otherwise there is
no key, or one after a question mark. -/
def value? (s : Scan) (spot : Spot) (rest : List Spot) : Option Scan :=
  match s.candidate with
  | some k =>
    let s := { s with tokens := s.tokens.insertIdxIfInBounds k.before .key, candidate := none }
    let s := s.openBlock k.spot.column .blockMapping k.before
    some ((s.emit .value rest).allowKey false)
  | none =>
    if s.inBrackets then some ((s.emit .value rest).allowKey false)
    else if !s.keyAllowed then none
    else
      let s := s.openBlock spot.column .blockMapping s.tokens.size
      some ((s.emit .value rest).allowKey true)

/-- Whether a name ends where it has to. -/
def endsName (rest : List Spot) : Bool :=
  startsBlank rest || startsWith (fun c => "?:,]\x7d%@\x60".toList.contains c) rest

/-- Takes the name of a value. -/
def name? (spots : List Spot) : Option (String × List Spot) :=
  let (name, rest) := spots.span (isNameChar ·.char)
  if name.isEmpty ∨ ¬ endsName rest then none else some (String.ofList (charsOf name), rest)

/-- Gives a name to the value to come. -/
def nameToken? (s : Scan) (rest : List Spot) : Option Scan :=
  (name? rest).map fun (name, rest) =>
    { (s.emit (.name s.names.length) rest).allowKey false with names := name :: s.names }

/-- Adds a reference to the last value with a name. -/
def referenceToken? (s : Scan) (rest : List Spot) : Option Scan := do
  let (name, rest) ← name? rest
  let later ← s.names.findIdx? (· == name)
  return (s.emit (.reference (s.names.length - 1 - later)) rest).allowKey false

/-- Adds a tag. -/
def tagToken? (s : Scan) (rest : List Spot) : Option Scan := do
  let (tag, rest) ← tag? rest
  if endsTag s.inBrackets rest then return (s.emit (.tag tag) rest).allowKey false else none

/-- Adds a quoted scalar. -/
def quotedToken? (s : Scan) (piece? : Spot → List Spot → Option Piece) (rest : List Spot) :
    Option Scan :=
  (quoted? piece? (rest.length + 1) rest).map fun (cs, rest) =>
    (s.emit (.scalar .quoted (String.ofList cs)) rest).allowKey false

/-- Adds a scalar that is a block of lines, after which there is a new line. -/
def blockToken? (s : Scan) (folded : Bool) (rest : List Spot) : Option Scan := do
  let s ← s.dropCandidate?
  let (cs, rest) ← Yaml.block? folded s.block? rest
  let style := if folded then Style.folded else Style.literal
  return (s.emit (.scalar style (String.ofList cs)) rest).allowKey true

/-- Adds a plain scalar. Outside brackets its further lines are indented deeper than the block
collection around it. -/
def plainToken? (s : Scan) : Option Scan :=
  let least := s.block?.elim 0 (· + 1)
  (plain? s.inBrackets least (s.rest.length + 1) s.rest).map fun (cs, broken, rest) =>
    (s.emit (.scalar .plain (String.ofList cs)) rest).allowKey broken

/-- Whether a plain scalar may start with a character. -/
def startsPlain (flow : Bool) (c : Char) (rest : List Spot) : Bool :=
  if c = '-' then !startsWith isBlank rest
  else if c = '?' ∨ c = ':' then !flow && !startsBlank rest
  else !isSpace c && !isFlowIndicator c && !"#&*!|>'\"%@\x60".toList.contains c

/-- Adds the token that starts with a character. -/
def token? (s : Scan) (spot : Spot) (rest : List Spot) : Option Scan :=
  let flow := s.inBrackets
  let alone := startsBlank rest
  match spot.char with
  | '[' => s.openBrackets? .openBracket spot rest
  | '\x7b' => s.openBrackets? .openBrace spot rest
  | ']' => s.closeBrackets? .closeBracket rest
  | '\x7d' => s.closeBrackets? .closeBrace rest
  | ',' => s.dropCandidate?.map fun s => (s.emit .comma rest).allowKey true
  | '*' => do (← s.addCandidate? spot).referenceToken? rest
  | '&' => do (← s.addCandidate? spot).nameToken? rest
  | '!' => do (← s.addCandidate? spot).tagToken? rest
  | '\'' => do (← s.addCandidate? spot).quotedToken? singlePiece? rest
  | '"' => do (← s.addCandidate? spot).quotedToken? doublePiece? rest
  | c =>
    if c = '-' ∧ alone then s.entry? .dash .blockSequence true spot rest
    else if c = '?' ∧ (flow ∨ alone) then s.entry? .key .blockMapping (!flow) spot rest
    else if c = ':' ∧ (flow ∨ alone) then s.value? spot rest
    else if c = '|' ∧ !flow then s.blockToken? false rest
    else if c = '>' ∧ !flow then s.blockToken? true rest
    else if startsPlain flow c rest then do (← s.addCandidate? spot).plainToken?
    else none

/-- Adds a directive, which ends with its line. -/
def directiveToken? (s : Scan) (rest : List Spot) : Option Scan := do
  let s ← (s.closeBlocks fun _ => true).dropCandidate?
  let (directive, rest) ← directive? rest
  return (s.emit (.directive directive) rest).allowKey false

/-- Reads the next token, with the ends of the block collections that its column shows. -/
def step? (s : Scan) (spot : Spot) (rest : List Spot) : Option Scan := do
  let s := (← s.dropPast? spot).closeBlocks (spot.column < ·)
  if spot.column = 0 ∧ spot.char = '%' then s.directiveToken? rest
  else if isMark '-' s.rest then s.mark? .documentStart (rest.drop 2)
  else if isMark '.' s.rest then s.mark? .documentEnd (rest.drop 2)
  else s.token? spot rest

/-- Reads tokens up to the end of the text, `fuel` of them at most. -/
def run? : Nat → Scan → Option Scan
  | 0, _ => none
  | fuel + 1, s =>
    let s := s.skip
    match s.rest with
    | [] => (s.closeBlocks fun _ => true).dropCandidate?
    | spot :: rest => (s.step? spot rest).bind (run? fuel)

end Scan

/-- The tokens of a text, and the names that are given in it. -/
def tokens? (text : String) : Option (List Token × List String) :=
  let chars := text.toList
  if !chars.all isAllowed then none
  else (Scan.run? (chars.length + 1) (.start (spotsFrom 0 0 0 chars))).map fun s =>
    (s.tokens.toList, s.names.reverse)

end Typology.Yaml
