import Typology.Text.Letter
/-!
Patterns that the values of fields can be compared with. A pattern has groups, sets of characters,
repetitions and escapes. No count of repetitions can be written, since a field ends at the first
closing brace.
-/

namespace Typology.Log.Pattern

/-! ## Escapes -/

/-- What an escape stands for: a character, a set of characters, or an end of the text. -/
inductive Escape where
  | char (c : Char)
  | set
  | place
deriving DecidableEq, Repr

/-- The character of a given number of hexadecimal digits. -/
def numbered? (count : Nat) (chars : List Char) : Option (Char × List Char) :=
  if chars.length < count then none
  else do
    let n ← (chars.take count).foldlM (fun n c => (hexValue? c).map (16 * n + ·)) 0
    if h : n.isValidChar then return (Char.ofNatAux n h, chars.drop count) else none
where
  hexValue? (c : Char) : Option Nat :=
    if c.isDigit then some (c.toNat - 48)
    else if 'a' ≤ c ∧ c ≤ 'f' then some (c.toNat - 87)
    else if 'A' ≤ c ∧ c ≤ 'F' then some (c.toNat - 55)
    else none

/-- The control character that a letter stands for. -/
def control? : Char → Option Char
  | 'a' => some '\x07'
  | 'f' => some '\x0c'
  | 't' => some '\t'
  | 'n' => some '\n'
  | 'r' => some '\r'
  | 'v' => some '\x0b'
  | _ => none

/-- Reads what follows a backslash. The bounds of words cannot be asked for. -/
def escape? : List Char → Option (Escape × List Char)
  | [] => none
  | 'x' :: rest => (numbered? 2 rest).map fun (c, rest) => (.char c, rest)
  | 'u' :: rest => (numbered? 4 rest).map fun (c, rest) => (.char c, rest)
  | 'U' :: rest => (numbered? 8 rest).map fun (c, rest) => (.char c, rest)
  | 'p' :: c :: rest | 'P' :: c :: rest =>
    if "LMNPSZC".toList.contains c.toUpper then some (.set, rest) else none
  | 'A' :: rest | 'z' :: rest => some (.place, rest)
  | c :: rest =>
    if "dswDSW".toList.contains c then some (.set, rest)
    else match control? c with
      | some found => some (.char found, rest)
      | none =>
        if c.isAlphanum ∨ c = '<' ∨ c = '>' ∨ 0x80 ≤ c.toNat then none else some (.char c, rest)

/-! ## Sets of characters -/

/-- The names of sets that can stand between colons. -/
def setNames : List String :=
  ["alnum", "alpha", "ascii", "blank", "cntrl", "digit", "graph", "lower", "print", "punct",
    "space", "upper", "word", "xdigit"]

/-- Takes a set given by its name, after its bracket. -/
def namedSet? : List Char → Option (List Char)
  | ':' :: rest =>
    let rest := if rest.head? = some '^' then rest.drop 1 else rest
    match rest.dropWhile (· ≠ ':') with
    | ':' :: ']' :: after =>
      if String.ofList (rest.takeWhile (· ≠ ':')) ∈ setNames then some after else none
    | _ => none
  | _ => none

/-- Takes what stands at the beginning of a set, after its bracket: a sign that negates it, and
dashes, or else a closing bracket, that belong to it. -/
def openSet (chars : List Char) : List Char :=
  let rest := if chars.head? = some '^' then chars.drop 1 else chars
  match rest with
  | ']' :: rest => rest
  | rest => rest.dropWhile (· == '-')

/-- Reads one member of a set; a member that is a set itself is no character. -/
def member? : List Char → Option (Option Char × List Char)
  | [] => none
  | '\\' :: rest => do
    match ← escape? rest with
    | (.char c, rest) => return (some c, rest)
    | (.set, rest) => return (none, rest)
    | (.place, _) => none
  | c :: rest => some (some c, rest)

/-- Takes the rest of a set that is `depth` sets deep, `fuel` members at most. Ranges go from a
character to a later one. -/
def setEnd? : Nat → (depth : Nat) → List Char → Option (List Char)
  | 0, _, _ => none
  | _, _, [] => none
  | fuel + 1, depth, ']' :: rest => if depth ≤ 1 then some rest else setEnd? fuel (depth - 1) rest
  | fuel + 1, depth, '[' :: rest =>
    match namedSet? rest with
    | some rest => setEnd? fuel depth rest
    | none => setEnd? fuel (depth + 1) (openSet rest)
  | fuel + 1, depth, '&' :: '&' :: rest | fuel + 1, depth, '-' :: '-' :: rest
  | fuel + 1, depth, '~' :: '~' :: rest => setEnd? fuel depth rest
  | fuel + 1, depth, chars => do
    let (first, rest) ← member? chars
    match rest with
    | '-' :: c :: after =>
      if c = ']' ∨ c = '-' then setEnd? fuel depth rest
      else
        match first, ← member? (c :: after) with
        | some low, (some high, rest) => if low ≤ high then setEnd? fuel depth rest else none
        | _, _ => none
    | ['-'] => none
    | rest => setEnd? fuel depth rest

/-! ## Groups -/

/-- Whether a text can name a group. -/
def isGroupName (name : List Char) : Bool :=
  name.head?.any (fun c => c == '_' || Text.isAlphabetic c) &&
    name.all fun c => c == '_' || c == '.' || c == '[' || c == ']' || Text.isAlphanumeric c

/-- Whether a text is a list of settings: some are put on, those after a dash are put off. -/
def areSettings (text : List Char) : Bool :=
  text.all "imsUuRx-".toList.contains && decide text.Nodup && text.getLast? != some '-'

/-- Takes the beginning of a group, after its bracket. Also tells whether it is a group at all, or
only a change of settings, and which groups have names. Groups that look ahead or back cannot be
asked for. -/
def opening? (names : List String) : List Char → Option (Bool × List String × List Char)
  | '?' :: '<' :: '=' :: _ | '?' :: '<' :: '!' :: _ => none
  | '?' :: 'P' :: '<' :: rest | '?' :: '<' :: rest =>
    let name := rest.takeWhile (· ≠ '>')
    match rest.dropWhile (· ≠ '>') with
    | [] => none
    | _ :: after =>
      if isGroupName name ∧ String.ofList name ∉ names then
        some (true, String.ofList name :: names, after)
      else none
  | '?' :: rest =>
    let settings := rest.takeWhile fun c => c != ':' && c != ')'
    if !areSettings settings then none
    else match rest.dropWhile fun c => c != ':' && c != ')' with
      | ':' :: after => some (true, names, after)
      | ')' :: after => if settings.isEmpty then none else some (false, names, after)
      | _ => none
  | rest => some (true, names, rest)

/-! ## Patterns -/

/-- Whether a text goes on as the rest of a pattern, in so many open groups. What can be repeated
has to stand before a sign of repetition, as `ready` says. -/
def continues : Nat → (groups : Nat) → (names : List String) → (ready : Bool) → List Char → Bool
  | 0, _, _, _, _ => false
  | _ + 1, groups, _, _, [] => groups == 0
  | fuel + 1, groups, names, ready, c :: rest =>
    match c with
    | '(' =>
      match opening? names rest with
      | some (true, names, rest) => continues fuel (groups + 1) names false rest
      | some (false, names, rest) => continues fuel groups names false rest
      | none => false
    | ')' => groups != 0 && continues fuel (groups - 1) names true rest
    | '|' => continues fuel groups names false rest
    | '*' | '+' | '?' => ready && continues fuel groups names true rest
    | '\x7b' => false
    | '[' =>
      match setEnd? (rest.length + 1) 1 (openSet rest) with
      | some rest => continues fuel groups names true rest
      | none => false
    | '\\' =>
      match escape? rest with
      | some (_, rest) => continues fuel groups names true rest
      | none => false
    | _ => continues fuel groups names true rest

/-- Whether a text is a pattern. -/
def isPattern (text : List Char) : Bool := continues (text.length + 1) 0 [] false text

end Typology.Log.Pattern
