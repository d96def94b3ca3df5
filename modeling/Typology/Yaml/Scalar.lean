import Typology.Yaml.Text
/-!
The scalars of YAML documents: plain ones, quoted ones, and blocks of lines. What stands between
two words or two lines of a scalar is folded.
-/

namespace Typology.Yaml

/-- What a run of blanks and line breaks inside a scalar stands for: one line feed for a space, and
more line breaks for all but a line feed at their beginning. Blanks beside line breaks are
dropped. -/
def fold (run : List Char) : List Char :=
  match run.filter isBreak with
  | [] => run
  | '\n' :: [] => [' ']
  | '\n' :: others => others
  | breaks => breaks

/-! ## Plain scalars -/

/-- Takes characters up to a blank or an indicator. Between brackets a colon must not stand before
an indicator. -/
def word? (flow : Bool) : List Spot → Option (List Char × List Spot)
  | [] => some ([], [])
  | s :: rest =>
    if isSpace s.char ∨ (flow ∧ isFlowIndicator s.char) ∨ (s.char = ':' ∧ startsBlank rest) then
      some ([], s :: rest)
    else if flow ∧ s.char = ':' ∧ startsWith (fun c => isFlowIndicator c || c == '?') rest then none
    else (word? flow rest).map fun (cs, rest) => (s.char :: cs, rest)

/-- Whether a run of blanks and line breaks has a tab in the indentation of a line. -/
def hasEarlyTab (least : Nat) (run : List Spot) : Bool :=
  (run.dropWhile (!isBreak ·.char)).any fun s => s.char == '\t' && decide (s.column < least)

/-- Whether a plain scalar ends before a word: at a mark, a comment, or outside brackets on a line
that is not indented as far as the column `least`. -/
def endsPlain (flow : Bool) (least : Nat) (spots : List Spot) : Bool :=
  isMarked spots || startsWith (· == '#') spots ||
    (!flow && spots.head?.all fun s => decide (s.column < least))

/-- Reads a plain scalar, `fuel` words at most. Also tells whether a line break follows it, since
what comes then stands on a line of its own. -/
def plain? (flow : Bool) (least : Nat) : Nat → List Spot → Option (List Char × Bool × List Spot)
  | 0, _ => none
  | fuel + 1, spots => do
    let (word, after) ← word? flow spots
    let (run, next) := splitSpace after
    let crossed := run.any (isBreak ·.char)
    if hasEarlyTab least run then none
    else if run.isEmpty || endsPlain flow least next then return (word, crossed, next)
    else do
      let (more, broken, rest) ← plain? flow least fuel next
      if more.isEmpty then return (word, crossed, next)
      else return (word ++ fold (charsOf run) ++ more, broken, rest)

/-! ## Quoted scalars -/

/-- What a quoted scalar has next: some text, or its closing quote. -/
inductive Piece where
  | text (chars : List Char) (rest : List Spot)
  | close (rest : List Spot)

/-- Reads a scalar up to its closing quote, `fuel` pieces at most. No line in it may start like a
mark. -/
def quoted? (piece? : Spot → List Spot → Option Piece) :
    Nat → List Spot → Option (List Char × List Spot)
  | 0, _ => none
  | _, [] => none
  | fuel + 1, s :: rest => do
    if isMarked (s :: rest) then none
    else if isSpace s.char then
      let (run, next) := splitSpace (s :: rest)
      let (cs, rest) ← quoted? piece? fuel next
      return (fold (charsOf run) ++ cs, rest)
    else
      match ← piece? s rest with
      | .text cs next =>
        let (more, rest) ← quoted? piece? fuel next
        return (cs ++ more, rest)
      | .close rest => return ([], rest)

/-- Between single quotes, a quote is written twice. -/
def singlePiece? (s : Spot) (rest : List Spot) : Option Piece :=
  if s.char ≠ '\'' then some (.text [s.char] rest)
  else match rest with
    | t :: next => some (if t.char = '\'' then .text ['\''] next else .close rest)
    | [] => some (.close [])

/-- The character of a given number of hexadecimal digits. -/
def numbered? (count : Nat) (spots : List Spot) : Option (Char × List Spot) :=
  if spots.length < count then none
  else do
    let n ← (charsOf (spots.take count)).foldlM (fun n c => (hexValue? c).map (16 * n + ·)) 0
    if h : n.isValidChar then return (Char.ofNatAux n h, spots.drop count) else none
where
  hexValue? (c : Char) : Option Nat :=
    let v := c.toNat
    if 48 ≤ v ∧ v ≤ 57 then some (v - 48)
    else if 65 ≤ v ∧ v ≤ 70 then some (v - 55)
    else if 97 ≤ v ∧ v ≤ 102 then some (v - 87)
    else none

/-- The character that a backslash and one letter stand for. -/
def escaped? : Char → Option Char
  | '0' => some '\x00'
  | 'a' => some '\x07'
  | 'b' => some '\x08'
  | 't' | '\t' => some '\t'
  | 'n' => some '\n'
  | 'v' => some '\x0b'
  | 'f' => some '\x0c'
  | 'r' => some '\r'
  | 'e' => some '\x1b'
  | ' ' => some ' '
  | '"' => some '"'
  | '/' => some '/'
  | '\\' => some '\\'
  | 'N' => some '\u0085'
  | '_' => some '\u00a0'
  | 'L' => some '\u2028'
  | 'P' => some '\u2029'
  | _ => none

/-- Reads what follows a backslash. At the end of a line it takes that line break away, and leaves
the others as they are. -/
def escape? (s : Spot) (rest : List Spot) : Option (List Char × List Spot) :=
  if isBreak s.char then
    let (run, next) := splitSpace rest
    some ((charsOf run).filter isBreak, next)
  else
    match s.char with
    | 'x' => (numbered? 2 rest).map fun (c, rest) => ([c], rest)
    | 'u' => (numbered? 4 rest).map fun (c, rest) => ([c], rest)
    | 'U' => (numbered? 8 rest).map fun (c, rest) => ([c], rest)
    | c => (escaped? c).map fun c => ([c], rest)

/-- Between double quotes, a backslash starts an escape. -/
def doublePiece? (s : Spot) (rest : List Spot) : Option Piece :=
  if s.char = '"' then some (.close rest)
  else if s.char ≠ '\\' then some (.text [s.char] rest)
  else match rest with
    | t :: next => (escape? t next).map fun (cs, rest) => .text cs rest
    | [] => none

/-! ## Blocks of lines -/

/-- What happens to the line breaks at the end of a block of lines. -/
inductive Chomping where
  | strip
  | clip
  | keep
deriving DecidableEq, Repr

/-- The head of a block of lines: whether its lines are joined, its last line breaks, and the depth
of its indentation if it is given. -/
structure BlockHead where
  folded : Bool
  chomping : Chomping
  depth : Option Nat

/-- Takes the sign that says what happens to the last line breaks. -/
def chomping? : List Spot → Option (Chomping × List Spot)
  | s :: rest =>
    if s.char = '+' then some (.keep, rest) else if s.char = '-' then some (.strip, rest) else none
  | [] => none

/-- Takes the digit that gives a depth, which is not zero. -/
def depth? : List Spot → Option (Option Nat × List Spot)
  | s :: rest =>
    if s.char = '0' then none
    else if s.char.isDigit then some (some (s.char.toNat - 48), rest)
    else some (none, s :: rest)
  | [] => some (none, [])

/-- Reads the signs after the first one of a block of lines: at most one of each kind. -/
def blockHead? (folded : Bool) (spots : List Spot) : Option (BlockHead × List Spot) :=
  match chomping? spots with
  | some (chomping, rest) =>
    (depth? rest).map fun (depth, rest) => (⟨folded, chomping, depth⟩, rest)
  | none => do
    let (depth, rest) ← depth? spots
    match if depth.isSome then chomping? rest else none with
    | some (chomping, rest) => return (⟨folded, chomping, depth⟩, rest)
    | none => return (⟨folded, .clip, depth⟩, rest)

/-- Takes empty lines and the indentation of the next line, which must have no tab. Where the depth
is not given, indentation goes as far as there are spaces. Also tells the deepest column that the
indentation of a line has come to. -/
def indentation? (depth : Option Nat) : List Spot → Option (List Char × Nat × List Spot)
  | [] => some ([], 0, [])
  | s :: rest =>
    let inside := depth.all (s.column < ·)
    if inside ∧ s.char = ' ' then indentation? depth rest
    else if inside ∧ s.char = '\t' then none
    else if isBreak s.char then
      (indentation? depth rest).map fun (breaks, deepest, rest) =>
        (s.char :: breaks, max s.column deepest, rest)
    else some ([], s.column, s :: rest)

/-- A line of a block that is not empty, the break after it, and those of the empty lines that
follow. -/
structure BlockLine where
  text : List Char
  ending : List Char
  breaks : List Char

/-- Reads the lines of a block whose text starts in the column `depth`, `fuel` of them at most. -/
def blockLines? (depth : Nat) : Nat → List Spot → Option (List BlockLine × List Spot)
  | 0, _ => none
  | fuel + 1, spots =>
    if spots.head?.any (·.column == depth) then do
      let (line, after) := spots.span (!isBreak ·.char)
      let (breaks, _, next) ← indentation? (some depth) (after.drop 1)
      let (others, rest) ← blockLines? depth fuel next
      return (⟨charsOf line, charsOf (after.take 1), breaks⟩ :: others, rest)
    else some ([], spots)

/-- What stands between two lines of a block. Where lines are joined, a line feed between two lines
that start with no blank is a space, unless there are empty lines. -/
def BlockLine.gap (folded : Bool) (line next : BlockLine) : List Char :=
  let blankLed := fun (l : BlockLine) => l.text.head?.any isBlank
  if folded ∧ line.ending = ['\n'] ∧ ¬ blankLed line ∧ ¬ blankLed next then
    if line.breaks = [] then [' '] else line.breaks
  else line.ending ++ line.breaks

/-- The text of the lines of a block. -/
def joinLines (head : BlockHead) : List BlockLine → List Char
  | [] => []
  | [line] =>
    line.text ++ match head.chomping with
      | .strip => []
      | .clip => line.ending
      | .keep => line.ending ++ line.breaks
  | line :: next :: rest =>
    line.text ++ line.gap head.folded next ++ joinLines head (next :: rest)

/-- Reads a block of lines after its first sign, in a collection whose lines start in the column
`outer` if it is in one. A depth counts from there; where none is given, the first line that is not
empty has it, or a deeper empty one before it. -/
def block? (folded : Bool) (outer : Option Nat) (spots : List Spot) :
    Option (List Char × List Spot) := do
  let (head, rest) ← blockHead? folded spots
  let given := head.depth.map (outer.getD 0 + ·)
  let (breaks, deepest, rest) ← indentation? given (← lineEnd? rest)
  let depth := given.getD (max deepest (max (outer.elim 0 (· + 1)) 1))
  let (lines, rest) ← blockLines? depth (rest.length + 1) rest
  let led := if lines.isEmpty ∧ head.chomping ≠ .keep then [] else breaks
  return (led ++ joinLines head lines, rest)

end Typology.Yaml
