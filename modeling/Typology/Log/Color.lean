/-!
Colors and weights of text on a terminal, as escape sequences around it.
-/

namespace Typology.Log

/-- The colors of text. -/
inductive Color where
  | yellow
  | white
  | brightBlack
  | brightRed
  | brightGreen
  | brightYellow
  | brightBlue
  | brightMagenta
  | brightCyan
deriving DecidableEq, Repr

/-- The number that selects a color. -/
def Color.code : Color → String
  | .yellow => "33"
  | .white => "37"
  | .brightBlack => "90"
  | .brightRed => "91"
  | .brightGreen => "92"
  | .brightYellow => "93"
  | .brightBlue => "94"
  | .brightMagenta => "95"
  | .brightCyan => "96"

/-- The escape sequence of a code. -/
def escape (code : String) : String := "\x1b[" ++ code ++ "m"

/-- A text in a color. -/
def Color.paint (color : Color) (s : String) : String := escape color.code ++ s ++ escape "39"

/-- A bold text. -/
def bold (s : String) : String := escape "1" ++ s ++ escape "0"

/-- A text with blanks after it, up to a number of characters. -/
def padRight (width : Nat) (s : String) : String :=
  s ++ String.ofList (List.replicate (width - s.length) ' ')

/-- A text with blanks before it, up to a number of characters. -/
def padLeft (width : Nat) (s : String) : String :=
  String.ofList (List.replicate (width - s.length) ' ') ++ s

end Typology.Log
