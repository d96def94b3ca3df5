import Typology.Log.Record
import Typology.Log.Color
/-!
Log lines on a terminal. The events of queries and datasets have lines of their own; of the others,
problems and what is worth knowing are shown with all their fields.
-/

namespace Typology.Log

/-- The time since the start, in seconds with three places. -/
def elapsedText (milliseconds : Nat) : String :=
  let places := toString (milliseconds % 1000)
  let padded := String.ofList (List.replicate (3 - places.length) '0') ++ places
  Color.brightBlack.paint (padLeft 7 (toString (milliseconds / 1000) ++ "." ++ padded) ++ "s")

namespace Record

/-- The text of a count under a name. -/
def countText (r : Record) (name : String) : String := grouped (r.countOf name)

/-- The fields, each after a bar. -/
def fieldsText (r : Record) : String :=
  String.join (r.fields.map fun (name, field) =>
    " │ " ++ Color.brightBlack.paint name ++ "=" ++ field.render)

/-- The line for the start of a query. -/
def queryStartLine (r : Record) : String :=
  bold (Color.brightGreen.paint "▶") ++ " Query │ " ++
    Color.brightYellow.paint (r.countText "steps") ++ " steps │ " ++
    Color.brightYellow.paint (r.countText "languages") ++ " languages"

/-- The line for the end of a query. -/
def queryEndLine (r : Record) : String :=
  bold (Color.brightCyan.paint "■") ++ " Query complete │ " ++
    bold (Color.brightMagenta.paint (r.countText "languages")) ++ " languages │ " ++
    Color.white.paint (r.countText "contexts") ++ " contexts" ++
    if r.countOf "no_data" = 0 then ""
    else " │ " ++ Color.yellow.paint (r.countText "no_data") ++ " without data"

/-- The line for a step of a query. -/
def queryStepLine (r : Record) : String :=
  Color.brightBlack.paint "·" ++ " Step " ++
    Color.brightBlack.paint (padLeft 3 (r.countText "step")) ++ " │ " ++
    bold (Color.white.paint (padRight 20 ((r.textOf? "step_name").getD "?"))) ++ " │ " ++
    Color.brightBlack.paint (padRight 14 ((r.textOf? "kind").getD "")) ++ " │ " ++
    r.countText "languages" ++ " languages"

/-- The line for a dataset that was loaded. -/
def datasetLine (r : Record) : String :=
  Color.brightGreen.paint "✓" ++ " Dataset " ++
    bold (Color.white.paint ((r.textOf? "dataset").getD "?")) ++ " │ " ++
    Color.brightYellow.paint (r.countText "languages") ++ " languages"

/-- The line for a problem. -/
def problemLine (r : Record) (icon : String) : String :=
  icon ++ " " ++ Color.yellow.paint r.headline ++ r.fieldsText

/-- The line for what is worth knowing. -/
def generalLine (r : Record) : String :=
  Color.brightBlue.paint "›" ++ " " ++ Color.white.paint r.headline ++ r.fieldsText

/-- The line for a record, without the time. -/
def line? (r : Record) (level : Level) : Option String :=
  match r.event.getD "", level with
  | "query_start", _ => some r.queryStartLine
  | "query_end", _ => some r.queryEndLine
  | "query_step", .debug => some r.queryStepLine
  | "query_step", _ => none
  | "dataset_loaded", _ => some r.datasetLine
  | _, .error => some (r.problemLine (bold (Color.brightRed.paint "✗")))
  | _, .warn => some (r.problemLine (bold (Color.yellow.paint "!")))
  | _, .info => some r.generalLine
  | _, _ => none

end Record

/-- What the targets of the program's own events start with. -/
def ownTarget : String := "lingdb"

/-- Whether an event comes from the program itself. -/
def Event.isOwn (e : Event) : Bool := ownTarget.toList.isPrefixOf e.target.toList

/-- The line for an event of the program, some time after the start. -/
def Event.line? (e : Event) (milliseconds : Nat) : Option String :=
  if e.isOwn then (e.record.line? e.level).map fun line => elapsedText milliseconds ++ " " ++ line
  else none

end Typology.Log
