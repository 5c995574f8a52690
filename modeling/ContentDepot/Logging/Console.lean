import ContentDepot.Failure
import ContentDepot.Text.Line

/-!
# Events on a console

A person reads an event as one text: its level, its name, its logger and then
its other fields as keys with values. Two fields are texts of several lines and
come below: the stack and the exception.

* `Console.render`: an event as a text.
* `Console.lineCount`: how many lines it takes.
-/

namespace ContentDepot.Console

/-- The keys that have a place of their own. -/
def placedKeys : List String := ["level", "event", "logger", "logger_name", "stack", "exception"]

/-- The characters on account of which a text is shown between quotation marks. -/
def quotedFor : List Char := [' ', '\t', '=', '\r', '\n', '"', '\'']

/-- The value of a field. -/
def value : Json → String
  | .str s => if s.toList.any quotedFor.contains then Text.Quoted.quote s else s
  | v => v.shown

/-- A field in a place of its own, or nothing if the event does not have it. -/
def placed (event : Entries Json) (key opening closing : String) : String :=
  match Entries.get? event key with
  | none => ""
  | some v => opening ++ v.text ++ closing

/-- A field of several lines, which has to be a text. -/
def block (event : Entries Json) (key : String) : Except Fault (Option String) :=
  match Entries.get? event key with
  | none | some .null => .ok none
  | some (.str s) => .ok (some s)
  | some _ => .error .wrongType

/-- The line of an event above its blocks. -/
def headline (event : Entries Json) : String :=
  let others := (event.filter fun e => !placedKeys.contains e.1).map fun e =>
    e.1 ++ "=" ++ value e.2
  String.intercalate " " ([placed event "level" "[" "]", placed event "event" "" " ",
    placed event "logger" "[" "]", placed event "logger_name" "[" "]"] ++ others)

/-- What stands between a stack and an exception. -/
def separator : String := "\n\n" ++ String.ofList (List.replicate 79 '=') ++ "\n"

/-- An event as a text. -/
def render (event : Entries Json) : Except Fault String := do
  let stack ← block event "stack"
  let exception ← block event "exception"
  let below := match stack, exception with
    | some s, some e => "\n" ++ s ++ separator ++ "\n" ++ e
    | some s, none => "\n" ++ s
    | none, some e => "\n" ++ e
    | none, none => ""
  return headline event ++ below

/-- How many lines a text takes. -/
def lineCount (s : String) : Nat := Text.breakCount (s.toList ++ ['\n'])

end ContentDepot.Console
