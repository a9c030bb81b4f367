import ChainProvision.Operator.Report

/-!
# Notices on the console

What a command tells its user, and how it is printed: for people, tersely, or as lines of JSON for scripts.

## Main definitions

* `Notice`: what is told;
* `Notice.line?`: the line that a notice makes in a mode, if it makes one.
-/

namespace ChainProvision.Console

/-- How notices are printed. -/
inductive Mode where
  /-- For people. -/
  | normal
  /-- Only what a command ends with. -/
  | quiet
  /-- Lines of JSON. -/
  | json
  deriving DecidableEq, Repr

/-- Where a line is printed. -/
inductive Channel where
  | output
  | error
  deriving DecidableEq, Repr

/-- A printed line; its text may hold line feeds of its own. -/
structure Line where
  channel : Channel
  text : String
  deriving DecidableEq, Repr

/-- What a command tells its user.  The end of something timed comes with the time that it took. -/
inductive Notice where
  | progress (message : String)
  | provision (report : Report)
  | warning (message : String)
  | success (message : String) (elapsed : Option Span := none)
  | error (message : String) (elapsed : Option Span := none)
  deriving DecidableEq

/-! ## Layout -/

/-- A text with blanks on its right up to a width. -/
def padRight (width : Nat) (s : String) : String :=
  s ++ String.ofList (List.replicate (width - s.length) ' ')

/-- A text with blanks on its left up to a width. -/
def padLeft (width : Nat) (s : String) : String :=
  String.ofList (List.replicate (width - s.length) ' ') ++ s

/-- A span in seconds with one decimal place, a half rounded up. -/
def secondsText (s : Span) : String :=
  let tenths := (s.nanos + 50000000) / 100000000
  Text.numeral (tenths / 10) ++ "." ++ Text.numeral (tenths % 10) ++ "s"

/-- The line of a report for people. -/
def reportLine (r : Report) : String :=
  "  → " ++ padRight 16 r.phase.text ++ " " ++ padLeft 3 (Text.numeral r.progress) ++ "%  " ++
    r.message.getD ""

/-- A report for scripts. -/
def reportJson (r : Report) : Json :=
  let given (key : String) (value : Option String) : List (String × Json) :=
    (value.map fun s => (key, Json.string s)).toList
  .record ([
    ("event", .string "status"),
    ("correlationId", r.call.toJson),
    ("phase", r.phase.toJson),
    ("progress", .nat r.progress)] ++ given "resourceId" r.resource ++ given "message" r.message)

/-- A message for scripts, as the written form of an object. -/
def messageJson (event message : String) (elapsed : Option Span) : String :=
  let duration := match elapsed with
    | some s => ",\"duration_secs\":" ++ Span.decimalText s.seconds s.subsecond 9
    | none => ""
  "\x7b\"event\":" ++ (Json.string event).text ++ ",\"message\":" ++ (Json.string message).text ++
    duration ++ "\x7d"

/-! ## Printing -/

/-- The line that a notice makes in a mode, if it makes one. -/
def Notice.line? (mode : Mode) : Notice → Option Line
  | .progress message =>
    match mode with
    | .normal => some ⟨.output, message⟩
    | .quiet => none
    | .json => none
  | .provision report =>
    match mode with
    | .normal => some ⟨.output, reportLine report⟩
    | .quiet => none
    | .json => some ⟨.output, (reportJson report).text⟩
  | .warning message =>
    match mode with
    | .normal => some ⟨.error, "Warning: " ++ message⟩
    | .quiet => none
    | .json => some ⟨.error, messageJson "warning" message none⟩
  | .success message elapsed =>
    match mode with
    | .normal =>
      let suffix := match elapsed with
        | some s => " (" ++ secondsText s ++ ")"
        | none => ""
      some ⟨.output, message ++ suffix⟩
    | .quiet => some ⟨.output, message⟩
    | .json => some ⟨.output, messageJson "success" message elapsed⟩
  | .error message elapsed =>
    match mode with
    | .normal => some ⟨.error, "Error: " ++ message⟩
    | .quiet => some ⟨.error, "Error: " ++ message⟩
    | .json => some ⟨.error, messageJson "error" message elapsed⟩

end ChainProvision.Console
