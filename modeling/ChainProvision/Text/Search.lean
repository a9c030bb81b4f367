/-!
# Searching in text

The first occurrence of a phrase in a text, the part between two phrases, the first line, and
comparison that ignores the case of ASCII letters.
-/

namespace ChainProvision.Text

/-- What follows `phrase` when the text starts with it. -/
def afterStart? : List Char → List Char → Option (List Char)
  | [], text => some text
  | _ :: _, [] => none
  | p :: phrase, c :: text => if p = c then afterStart? phrase text else none

/-- The text before and after the first occurrence of `phrase`. -/
def splitFirst? (phrase : List Char) : List Char → Option (List Char × List Char)
  | [] => (afterStart? phrase []).map fun rest => ([], rest)
  | c :: text =>
    match afterStart? phrase (c :: text) with
    | some rest => some ([], rest)
    | none => (splitFirst? phrase text).map fun parts => (c :: parts.1, parts.2)

/-- The text between the first `opening` and the first `closing` after it. -/
def between? (opening closing text : List Char) : Option (List Char) :=
  match splitFirst? opening text with
  | some (_, rest) => (splitFirst? closing rest).map Prod.fst
  | none => none

/-- Whether `phrase` occurs in the text. -/
def occursIn (phrase text : List Char) : Bool :=
  (splitFirst? phrase text).isSome

/-- Whether `phrase` occurs in the text when ASCII capitals are read as small letters.  For a phrase
    of small ASCII letters, digits and blanks without `k` this is also full case folding, since no
    other character folds to one of its letters alone. -/
def occursFolded (phrase : String) (text : String) : Bool :=
  occursIn phrase.toList (text.toList.map Char.toLower)

/-- The characters up to the first line feed, without one carriage return before it. -/
def firstLine (text : List Char) : List Char :=
  match text.span (· ≠ '\n') with
  | (line, []) => line
  | (line, _ :: _) => if line.getLast? = some '\r' then line.dropLast else line

/-- The pieces between the line feeds of a text; a line feed at the end opens no further piece. -/
def lines (text : List Char) : List (List Char) :=
  match text with
  | [] => []
  | text =>
    let pieces := text.splitOn '\n'
    if pieces.getLast? = some [] then pieces.dropLast else pieces

end ChainProvision.Text
