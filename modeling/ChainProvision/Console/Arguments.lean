import ChainProvision.Identity.Id
import ChainProvision.Number.Word
import ChainProvision.Text.Search

/-!
# The command line

The words of a command line, read from left to right: switches of the program, the name of a command, and then
the words of that command.  A switch is given at most once before the name and at most once after it; asking
for help or for the version ends the reading at once, even if what follows could not be read.

## Main definitions

* `Command`, `Invocation`: what a command line asks for;
* `Halt`: why there is nothing to do, or nothing that could be done;
* `Invocation.read`: the reading.
-/

namespace ChainProvision.Console

/-! ## What is asked for -/

/-- A command with its arguments. -/
inductive Command where
  | init (operatorApi : Option String) (force : Bool)
  | status (call : CallId)
  | watch (call : CallId)
  deriving DecidableEq

/-- A command, and how the program is to talk. -/
structure Invocation where
  command : Command
  verbose : Bool := false
  quiet : Bool := false
  json : Bool := false
  deriving DecidableEq

/-- Where words stand: before the name of a command, or after it. -/
inductive Level where
  | program
  | init
  | status
  | watch
  deriving DecidableEq, Repr

/-- What there is help for. -/
inductive Topic where
  | level (level : Level)
  /-- The help itself. -/
  | help
  deriving DecidableEq, Repr

/-- What is wrong with a command line. -/
inductive Misuse where
  | unknownWord (word : String)
  | unknownSwitch (word : String)
  | repeated (name : String)
  | missingValue (name : String)
  | unexpectedValue (name : String)
  | invalidCall (word : String) (fault : Text.NumeralError)
  | missingCall
  | missingCommand
  /-- Quiet and JSON at once. -/
  | conflict
  deriving DecidableEq, Repr

/-- Why a command line leads to no command. -/
inductive Halt where
  | help (topic : Topic)
  | version
  | misuse (fault : Misuse)
  deriving DecidableEq, Repr

/-! ## Switches -/

/-- The words that are switches. -/
inductive Switch where
  | verbose
  | quiet
  | json
  | force
  | help
  | version
  deriving DecidableEq, Repr

namespace Switch

/-- The name of a switch. -/
def name : Switch → String
  | .verbose => "verbose"
  | .quiet => "quiet"
  | .json => "json"
  | .force => "force"
  | .help => "help"
  | .version => "version"

/-- The letter of a switch, if it has one. -/
def letter? : Switch → Option Char
  | .verbose => some 'v'
  | .quiet => some 'q'
  | .json => none
  | .force => some 'f'
  | .help => some 'h'
  | .version => some 'V'

end Switch

namespace Level

/-- The switches that can be given at a level. -/
def switches : Level → List Switch
  | .program => [.verbose, .quiet, .json, .help, .version]
  | .init => [.force, .verbose, .quiet, .json, .help]
  | .status => [.verbose, .quiet, .json, .help]
  | .watch => [.verbose, .quiet, .json, .help]

/-- The level that the name of a command opens. -/
def ofCommand? : String → Option Level
  | "init" => some .init
  | "status" => some .status
  | "watch" => some .watch
  | _ => none

/-- Whether a level's words may name a call. -/
def takesCall : Level → Bool
  | .status => true
  | .watch => true
  | _ => false

end Level

/-- The name of the option that takes a URL. -/
def urlOption : String := "operator-api"

/-! ## Words -/

/-- The kinds of words. -/
inductive Word where
  /-- Two hyphens and no more: all later words are plain. -/
  | separator
  /-- A name after two hyphens, and what stands behind an equals sign. -/
  | long (name : List Char) (value : Option (List Char))
  /-- Letters after one hyphen. -/
  | short (letters : List Char)
  | plain

/-- The kind of a word.  A single hyphen is a plain word. -/
def Word.ofChars : List Char → Word
  | ['-', '-'] => .separator
  | '-' :: '-' :: rest =>
    match Text.splitFirst? ['='] rest with
    | some (name, value) => .long name (some value)
    | none => .long rest none
  | ['-'] => .plain
  | '-' :: letters => .short letters
  | _ => .plain

/-- Whether a word can be the value of the option before it. -/
def isValue (word : String) : Bool :=
  match Word.ofChars word.toList with
  | .plain => true
  | _ => false

/-! ## Reading -/

/-- What was given at a level. -/
structure Given where
  switches : List Switch := []
  operatorApi : Option String := none
  call : Option CallId := none
  deriving DecidableEq

namespace Given

/-- A switch is given. -/
def addSwitch (level : Level) (g : Given) (switch : Switch) : Except Halt Given :=
  match switch with
  | .help => .error (.help (.level level))
  | .version => .error .version
  | _ =>
    if switch ∈ g.switches then .error (.misuse (.repeated switch.name))
    else .ok { g with switches := g.switches ++ [switch] }

/-- A switch is given by its name. -/
def addNamed (level : Level) (g : Given) (name : String) (hasValue : Bool) : Except Halt Given :=
  match level.switches.find? fun switch => switch.name == name with
  | none => .error (.misuse (.unknownSwitch ("--" ++ name)))
  | some switch =>
    if hasValue then .error (.misuse (.unexpectedValue switch.name)) else g.addSwitch level switch

/-- Switches are given by their letters. -/
def addLetters (level : Level) : Given → List Char → Except Halt Given
  | g, [] => .ok g
  | g, c :: letters =>
    match level.switches.find? fun switch => switch.letter? == some c with
    | none => .error (.misuse (.unknownSwitch (String.ofList ['-', c])))
    | some switch => do
      let g ← g.addSwitch level switch
      addLetters level g letters

/-- The URL is given. -/
def addUrl (g : Given) (url : String) : Except Halt Given :=
  if g.operatorApi.isSome then .error (.misuse (.repeated urlOption))
  else .ok { g with operatorApi := some url }

/-- A plain word is given: the call, where there is to be one and it is not yet known. -/
def addPlain (level : Level) (g : Given) (word : String) : Except Halt Given :=
  if level.takesCall && g.call.isNone then
    match Text.readNumeral UInt64.size Word64.size_pos word.toList with
    | .ok n => .ok { g with call := some ⟨n⟩ }
    | .error fault => .error (.misuse (.invalidCall word fault))
  else .error (.misuse (.unknownWord word))

/-- What follows from what was given at a level, once there are no more words: quiet and JSON exclude each
    other. -/
def check (g : Given) : Except Halt Given :=
  if Switch.quiet ∈ g.switches ∧ Switch.json ∈ g.switches then .error (.misuse .conflict) else .ok g

/-- Whether a switch was given. -/
def has (g : Given) (switch : Switch) : Bool := switch ∈ g.switches

end Given

/-- Read the words after the name of a command. -/
def readWords (level : Level) : Given → List String → Except Halt Given
  | g, [] => .ok g
  | g, word :: rest =>
    match Word.ofChars word.toList with
    | .separator => rest.foldlM (Given.addPlain level) g
    | .plain => do
      let g ← g.addPlain level word
      readWords level g rest
    | .short letters => do
      let g ← g.addLetters level letters
      readWords level g rest
    | .long name value =>
      if level = .init ∧ String.ofList name = urlOption then
        match value, rest with
        | some value, rest => do
          let g ← g.addUrl (String.ofList value)
          readWords level g rest
        | none, value :: rest =>
          if isValue value then do
            let g ← g.addUrl value
            readWords level g rest
          else .error (.misuse (.missingValue urlOption))
        | none, [] => .error (.misuse (.missingValue urlOption))
      else do
        let g ← g.addNamed level (String.ofList name) value.isSome
        readWords level g rest

/-- The topic of words after the command that asks for help. -/
def readTopic : List String → Halt
  | [] => .help (.level .program)
  | word :: rest =>
    match rest, Level.ofCommand? word with
    | [], some level => .help (.level level)
    | next :: _, some _ => .misuse (.unknownWord next)
    | [], none => if word = "help" then .help .help else .misuse (.unknownWord word)
    | next :: _, none => .misuse (.unknownWord (if word = "help" then next else word))

/-- The command that a level's words make. -/
def Given.command (level : Level) (g : Given) : Except Halt Command :=
  match level with
  | .program => .error (.misuse .missingCommand)
  | .init => .ok (.init g.operatorApi (g.has .force))
  | .status =>
    match g.call with
    | some call => .ok (.status call)
    | none => .error (.misuse .missingCall)
  | .watch =>
    match g.call with
    | some call => .ok (.watch call)
    | none => .error (.misuse .missingCall)

namespace Invocation

/-- Read the words after the name of a command, with what was given before it. -/
def readCommand (before : Given) (level : Level) (words : List String) : Except Halt Invocation := do
  let after ← readWords level {} words
  let command ← after.command level
  let after ← after.check
  let before ← before.check
  let has (switch : Switch) : Bool := before.has switch || after.has switch
  return { command, verbose := has .verbose, quiet := has .quiet, json := has .json }

/-- Read words from the program's level on. -/
def readFrom : Given → List String → Except Halt Invocation
  | _, [] => .error (.misuse .missingCommand)
  | g, word :: rest =>
    match Word.ofChars word.toList with
    | .separator =>
      match rest with
      | [] => .error (.misuse .missingCommand)
      | next :: _ => .error (.misuse (.unknownWord next))
    | .short letters => do
      let g ← g.addLetters .program letters
      readFrom g rest
    | .long name value => do
      let g ← g.addNamed .program (String.ofList name) value.isSome
      readFrom g rest
    | .plain =>
      match Level.ofCommand? word with
      | some level => readCommand g level rest
      | none => .error (if word = "help" then readTopic rest else .misuse (.unknownWord word))

/-- The invocation that a command line makes. -/
def read (words : List String) : Except Halt Invocation := readFrom {} words

end Invocation

end ChainProvision.Console
