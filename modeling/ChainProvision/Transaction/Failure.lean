import ChainProvision.Text.Blank
import ChainProvision.Text.Search

/-!
# Failures of a transaction

Why a transaction did not get confirmed, by the stage at which it failed.

Nodes and clients wrap the reason of a revert in several ways.  The short message is the quoted reason
or the custom error's name where one of the known wrappings is found, and the first line otherwise.
-/

namespace ChainProvision

/-- Why a transaction was not confirmed. -/
inductive TxError where
  | rejected
  | signing (message : String)
  | broadcast (message : String)
  | reverted (message : String)
  | receipt (message : String)
  deriving DecidableEq, Repr

/-- The wording of a transaction's failure. -/
def TxError.message : TxError → String
  | .rejected => "Transaction rejected in wallet"
  | .signing m => "Signing failed: " ++ m
  | .broadcast m => "Broadcast failed: " ++ m
  | .reverted m => m
  | .receipt m => "Receipt unavailable: " ++ m

/-- The name of a failure, which stays the same whatever its wording. -/
def TxError.name : TxError → String
  | .rejected => "Rejected"
  | .signing _ => "Signing"
  | .broadcast _ => "Broadcast"
  | .reverted _ => "Reverted"
  | .receipt _ => "Receipt"

end ChainProvision

namespace ChainProvision.RevertReason

/-- The name in `Name(…)`, if the text has that form and the name could be one. -/
def customName? (text : List Char) : Option (List Char) :=
  match Text.splitFirst? ['('] text with
  | some (name, _) =>
    match name with
    | [] => none
    | first :: _ =>
      if first.isUpper && name.all Char.isAlphanum && text.getLast? == some ')' then some name
      else none
  | none => none

/-- The name of a custom error, or the text itself. -/
def nameOrSelf (text : List Char) : List Char :=
  (customName? text).getD text

/-- What comes before a quoted reason. -/
def reasonMarker : List Char := "reverted with reason string '".toList

/-- What comes before a quoted custom error. -/
def customMarker : List Char := "reverted with custom error '".toList

/-- What comes before a bare reason. -/
def executionMarker : List Char := "execution reverted: ".toList

/-- The part of a revert message that people read. -/
def shorten (raw : List Char) : List Char :=
  let raw := Text.strip raw
  match Text.between? reasonMarker ['\''] raw with
  | some reason => reason
  | none =>
    match Text.between? customMarker ['\''] raw with
    | some name => nameOrSelf name
    | none =>
      match Text.splitFirst? executionMarker raw with
      | some (_, rest) => nameOrSelf (Text.stripBy (fun c => c == '"' || c == ' ') (Text.firstLine rest))
      | none => nameOrSelf (Text.strip (Text.firstLine raw))

/-- The short form of a revert message. -/
def short (raw : String) : String := String.ofList (shorten raw.toList)

end ChainProvision.RevertReason
