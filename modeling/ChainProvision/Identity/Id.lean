import ChainProvision.Number.Word
import ChainProvision.Text.Blank
import ChainProvision.Text.Numeral

/-!
# Identifiers

Services, blueprints, calls and requests are numbered with 64 bits on the services contract.  Each kind
of number has a type of its own, so that one is never given where another is meant.
-/

namespace ChainProvision

/-- What an identifier numbers. -/
inductive IdKind where
  | service
  | blueprint
  | call
  | request
  deriving DecidableEq, Repr

/-- The number of a thing of the given kind. -/
structure Id (kind : IdKind) where
  val : Word64
  deriving DecidableEq

/-- The number of a service. -/
abbrev ServiceId := Id .service

/-- The number of a blueprint. -/
abbrev BlueprintId := Id .blueprint

/-- The number of a call, a job submitted to a service. -/
abbrev CallId := Id .call

/-- The number of a request for a new service. -/
abbrev RequestId := Id .request

namespace Id

variable {kind : IdKind}

/-- The identifier that a text denotes, blanks around it aside. -/
def read (kind : IdKind) (s : String) : Except Text.NumeralError (Id kind) :=
  (Text.readNumeral UInt64.size Word64.size_pos (Text.strip s.toList)).map Id.mk

/-- The decimal form of an identifier. -/
def text (id : Id kind) : String := Text.numeral id.val.val

instance : Inhabited (Id kind) := ⟨⟨.ofNat 0⟩⟩

end Id

end ChainProvision
