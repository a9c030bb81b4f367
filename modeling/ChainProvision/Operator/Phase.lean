/-!
# Provisioning phases

The phases of a provision on the operator's side.  All but failure are ordered; failure may follow any
phase that is not final.
-/

namespace ChainProvision

/-- The phase of a provision. -/
inductive Phase where
  | queued
  | imagePull
  | containerCreate
  | containerStart
  | healthCheck
  | ready
  | failed
  deriving DecidableEq, Repr

namespace Phase

/-- The place of a phase on the way to `ready`; `failed` has none. -/
def rank : Phase → Option Nat
  | .queued => some 0
  | .imagePull => some 1
  | .containerCreate => some 2
  | .containerStart => some 3
  | .healthCheck => some 4
  | .ready => some 5
  | .failed => none

/-- Whether nothing follows a phase. -/
def isTerminal : Phase → Bool
  | .ready => true
  | .failed => true
  | _ => false

theorem isTerminal_iff {p : Phase} : p.isTerminal = true ↔ p = .ready ∨ p = .failed := by
  cases p <;> simp [isTerminal]

/-- Whether a report of phase `next` may follow one of phase `p`. -/
def canAdvanceTo (p next : Phase) : Bool :=
  if p.isTerminal then p == next
  else
    match p.rank, next.rank with
    | _, none => true
    | some a, some b => a ≤ b
    | none, some _ => false

/-- The name of a phase. -/
def text : Phase → String
  | .queued => "queued"
  | .imagePull => "image_pull"
  | .containerCreate => "container_create"
  | .containerStart => "container_start"
  | .healthCheck => "health_check"
  | .ready => "ready"
  | .failed => "failed"

/-- All phases. -/
def all : List Phase :=
  [.queued, .imagePull, .containerCreate, .containerStart, .healthCheck, .ready, .failed]

/-- The phase with the given name. -/
def ofText? (s : String) : Option Phase :=
  all.find? fun p => p.text == s

end Phase

end ChainProvision
