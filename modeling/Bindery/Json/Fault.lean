import Bindery.Decimal.Shortest
import Bindery.Text.Quoted

/-!
# Faults in a JSON text

A text is read from left to right into records of known shape, and the first fault met ends the
reading: the text ends too early, it is malformed, or it is well formed so far and does not fit.
Only a misfit has a wording of its own.
-/
namespace Bindery.Json

/-- A number with a fraction or an exponent, or too large for an integer. -/
structure Real where
  negative : Bool
  magnitude : Decimal.Binary64
  deriving DecidableEq, Repr

/-- Reals are written positionally between a hundred thousandth and ten quadrillion. -/
def Real.style : Decimal.Style := ⟨-5, 15, true⟩

def Real.text (x : Real) : String :=
  (if x.negative then "-" else "") ++ x.magnitude.shortest.text style

inductive Found where
  | null
  | flag (value : Bool)
  | integer (value : Int)
  | real (value : Real)
  | text (value : String)
  | sequence
  | map
  deriving DecidableEq, Repr

def Found.message : Found → String
  | null => "null"
  | flag value => s!"boolean `{value}`"
  | integer value => s!"integer `{value}`"
  | real value => s!"floating point `{value.text}`"
  | text value => s!"string {Text.quoted value}"
  | sequence => "sequence"
  | map => "map"

inductive Expected where
  | text
  | flag
  | sequence
  | record (name : String)
  deriving DecidableEq, Repr

def Expected.message : Expected → String
  | text => "a string"
  | flag => "a boolean"
  | sequence => "a sequence"
  | record name => s!"struct {name}"

inductive Misfit where
  | missing (field : String)
  | repeated (field : String)
  | kind (found : Found) (expected : Expected)
  | short (position : Nat) (record : String) (arity : Nat)
  deriving DecidableEq, Repr

def Misfit.message : Misfit → String
  | missing field => s!"missing field `{field}`"
  | repeated field => s!"duplicate field `{field}`"
  | kind found expected => s!"invalid type: {found.message}, expected {expected.message}"
  | short position record arity =>
    s!"invalid length {position}, expected struct {record} with {arity} elements"

/-- Why a text was refused. -/
inductive Fault where
  | early
  | malformed
  | misfit (cause : Misfit)
  deriving DecidableEq, Repr

end Bindery.Json
