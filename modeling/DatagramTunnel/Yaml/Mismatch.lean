import DatagramTunnel.Text.Binary64
import DatagramTunnel.Text.Quoted
import DatagramTunnel.Yaml.Cursor

/-!
# Documents that do not have the expected shape

A well-formed document can still hold the wrong kind of value, an unknown name, or a name twice.
`Mismatch.message` is the wording of such a finding. It starts with the key that the value belongs
to, if the finding is about the value of a key. It ends with the place of the finding, unless that
is the very start of the text.
-/

namespace DatagramTunnel.Yaml

open Text

/-- What a document holds at some place. -/
inductive Found where
  | boolean (value : Bool)
  /-- An integer of at most 64 bits. -/
  | integer (value : Int)
  /-- An integer that needs 128 bits. -/
  | wideInteger (value : Int)
  | float (value : Binary64)
  | text (value : List Char)
  | nothing
  | sequence
  | mapping
  deriving DecidableEq, Repr

/-- The wording for an integer. -/
def Found.integerText (value : Int) : String :=
  let digits := String.ofList (Numeral.decimal value.natAbs)
  "integer `" ++ (if value < 0 then "-" else "") ++ digits ++ "`"

/-- The wording for what is there. -/
def Found.describe : Found → String
  | .boolean value => if value then "boolean `true`" else "boolean `false`"
  | .integer value => integerText value
  | .wideInteger value => integerText value ++ (if value < 0 then " as i128" else " as u128")
  | .float value => "floating point `" ++ String.ofList value.render ++ "`"
  | .text value => "string " ++ String.ofList (readable value)
  | .nothing => "unit value"
  | .sequence => "sequence"
  | .mapping => "map"

/-- What is wrong with a document. -/
inductive Finding where
  /-- A value is of the wrong kind. -/
  | invalidType (found : Found) (expected : String)
  /-- A value does not have the kind that its own tag claims. -/
  | invalidValue (found : Found) (expected : String)
  | unknownField (name : List Char) (known : List String)
  | unknownVariant (name : List Char) (known : List String)
  | duplicateField (name : String)
  deriving DecidableEq, Repr

/-- The known names, as alternatives. -/
def alternatives (known : List String) : String :=
  match known.map fun name => "`" ++ name ++ "`" with
  | [] => "nothing"
  | [one] => one
  | [one, other] => one ++ " or " ++ other
  | names => "one of " ++ ", ".intercalate names

/-- The wording of the finding. -/
def Finding.message : Finding → String
  | .invalidType found expected =>
    "invalid type: " ++ found.describe ++ ", expected " ++ expected
  | .invalidValue found expected =>
    "invalid value: " ++ found.describe ++ ", expected " ++ expected
  | .unknownField name known =>
    "unknown field `" ++ String.ofList name ++ "`, expected " ++ alternatives known
  | .unknownVariant name known =>
    "unknown variant `" ++ String.ofList name ++ "`, expected " ++ alternatives known
  | .duplicateField name => "duplicate field `" ++ name ++ "`"

/-- The wording for a place; lines and columns are counted from one. -/
def Position.describe (p : Position) : String :=
  if p = {} then "" else s!" at line {p.line + 1} column {p.column + 1}"

/-- A finding, with the key whose value it is about and the place where it was made. -/
structure Mismatch where
  key : Option String
  finding : Finding
  position : Position
  deriving DecidableEq, Repr

/-- The wording of the mismatch. -/
def Mismatch.message (m : Mismatch) : String :=
  let text := m.finding.message ++ m.position.describe
  match m.key with
  | some key => key ++ ": " ++ text
  | none => text

/-- Why a document gives no value. -/
inductive Fault where
  /-- The text is not exactly one well-formed document. -/
  | malformed
  /-- The document has the wrong shape. -/
  | mismatch (what : Mismatch)
  deriving DecidableEq, Repr

end DatagramTunnel.Yaml
