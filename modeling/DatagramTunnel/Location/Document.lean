import DatagramTunnel.Error
import DatagramTunnel.Location
import DatagramTunnel.Text.Json
import DatagramTunnel.Text.Quoted
import DatagramTunnel.Yaml.Document

/-!
# Locations in documents

In a JSON or YAML document a location is a string that holds its text. A YAML scalar of any style
and with any tag counts as a string. Only the string of a whole YAML document is looked at, while in
JSON a string that names no location is reported even if more text follows it.
-/

namespace DatagramTunnel.Location

open Text

/-- Why a document gives no location. -/
inductive DocumentFault where
  /-- The text is no well-formed document that holds just a string. -/
  | noString
  /-- The string names no location. -/
  | refused (fault : HostFault)
  deriving DecidableEq, Repr

/-! ## Reading -/

/-- The location of a string. -/
def ofString (text : List Char) : Except DocumentFault Location :=
  (ofChars text none).mapError .refused

/-- Reads a location from a JSON document. The string is judged before what follows it. -/
def ofJson (text : List Char) : Except DocumentFault Location :=
  match Json.leadingString? text with
  | none => .error .noString
  | some (text, wellFormed) => match ofString text with
    | .error fault => .error fault
    | .ok l => if wellFormed then .ok l else .error .noString

/-- Reads a location from a YAML document. The string is judged once the text has turned out to be
one well-formed document. -/
def ofYaml (text : List Char) : Except DocumentFault Location :=
  let document := Yaml.Document.ofText text
  match document.items with
  | ⟨.node (.scalar s), _⟩ :: _ =>
    if document.wellFormed then ofString s.value else .error .noString
  | _ => .error .noString

/-- The wording for a string of a JSON document that names no location. -/
def jsonRefusal (fault : HostFault) : String :=
  String.ofList (Json.placed (Error.invalidHostname fault).message.toList)

/-- The wording for a string of a YAML document that names no location. -/
def yamlRefusal (fault : HostFault) : String := (Error.invalidHostname fault).message

/-! ## Writing -/

/-- The location as a JSON document. -/
def toJson (l : Location) : List Char := Json.quote l.renderChars

/-- Reading a written JSON document is reading the text of the location. -/
theorem ofJson_toJson (l : Location) : ofJson l.toJson = ofString l.renderChars := by
  rw [ofJson, toJson, Json.leadingString?_quote]
  cases h : ofString l.renderChars <;> simp [h]

/-- The location as a YAML document. -/
def toYaml (l : Location) : List Char := Text.Yaml.quote l.renderChars

end DatagramTunnel.Location
