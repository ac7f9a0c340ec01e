import DatagramTunnel.Text.Utf8
import DatagramTunnel.Yaml.Document
import DatagramTunnel.Yaml.Mismatch

/-!
# The value of a scalar

A plain scalar is nothing, a truth value, an integer, a floating-point number or a text, in this
order of preference; a standard tag can ask for one of these. Integers may be written in base two,
eight or sixteen, and digits that start with a needless zero are a text.
-/

namespace DatagramTunnel.Yaml

open Text

/-! ## Plain values -/

/-- Whether a text stands for nothing. -/
def isNull (text : List Char) : Bool :=
  ["null", "Null", "NULL", "~"].contains (String.ofList text)

/-- The truth value of a text. -/
def boolOf? (text : List Char) : Option Bool :=
  let text := String.ofList text
  if ["true", "True", "TRUE"].contains text then some true
  else if ["false", "False", "FALSE"].contains text then some false
  else none

/-- Whether a text is digits that start with a needless zero, with or without a sign. -/
def hasNeedlessZero (text : List Char) : Bool :=
  let digits := match text with
    | '+' :: digits | '-' :: digits => digits
    | digits => digits
  match digits with
  | '0' :: rest => !rest.isEmpty && rest.all Numeral.isDigit
  | _ => false

/-- The digits of a number in another base, and the base. -/
def based? : List Char → Option (Nat × List Char)
  | '0' :: 'x' :: digits => some (16, digits)
  | '0' :: 'o' :: digits => some (8, digits)
  | '0' :: 'b' :: digits => some (2, digits)
  | _ => none

/-- The number that digits stand for, up to a limit. -/
def digitsOf? (radix limit : Nat) (digits : List Char) : Option Nat :=
  match Numeral.read radix limit digits with
  | .ok n => some n
  | .error _ => none

/-- A number of at most `limit` without a sign, in any base. -/
def magnitude? (limit : Nat) (text : List Char) : Option Nat :=
  match (based? text).bind fun (radix, digits) => digitsOf? radix limit digits with
  | some n => some n
  | none => digitsOf? 10 limit text

/-- An integer of at most `limit` that is not negative; a plus sign is allowed. -/
def unsigned? (limit : Nat) (text : List Char) : Option Nat :=
  if hasNeedlessZero text then none
  else match text with
    | '+' :: digits => magnitude? limit digits
    | digits => magnitude? limit digits

/-- An integer of at least `-limit` with a minus sign. -/
def negative? (limit : Nat) (text : List Char) : Option Int :=
  if hasNeedlessZero text then none
  else match text with
    | '-' :: digits => (magnitude? limit digits).map fun n => -(n : Int)
    | _ => none

/-- The greatest unsigned number of 64 bits. -/
def maxWord64 : Nat := 0xFFFFFFFFFFFFFFFF

/-- The greatest unsigned number of 128 bits. -/
def maxWord128 : Nat := 0xFFFFFFFFFFFFFFFFFFFFFFFFFFFFFFFF

/-- The integer of a text: of 64 bits if it fits, or else of 128 bits. A number with a minus sign
has one bit less, and one number more. -/
def integer? (text : List Char) : Option Found :=
  match unsigned? maxWord64 text, negative? (maxWord64 / 2 + 1) text with
  | some n, _ => some (.integer n)
  | none, some n => some (.integer n)
  | none, none => match unsigned? maxWord128 text, negative? (maxWord128 / 2 + 1) text with
    | some n, _ => some (.wideInteger n)
    | none, some n => some (.wideInteger n)
    | none, none => none

/-- The floating-point number of a text. -/
def float? (text : List Char) : Option Binary64 :=
  let unsigned := match text with
    | '+' :: rest => rest
    | rest => rest
  let doubleSign :=
    text.head? == some '+' && (unsigned.head? == some '+' || unsigned.head? == some '-')
  if doubleSign then none
  else if [".inf", ".Inf", ".INF"].contains (String.ofList unsigned) then some (.infinite false)
  else if ["-.inf", "-.Inf", "-.INF"].contains (String.ofList text) then some (.infinite true)
  else if [".nan", ".NaN", ".NAN"].contains (String.ofList text) then some .notANumber
  else Binary64.ofText? unsigned

/-- The value of a plain scalar. -/
def plainValue (text : List Char) : Found :=
  if text.isEmpty || isNull text then .nothing
  else match boolOf? text with
    | some value => .boolean value
    | none => match integer? text with
      | some found => found
      | none => match if hasNeedlessZero text then none else float? text with
        | some value => .float value
        | none => .text text

/-! ## Tagged values -/

/-- The tag of a standard type. -/
def standardTag (name : String) : Tag := Utf8.encode ("tag:yaml.org,2002:" ++ name).toList

/-- The byte that a local tag starts with: an exclamation mark. -/
def localMark : UInt8 := 0x21

/-- Whether a tag is local to the application. -/
def isLocalTag (tag : Tag) : Bool := tag.head? == some localMark

/-- The name in a local tag, which is the tag without its mark. The lone mark is its own name, and
bytes that are no text are no name. -/
def localName? (tag : Tag) : Option (List Char) :=
  match tag with
  | [] => none
  | mark :: name =>
    if mark != localMark then none
    else match Utf8.decode (if name.isEmpty then tag else name) with
      | .ok name => some name
      | .error _ => none

/-- What is wrong with a scalar where something else is expected. -/
def misfit (s : Scalar) (expected : String) : Finding :=
  let claimed (found : Option Found) (type : String) : Finding :=
    match found with
    | some found => .invalidType found expected
    | none => .invalidValue (.text s.value) type
  let free : Finding :=
    .invalidType (if s.style == .plain then plainValue s.value else .text s.value) expected
  match s.tag with
  | none => free
  | some tag =>
    if tag == standardTag "bool" then claimed ((boolOf? s.value).map .boolean) "a boolean"
    else if tag == standardTag "int" then claimed (integer? s.value) "an integer"
    else if tag == standardTag "float" then claimed ((float? s.value).map .float) "a float"
    else if tag == standardTag "null" then
      claimed (if isNull s.value then some .nothing else none) "null"
    else if isLocalTag tag then free
    else .invalidType (.text s.value) expected

/-- The unsigned 64-bit integer that a scalar gives where one is expected: a plain scalar, or a
literal one that is tagged as an integer. -/
def unsignedScalar? (s : Scalar) : Option Nat :=
  if s.style == .plain || (s.style == .literal && s.tag == some (standardTag "int")) then
    unsigned? maxWord64 s.value
  else none

namespace Node

/-- What is wrong with a node where something else is expected. -/
def misfit (node : Node) (expected : String) : Finding :=
  match node with
  | .scalar s => Yaml.misfit s expected
  | .sequence _ => .invalidType .sequence expected
  | .mapping _ => .invalidType .mapping expected

/-- The tag of a node. -/
def tag? : Node → Option Tag
  | .scalar s => s.tag
  | .sequence tag => tag
  | .mapping tag => tag

/-- The name in the local tag of a node, if it has one. -/
def localName? (node : Node) : Option (List Char) := node.tag?.bind Yaml.localName?

/-- Whether a node is a plain scalar that stands for nothing. -/
def isNothing : Node → Bool
  | .scalar s => s.style == .plain && (s.value.isEmpty || isNull s.value)
  | _ => false

/-- What is wrong with a node whose tag says all, if it is not nothing. -/
def surplus (node : Node) : Finding :=
  match node with
  | .scalar s => .invalidValue (.text s.value) "null"
  | node => node.misfit "unit"

end Node

end DatagramTunnel.Yaml
