import WikiStubs.Signature
import WikiStubs.TextMap

/-!
# Types of variables

Documentation does not declare types, so they are inferred: from a literal default if there is
one, else from the variable's name and description. The rules have a fixed order and the first
that applies counts; what no rule covers is tagged `missing` rather than guessed.

* `VarType.ofLiteral?` reads a default, `VarType.classify` a name and a description.
* `VarType.infer` types all described variables.
-/
namespace WikiStubs

inductive VarType where
  | number
  | boolean
  | string
  | function
  | missing
  deriving DecidableEq

namespace VarType

def label : VarType → Text
  | number => "number"
  | boolean => "boolean"
  | string => "string"
  | function => "function"
  | missing => "MISSING_TYPE"

def ofLabel? (t : Text) : Option VarType :=
  [number, boolean, string, function, missing].find? (·.label = t)

/-! ## Defaults -/

def isDigit (c : Char) : Bool := '0' ≤ c && c ≤ '9'

def isDigits (t : Text) : Bool := t ≠ [] && t.all isDigit

/-- Whether a text is a decimal literal: an optional minus sign, digits, and optionally a point
and digits. Mirrors `is_numeric_literal`. -/
def isDecimal (t : Text) : Bool :=
  let unsigned := (Text.after? "-" t).getD t
  match Text.splitAtFirst? "." unsigned with
  | none => isDigits unsigned
  | some (whole, fraction) => isDigits whole && isDigits fraction

/-- The type of a literal; mirrors `default_type`. -/
def ofLiteral? (t : Text) : Option VarType :=
  if t = ("true" : Text) ∨ t = ("false" : Text) then some boolean
  else if isDecimal t then some number
  else none

def ofDefault? (p : Parameter) : Option VarType := p.default.bind ofLiteral?

/-- The type that the parameters of a name give it by their defaults; of several such parameters
the last counts. -/
def ofParams? (params : List Parameter) (name : Text) : Option VarType :=
  ((params.filter (·.name = name)).filterMap ofDefault?).getLast?

/-! ## Names and descriptions -/

def numberNames : List Text :=
  ["id", "track", "tempo", "speed", "duration", "note", "value", "val32", "radius", "scale",
    "w", "h", "sx", "sy", "period", "hold", "code", "length", "timestamp", "scrollx", "scrolly"]

def numberNameParts : List Text := ["width", "height", "color"]

def numberWords : List Text :=
  ["index", "number", "coordinate", "integer", "address", "radius"]

def booleanNames : List Text := ["pressed", "bool"]

def booleanWords : List Text := ["true", "false"]

def mentions (parts : List Text) (t : Text) : Bool := parts.any fun part => Text.contains part t

/-- The type that the name and description of a variable suggest. -/
def classify (name description : Text) : VarType :=
  if numberNames.contains name || mentions numberNameParts name ||
      mentions numberWords description then
    number
  else if booleanNames.contains name || mentions booleanWords description then boolean
  else if name == ("text" : Text) || mentions ["message"] description then string
  else if mentions ["function"] description then function
  else missing

def inferOne (params : List Parameter) (name description : Text) : VarType :=
  (ofParams? params name).getD (classify name description)

/-- The types of the described variables. -/
def infer (descriptions : TextMap Text) (params : List Parameter) : TextMap VarType :=
  descriptions.map (inferOne params)

end VarType
end WikiStubs
