import WikiStubs.Text.Basic

/-!
# JSON texts

JSON values without numbers and booleans, and their layout: two spaces of indentation, one item
or field on a line, and nothing between the brackets of an empty value.

* `Json.quote` writes a string; only the quote, the backslash and the controls below the space
  are escaped.
* `Json.layout` writes a value.
-/
namespace WikiStubs

inductive Json where
  | null
  | string (value : Text)
  | array (items : List Json)
  | object (fields : List (Text × Json))

namespace Json

def hexDigit (n : Nat) : Char := Nat.digitChar (n % 16)

/-- A character inside a quoted string. -/
def escape (c : Char) : Text :=
  if c = '"' then "\\\""
  else if c = '\\' then "\\\\"
  else if c = '\n' then "\\n"
  else if c = '\r' then "\\r"
  else if c = '\t' then "\\t"
  else if c = '\x08' then "\\b"
  else if c = '\x0c' then "\\f"
  else if c.toNat < 32 then "\\u00" ++ [hexDigit (c.toNat / 16), hexDigit c.toNat]
  else [c]

def quote (t : Text) : Text := '"' :: t.flatMap escape ++ ['"']

def newLine (indent : Nat) : Text := '\n' :: List.replicate (2 * indent) ' '

mutual

/-- The text of a value whose first line starts at some indentation. -/
def layout (indent : Nat) : Json → Text
  | null => "null"
  | string t => quote t
  | array [] => "[]"
  | array (v :: vs) => '[' :: layoutItems indent (v :: vs) ++ newLine indent ++ [']']
  | object [] => ['\x7b', '\x7d']
  | object (f :: fs) => '\x7b' :: layoutFields indent (f :: fs) ++ newLine indent ++ ['\x7d']

def layoutItems (indent : Nat) : List Json → Text
  | [] => []
  | [v] => newLine (indent + 1) ++ layout (indent + 1) v
  | v :: vs => newLine (indent + 1) ++ layout (indent + 1) v ++ ',' :: layoutItems indent vs

def layoutFields (indent : Nat) : List (Text × Json) → Text
  | [] => []
  | [(k, v)] => newLine (indent + 1) ++ quote k ++ ": " ++ layout (indent + 1) v
  | (k, v) :: fs =>
    newLine (indent + 1) ++ quote k ++ ": " ++ layout (indent + 1) v ++
      ',' :: layoutFields indent fs

end

end Json
end WikiStubs
