import WikiStubs.Json
import WikiStubs.Record
import WikiStubs.Text.Printable

/-!
# Rendering

The formats that a category of functions can be written in (`Format`).

For the Lua language server a function becomes a doc comment and an empty definition:

    ---
    ---This function draws a filled circle...
    ---
    ---@param x number # the `coordinates` of the circle's center
    ---@param color? number # the `index` of the color (default: 0)
    function circ(x, color) end

As JSON a category is one object, with the records as they are: a parameter without default has
the default `null`, and the maps have their keys in order.

* `Lua.block` writes one function, `Lua.file` a definition file.
* `JsonFile.file` writes the JSON file of a category.
-/
namespace WikiStubs

/-! ## Lua annotation stubs -/

namespace Lua

def mark : Text := "---"

/-- A text as lines of a doc comment: what does not print is left out. Mirrors `prefix_lines`
after `remove_non_printable`. -/
def comment (t : Text) : Text :=
  List.intercalate ['\n']
    ((Text.lines (t.filter fun c => c = '\n' || Text.isPrintable c)).map (mark ++ ·))

def typeOf (r : Record) (name : Text) : VarType := (r.types.get? name).getD .missing

def descriptionOf (r : Record) (name : Text) : Text := (r.descriptions.get? name).getD []

/-- The note on a default, unless it is `nil` or the description speaks of a default. -/
def defaultNote (description : Text) : Option Text → Text
  | none => []
  | some value =>
    if value = Parameter.nilDefault ∨ Text.contains "default" description then []
    else " (default: " ++ value ++ ")"

def paramLine (r : Record) (p : Parameter) : Text :=
  "\n---@param " ++ p.name ++ (if p.isOptional then ['?'] else []) ++ " " ++
    (typeOf r p.name).label ++ " # " ++ descriptionOf r p.name ++
    defaultNote (descriptionOf r p.name) p.default

def returnLine (r : Record) (name : Text) : Text :=
  "\n---@return " ++ (typeOf r name).label ++ " " ++ name ++ " # " ++ descriptionOf r name

def stub (r : Record) : Text :=
  "\nfunction " ++ r.name ++ "(" ++ List.intercalate ", " (r.signature.params.map (·.name)) ++
    ") end"

/-- The doc comment and the definition of a function; mirrors `render_function`. -/
def block (r : Record) : Text :=
  "---\n" ++ comment r.description ++ "\n---" ++ r.signature.params.flatMap (paramLine r) ++
    r.signature.returns.flatMap (returnLine r) ++ stub r

def file (records : List Record) : Text :=
  "---@meta\n\n" ++ records.flatMap fun r => block r ++ ['\n', '\n']

end Lua

/-! ## Records as JSON -/

def Parameter.toJson (p : Parameter) : Json :=
  .object [("name", .string p.name), ("default", (p.default.map .string).getD .null)]

def Signature.toJson (s : Signature) : Json :=
  .object [("params", .array (s.params.map (·.toJson))),
    ("returns", .array (s.returns.map .string))]

def Record.toJson (r : Record) : Json :=
  .object
    [("name", .string r.name),
     ("signature", r.signature.toJson),
     ("descriptions", .object (r.descriptions.map fun _ d => .string d).entries),
     ("types", .object (r.types.map fun _ t => .string t.label).entries),
     ("description", .string r.description)]

namespace JsonFile

def value (category : Text) (records : List Record) : Json :=
  .object [("category", .string category), ("functions", .array (records.map (·.toJson)))]

def file (category : Text) (records : List Record) : Text :=
  (value category records).layout 0 ++ ['\n']

end JsonFile

/-! ## Formats by name -/

inductive Format where
  | lua
  | json
  deriving DecidableEq

namespace Format

/-- The format of a name; mirrors `create_renderer`. -/
def ofName (name : Text) : Except Fault Format :=
  if name = ("lua" : Text) then .ok lua
  else if name = ("json" : Text) then .ok json
  else .error (.unknownFormat name)

def extension : Format → Text
  | lua => "lua"
  | json => "json"

def render (f : Format) (category : Text) (records : List Record) : Text :=
  match f with
  | lua => Lua.file records
  | json => JsonFile.file category records

end Format

end WikiStubs
