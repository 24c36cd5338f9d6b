import WikiStubs.PageSource
import WikiStubs.Section
import WikiStubs.Text.Lowercase

/-!
# The catalog of functions

The page `API` lists all functions: the first section has a subsection Functions, whose
subsections are the categories, and each line of a category that is not blank names a function
in square brackets.

* `Catalog.ofPage` reads the categories; the first line without a name is a fault.
* `Catalog.list` asks a source for the page.
-/
namespace WikiStubs

structure Category where
  name : Text
  functions : List Text
  deriving DecidableEq

namespace Catalog

/-- The name of the page that lists all functions. -/
def page : Text := "API"

/-- The name in the first pair of square brackets on a line. -/
def bracketed? (line : Text) : Option Text :=
  match Text.splitAtFirst? "[" line with
  | none => none
  | some (_, rest) => (Text.splitAtFirst? "]" rest).map (·.1)

def malformed (text : Text) : Fault := .malformed .catalog text

def functionOf (line : Text) : Except Fault Text :=
  match bracketed? line with
  | some name => .ok name
  | none => .error (malformed line)

def entries (s : Section) : List Text := s.text.lines.filter (·.trim ≠ [])

def categoryOf (s : Section) : Except Fault Category := do
  let functions ← (entries s).mapM functionOf
  return ⟨s.name.lower, functions⟩

/-- The categories of a page, in order; mirrors `parse_catalog`. -/
def ofPage (t : Text) : Except Fault (List Category) :=
  match Section.ofPage t with
  | [] => .error (malformed "no top-level section")
  | top :: _ =>
    match top.subsection? "Functions" with
    | none =>
      .error (malformed ("section " ++ Fault.quoted top.name ++ " has no Functions subsection"))
    | some functions => functions.subsections.mapM categoryOf

/-- The categories that a source lists; mirrors `list_function_names`. -/
def list {m : Type → Type} [Monad m] (src : PageSource m) : ExceptT Fault m (List Category) := do
  let t ← src.fetch page
  ofPage t

end Catalog
end WikiStubs
