import WikiStubs.Text.Basic

/-!
# Faults

What can go wrong while pages are read and rendered, as causes. `Fault.message` is the one-line
text of a fault, `Fault.causes` the texts of what lies behind it.
-/
namespace WikiStubs

/-- The step that met a text of unexpected shape. -/
inductive Step where
  | catalog
  | callPattern
  | bullet
  | descriptions
  | description
  deriving DecidableEq

def Step.label : Step → Text
  | catalog => "function catalog"
  | callPattern => "call pattern"
  | bullet => "parameter description"
  | descriptions => "variable descriptions"
  | description => "function description"

inductive FileFault where
  | missing
  | denied
  | exists
  | notDirectory
  | isDirectory
  | nameTooLong
  | notText
  | nulInPath
  deriving DecidableEq

def FileFault.message : FileFault → Text
  | missing => "No such file or directory (os error 2)"
  | denied => "Permission denied (os error 13)"
  | «exists» => "File exists (os error 17)"
  | notDirectory => "Not a directory (os error 20)"
  | isDirectory => "Is a directory (os error 21)"
  | nameTooLong => "File name too long (os error 36)"
  | notText => "stream did not contain valid UTF-8"
  | nulInPath => "file name contained an unexpected NUL byte"

/-- A failure to read or render documentation. -/
inductive Fault where
  /-- A text does not have the shape that a step expects. -/
  | malformed (step : Step) (text : Text)
  /-- The page of a function has no section, even after a redirect. -/
  | unresolved (function : Text)
  /-- A page could not be transferred; the causes begin with the nearest. -/
  | untransferred (page : Text) (causes : List Text)
  /-- No output format has this name. -/
  | unknownFormat (name : Text)
  /-- The file of a page could not be read. -/
  | unreadable (path : Text) (cause : FileFault)
  deriving DecidableEq

namespace Fault

/-- A text in single quotes. -/
def quoted (t : Text) : Text := "'" ++ t ++ "'"

/-- The fault in one line, as long as the texts in it have one. -/
def message : Fault → Text
  | malformed step text => step.label ++ ": unexpected structure in " ++ quoted text
  | unresolved function => "failed to resolve documentation for function " ++ quoted function
  | untransferred page _ => "failed to fetch page " ++ quoted page
  | unknownFormat name => "unknown format: " ++ name ++ ". Use lua or json"
  | unreadable path _ => "failed to read " ++ path

theorem message_malformed (step : Step) (text : Text) : (malformed step text).message =
    step.label ++ ": unexpected structure in '" ++ text ++ "'" := by
  have hquote : (": unexpected structure in '" : Text) = ": unexpected structure in " ++ "'" := by
    decide +kernel
  change step.label ++ ": unexpected structure in " ++ ("'" ++ text ++ "'") = _
  rw [hquote]
  simp only [List.append_assoc]

/-- What lies behind the fault, the nearest cause first. -/
def causes : Fault → List Text
  | untransferred _ causes => causes
  | unreadable _ cause => [cause.message]
  | _ => []

end Fault
end WikiStubs
