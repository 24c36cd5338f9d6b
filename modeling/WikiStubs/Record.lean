import WikiStubs.Call
import WikiStubs.Descriptions
import WikiStubs.PageSource
import WikiStubs.VarType

/-!
# Function records

All that is known about one documented function, put together from the section that documents it.

* `Section.describedSignature` reads the signature and the descriptions, and sees to it that every
  variable of the signature has one.
* `Record.ofSection` adds the types and the description of the function.
* `Record.notes` lists what is worth noting on the way.
-/
namespace WikiStubs

/-- What is known about a function. -/
structure Record where
  name : Text
  signature : Signature
  descriptions : TextMap Text
  types : TextMap VarType
  description : Text
  deriving DecidableEq

variable [PatternCompiler]

/-! ## Assembly -/

namespace Section

/-- The signature of a function: corrected, or as the calls in the body show it. -/
def signature (function : Text) (s : Section) : Except Fault Signature :=
  match Corrections.signatureFor? function with
  | some signature => .ok signature
  | none => Signature.extract function s.body

theorem signature_eq_ok_iff {function : Text} {s : Section} {signature : Signature} :
    s.signature function = .ok signature ↔
      Corrections.signatureFor? function = some signature ∨
        Corrections.signatureFor? function = none ∧ PatternCompiler.refusal? function = none ∧
          Signature.ofText function s.body = signature := by
  unfold Section.signature
  cases Corrections.signatureFor? function <;> simp [Signature.extract_eq_ok_iff]

theorem signature_eq_error_iff {function : Text} {s : Section} {e : Fault} :
    s.signature function = .error e ↔ Corrections.signatureFor? function = none ∧
      ∃ message, PatternCompiler.refusal? function = some message ∧
        e = .malformed .callPattern message := by
  unfold Section.signature
  cases Corrections.signatureFor? function <;> simp [Signature.extract_eq_error_iff]

def undescribed (s : Section) (name : Text) : Fault :=
  .malformed .descriptions
    ("section " ++ Fault.quoted s.name ++ " does not describe " ++ Fault.quoted name)

/-- The signature of a function and the descriptions of its variables. -/
def describedSignature (function : Text) (s : Section) :
    Except Fault (Signature × TextMap Text) := do
  let signature ← s.signature function
  let described ← s.descriptions
  let descriptions := described.insertAll (Corrections.extrasFor s.name)
  match signature.names.find? (!descriptions.contains ·) with
  | some v => .error (s.undescribed v)
  | none => .ok (signature, descriptions)

/-- What the section says about the function as a whole: the correction, or the text of the
subsection Description. Mirrors `function_description`. -/
def freeDescription (s : Section) : Except Fault Text :=
  match Corrections.descriptionFor? s.name with
  | some text => .ok text
  | none =>
    match s.subsection? "Description" with
    | some d => .ok (Link.rewrite d.text)
    | none =>
      .error (.malformed .description
        ("section " ++ Fault.quoted s.name ++ " has no Description subsection"))

end Section

/-- The record of a function, from the section that documents it; mirrors `assemble_section`. -/
def Record.ofSection (function : Text) (s : Section) : Except Fault Record := do
  let (signature, descriptions) ← s.describedSignature function
  let description ← s.freeDescription
  return {
    name := function
    signature := signature
    descriptions := descriptions
    types := VarType.infer descriptions signature.params
    description := description }

/-! ## Notes -/

namespace Record

def signatureNotes (function : Text) (s : Section) : List Event :=
  match Corrections.signatureFor? function with
  | some _ => [.correctedSignature function]
  | none =>
    match PatternCompiler.refusal? function with
    | some _ => []
    | none => (Call.scan function s.body).map fun c => .merged function c.code

def typeNotes (descriptions : TextMap Text) (types : TextMap VarType) : List Event :=
  descriptions.entries.filterMap fun (name, description) =>
    if types.get? name = some .missing then some (.untyped name description) else none

def descriptionNotes (s : Section) : List Event :=
  match Corrections.descriptionFor? s.name with
  | some _ => [.correctedDescription s.name]
  | none => []

/-- What is noted while a section is read into a record. -/
def notes (function : Text) (s : Section) : List Event :=
  signatureNotes function s ++
    match s.describedSignature function with
    | .error _ => []
    | .ok (signature, descriptions) =>
      typeNotes descriptions (VarType.infer descriptions signature.params) ++ descriptionNotes s

end Record
end WikiStubs
