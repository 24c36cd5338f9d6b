import WikiStubs.Fault

/-!
# Page sources

Pages come by name from a source, which may fail, and what is worth noting is noted: events carry
the facts, and how they are logged is decided where they are written. A source is given in a
monad, so that the same work can be run on files and on a plain function.

* `PageSource.ofPages` is the source that a function from names to texts is. It keeps the notes
  in order.
-/
namespace WikiStubs

/-- A step of the work that is worth noting. -/
inductive Event where
  /-- A page is asked for. -/
  | reading (page : Text)
  /-- The page of a function forwards to another page. -/
  | redirected (function target : Text)
  /-- The page of a function has several top-level sections. -/
  | releveled (function : Text) (sections : Nat)
  /-- The signature of a function is a corrected one. -/
  | correctedSignature (function : Text)
  /-- A call is merged into the signature of a function. -/
  | merged (function code : Text)
  /-- The description of a section is a corrected one. -/
  | correctedDescription (sectionName : Text)
  /-- The type of a variable is unknown. -/
  | untyped (name description : Text)
  /-- The file of a category is written. -/
  | wrote (category : Text) (functions : Nat) (path : Text)
  /-- A function is left out. -/
  | skipped (function : Text) (fault : Fault)
  deriving DecidableEq

/-- Where pages come from, and where events go. -/
structure PageSource (m : Type → Type) where
  read : Text → m (Except Fault Text)
  note : Event → m Unit

/-- Work that keeps its notes in order. -/
abbrev Noting := StateM (List Event)

namespace PageSource

variable {m : Type → Type} [Monad m]

def fetch (src : PageSource m) (page : Text) : ExceptT Fault m Text := do
  src.note (.reading page)
  src.read page

def noteAll (src : PageSource m) : List Event → m Unit
  | [] => pure ()
  | e :: es => do
    src.note e
    src.noteAll es

/-- The source whose pages a function gives. -/
def ofPages (pages : Text → Except Fault Text) : PageSource Noting where
  read page := pure (pages page)
  note e := modify (· ++ [e])

end PageSource

def Noting.fromStart {α : Type} (work : Noting α) : α × List Event := work.run []

def Event.pagesRead (events : List Event) : List Text :=
  events.filterMap fun
    | .reading page => some page
    | _ => none

end WikiStubs
