import WikiStubs.Url
import WikiStubs.PageSource
import WikiStubs.FileTree
import WikiStubs.Text.Printable

/-!
# Hosts

A run works on a host: files, addresses and three streams, as operations in a monad. The same run
works on the files of a machine and on a file tree.

* `PageStore` says where pages are, `Host.pages` is the page source that a host makes of it.
* `Event.logLine` is the line that logs an event.
-/
namespace WikiStubs

/-- Where pages are: files in a directory, or addresses under a base. -/
inductive PageStore where
  | directory (dir : Text)
  | site (base : Text)
  deriving DecidableEq

def PageStore.location : PageStore → Text → Text
  | directory dir, page => Path.file dir page "md"
  | site base, page => Address.ofPage base page

/-! ## Logging -/

inductive Level where
  | error
  | warn
  | info
  | debug
  deriving DecidableEq

namespace Level

/-- Levels in order: the less an event matters, the higher. -/
def rank : Level → Nat
  | error => 0
  | warn => 1
  | info => 2
  | debug => 3

def label : Level → Text
  | error => "ERROR"
  | warn => "WARN"
  | info => "INFO"
  | debug => "DEBUG"

end Level

namespace Event

def level : Event → Level
  | untyped .. | skipped .. => .warn
  | wrote .. => .info
  | _ => .debug

def logField (name value : Text) : Text := " " ++ name ++ "=" ++ value

def logNumber (n : Nat) : Text := Nat.toDigits 10 n

def logMessage (store : PageStore) : Event → Text
  | reading page =>
    match store with
    | .directory _ => "reading page" ++ logField "path" (store.location page)
    | .site _ => "fetching page" ++ logField "url" (store.location page)
  | redirected function target =>
    "following redirect" ++ logField "function" function.quoted ++ logField "target" target
  | releveled function sections =>
    "rebuilding without leading character" ++ logField "function" function.quoted ++
      logField "sections" (logNumber sections)
  | correctedSignature function =>
    "using signature override" ++ logField "function" function.quoted
  | merged function code =>
    "merging call pattern" ++ logField "function" function.quoted ++ logField "call" code.quoted
  | correctedDescription sectionName =>
    "using description override" ++ logField "section" sectionName
  | untyped name description =>
    "could not infer type" ++ logField "variable" name ++ logField "description" description
  | wrote category functions path =>
    "wrote category" ++ logField "category" category ++
      logField "functions" (logNumber functions) ++ logField "path" path
  | skipped function fault =>
    "skipping function" ++ logField "function" function ++ logField "error" fault.message

def logLine (store : PageStore) (e : Event) : Text :=
  e.level.label ++ " " ++ e.logMessage store

end Event

/-! ## Hosts -/

/-- What a run needs of its host. Entries and lines come without a final line end. -/
structure Host (m : Type → Type) where
  /-- The text of a file. -/
  readFile : Text → m (Except FileFault Text)
  /-- The text at an address, or the causes of the failure. -/
  transfer : Text → m (Except (List Text) Text)
  /-- Makes a directory and those that enclose it, unless they are there. -/
  makeDirs : Text → m (Except FileFault Unit)
  /-- Writes a file. -/
  writeFile : Text → Text → m (Except FileFault Unit)
  /-- Writes to the standard output. -/
  print : Text → m Unit
  /-- Writes an entry to the log. It may hold line ends. -/
  log : Text → m Unit
  /-- Writes a line of a report. -/
  report : Text → m Unit

namespace Host

variable {m : Type → Type} [Monad m]

/-- Reads a page from a store. -/
def readPage (host : Host m) (store : PageStore) (page : Text) : m (Except Fault Text) := do
  match store with
  | .directory _ =>
    match ← host.readFile (store.location page) with
    | .ok t => pure (.ok t)
    | .error cause => pure (.error (.unreadable (store.location page) cause))
  | .site _ =>
    match ← host.transfer (store.location page) with
    | .ok t => pure (.ok t)
    | .error causes => pure (.error (.untransferred page causes))

/-- The page source of a store, with a log of the events that matter enough. -/
def pages (host : Host m) (store : PageStore) (threshold : Level) : PageSource m where
  read := host.readPage store
  note e :=
    if e.level.rank ≤ threshold.rank then host.log (e.logLine store) else pure ()

end Host
end WikiStubs
