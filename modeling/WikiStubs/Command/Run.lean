import WikiStubs.Catalog
import WikiStubs.Command.Host
import WikiStubs.Command.Options
import WikiStubs.Render
import WikiStubs.Resolve

/-!
# Runs

A run renders the functions that it is given to the standard output, or, given none, writes one
file per category of the catalog to the output directory. A run that ends early is reported as a
chain of texts from the outermost to the innermost cause: the outermost, and then the causes,
indented, and numbered if there are several.

* `Failure.report` is the report of why a run ends early.
* `Run.functionMode` and `Run.catalogMode` are the two kinds of run.
* `Run.program` reads the arguments, runs, reports a failure, and gives the exit status.
-/
namespace WikiStubs

/-! ## Failures -/

/-- Why a run ends early. -/
inductive Failure where
  | format (fault : Fault)
  | listing (fault : Fault)
  | assembling (function : Text) (fault : Fault)
  | makingDirectory (path : Text) (cause : FileFault)
  | writing (path : Text) (cause : FileFault)
  deriving DecidableEq

namespace Failure

/-- What went wrong on the whole. -/
def summary : Failure → Text
  | format fault => fault.message
  | listing _ => "failed to list functions from the API page"
  | assembling function _ => "failed to assemble function " ++ Fault.quoted function
  | makingDirectory path _ => "failed to create output directory: " ++ path
  | writing path _ => "failed to write " ++ path

/-- What lies behind it, the nearest cause first. -/
def causes : Failure → List Text
  | format fault => fault.causes
  | listing fault | assembling _ fault => fault.message :: fault.causes
  | makingDirectory _ cause | writing _ cause => [cause.message]

/-- The lines of a cause: its first line after a label, the others below it. -/
def causeLines (label indent : Text) (cause : Text) : List Text :=
  match cause.splitOn '\n' with
  | [] => []
  | l :: ls => (label ++ l) :: ls.map (indent ++ ·)

def numbered (n : Nat) : List Text → List Text
  | [] => []
  | c :: cs =>
    causeLines ("    " ++ Nat.toDigits 10 n ++ ": ") "       " c ++ numbered (n + 1) cs

def causesLines : List Text → List Text
  | [c] => causeLines "    " "    " c
  | cs => numbered 0 cs

def report (f : Failure) : List Text :=
  ("Error: " ++ f.summary).splitOn '\n' ++
    match f.causes with
    | [] => []
    | cs => [] :: "Caused by:" :: causesLines cs

end Failure

/-! ## Modes -/

namespace Options

def store (o : Options) : PageStore :=
  match o.wikiDir with
  | some dir => .directory dir
  | none => .site o.baseUrl

/-- The events that are logged: those of this level and the more important ones. -/
def threshold (o : Options) : Level :=
  if o.verbose then .debug else if o.quiet then .error else .warn

end Options

namespace Run

variable {m : Type → Type} [Monad m] [PatternCompiler]

/-- The records of the functions in order. The first function without a record ends the run, or
is left out if the run is to keep going. -/
def assembleAll (src : PageSource m) (keepGoing : Bool) :
    List Text → ExceptT Failure m (List Record)
  | [] => pure []
  | f :: fs => do
    match ← (assemble src f).run with
    | .ok r => return r :: (← assembleAll src keepGoing fs)
    | .error fault =>
      if keepGoing then
        src.note (.skipped f fault)
        assembleAll src keepGoing fs
      else throw (.assembling f fault)

/-- The category under which single functions are rendered. -/
def functionsCategory : Text := "functions"

/-- Renders the given functions to the standard output. -/
def functionMode (host : Host m) (o : Options) (format : Format) : ExceptT Failure m Unit := do
  let records ← assembleAll (host.pages o.store o.threshold) o.keepGoing o.functions
  host.print (format.render functionsCategory records)

def writeCategory (host : Host m) (o : Options) (format : Format) (c : Category) :
    ExceptT Failure m Unit := do
  let src := host.pages o.store o.threshold
  let records ← assembleAll src o.keepGoing c.functions
  let path := Path.file o.output c.name format.extension
  match ← host.writeFile path (format.render c.name records) with
  | .ok () => src.note (.wrote c.name records.length path)
  | .error cause => throw (.writing path cause)

def writeCategories (host : Host m) (o : Options) (format : Format) :
    List Category → ExceptT Failure m Unit
  | [] => pure ()
  | c :: cs => do
    writeCategory host o format c
    writeCategories host o format cs

/-- Writes one file per category of the catalog. -/
def catalogMode (host : Host m) (o : Options) (format : Format) : ExceptT Failure m Unit := do
  match ← (Catalog.list (host.pages o.store o.threshold)).run with
  | .error fault => throw (.listing fault)
  | .ok categories =>
    match ← host.makeDirs o.output with
    | .error cause => throw (.makingDirectory o.output cause)
    | .ok () => writeCategories host o format categories

/-- Runs with options. An unknown format ends the run before anything is read. -/
def withOptions (host : Host m) (o : Options) : ExceptT Failure m Unit :=
  match Format.ofName o.format with
  | .error fault => throw (.format fault)
  | .ok format =>
    if o.functions = [] then catalogMode host o format else functionMode host o format

def reportAll (host : Host m) : List Text → m Unit
  | [] => pure ()
  | l :: ls => do
    host.report l
    reportAll host ls

/-- Runs with arguments and environment. The exit status is 0 after a run or the help, 1 after a
failed run, and 2 when the arguments are wrong. -/
def program (host : Host m) (args : List Text) (env : Text → Option Text) : m Nat := do
  match Options.parse args env with
  | .error .help =>
    host.print (Help.text env)
    return 0
  | .error (.usage fault) =>
    host.report (fault.message.takeWhile (· ≠ '\n'))
    return 2
  | .ok o =>
    match ← (withOptions host o).run with
    | .ok () => return 0
    | .error failure =>
      reportAll host failure.report
      return 1

end Run

end WikiStubs
