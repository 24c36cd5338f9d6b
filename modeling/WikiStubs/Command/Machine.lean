import WikiStubs.Command.Run
import WikiStubs.FileTree

/-!
# Runs on a file tree

The host whose files are those of a file tree, and which keeps what is written to its streams.
Log entries and reports share the standard error. An entry may hold line ends; what stands on its
further lines can no longer be told from a report.

* `Machine.logged` are the lines that begin log entries, `Machine.reported` all other lines of
  the standard error.
* `Machine.run` is a run from arguments, environment and files to exit status and what it leaves.
-/
namespace WikiStubs

/-- What is written to the standard error: a log entry or a line of a report. -/
inductive Notice where
  | logged (entry : Text)
  | reported (line : Text)

namespace Notice

/-- The line that begins a log entry. -/
def logLine? : Notice → Option Text
  | logged entry => (Text.lines (entry ++ ['\n'])).head?
  | reported _ => none

def otherLines : Notice → List Text
  | logged entry => (Text.lines (entry ++ ['\n'])).tail
  | reported line => Text.lines (line ++ ['\n'])

end Notice

structure Machine where
  tree : FileTree
  printed : Text
  notices : List Notice

namespace Machine

def start (tree : FileTree) : Machine := ⟨tree, [], []⟩

/-- The lines of the standard error that begin log entries. -/
def logged (s : Machine) : List Text := s.notices.filterMap (·.logLine?)

def reported (s : Machine) : List Text := s.notices.flatMap (·.otherLines)

def notify (n : Notice) : StateM Machine Unit :=
  fun s => ((), { s with notices := s.notices ++ [n] })

def host : Host (StateM Machine) where
  readFile path := fun s => (s.tree.read path, s)
  transfer address := fun s => (.error (Address.refusal address), s)
  makeDirs path := fun s =>
    match s.tree.makeDirs path with
    | (tree, r) => (r, { s with tree := tree })
  writeFile path text := fun s =>
    match s.tree.write path text with
    | .ok tree => (.ok (), { s with tree := tree })
    | .error e => (.error e, s)
  print t := fun s => ((), { s with printed := s.printed ++ t })
  log entry := notify (.logged entry)
  report line := notify (.reported line)

/-- A run of the program on a tree: the exit status and the machine after it. -/
def run [PatternCompiler] (tree : FileTree) (args : List Text) (env : Text → Option Text) :
    Nat × Machine :=
  (Run.program host args env).run (start tree)

end Machine
end WikiStubs
