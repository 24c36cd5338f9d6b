import WikiStubs.Fault

/-!
# File trees

Files and directories by place. A place is the list of names from the root; the root always is a
directory. A path is a text with slashes between its names. It is kept as written; only walking
it, from the working directory or from the root, looks at its components.

* `Path.join` puts a name under a directory, `Path.components` are the names to walk, and
  `Path.parent` those of the enclosing directory.
* `FileTree.read`, `FileTree.write` and `FileTree.makeDirs` are the operations of a run, with the
  fault that each may meet.
* `FileTree.changes` lists what is new or different, relative to the working directory.
-/
namespace WikiStubs

/-! ## Paths -/

namespace Path

def isAbsolute (path : Text) : Bool := path.head? = some '/'

/-- The path of a name under a directory. An absolute name stands for itself. -/
def join (dir name : Text) : Text :=
  if isAbsolute name then name
  else if dir = [] ∨ dir.getLast? = some '/' then dir ++ name
  else dir ++ '/' :: name

/-- The path of a file under a directory, from its base name and extension. -/
def file (dir base extension : Text) : Text := join dir (base ++ '.' :: extension)

def here : Text := "."

def up : Text := ".."

/-- The names to walk, in order. Repeated slashes count once. -/
def components (path : Text) : List Text := (path.splitOn '/').filter (· ≠ [])

/-- Drops the names at the end that stand for the directory itself. -/
def dropHere (names : List Text) : List Text := (names.reverse.dropWhile (· = here)).reverse

/-- The names of the enclosing directory, as a path is written: the last name is left out, even
if it leads upwards. -/
def parent (names : List Text) : List Text := dropHere (dropHere names).dropLast

theorem length_dropHere_le (names : List Text) : (dropHere names).length ≤ names.length := by
  have := (List.dropWhile_sublist (l := names.reverse) (· = here)).length_le
  simpa [dropHere] using this

theorem length_parent_lt {names : List Text} (h : names ≠ []) :
    (parent names).length < names.length := by
  have h1 := length_dropHere_le (dropHere names).dropLast
  have h2 := length_dropHere_le names
  have h3 : 0 < names.length := List.length_pos_iff.2 h
  simp only [List.length_dropLast] at h1
  simp only [parent]
  omega

end Path

/-! ## Trees -/

/-- What stands at a place. A file whose bytes are not text has no text. -/
inductive Node where
  | file (text : Option Text)
  | directory
  deriving DecidableEq

/-- The names from the root. -/
abbrev Place := List Text

/-- Files and directories by place, and the working directory. -/
structure FileTree where
  entries : List (Place × Node)
  cwd : Place

namespace FileTree

/-- The longest name that a directory takes, in bytes. -/
def maxName : Nat := 255

/-- The shortest path that is too long, in bytes. -/
def pathLimit : Nat := 4096

def find? (place : Place) : List (Place × Node) → Option Node
  | [] => none
  | (p, n) :: es => if p = place then some n else find? place es

def node? (tree : FileTree) (place : Place) : Option Node :=
  if place = [] then some .directory else find? place tree.entries

def put (place : Place) (node : Node) : List (Place × Node) → List (Place × Node)
  | [] => [(place, node)]
  | (p, n) :: es => if p = place then (p, node) :: es else (p, n) :: put place node es

def set (tree : FileTree) (place : Place) (node : Node) : FileTree :=
  { tree with entries := put place node tree.entries }

/-! ## Walking -/

def origin (tree : FileTree) (path : Text) : Place :=
  if Path.isAbsolute path then [] else tree.cwd

/-- Whether a path can be walked at all. -/
def admissible (path : Text) : Except FileFault Unit :=
  if '\x00' ∈ path then .error .nulInPath
  else if pathLimit ≤ path.byteSize then .error .nameTooLong
  else .ok ()

/-- What a name leads to from a directory. -/
def child? (tree : FileTree) (dir : Place) (name : Text) : Except FileFault (Place × Option Node) :=
  if name = Path.here then .ok (dir, some .directory)
  else if name = Path.up then .ok (dir.dropLast, some .directory)
  else if maxName < name.byteSize then .error .nameTooLong
  else .ok (dir ++ [name], tree.node? (dir ++ [name]))

/-- The directory that names lead to. -/
def walk (tree : FileTree) (dir : Place) : List Text → Except FileFault Place
  | [] => .ok dir
  | name :: names => do
    match ← tree.child? dir name with
    | (_, none) => .error .missing
    | (_, some (.file _)) => .error .notDirectory
    | (place, some .directory) => tree.walk place names

/-- The place that names lead to, and what stands there; all but the last name must lead to
directories. -/
def locate (tree : FileTree) (dir : Place) (names : List Text) :
    Except FileFault (Place × Option Node) :=
  match names.getLast? with
  | none => .ok (dir, some .directory)
  | some name => do tree.child? (← tree.walk dir names.dropLast) name

/-! ## Operations -/

def read (tree : FileTree) (path : Text) : Except FileFault Text := do
  admissible path
  match ← tree.locate (tree.origin path) (Path.components path) with
  | (_, none) => .error .missing
  | (_, some .directory) => .error .isDirectory
  | (_, some (.file none)) => .error .notText
  | (_, some (.file (some text))) => .ok text

def write (tree : FileTree) (path text : Text) : Except FileFault FileTree := do
  admissible path
  match ← tree.locate (tree.origin path) (Path.components path) with
  | (_, some .directory) => .error .isDirectory
  | (place, _) => .ok (tree.set place (.file (some text)))

/-- The tree after a directory is made; one that exists already is a fault. -/
def makeDir (tree : FileTree) (dir : Place) (names : List Text) : Except FileFault FileTree := do
  match ← tree.locate dir names with
  | (place, none) => .ok (tree.set place .directory)
  | (_, some _) => .error .exists

def isDir (tree : FileTree) (dir : Place) (names : List Text) : Bool :=
  match tree.walk dir names with
  | .ok _ => true
  | .error _ => false

/-- The tree after a directory is made, unless it is there already. -/
def ensureDir (tree : FileTree) (dir : Place) (names : List Text) :
    FileTree × Except FileFault Unit :=
  match tree.makeDir dir names with
  | .ok tree => (tree, .ok ())
  | .error e =>
    if e = .exists ∧ tree.isDir dir names then (tree, .ok ()) else (tree, .error e)

/-- The tree after a directory is made and, if need be, those that enclose it. What has been made
stays made when a fault is met. -/
def ensureDirs (tree : FileTree) (dir : Place) (names : List Text) :
    FileTree × Except FileFault Unit :=
  if _h : names = [] then (tree, .ok ())
  else match tree.ensureDir dir names with
    | (_, .error .missing) =>
      match tree.ensureDirs dir (Path.parent names) with
      | (tree, .ok ()) => tree.ensureDir dir names
      | (tree, .error e) => (tree, .error e)
    | (tree, r) => (tree, r)
termination_by names.length
decreasing_by exact Path.length_parent_lt _h

def makeDirs (tree : FileTree) (path : Text) : FileTree × Except FileFault Unit :=
  match admissible path with
  | .ok () => tree.ensureDirs (tree.origin path) (Path.components path)
  | .error e => (tree, .error e)

/-! ## Building and comparing -/

def workName : Text := "work"

/-- A tree with nothing but an empty working directory. -/
def fresh : FileTree := ⟨[([workName], .directory)], [workName]⟩

/-- Adds a node at a path from the working directory, with the directories that the path goes
through. -/
def plant (tree : FileTree) (path : Text) (node : Node) : FileTree :=
  let names := Path.components path
  let tree := (tree.ensureDirs tree.cwd (Path.parent names)).1
  match tree.locate tree.cwd names, node with
  | .ok (_, some .directory), _ => tree
  | .ok (place, _), node => tree.set place node
  | .error _, _ => tree

/-- The names from the working directory to a place inside it. -/
def relative? : Place → Place → Option Place
  | [], place => if place = [] then none else some place
  | _ :: _, [] => none
  | d :: dir, p :: place => if d = p then relative? dir place else none

/-- What is new or different after a run, by path from the working directory. -/
def changes (before now : FileTree) : List (Text × Node) :=
  now.entries.filterMap fun (place, node) =>
    if before.node? place = some node then none
    else (relative? before.cwd place).map fun names => (List.intercalate ['/'] names, node)

end FileTree

end WikiStubs
