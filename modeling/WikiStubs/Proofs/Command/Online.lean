import WikiStubs.Command.Machine
import WikiStubs.Proofs.FileTree.Changes
import WikiStubs.Proofs.Resolve.Outcome

/-!
# Runs over a tree and a web

Pages are files of a tree or stand at addresses. What stands at an address is the answer of a web,
which may be any function; the web of `Machine.host` refuses every address (`Machine.run_eq`). On
either the pages of a store are a plain function (`PageStore.pages`), and reading them changes no
file (`Machine.serves_online`).

* `Run.runOnline_eq`: exit status and report follow from how the run with the options ends.
* `pages_eq_ok_iff`: a run that makes no directory and writes only to places where no page can be
  leaves every page as it is.
-/
namespace WikiStubs

/-- The text at each address, or the causes why it cannot be had. -/
abbrev Web := Text → Except (List Text) Text

/-- The web that is not at hand. -/
def Web.refusing : Web := fun address => .error (Address.refusal address)

/-! ## Pages of a store -/

/-- The pages that the files of a directory are. -/
def FileTree.pages (tree : FileTree) (dir page : Text) : Except Fault Text :=
  match tree.read ((PageStore.directory dir).location page) with
  | .ok t => .ok t
  | .error cause => .error (.unreadable ((PageStore.directory dir).location page) cause)

/-- The pages of a store. -/
def PageStore.pages (store : PageStore) (web : Web) (tree : FileTree) (page : Text) :
    Except Fault Text :=
  match store with
  | .directory dir => tree.pages dir page
  | .site base =>
    match web ((PageStore.site base).location page) with
    | .ok t => .ok t
    | .error causes => .error (.untransferred page causes)

namespace Machine

/-- The operations on a machine with a web behind the addresses. -/
def online (web : Web) : Host (StateM Machine) :=
  { host with transfer := fun address s => (web address, s) }

/-- A run of the program on a tree and a web: the exit status and the machine after it. -/
def runOnline [PatternCompiler] (web : Web) (tree : FileTree) (args : List Text)
    (env : Text → Option Text) : Nat × Machine :=
  (Run.program (online web) args env).run (start tree)

theorem run_eq [PatternCompiler] (tree : FileTree) (args : List Text) (env : Text → Option Text) :
    run tree args env = runOnline .refusing tree args env := rfl

/-! ## Notes -/

/-- The machine after an event, which may be logged. -/
def noted (store : PageStore) (threshold : Level) (s : Machine) (e : Event) : Machine :=
  if e.level.rank ≤ threshold.rank then
    { s with notices := s.notices ++ [.logged (e.logLine store)] }
  else s

def logOf (store : PageStore) (threshold : Level) (events : List Event) : List Notice :=
  (events.filter fun e => e.level.rank ≤ threshold.rank).map fun e => .logged (e.logLine store)

variable {store : PageStore} {threshold : Level}

theorem logOf_append (es es' : List Event) :
    logOf store threshold (es ++ es') = logOf store threshold es ++ logOf store threshold es' := by
  rw [logOf, List.filter_append, List.map_append, logOf, logOf]

theorem noted_eq (s : Machine) (e : Event) :
    s.noted store threshold e = { s with notices := s.notices ++ logOf store threshold [e] } := by
  rw [noted, logOf, List.filter_singleton]
  split
  · next h => simp [h]
  · next h => simp [h]

/-- Events change nothing but the log. -/
theorem foldl_noted (events : List Event) (s : Machine) :
    events.foldl (noted store threshold) s =
      { s with notices := s.notices ++ logOf store threshold events } := by
  induction events generalizing s with
  | nil => simp [logOf]
  | cons e events ih =>
    have hlog : logOf store threshold (e :: events) =
        logOf store threshold [e] ++ logOf store threshold events := logOf_append [e] events
    rw [List.foldl_cons, ih, noted_eq, hlog, List.append_assoc]

theorem tree_noted (store : PageStore) (threshold : Level) (s : Machine) (e : Event) :
    (s.noted store threshold e).tree = s.tree := by
  rw [noted_eq]

/-- Neither reading a page nor noting an event changes a file. -/
theorem serves_online (web : Web) (tree : FileTree) (store : PageStore) (threshold : Level) :
    Serves ((online web).pages store threshold) (store.pages web tree) (·.tree = tree)
      (noted store threshold) where
  read page s hs := by
    subst hs
    cases store with
    | directory dir =>
      have hread : ((online web).readFile ((PageStore.directory dir).location page)).run s =
        (s.tree.read ((PageStore.directory dir).location page), s) := rfl
      simp only [Host.pages, Host.readPage]
      rw [StateT.run_bind, hread, PageStore.pages, FileTree.pages]
      cases s.tree.read ((PageStore.directory dir).location page) <;> rfl
    | site base =>
      have htransfer : ((online web).transfer ((PageStore.site base).location page)).run s =
        (web ((PageStore.site base).location page), s) := rfl
      simp only [Host.pages, Host.readPage]
      rw [StateT.run_bind, htransfer, PageStore.pages]
      cases web ((PageStore.site base).location page) <;> rfl
  note e s hs := by
    simp only [Host.pages, noted]
    split <;> rfl
  keeps e s hs := (tree_noted ..).trans hs

end Machine

/-! ## Places of pages -/

namespace Run

/-- The place of a page, if there is one. -/
def IsPagePlace (place : Place) : Prop := ∃ d stem, place = d ++ [stem ++ '.' :: "md"]

theorem isPagePlace_location (cwd : Place) (dir page : Text) :
    IsPagePlace (FileTree.placeOf cwd ((PageStore.directory dir).location page)) :=
  FileTree.exists_placeOf_file (by decide) ⟨'m', by decide, by decide⟩ cwd dir page

variable {tree tree' : FileTree} {store : PageStore} {web : Web} {page t : Text}

theorem read_of_pages_eq_ok {dir : Text} : tree.pages dir page = .ok t ↔
    tree.read ((PageStore.directory dir).location page) = .ok t := by
  rw [FileTree.pages]
  cases tree.read ((PageStore.directory dir).location page) <;> simp

theorem pages_mono {dir : Text} (h : FileTree.Keeps IsPagePlace tree tree')
    (page t : Text) (hpage : tree.pages dir page = .ok t) : tree'.pages dir page = .ok t :=
  read_of_pages_eq_ok.2 (h.read (isPagePlace_location ..) (read_of_pages_eq_ok.1 hpage))

theorem pages_of_wikiDir {o : Options} {dir : Text} (hdir : o.wikiDir = some dir) (web : Web)
    (tree : FileTree) : o.store.pages web tree = tree.pages dir := by
  rw [Options.store, hdir]
  rfl

/-- A page that is there stays as it is when its place is kept. -/
theorem storePages_mono (h : FileTree.Keeps IsPagePlace tree tree')
    (hpage : store.pages web tree page = .ok t) : store.pages web tree' page = .ok t := by
  cases store with
  | directory dir => exact pages_mono h page t hpage
  | site base => exact hpage

/-- No page comes or goes when no directory is made and no file written where a page can be. -/
theorem pages_eq_ok_iff {Files : Place → Prop}
    (h : FileTree.Confined (fun _ => False) Files tree tree')
    (hfiles : ∀ p, Files p → ¬ IsPagePlace p) :
    store.pages web tree' page = .ok t ↔ store.pages web tree page = .ok t :=
  ⟨storePages_mono (h.keeps_back hfiles), storePages_mono (h.keeps hfiles)⟩

/-- Nor does a record. -/
theorem hasRecord_iff_of_confined [PatternCompiler] {Files : Place → Prop}
    (h : FileTree.Confined (fun _ => False) Files tree tree')
    (hfiles : ∀ p, Files p → ¬ IsPagePlace p) {f : Text} {r : Record} :
    HasRecord (store.pages web tree) f r ↔ HasRecord (store.pages web tree') f r :=
  ⟨HasRecord.mono fun _ _ => (pages_eq_ok_iff h hfiles).2,
    HasRecord.mono fun _ _ => (pages_eq_ok_iff h hfiles).1⟩

/-! ## How a run ends -/

/-- The exit status of a run that ends so. -/
def status : Except Failure Unit → Nat
  | .ok () => 0
  | .error _ => 1

def reportOf : Except Failure Unit → List Notice
  | .ok () => []
  | .error failure => failure.report.map .reported

theorem run_reportAll (web : Web) (lines : List Text) (s : Machine) :
    (reportAll (Machine.online web) lines).run s =
      ((), { s with notices := s.notices ++ lines.map .reported }) := by
  induction lines generalizing s with
  | nil => simp [reportAll]; rfl
  | cons line lines ih =>
    have hreport : ((Machine.online web).report line).run s =
        ((), { s with notices := s.notices ++ [.reported line] }) := rfl
    rw [reportAll, StateT.run_bind, hreport]
    refine (ih _).trans ?_
    simp

/-- A run with the options that the arguments give ends in its exit status, after its report. -/
theorem runOnline_eq [PatternCompiler] {args : List Text} {env : Text → Option Text} {o : Options}
    {s : Machine} {result : Except Failure Unit} (hparse : Options.parse args env = .ok o)
    (h : (withOptions (Machine.online web) o).run.run (Machine.start tree) = (result, s)) :
    Machine.runOnline web tree args env =
      (status result, { s with notices := s.notices ++ reportOf result }) := by
  rw [Machine.runOnline, program, hparse]
  simp only
  rw [StateT.run_bind, h]
  cases result with
  | ok _ =>
    rw [reportOf, List.append_nil]
    rfl
  | error failure =>
    change ((reportAll (Machine.online web) failure.report >>= fun _ => pure 1).run s) = _
    rw [StateT.run_bind, run_reportAll]
    rfl

/-! ### A small tree -/

/-- A working directory with the pages of two functions and a catalog. -/
def twoFunctions (catalog : Text) : FileTree where
  entries := [(["API.md"], .file (some catalog)),
    (["f.md"], .file (some "# f\n`f()`\n## Description\nD")),
    (["g.md"], .file (some "# g\n`g()`\n## Description\nD"))]
  cwd := []

/-- A catalog of two categories. -/
def apart : Text := "# A\n## Functions\n### D\n[f]\n### E\n[g]\n"

/-- The pages are in the working directory, and the files go to a directory in it. -/
def outArgs : List Text := ["-oout", "--wiki-dir=."]

def outOptions : Options :=
  ⟨[], "out", "lua", Address.defaultBase, some ".", false, false, false⟩

def runOut [PatternCompiler] (tree : FileTree) : Nat × Machine :=
  Machine.run tree outArgs fun _ => none

end Run
end WikiStubs
