import WikiStubs.Proofs.Command.Assembly
import WikiStubs.Proofs.Command.Online

/-!
# What a run with names leaves

A run with names of functions assembles them in order and then prints all records at once, so
nothing is printed when a function stops the run. It changes no file.

* `Run.functions_printed`: what is printed and reported, with and without keeping going, and which
  pages are asked for before a run stops.
-/
namespace WikiStubs.Run

/-! ## Runs with names -/

/-- What is printed when the functions have been assembled. -/
def printedOf (format : Format) : Except Failure (List Record) → Text
  | .ok records => format.render functionsCategory records
  | .error _ => []

section
variable [PatternCompiler] {web : Web} {tree : FileTree} {o : Options} {format : Format}
  {events : List Event} {result : Except Failure (List Record)}

theorem run_functionMode
    (h : AssemblesAll (o.store.pages web tree) o.keepGoing o.functions events result) :
    (functionMode (Machine.online web) o format).run.run (Machine.start tree) =
      (result.map fun _ => (),
        ⟨tree, printedOf format result, Machine.logOf o.store o.threshold events⟩) := by
  have hassemble := run_assembleAll (Machine.serves_online web tree o.store o.threshold) h
    (s := Machine.start tree) rfl
  rw [Machine.foldl_noted] at hassemble
  cases result with
  | error failure =>
    rw [functionMode, run_bind_error hassemble]
    rfl
  | ok records =>
    rw [functionMode, run_bind_ok hassemble]
    rfl

theorem runOnline_functions {args : List Text} {env : Text → Option Text}
    (hparse : Options.parse args env = .ok o) (hnames : o.functions ≠ [])
    (hformat : Format.ofName o.format = .ok format)
    (h : AssemblesAll (o.store.pages web tree) o.keepGoing o.functions events result) :
    Machine.runOnline web tree args env =
      (status (result.map fun _ => ()), ⟨tree, printedOf format result,
        Machine.logOf o.store o.threshold events ++ reportOf (result.map fun _ => ())⟩) := by
  refine runOnline_eq hparse ((congrArg (StateT.run · _) ?_).trans (run_functionMode h))
  rw [withOptions, hformat]
  simp only [hnames, if_false]

/-! ## What is printed -/

/-- What is noted while the named functions are assembled over pages. -/
def functionEvents (pages : Text → Except Fault Text) (o : Options) : List Event :=
  (Noting.fromStart (assembleAll (.ofPages pages) o.keepGoing o.functions).run).2

/-- What a run with names leaves, with the pages that it works on: the exit status and the machine
after it. -/
structure PrintsFunctions (pages : Text → Except Fault Text) (o : Options) (format : Format)
    (tree : FileTree) (left : Nat × Machine) : Prop where
  unchanged : left.2.tree = tree
  /-- The records are printed in the order of the names, as often as they are named. -/
  printed : (o.keepGoing = true ∨ ∀ f ∈ o.functions, ∃ r, HasRecord pages f r) →
    left.1 = 0 ∧ left.2.printed = format.render functionsCategory (records pages o.functions) ∧
    Event.pagesRead (functionEvents pages o) = o.functions.flatMap (pagesFor pages) ∧
    left.2.notices = Machine.logOf o.store o.threshold (functionEvents pages o)
  /-- The first function without a record is reported, and no page is asked for on behalf of a
  function after it. -/
  stopped : o.keepGoing = false → (∃ f ∈ o.functions, ¬ ∃ r, HasRecord pages f r) →
    left.1 = 1 ∧ left.2.printed = [] ∧
    ∃ before f fault, FirstWithout pages o.functions before f fault ∧
      Event.pagesRead (functionEvents pages o) = (before ++ [f]).flatMap (pagesFor pages) ∧
      left.2.notices = Machine.logOf o.store o.threshold (functionEvents pages o) ++
        (Failure.assembling f fault).report.map .reported

theorem printsFunctions {args : List Text} {env : Text → Option Text}
    (hparse : Options.parse args env = .ok o) (hnames : o.functions ≠ [])
    (hformat : Format.ofName o.format = .ok format) :
    PrintsFunctions (o.store.pages web tree) o format tree
      (Machine.runOnline web tree args env) := by
  obtain ⟨events, result, h⟩ :=
    exists_assemblesAll (o.store.pages web tree) o.keepGoing o.functions
  have hevents : functionEvents (o.store.pages web tree) o = events := by
    rw [functionEvents, h.fromStart_eq]
  have hok := h.isOk_iff
  rw [runOnline_functions hparse hnames hformat h]
  cases result with
  | ok rs =>
    refine ⟨rfl, fun _ => ⟨rfl, ?_, hevents ▸ h.pagesRead_of_ok, ?_⟩,
      fun hstop ⟨f, hf, hnone⟩ => ?_⟩
    · rw [printedOf, h.eq_records]
    · rw [hevents]
      exact List.append_nil _
    · rcases hok.1 rfl with hkeeps | hall
      · exact absurd hkeeps (hstop ▸ Bool.false_ne_true)
      · exact absurd (hall f hf) hnone
  | error failure =>
    refine ⟨rfl, fun hall => absurd (hok.2 hall) Bool.false_ne_true, fun _ _ => ⟨rfl, rfl, ?_⟩⟩
    obtain ⟨-, before, f, fault, hfirst, rfl, hasked⟩ := h.stopped_at
    exact ⟨before, f, fault, hfirst, hevents ▸ hasked, hevents ▸ rfl⟩

/-- **Runs with names.** A run that keeps going prints the records of all named functions that have
one. When all have one, a run that does not keep going ends in the same status and prints the same;
when one has none, it prints nothing and reports the first of them. -/
theorem functions_printed {args : List Text} {env : Text → Option Text}
    (hparse : Options.parse args env = .ok o) (hnames : o.functions ≠ [])
    (hformat : Format.ofName o.format = .ok format) :
    PrintsFunctions (o.store.pages web tree) o format tree (Machine.runOnline web tree args env) ∧
    ((∀ f ∈ o.functions, ∃ r, HasRecord (o.store.pages web tree) f r) →
      ∀ args' env', Options.parse args' env' = .ok { o with keepGoing := true } →
        (Machine.runOnline web tree args env).1 = (Machine.runOnline web tree args' env').1 ∧
        (Machine.runOnline web tree args env).2.printed =
          (Machine.runOnline web tree args' env').2.printed) := by
  have hrun := @printsFunctions _ web tree o format args env hparse hnames hformat
  refine ⟨hrun, fun hall args' env' hparse' => ?_⟩
  obtain ⟨hstatus, hprinted, -⟩ := hrun.printed (.inr hall)
  obtain ⟨hstatus', hprinted', -⟩ := (printsFunctions hparse' hnames hformat).printed (.inl rfl)
  exact ⟨hstatus.trans hstatus'.symm, hprinted.trans hprinted'.symm⟩

end

/-! ### A function without a page -/

/-- Three functions, the second of which has no page. -/
def namedArgs : List Text := ["--wiki-dir=.", "f", "h", "g"]

def namedOptions : Options :=
  ⟨["f", "h", "g"], "library", "lua", Address.defaultBase, some ".", false, false, false⟩

theorem functions_printed_second :
    Options.parse namedArgs (fun _ => none) = .ok namedOptions ∧ namedOptions.functions ≠ [] ∧
    Format.ofName namedOptions.format = .ok .lua ∧
    (Machine.run (twoFunctions []) namedArgs fun _ => none).1 = 1 ∧
    (Machine.run (twoFunctions []) namedArgs fun _ => none).2.printed = [] := by
  have hparse : Options.parse namedArgs (fun _ => none) = .ok namedOptions := by rfl
  have hformat : Format.ofName namedOptions.format = .ok .lua := by decide
  have hnone : ¬ ∃ r, HasRecord (namedOptions.store.pages .refusing (twoFunctions [])) "h" r := by
    rw [exists_hasRecord_iff]
    decide +kernel
  have hrun := (@functions_printed _ .refusing (twoFunctions []) namedOptions .lua namedArgs
    (fun _ => none) hparse (by decide) hformat).1
  obtain ⟨hstatus, hprinted, -⟩ := hrun.stopped rfl ⟨"h", by decide, hnone⟩
  exact ⟨hparse, by decide, hformat, hstatus, hprinted⟩

end WikiStubs.Run
