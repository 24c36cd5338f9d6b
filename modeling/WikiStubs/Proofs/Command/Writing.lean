import WikiStubs.Proofs.Command.Assembly
import WikiStubs.Proofs.Command.Online

/-!
# Writing a catalog

A catalog run asks for the catalog, makes the output directory and writes the files of the
categories in order, each after its functions have been assembled over the pages of that moment.
`WritesCategory`, `WritesCategories` and `RunsCatalog` list the ways these can go, with what is
noted, how they end and the tree that they leave. The run goes the same way (`run_catalogMode`).

* `runOnline_catalog`: what a whole run of the program leaves.
* `WritesCategories.confined`: only the files of the listed categories are written.
* `not_isPagePlace`: no such file stands where a page can be.
-/
namespace WikiStubs

/-- The machine after events and changes of files. -/
def Machine.after (s : Machine) (o : Options) (events : List Event) (tree : FileTree) : Machine :=
  ⟨tree, s.printed, s.notices ++ logOf o.store o.threshold events⟩

theorem Machine.foldl_noted_eq_after (s : Machine) (o : Options) (events : List Event) :
    events.foldl (noted o.store o.threshold) s = s.after o events s.tree :=
  foldl_noted events s

theorem Machine.noted_eq_after (s : Machine) (o : Options) (e : Event) :
    s.noted o.store o.threshold e = s.after o [e] s.tree :=
  noted_eq s e

theorem Machine.after_after (s : Machine) (o : Options) (es es' : List Event)
    (tree tree' : FileTree) :
    (s.after o es tree).after o es' tree' = s.after o (es ++ es') tree' := by
  rw [after, after, after, logOf_append, List.append_assoc]

namespace Run

def categoryPath (o : Options) (format : Format) (c : Category) : Text :=
  Path.file o.output c.name format.extension

/-- The categories that the page of the catalog lists. -/
def listed (o : Options) (web : Web) (tree : FileTree) : Except Fault (List Category) :=
  (o.store.pages web tree Catalog.page).bind Catalog.ofPage

variable {web : Web} {o : Options} {format : Format} {tree tree' : FileTree} {c : Category}
  {cs : List Category} {events : List Event} {result : Except Failure Unit}

/-! ## Places of files -/

def outputPlace (o : Options) (format : Format) (cwd : Place) (name : Text) : Place :=
  FileTree.placeOf cwd o.output ++ [name ++ '.' :: format.extension]

theorem plain_extension (format : Format) :
    '/' ∉ format.extension ∧ ∃ c ∈ format.extension, c ≠ '.' := by
  cases format <;> simp [Format.extension]

/-- A category whose name has no slash has its file in the output directory. -/
theorem outputPlace_eq (hslash : '/' ∉ c.name) (cwd : Place) :
    FileTree.placeOf cwd (categoryPath o format c) = outputPlace o format cwd c.name := by
  obtain ⟨hplain, hproper⟩ := plain_extension format
  exact FileTree.placeOf_file hplain hproper hslash cwd o.output

theorem outputPlace_ne_nil (cwd : Place) (name : Text) : outputPlace o format cwd name ≠ [] :=
  List.append_ne_nil_of_right_ne_nil _ (List.cons_ne_nil _ _)

theorem outputPlace_injective (o : Options) (format : Format) (cwd : Place) :
    Function.Injective (outputPlace o format cwd) := fun _ _ h =>
  List.append_cancel_right (List.singleton_inj.1 (List.append_cancel_left h))

theorem not_isPagePlace (cwd : Place) (o : Options) (format : Format) (c : Category) :
    ¬ IsPagePlace (FileTree.placeOf cwd (categoryPath o format c)) := by
  rintro ⟨d, stem, h⟩
  obtain ⟨hplain, hproper⟩ := plain_extension format
  obtain ⟨d', stem', h'⟩ := FileTree.exists_placeOf_file hplain hproper cwd o.output c.name
  rw [categoryPath, h'] at h
  have hlast := congrArg List.getLast? (List.singleton_inj.1 (List.append_inj' h rfl).2)
  cases format <;> simp [Format.extension] at hlast

/-! ## Single operations -/

theorem run_writeFile_ok (web : Web) {s : Machine} {path text : Text}
    (h : s.tree.write path text = .ok tree) :
    ((Machine.online web).writeFile path text).run s = (.ok (), { s with tree := tree }) := by
  simp only [Machine.online, Machine.host, StateT.run, h]

theorem run_writeFile_error (web : Web) {s : Machine} {path text : Text} {cause : FileFault}
    (h : s.tree.write path text = .error cause) :
    ((Machine.online web).writeFile path text).run s = (.error cause, s) := by
  simp only [Machine.online, Machine.host, StateT.run, h]

theorem run_list {σ : Type} {src : PageSource (StateM σ)} {pages : Text → Except Fault Text}
    {Inv : σ → Prop} {step : σ → Event → σ} {s : σ} (h : Serves src pages Inv step) (hs : Inv s) :
    (Catalog.list src).run.run s =
      ((pages Catalog.page).bind Catalog.ofPage, step s (.reading Catalog.page)) := by
  have hfetch := h.run_fetch Catalog.page hs
  cases hpage : pages Catalog.page with
  | error e =>
    rw [hpage] at hfetch
    rw [Catalog.list, run_bind_error hfetch]
    rfl
  | ok t =>
    rw [hpage] at hfetch
    rw [Catalog.list, run_bind_ok hfetch, Except.bind]
    cases Catalog.ofPage t <;> rfl

theorem run_makeDirs (web : Web) (s : Machine) (o : Options) (events : List Event)
    (tree : FileTree) (path : Text) :
    ((Machine.online web).makeDirs path).run (s.after o events tree) =
      ((tree.makeDirs path).2, s.after o events (tree.makeDirs path).1) := rfl

/-! ## One category -/

section
variable [PatternCompiler]

/-- What is noted while the file of a category is written, how that ends, and the tree after it. -/
inductive WritesCategory (web : Web) (o : Options) (format : Format) (tree : FileTree)
    (c : Category) : List Event → Except Failure Unit → FileTree → Prop where
  /-- A function of the category has no record. -/
  | unassembled {events : List Event} {failure : Failure}
      (assembled : AssemblesAll (o.store.pages web tree) o.keepGoing c.functions events
        (.error failure)) :
      WritesCategory web o format tree c events (.error failure) tree
  /-- The file cannot be written. -/
  | unwritten {events : List Event} {records : List Record} {cause : FileFault}
      (assembled : AssemblesAll (o.store.pages web tree) o.keepGoing c.functions events
        (.ok records))
      (refused : tree.write (categoryPath o format c) (format.render c.name records) =
        .error cause) :
      WritesCategory web o format tree c events
        (.error (.writing (categoryPath o format c) cause)) tree
  /-- The file is written. -/
  | written {events : List Event} {records : List Record} {tree' : FileTree}
      (assembled : AssemblesAll (o.store.pages web tree) o.keepGoing c.functions events
        (.ok records))
      (written : tree.write (categoryPath o format c) (format.render c.name records) =
        .ok tree') :
      WritesCategory web o format tree c
        (events ++ [.wrote c.name records.length (categoryPath o format c)]) (.ok ()) tree'

theorem exists_writesCategory (web : Web) (o : Options) (format : Format) (tree : FileTree)
    (c : Category) :
    ∃ events result tree', WritesCategory web o format tree c events result tree' := by
  obtain ⟨events, result, assembled⟩ :=
    exists_assemblesAll (o.store.pages web tree) o.keepGoing c.functions
  cases result with
  | error failure => exact ⟨_, _, _, .unassembled assembled⟩
  | ok records =>
    cases hwrite : tree.write (categoryPath o format c) (format.render c.name records) with
    | error cause => exact ⟨_, _, _, .unwritten assembled hwrite⟩
    | ok tree' => exact ⟨_, _, _, .written assembled hwrite⟩

theorem run_writeCategory {s : Machine}
    (h : WritesCategory web o format s.tree c events result tree') :
    (writeCategory (Machine.online web) o format c).run.run s =
      (result, s.after o events tree') := by
  have hserves := fun tree => Machine.serves_online web tree o.store o.threshold
  rw [writeCategory]
  dsimp only
  rw [← categoryPath]
  cases h with
  | unassembled assembled =>
    rw [run_bind_error (run_assembleAll (hserves s.tree) assembled rfl),
      Machine.foldl_noted_eq_after]
  | @unwritten events records cause assembled refused =>
    have hwrite := run_writeFile_error web (s := s.after o events s.tree) refused
    rw [run_bind_ok (run_assembleAll (hserves s.tree) assembled rfl),
      Machine.foldl_noted_eq_after, run_bind_ok (run_lift hwrite)]
    rfl
  | @written events records tree' assembled written =>
    have hwrite := run_writeFile_ok web (s := s.after o events s.tree) written
    rw [run_bind_ok (run_assembleAll (hserves s.tree) assembled rfl),
      Machine.foldl_noted_eq_after, run_bind_ok (run_lift hwrite),
      run_lift ((hserves tree').note _ _ rfl), Machine.noted_eq]
    exact congrArg (Prod.mk _) (Machine.after_after s o events _ tree' tree')

theorem WritesCategory.confined {Dirs : Place → Prop}
    (h : WritesCategory web o format tree c events result tree') :
    FileTree.Confined Dirs (· = FileTree.placeOf tree.cwd (categoryPath o format c))
      tree tree' := by
  cases h with
  | unassembled => exact .refl tree
  | unwritten => exact .refl tree
  | written _ written => exact (FileTree.wrote_of_write written).confined

/-- A category that is written has the records over the pages before it. -/
theorem WritesCategory.wrote (h : WritesCategory web o format tree c events (.ok ()) tree') :
    FileTree.Wrote tree (categoryPath o format c)
      (format.render c.name (records (o.store.pages web tree) c.functions)) tree' := by
  cases h with
  | written assembled written =>
    rw [← assembled.eq_records]
    exact FileTree.wrote_of_write written

/-- The functions that have records stay the same when a category is written. -/
theorem WritesCategory.hasRecord_iff (h : WritesCategory web o format tree c events result tree')
    (f : Text) (r : Record) :
    HasRecord (o.store.pages web tree) f r ↔ HasRecord (o.store.pages web tree') f r := by
  refine hasRecord_iff_of_confined h.confined ?_
  rintro p rfl
  exact not_isPagePlace tree.cwd o format c

/-! ## Categories in order -/

/-- What is noted while the files of categories are written, how that ends, and the tree after
it. -/
inductive WritesCategories (web : Web) (o : Options) (format : Format) :
    FileTree → List Category → List Event → Except Failure Unit → FileTree → Prop where
  | nil {tree : FileTree} : WritesCategories web o format tree [] [] (.ok ()) tree
  | cons {tree mid tree' : FileTree} {c : Category} {cs : List Category} {events rest : List Event}
      {result : Except Failure Unit}
      (first : WritesCategory web o format tree c events (.ok ()) mid)
      (others : WritesCategories web o format mid cs rest result tree') :
      WritesCategories web o format tree (c :: cs) (events ++ rest) result tree'
  | failed {tree tree' : FileTree} {c : Category} {cs : List Category} {events : List Event}
      {failure : Failure}
      (first : WritesCategory web o format tree c events (.error failure) tree') :
      WritesCategories web o format tree (c :: cs) events (.error failure) tree'

theorem exists_writesCategories (web : Web) (o : Options) (format : Format) (tree : FileTree)
    (cs : List Category) :
    ∃ events result tree', WritesCategories web o format tree cs events result tree' := by
  induction cs generalizing tree with
  | nil => exact ⟨_, _, _, .nil⟩
  | cons c cs ih =>
    obtain ⟨events, result, mid, first⟩ := exists_writesCategory web o format tree c
    cases result with
    | error failure => exact ⟨_, _, _, .failed first⟩
    | ok u =>
      obtain ⟨rest, result, tree', others⟩ := ih mid
      exact ⟨_, _, _, .cons first others⟩

theorem run_writeCategories {s : Machine}
    (h : WritesCategories web o format s.tree cs events result tree') :
    (writeCategories (Machine.online web) o format cs).run.run s =
      (result, s.after o events tree') := by
  generalize htree : s.tree = tree at h
  induction h generalizing s with
  | nil =>
    subst htree
    rw [Machine.after, Machine.logOf, List.filter_nil, List.map_nil, List.append_nil]
    rfl
  | @cons tree mid tree' c cs events rest result first others ih =>
    subst htree
    rw [writeCategories, run_bind_ok (run_writeCategory first), ih rfl, Machine.after_after]
  | failed first =>
    subst htree
    rw [writeCategories, run_bind_error (run_writeCategory first)]

theorem WritesCategories.confined {Dirs : Place → Prop}
    (h : WritesCategories web o format tree cs events result tree') :
    FileTree.Confined Dirs
      (fun p => ∃ c ∈ cs, p = FileTree.placeOf tree.cwd (categoryPath o format c)) tree tree' := by
  induction h with
  | nil => exact .refl _
  | @cons tree mid tree' c cs events rest result first others ih =>
    have hfirst : FileTree.Confined Dirs _ tree mid := first.confined
    rw [hfirst.cwd] at ih
    refine (hfirst.mono (fun _ => id) ?_).trans (ih.mono (fun _ => id) ?_)
    · exact fun p hp => ⟨c, List.mem_cons_self, hp⟩
    · exact fun p ⟨c', hc', hp⟩ => ⟨c', List.mem_cons_of_mem c hc', hp⟩
  | @failed tree tree' c cs events failure first =>
    exact first.confined.mono (fun _ => id) fun p hp => ⟨c, List.mem_cons_self, hp⟩

theorem WritesCategories.hasRecord_iff
    (h : WritesCategories web o format tree cs events result tree') (f : Text) (r : Record) :
    HasRecord (o.store.pages web tree) f r ↔ HasRecord (o.store.pages web tree') f r := by
  induction h with
  | nil => rfl
  | cons first _ ih => exact (first.hasRecord_iff f r).trans ih
  | failed first => exact first.hasRecord_iff f r

theorem WritesCategories.of_append {before : List Category}
    (h : WritesCategories web o format tree (before ++ cs) events (.ok ()) tree') :
    ∃ mid es es', WritesCategories web o format tree before es (.ok ()) mid ∧
      WritesCategories web o format mid cs es' (.ok ()) tree' := by
  induction before generalizing tree events with
  | nil => exact ⟨tree, [], events, .nil, h⟩
  | cons c before ih =>
    cases h with
    | cons first others =>
      obtain ⟨mid, es, es', hbefore, hcs⟩ := ih others
      exact ⟨mid, _, es', .cons first hbefore, hcs⟩

/-! ## The whole run -/

/-- What is noted in a catalog run, how it ends, and the tree after it. -/
inductive RunsCatalog (web : Web) (o : Options) (format : Format) (tree : FileTree) :
    List Event → Except Failure Unit → FileTree → Prop where
  /-- There is no catalog. -/
  | unlisted {fault : Fault} (listed : listed o web tree = .error fault) :
      RunsCatalog web o format tree [.reading Catalog.page] (.error (.listing fault)) tree
  /-- The output directory cannot be made. -/
  | unmade {categories : List Category} {cause : FileFault}
      (listed : listed o web tree = .ok categories)
      (refused : (tree.makeDirs o.output).2 = .error cause) :
      RunsCatalog web o format tree [.reading Catalog.page]
        (.error (.makingDirectory o.output cause)) (tree.makeDirs o.output).1
  /-- The categories are written as far as possible. -/
  | ran {categories : List Category} {events : List Event} {result : Except Failure Unit}
      {tree' : FileTree} (listed : listed o web tree = .ok categories)
      (made : (tree.makeDirs o.output).2 = .ok ())
      (writes : WritesCategories web o format (tree.makeDirs o.output).1 categories events result
        tree') :
      RunsCatalog web o format tree (.reading Catalog.page :: events) result tree'

theorem exists_runsCatalog (web : Web) (o : Options) (format : Format) (tree : FileTree) :
    ∃ events result tree', RunsCatalog web o format tree events result tree' := by
  cases hlisted : listed o web tree with
  | error fault => exact ⟨_, _, _, .unlisted hlisted⟩
  | ok categories =>
    cases hmade : (tree.makeDirs o.output).2 with
    | error cause => exact ⟨_, _, _, .unmade hlisted hmade⟩
    | ok u =>
      obtain ⟨events, result, tree', writes⟩ :=
        exists_writesCategories web o format (tree.makeDirs o.output).1 categories
      exact ⟨_, _, _, .ran hlisted hmade writes⟩

theorem run_catalogMode {s : Machine} (h : RunsCatalog web o format s.tree events result tree') :
    (catalogMode (Machine.online web) o format).run.run s = (result, s.after o events tree') := by
  have hlist := run_list (Machine.serves_online web s.tree o.store o.threshold) (s := s) rfl
  have hmake := run_makeDirs web s o [.reading Catalog.page] s.tree o.output
  rw [← listed, Machine.noted_eq_after] at hlist
  cases h with
  | unlisted hlisted =>
    rw [hlisted] at hlist
    rw [catalogMode, run_bind_ok (run_lift hlist)]
    rfl
  | unmade hlisted refused =>
    rw [hlisted] at hlist
    rw [refused] at hmake
    rw [catalogMode, run_bind_ok (run_lift hlist)]
    dsimp only
    rw [run_bind_ok (run_lift hmake)]
    rfl
  | ran hlisted made writes =>
    rw [hlisted] at hlist
    rw [made] at hmake
    rw [catalogMode, run_bind_ok (run_lift hlist)]
    dsimp only
    rw [run_bind_ok (run_lift hmake)]
    exact (run_writeCategories writes).trans (congrArg _ (Machine.after_after ..))

/-- Making directories and writing categories happens on the way to the output directory and at
the files of the categories. -/
theorem RunsCatalog.confined (h : RunsCatalog web o format tree events result tree') :
    FileTree.Confined (FileTree.OnWay tree.cwd o.output)
      (fun p => ∃ categories, listed o web tree = .ok categories ∧
        ∃ c ∈ categories, p = FileTree.placeOf tree.cwd (categoryPath o format c)) tree tree' := by
  cases h with
  | unlisted => exact .refl tree
  | unmade => exact FileTree.confined_makeDirs tree o.output
  | @ran categories events result tree' hlisted made writes =>
    refine (FileTree.confined_makeDirs tree o.output).trans (writes.confined.mono (fun _ => id) ?_)
    rw [FileTree.cwd_makeDirs]
    exact fun p hp => ⟨categories, hlisted, hp⟩

/-- What a run without names leaves. -/
theorem runOnline_catalog {args : List Text} {env : Text → Option Text}
    (hparse : Options.parse args env = .ok o) (hnames : o.functions = [])
    (hformat : Format.ofName o.format = .ok format)
    (h : RunsCatalog web o format tree events result tree') :
    Machine.runOnline web tree args env =
      (status result,
        ⟨tree', [], Machine.logOf o.store o.threshold events ++ reportOf result⟩) := by
  have hrun : (withOptions (Machine.online web) o).run.run (Machine.start tree) =
      (result, (Machine.start tree).after o events tree') := by
    rw [withOptions, hformat]
    simp only [hnames, if_true]
    exact run_catalogMode h
  exact runOnline_eq hparse hrun

/-- A run with an unknown format leaves a report only. -/
theorem runOnline_unknown {args : List Text} {env : Text → Option Text} {fault : Fault}
    (hparse : Options.parse args env = .ok o) (hformat : Format.ofName o.format = .error fault) :
    Machine.runOnline web tree args env =
      (1, ⟨tree, [], reportOf (.error (.format fault))⟩) := by
  have hrun : (withOptions (Machine.online web) o).run.run (Machine.start tree) =
      (.error (.format fault), Machine.start tree) := by
    rw [withOptions, hformat]
    rfl
  rw [runOnline_eq hparse hrun]
  rfl

end
end Run
end WikiStubs
