import Mathlib.Data.List.Nodup
import WikiStubs.Proofs.Command.Writing

/-!
# How far a catalog run comes

A catalog run writes the files of the categories before the first one with a function that has no
record; a run that keeps going writes all of them. It works on the files that it writes, but no page
is among them, so which categories these are can be told from the pages before the first write
(`Run.WritesCategories.reached`).

* `Run.catalog_reached`: status, report and files after a run whose files can be written, for
  categories with different names without slashes.
-/
namespace WikiStubs.Run

variable {web : Web} {o : Options} {format : Format} {tree tree' : FileTree} {c : Category}
  {cs : List Category} {events : List Event} {result : Except Failure Unit}

/-! ## Files of the output directory -/

section
variable {cwd : Place} {text : Category → Text}

theorem node?_outputPlace (hnodup : (cs.map (·.name)).Nodup) (hc : c ∈ cs) :
    (tree.setFiles (cs.map fun c => (outputPlace o format cwd c.name, text c))).node?
      (outputPlace o format cwd c.name) = some (.file (some (text c))) := by
  refine FileTree.node?_setFiles_of_mem ?_ ?_ (List.mem_map.2 ⟨c, hc, rfl⟩)
  · rw [List.forall_mem_map]
    exact fun c _ => outputPlace_ne_nil cwd c.name
  · rw [List.map_map]
    have hplaces := hnodup.map (outputPlace_injective o format cwd)
    rwa [List.map_map] at hplaces

theorem node?_of_ne_outputPlace {p : Place}
    (hp : ∀ c ∈ cs, outputPlace o format cwd c.name ≠ p) :
    (tree.setFiles (cs.map fun c => (outputPlace o format cwd c.name, text c))).node? p =
      tree.node? p := by
  refine FileTree.node?_setFiles_of_ne ?_ ?_
  · rw [List.forall_mem_map]
    exact fun c _ => outputPlace_ne_nil cwd c.name
  · rw [List.forall_mem_map]
    exact hp

end

/-! ## Complete categories -/

section
variable [PatternCompiler]

/-- Every function of the category has a record or is left out. -/
def completes (pages : Text → Except Fault Text) (keepGoing : Bool) (c : Category) : Bool :=
  keepGoing || c.functions.all fun f => (assembled pages f).isOk

def categoryFile (o : Options) (format : Format) (cwd : Place) (pages : Text → Except Fault Text)
    (c : Category) : Place × Text :=
  (FileTree.placeOf cwd (categoryPath o format c),
    format.render c.name (records pages c.functions))

theorem completes_iff {pages : Text → Except Fault Text} {keepGoing : Bool} :
    completes pages keepGoing c = true ↔
      keepGoing = true ∨ ∀ f ∈ c.functions, ∃ r, HasRecord pages f r := by
  simp only [completes, Bool.or_eq_true, List.all_eq_true, exists_hasRecord_iff]

theorem completes_congr {pages pages' : Text → Except Fault Text} {keepGoing : Bool}
    (h : ∀ f r, HasRecord pages f r ↔ HasRecord pages' f r) :
    completes pages keepGoing = completes pages' keepGoing := by
  funext c
  rw [Bool.eq_iff_iff, completes_iff, completes_iff]
  simp only [h]

theorem categoryFile_congr {pages pages' : Text → Except Fault Text} {cwd : Place}
    (h : ∀ f r, HasRecord pages f r ↔ HasRecord pages' f r) :
    categoryFile o format cwd pages = categoryFile o format cwd pages' := by
  funext c
  rw [categoryFile, records_congr h, categoryFile]

/-! ## One category -/

/-- The file of a complete category is put at its place. -/
theorem WritesCategory.of_completes (h : WritesCategory web o format tree c events result tree')
    (hwritable : tree.Writable (categoryPath o format c))
    (hcompletes : completes (o.store.pages web tree) o.keepGoing c = true) :
    result = .ok () ∧
      tree' = tree.setFiles [categoryFile o format tree.cwd (o.store.pages web tree) c] := by
  have hcompletes := completes_iff.1 hcompletes
  cases h with
  | unassembled assembled => exact absurd (assembled.isOk_iff.2 hcompletes) Bool.false_ne_true
  | unwritten assembled refused =>
    obtain ⟨_, hwrite⟩ := hwritable _
    rw [hwrite] at refused
    cases refused
  | written assembled written =>
    refine ⟨rfl, (FileTree.wrote_of_write written).eq.trans ?_⟩
    rw [assembled.eq_records]
    rfl

/-- A category that is not complete leaves the tree as it is, and its first function without a
record is at fault. -/
theorem WritesCategory.of_not_completes
    (h : WritesCategory web o format tree c events result tree')
    (hcompletes : completes (o.store.pages web tree) o.keepGoing c = false) :
    tree' = tree ∧ ∃ before f fault,
      FirstWithout (o.store.pages web tree) c.functions before f fault ∧
      result = .error (.assembling f fault) := by
  have hcompletes : ¬ _ := completes_iff.not.1 (Bool.not_eq_true _ ▸ hcompletes)
  cases h with
  | unassembled assembled =>
    obtain ⟨-, before, f, fault, hfirst, hfailure, -⟩ := assembled.stopped_at
    exact ⟨rfl, before, f, fault, hfirst, congrArg _ hfailure⟩
  | unwritten assembled => exact absurd (assembled.isOk_iff.1 rfl) hcompletes
  | written assembled => exact absurd (assembled.isOk_iff.1 rfl) hcompletes

/-! ## Categories in order -/

/-- The files of the categories before the first one that is not complete are put at their
places, and the first function without a record of that one is at fault. -/
theorem WritesCategories.reached (h : WritesCategories web o format tree cs events result tree')
    (hwritable : ∀ c ∈ cs.takeWhile (completes (o.store.pages web tree) o.keepGoing),
      tree.Writable (categoryPath o format c)) :
    tree' = tree.setFiles ((cs.takeWhile (completes (o.store.pages web tree) o.keepGoing)).map
      (categoryFile o format tree.cwd (o.store.pages web tree))) ∧
    match cs.dropWhile (completes (o.store.pages web tree) o.keepGoing) with
    | [] => result = .ok ()
    | k :: _ => ∃ before f fault,
        FirstWithout (o.store.pages web tree') k.functions before f fault ∧
        result = .error (.assembling f fault) := by
  induction h with
  | nil => exact ⟨rfl, rfl⟩
  | @cons tree mid tree' c cs events rest result first others ih =>
    cases hc : completes (o.store.pages web tree) o.keepGoing c with
    | false =>
      obtain ⟨-, _, _, _, -, hfailure⟩ := first.of_not_completes hc
      cases hfailure
    | true =>
      rw [List.takeWhile_cons_of_pos hc] at hwritable ⊢
      rw [List.dropWhile_cons_of_pos hc]
      rw [List.forall_mem_cons] at hwritable
      obtain ⟨-, hmid⟩ := first.of_completes hwritable.1 hc
      have hconfined : FileTree.Confined (fun _ => False) _ tree mid := first.confined
      rw [← completes_congr first.hasRecord_iff, ← categoryFile_congr first.hasRecord_iff,
        hconfined.cwd] at ih
      obtain ⟨htree, hrest⟩ := ih fun c' hc' => (hwritable.2 c' hc').of_confined hconfined
      refine ⟨?_, hrest⟩
      rw [htree, hmid]
      rfl
  | @failed tree tree' c cs events failure first =>
    cases hc : completes (o.store.pages web tree) o.keepGoing c with
    | false =>
      obtain ⟨rfl, hfault⟩ := first.of_not_completes hc
      rw [List.takeWhile_cons_of_neg (by simp [hc]), List.dropWhile_cons_of_neg (by simp [hc])]
      exact ⟨rfl, hfault⟩
    | true =>
      rw [List.takeWhile_cons_of_pos hc, List.forall_mem_cons] at hwritable
      obtain ⟨hok, -⟩ := first.of_completes hwritable.1 hc
      cases hok

/-! ## Runs -/

/-- The categories that are written: all before the first one that is not complete over the pages
that there are when the output directory has been made. -/
def writtenCategories (web : Web) (o : Options) (tree : FileTree) (categories : List Category) :
    List Category :=
  categories.takeWhile (completes (o.store.pages web (tree.makeDirs o.output).1) o.keepGoing)

/-- What a catalog run leaves: the exit status and the machine after it. -/
structure ReachesCategories (web : Web) (o : Options) (format : Format) (tree : FileTree)
    (categories : List Category) (left : Nat × Machine) : Prop where
  /-- Before any file is written only directories are made. -/
  made : FileTree.Confined (FileTree.OnWay tree.cwd o.output) (fun _ => False) tree
    (tree.makeDirs o.output).1
  /-- The files have the records of those functions that have one, in the order of the catalog. -/
  files : ∀ c ∈ writtenCategories web o tree categories,
    left.2.tree.node? (outputPlace o format tree.cwd c.name) = some (.file (some
      (format.render c.name
        (records (o.store.pages web (tree.makeDirs o.output).1) c.functions))))
  others : ∀ p, (∀ c ∈ writtenCategories web o tree categories,
    outputPlace o format tree.cwd c.name ≠ p) →
    left.2.tree.node? p = (tree.makeDirs o.output).1.node? p
  /-- The same functions have records after the files are written. -/
  recorded : ∀ f r, HasRecord (o.store.pages web (tree.makeDirs o.output).1) f r ↔
    HasRecord (o.store.pages web left.2.tree) f r
  status : left.1 = 0 ↔ writtenCategories web o tree categories = categories
  /-- The first function without a record is reported. -/
  stopped : ∀ k later, categories = writtenCategories web o tree categories ++ k :: later →
    left.1 = 1 ∧ ∃ before f fault events,
      FirstWithout (o.store.pages web left.2.tree) k.functions before f fault ∧
      left.2.notices = Machine.logOf o.store o.threshold events ++
        (Failure.assembling f fault).report.map .reported

/-- The files of categories whose names have no slashes are in the output directory. -/
theorem map_categoryFile {pages : Text → Except Fault Text} {cwd : Place}
    (hslash : ∀ c ∈ cs, '/' ∉ c.name) :
    cs.map (categoryFile o format cwd pages) = cs.map fun c =>
      (outputPlace o format cwd c.name, format.render c.name (records pages c.functions)) :=
  List.map_congr_left fun c hc => by rw [categoryFile, outputPlace_eq (hslash c hc)]

/-- What is left of categories that are written as far as they are complete. -/
theorem WritesCategories.reachesCategories
    (h : WritesCategories web o format (tree.makeDirs o.output).1 cs events result tree')
    (hnodup : (cs.map (·.name)).Nodup) (hslash : ∀ c ∈ cs, '/' ∉ c.name)
    (hwritable : ∀ c ∈ writtenCategories web o tree cs,
      (tree.makeDirs o.output).1.Writable (categoryPath o format c)) (noted : List Event) :
    ReachesCategories web o format tree cs (status result,
      ⟨tree', [], Machine.logOf o.store o.threshold noted ++ reportOf result⟩) := by
  obtain ⟨htree, hresult⟩ := h.reached hwritable
  have hfront : writtenCategories web o tree cs <+: cs := List.takeWhile_prefix _
  rw [FileTree.cwd_makeDirs, ← writtenCategories,
    map_categoryFile fun c hc => hslash c (hfront.subset hc)] at htree
  have hsplit : writtenCategories web o tree cs ++ cs.dropWhile (completes (o.store.pages web
      (tree.makeDirs o.output).1) o.keepGoing) = cs := List.takeWhile_append_dropWhile
  refine ⟨FileTree.confined_makeDirs .., fun c hc => ?_, fun p hp => ?_, h.hasRecord_iff, ?_,
    fun k later hk => ?_⟩
  · rw [htree]
    exact node?_outputPlace (hnodup.sublist (hfront.sublist.map _)) hc
  · rw [htree]
    exact node?_of_ne_outputPlace hp
  · generalize cs.dropWhile _ = rest at hresult hsplit
    cases rest with
    | nil =>
      rw [List.append_nil] at hsplit
      exact iff_of_true (congrArg status hresult) hsplit
    | cons k later =>
      obtain ⟨before, f, fault, -, rfl⟩ := hresult
      refine iff_of_false Nat.one_ne_zero fun hall => ?_
      rw [hall] at hsplit
      exact List.cons_ne_nil _ _ (List.append_right_eq_self.1 hsplit)
  · have hrest := List.append_cancel_left (hsplit.trans hk)
    rw [hrest] at hresult
    obtain ⟨before, f, fault, hfirst, rfl⟩ := hresult
    exact ⟨rfl, before, f, fault, noted, hfirst, rfl⟩

/-- **How far a catalog run comes.** Without a format or a catalog a run fails and changes nothing.
Else, when categories have different names without slashes and files can be written, exactly the
categories before the first one with a function without a record are written, all of them if there
is none or the run keeps going; and that function is reported. -/
theorem catalog_reached {args : List Text} {env : Text → Option Text}
    (hparse : Options.parse args env = .ok o) (hnames : o.functions = []) :
    (∀ fault, Format.ofName o.format = .error fault ∨ listed o web tree = .error fault →
      (Machine.runOnline web tree args env).1 = 1 ∧
      (Machine.runOnline web tree args env).2.tree = tree) ∧
    ∀ format categories, Format.ofName o.format = .ok format →
      listed o web tree = .ok categories → (categories.map (·.name)).Nodup →
      (∀ c ∈ categories, '/' ∉ c.name) → (tree.makeDirs o.output).2 = .ok () →
      (∀ c ∈ writtenCategories web o tree categories,
        (tree.makeDirs o.output).1.Writable (categoryPath o format c)) →
      ReachesCategories web o format tree categories (Machine.runOnline web tree args env) := by
  refine ⟨fun fault hfault => ?_,
    fun format categories hformat hlisted hnodup hslash hmade hwritable => ?_⟩
  · cases hformat : Format.ofName o.format with
    | error e =>
      rw [runOnline_unknown hparse hformat]
      exact ⟨rfl, rfl⟩
    | ok format =>
      have hlisted : listed o web tree = .error fault := hfault.resolve_left (by simp [hformat])
      rw [runOnline_catalog hparse hnames hformat (.unlisted hlisted)]
      exact ⟨rfl, rfl⟩
  · obtain ⟨events, result, tree', hwrites⟩ :=
      exists_writesCategories web o format (tree.makeDirs o.output).1 categories
    rw [runOnline_catalog hparse hnames hformat (.ran hlisted hmade hwrites)]
    exact hwrites.reachesCategories hnodup hslash hwritable _

end

/-! ### A function without a page -/

/-- A catalog whose second category has a function without a page. -/
def broken : Text := "# A\n## Functions\n### D\n[f]\n### E\n[h]\n### G\n[g]\n"

def brokenCategories : List Category := [⟨"d", ["f"]⟩, ⟨"e", ["h"]⟩, ⟨"g", ["g"]⟩]

theorem catalog_reached_first :
    Options.parse outArgs (fun _ => none) = .ok outOptions ∧
    ((runOut (twoFunctions "no")).1 = 1 ∧
      (runOut (twoFunctions "no")).2.tree = twoFunctions "no") ∧
    writtenCategories .refusing outOptions (twoFunctions broken) brokenCategories =
      [⟨"d", ["f"]⟩] ∧
    ReachesCategories .refusing outOptions .lua (twoFunctions broken) brokenCategories
      (runOut (twoFunctions broken)) := by
  have hparse : Options.parse outArgs (fun _ => none) = .ok outOptions := by rfl
  have hunlisted : listed outOptions .refusing (twoFunctions "no") =
      .error (Catalog.malformed "no top-level section") := by decide +kernel
  have hlisted : listed outOptions .refusing (twoFunctions broken) = .ok brokenCategories := by
    decide +kernel
  have hwritten : writtenCategories .refusing outOptions (twoFunctions broken) brokenCategories =
      [⟨"d", ["f"]⟩] := by decide +kernel
  have hadmissible : FileTree.admissible (categoryPath outOptions .lua ⟨"d", ["f"]⟩) = .ok () := by
    decide +kernel
  have hlocate : ((twoFunctions broken).makeDirs outOptions.output).1.locate
      (((twoFunctions broken).makeDirs outOptions.output).1.origin
        (categoryPath outOptions .lua ⟨"d", ["f"]⟩))
      (Path.components (categoryPath outOptions .lua ⟨"d", ["f"]⟩)) =
      .ok (["out", "d.lua"], none) := by decide +kernel
  have hempty := (@catalog_reached .refusing outOptions (twoFunctions "no") _ outArgs
    (fun _ => none) hparse rfl).1 _ (.inr hunlisted)
  have hbroken := (@catalog_reached .refusing outOptions (twoFunctions broken) _ outArgs
    (fun _ => none) hparse rfl).2 .lua brokenCategories (by decide) hlisted (by decide) (by decide)
    (by decide +kernel)
  rw [hwritten, List.forall_mem_singleton] at hbroken
  simp only [runOut, Machine.run_eq]
  exact ⟨hparse, hempty, hwritten,
    hbroken (FileTree.writable_of_locate hadmissible hlocate nofun)⟩

end WikiStubs.Run
