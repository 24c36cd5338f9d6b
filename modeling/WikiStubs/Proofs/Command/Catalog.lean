import Mathlib.Data.List.Infix
import WikiStubs.Proofs.Command.Writing

/-!
# What a catalog run leaves

A run without names writes one file per category, category after category, and reads pages from
the same files meanwhile. It writes no file that a page is read from (`Run.not_isPagePlace`), so a
function that has a record over the first pages has it whenever its category is written, and the
file of a category stays until a later category is written to the same place
(`Run.WritesCategories.read_of_last`). Each format writes a record as one stretch of text
(`Format.rendering`), and the file of a category holds those of all its records
(`Format.rendering_infix`).

* `Run.catalog_kept`: a category that shares its file with no later one keeps all its functions,
  and when all names are different and have no slashes, every category does.
* `Run.catalog_overwritten`: names of categories that differ in case only share a file, as files
  are named in lower case, and then the first category is lost.
-/
namespace WikiStubs

/-! ## Records inside a file -/

namespace Json

theorem layout_infix_layoutItems {v : Json} {vs : List Json} (h : v ∈ vs) (indent : Nat) :
    v.layout (indent + 1) <:+: layoutItems indent vs := by
  induction vs with
  | nil => cases h
  | cons w vs ih =>
    cases vs with
    | nil =>
      obtain rfl := List.mem_singleton.1 h
      rw [layoutItems]
      exact (List.suffix_append ..).isInfix
    | cons u vs =>
      rw [layoutItems]
      · rcases List.mem_cons.1 h with rfl | h
        · exact List.infix_append ..
        · have hrest : layoutItems indent (u :: vs) <:+ ',' :: layoutItems indent (u :: vs) :=
            List.suffix_cons ..
          exact (ih h).trans (hrest.trans (List.suffix_append ..)).isInfix
      · exact List.cons_ne_nil _ _

theorem layout_infix_array {v : Json} {vs : List Json} (h : v ∈ vs) (indent : Nat) :
    v.layout (indent + 1) <:+: (array vs).layout indent := by
  have hitems := layout_infix_layoutItems h indent
  obtain ⟨w, ws, rfl⟩ := List.exists_cons_of_ne_nil (List.ne_nil_of_mem h)
  rw [layout, List.append_assoc]
  exact List.infix_cons (hitems.trans (List.prefix_append ..).isInfix)

/-- The value of the last of two fields stands in the text of an object. -/
theorem layout_infix_object (key key' : Text) (v v' : Json) (indent : Nat) :
    v'.layout (indent + 1) <:+: (object [(key, v), (key', v')]).layout indent := by
  rw [layout, layoutFields, layoutFields, List.append_assoc]
  · refine List.infix_cons (List.IsInfix.trans ?_ (List.prefix_append ..).isInfix)
    exact (((List.suffix_append ..).trans (List.suffix_cons ..)).trans
      (List.suffix_append ..)).isInfix
  · exact List.cons_ne_nil _ _

end Json

namespace Format

/-- A record as it stands in the file of a category. -/
def rendering : Format → Record → Text
  | lua, r => Lua.block r
  | json, r => r.toJson.layout 2

theorem rendering_infix (format : Format) (category : Text) {r : Record} {rs : List Record}
    (h : r ∈ rs) : format.rendering r <:+: format.render category rs := by
  cases format with
  | lua =>
    have hblocks : Lua.block r <:+: rs.flatMap fun r => Lua.block r ++ ['\n', '\n'] := by
      obtain ⟨before, after, rfl⟩ := List.append_of_mem h
      rw [List.flatMap_append, List.flatMap_cons, List.append_assoc]
      exact List.infix_append' ..
    exact hblocks.trans (List.suffix_append ..).isInfix
  | json =>
    have hitems := Json.layout_infix_array (List.mem_map_of_mem (f := Record.toJson) h) 1
    exact (hitems.trans (Json.layout_infix_object ..)).trans (List.prefix_append ..).isInfix

end Format

namespace Run

variable {o : Options} {format : Format} {dir : Text}

/-! ## Files of categories -/

/-- Categories of different names without slashes have different files. -/
theorem placeOf_categoryPath_ne {c c' : Category} (hslash : '/' ∉ c.name) (hslash' : '/' ∉ c'.name)
    (hne : c.name ≠ c'.name) (cwd : Place) :
    FileTree.placeOf cwd (categoryPath o format c) ≠
      FileTree.placeOf cwd (categoryPath o format c') := by
  rw [outputPlace_eq hslash, outputPlace_eq hslash']
  exact (outputPlace_injective o format cwd).ne hne

section
variable [PatternCompiler]

/-- A file stays as it is when no category is written to its place. -/
theorem WritesCategories.keeps_file {web : Web} {tree tree' : FileTree} {cs : List Category}
    {events : List Event} {result : Except Failure Unit} {place : Place}
    (h : WritesCategories web o format tree cs events result tree')
    (hplaces : ∀ c ∈ cs, FileTree.placeOf tree.cwd (categoryPath o format c) ≠ place) :
    FileTree.Keeps (· = place) tree tree' := by
  have hconfined : FileTree.Confined (fun _ => False) _ tree tree' := h.confined
  refine hconfined.keeps ?_
  rintro p ⟨c, hc, rfl⟩
  exact hplaces c hc

/-- The file of a category stays as it is written when no later category is written to the same
place, and it has the record of every function with a record over the first pages. -/
theorem WritesCategories.read_of_last {web : Web} {tree tree' : FileTree}
    {before later : List Category} {c : Category} {events : List Event}
    (h : WritesCategories web o format tree (before ++ c :: later) events (.ok ()) tree')
    (hplaces : ∀ c' ∈ later, FileTree.placeOf tree.cwd (categoryPath o format c') ≠
      FileTree.placeOf tree.cwd (categoryPath o format c)) :
    tree'.read (categoryPath o format c) =
      .ok (format.render c.name (records (o.store.pages web tree) c.functions)) := by
  obtain ⟨mid, es, es', hbefore, hcs⟩ := h.of_append
  have hmid : FileTree.Confined (fun _ => False) _ tree mid := hbefore.confined
  cases hcs with
  | @cons _ next _ _ _ _ _ _ first others =>
    have hfirst : FileTree.Confined (fun _ => False) _ mid next := first.confined
    have hcwd : next.cwd = tree.cwd := hfirst.cwd.trans hmid.cwd
    -- Of the files after this one only its own place matters.
    have hfile : FileTree.Keeps (· = FileTree.placeOf tree.cwd (categoryPath o format c))
        next tree' := others.keeps_file fun c' hc' => by rw [hcwd]; exact hplaces c' hc'
    rw [records_congr hbefore.hasRecord_iff]
    exact hfile.read (by rw [hcwd]) first.wrote.read

/-! ## Runs that end well -/

/-- A run that ends well without names is a catalog run that ends well. -/
theorem program_eq_zero {tree : FileTree} {args : List Text} {env : Text → Option Text}
    {after : Machine} (hparse : Options.parse args env = .ok o) (hnames : o.functions = [])
    (hrun : Machine.run tree args env = (0, after)) :
    ∃ format, Format.ofName o.format = .ok format ∧ ∃ events,
      RunsCatalog .refusing o format tree events (.ok ()) after.tree := by
  rw [Machine.run_eq] at hrun
  cases hformat : Format.ofName o.format with
  | error fault =>
    rw [runOnline_unknown hparse hformat] at hrun
    cases hrun
  | ok format =>
    obtain ⟨events, result, tree', hruns⟩ := exists_runsCatalog _ o format tree
    rw [runOnline_catalog hparse hnames hformat hruns] at hrun
    cases result with
    | error failure => cases hrun
    | ok u =>
      cases hrun
      exact ⟨format, rfl, events, hruns⟩

/-- A catalog run that ends well has read a catalog from its file and written all categories. -/
theorem RunsCatalog.of_ok {web : Web} {tree tree' : FileTree} {events : List Event}
    (hdir : o.wikiDir = some dir) (h : RunsCatalog web o format tree events (.ok ()) tree') :
    ∃ t categories, tree.pages dir Catalog.page = .ok t ∧ Catalog.ofPage t = .ok categories ∧
      ∃ es, WritesCategories web o format (tree.makeDirs o.output).1 categories es (.ok ())
        tree' := by
  cases h with
  | @ran categories es _ _ hlisted _ writes =>
    rw [listed, pages_of_wikiDir hdir] at hlisted
    cases hpage : tree.pages dir Catalog.page with
    | error fault =>
      rw [hpage] at hlisted
      cases hlisted
    | ok t =>
      rw [hpage] at hlisted
      exact ⟨t, categories, rfl, hlisted, es, writes⟩

/-! ## What is left -/

/-- The file of a category holds every function of the category that has a record. -/
def Kept (o : Options) (format : Format) (pages : Text → Except Fault Text) (after : FileTree)
    (c : Category) : Prop :=
  ∃ rs, after.read (categoryPath o format c) = .ok (format.render c.name rs) ∧
    ∀ f ∈ c.functions, ∀ r, HasRecord pages f r →
      format.rendering r <:+: format.render c.name rs

/-- **Categories keep their functions.** After a run that ends well, with or without keeping going,
the file of a category holds every function of the category that has a record, unless the file of
a later category leads to the same place. When all names are different and have no slashes, no
function is lost. -/
theorem catalog_kept {tree : FileTree} {args : List Text} {env : Text → Option Text}
    {after : Machine} (hparse : Options.parse args env = .ok o) (hnames : o.functions = [])
    (hdir : o.wikiDir = some dir) (hrun : Machine.run tree args env = (0, after)) :
    ∃ format t categories, Format.ofName o.format = .ok format ∧
      tree.pages dir Catalog.page = .ok t ∧ Catalog.ofPage t = .ok categories ∧
      (∀ before c later, categories = before ++ c :: later →
        (∀ c' ∈ later, FileTree.placeOf tree.cwd (categoryPath o format c') ≠
          FileTree.placeOf tree.cwd (categoryPath o format c)) →
        Kept o format (tree.pages dir) after.tree c) ∧
      ((categories.map (·.name)).Nodup → (∀ c ∈ categories, '/' ∉ c.name) →
        ∀ c ∈ categories, Kept o format (tree.pages dir) after.tree c) := by
  obtain ⟨format, hformat, events, hruns⟩ := program_eq_zero hparse hnames hrun
  obtain ⟨t, categories, hpage, hcategories, es, hwrites⟩ := hruns.of_ok hdir
  have hlast : ∀ before c later, categories = before ++ c :: later →
      (∀ c' ∈ later, FileTree.placeOf tree.cwd (categoryPath o format c') ≠
        FileTree.placeOf tree.cwd (categoryPath o format c)) →
      Kept o format (tree.pages dir) after.tree c := by
    rintro before c later rfl hplaces
    rw [← FileTree.cwd_makeDirs tree o.output] at hplaces
    refine ⟨_, hwrites.read_of_last hplaces, fun f hf r hr => ?_⟩
    rw [pages_of_wikiDir hdir]
    exact format.rendering_infix c.name (mem_records_iff.2
      ⟨f, hf, hr.mono (pages_mono (FileTree.keeps_makeDirs tree o.output))⟩)
  refine ⟨format, t, categories, hformat, hpage, hcategories, hlast, fun hnodup hslash c hc => ?_⟩
  obtain ⟨before, later, rfl⟩ := List.append_of_mem hc
  rw [List.map_append, List.map_cons] at hnodup
  have hnew : c.name ∉ later.map (·.name) :=
    (List.nodup_cons.1 (List.nodup_append.1 hnodup).2.1).1
  refine hlast before c later rfl fun c' hc' => placeOf_categoryPath_ne ?_ (hslash c hc) ?_ tree.cwd
  · exact hslash c' (List.mem_append_right _ (List.mem_cons_of_mem _ hc'))
  · exact fun e => hnew (List.mem_map.2 ⟨c', hc', e⟩)

end

/-! ### Two functions -/

/-- Pages and files in the working directory. -/
def hereArgs : List Text := ["-o.", "--wiki-dir=."]

def hereOptions : Options :=
  ⟨[], ".", "lua", Address.defaultBase, some ".", false, false, false⟩

def runHere [PatternCompiler] (tree : FileTree) : Nat × Machine :=
  Machine.run tree hereArgs fun _ => none

theorem catalog_kept_apart :
    Options.parse hereArgs (fun _ => none) = .ok hereOptions ∧
    (runHere (twoFunctions apart)).1 = 0 ∧
    ∃ file r, (runHere (twoFunctions apart)).2.tree.read "./d.lua" = .ok file ∧
      HasRecord ((twoFunctions apart).pages ".") "f" r ∧ Lua.block r <:+: file := by
  have hparse : Options.parse hereArgs (fun _ => none) = .ok hereOptions := by rfl
  have hzero : (runHere (twoFunctions apart)).1 = 0 := by decide +kernel
  have hrun : runHere (twoFunctions apart) = (0, (runHere (twoFunctions apart)).2) :=
    Prod.ext hzero rfl
  obtain ⟨format, t, categories, hformat, hpage, hcategories, -, hkept⟩ :=
    catalog_kept hparse rfl rfl hrun
  have hlua : Format.ofName hereOptions.format = .ok .lua := by decide
  have hapart : (twoFunctions apart).pages "." Catalog.page = .ok apart := by decide +kernel
  have hlist : Catalog.ofPage apart = .ok [⟨"d", ["f"]⟩, ⟨"e", ["g"]⟩] := by decide +kernel
  have hpath : categoryPath hereOptions .lua ⟨"d", ["f"]⟩ = "./d.lua" := by decide
  obtain rfl : Format.lua = format := Except.ok.inj (hlua.symm.trans hformat)
  obtain rfl : apart = t := Except.ok.inj (hapart.symm.trans hpage)
  obtain rfl := Except.ok.inj (hlist.symm.trans hcategories)
  obtain ⟨rs, hread, hholds⟩ := hkept (by decide) (by decide) ⟨"d", ["f"]⟩ List.mem_cons_self
  rw [hpath] at hread
  have hrecord : (Noting.fromStart (assemble
      (.ofPages ((twoFunctions apart).pages ".")) "f").run).1.isOk = true := by decide +kernel
  obtain ⟨events, result, ha⟩ := exists_assembles ((twoFunctions apart).pages ".") "f"
  rw [ha.fromStart_eq] at hrecord
  cases result with
  | error e => cases hrecord
  | ok r =>
    have hr := hasRecord_iff.2 ⟨events, ha⟩
    exact ⟨hparse, hzero, _, r, hread, hr, hholds "f" List.mem_cons_self r hr⟩

/-- A catalog of two categories whose names differ in case only. -/
def alike : Text := "# A\n## Functions\n### D\n[f]\n### d\n[g]\n"

def lastWritten : Text := "---@meta\n\n---\n---D\n---\nfunction g() end\n\n"

/-- The file of the second category is written over that of the first, whose function is lost. -/
theorem catalog_overwritten :
    (runHere (twoFunctions alike)).1 = 0 ∧
    (twoFunctions alike).pages "." Catalog.page = .ok alike ∧
    Catalog.ofPage alike = .ok [⟨"d", ["f"]⟩, ⟨"d", ["g"]⟩] ∧
    (runHere (twoFunctions alike)).2.tree.read "./d.lua" = .ok lastWritten ∧
    ∃ r, HasRecord ((twoFunctions alike).pages ".") "f" r ∧ ¬ Lua.block r <:+: lastWritten := by
  refine ⟨by decide +kernel, by decide +kernel, by decide +kernel, by decide +kernel, ?_⟩
  have hlost : ((Noting.fromStart (assemble
      (.ofPages ((twoFunctions alike).pages ".")) "f").run).1.map
        fun r => decide (Lua.block r <:+: lastWritten)) = .ok false := by decide +kernel
  obtain ⟨events, result, ha⟩ := exists_assembles ((twoFunctions alike).pages ".") "f"
  rw [ha.fromStart_eq] at hlost
  cases result with
  | error e => cases hlost
  | ok r => exact ⟨r, hasRecord_iff.2 ⟨events, ha⟩, of_decide_eq_false (Except.ok.inj hlost)⟩

end Run
end WikiStubs
