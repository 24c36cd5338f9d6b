import WikiStubs.Proofs.Command.Writing

/-!
# Where a catalog run writes

A catalog run makes directories on the way to its output directory and writes files where the paths
of its categories lead. The name of a category is the text of a heading, and it goes into the path
as it is: a name without slashes is a file right in the output directory, but one with slashes
leads to any place that the tree has a directory for.

* `Run.catalog_confined`: what is made and written by a run, and when all of it is in the output
  directory.
* `Run.catalog_escapes`: a heading that leads upwards is written beside the output directory.
-/
namespace WikiStubs.Run

/-- The place is right in the directory. -/
def IsIn (dir place : Place) : Prop := ∃ name, place = dir ++ [name]

/-- **Where a catalog run writes.** Whatever the pages say and however the run ends, directories are
made on the way to the output directory only, and files are written only where the paths of listed
categories lead. When no name of a category has a slash, these are right in the output directory,
and when the path of the output directory does not lead upwards, the directories are the output
directory and those that enclose it. -/
theorem catalog_confined [PatternCompiler] {web : Web} {tree : FileTree} {args : List Text}
    {env : Text → Option Text} {o : Options} (hparse : Options.parse args env = .ok o)
    (hnames : o.functions = []) :
    let after := (Machine.runOnline web tree args env).2.tree
    let output := FileTree.placeOf tree.cwd o.output
    FileTree.Confined (FileTree.OnWay tree.cwd o.output)
      (fun p => ∃ format categories, Format.ofName o.format = .ok format ∧
        listed o web tree = .ok categories ∧
        ∃ c ∈ categories, p = FileTree.placeOf tree.cwd (categoryPath o format c)) tree after ∧
    ((∀ categories, listed o web tree = .ok categories → ∀ c ∈ categories, '/' ∉ c.name) →
      FileTree.Confined (FileTree.OnWay tree.cwd o.output) (IsIn output) tree after) ∧
    (Path.up ∉ Path.components o.output →
      ∀ p, FileTree.OnWay tree.cwd o.output p → p <+: output) := by
  intro after output
  have hconfined : FileTree.Confined (FileTree.OnWay tree.cwd o.output)
      (fun p => ∃ format categories, Format.ofName o.format = .ok format ∧
        listed o web tree = .ok categories ∧
        ∃ c ∈ categories, p = FileTree.placeOf tree.cwd (categoryPath o format c)) tree after := by
    cases hformat : Format.ofName o.format with
    | error fault =>
      simp only [after, runOnline_unknown hparse hformat]
      exact .refl tree
    | ok format =>
      obtain ⟨events, result, tree', hruns⟩ := exists_runsCatalog web o format tree
      simp only [after, runOnline_catalog hparse hnames hformat hruns]
      exact hruns.confined.mono (fun _ => id) fun p ⟨categories, hlisted, hp⟩ =>
        ⟨format, categories, rfl, hlisted, hp⟩
  refine ⟨hconfined, fun hslash => ?_, fun hup p hp => hp.isPrefix hup⟩
  refine hconfined.mono (fun _ => id) ?_
  rintro p ⟨format, categories, -, hlisted, c, hc, rfl⟩
  exact ⟨_, outputPlace_eq (hslash categories hlisted c hc) tree.cwd⟩

/-! ### Headings that lead upwards -/

theorem catalog_confined_apart :
    Options.parse outArgs (fun _ => none) = .ok outOptions ∧
    (runOut (twoFunctions apart)).2.tree.read "out/d.lua" = .ok
      "---@meta\n\n---\n---D\n---\nfunction f() end\n\n" ∧
    FileTree.Confined (· <+: [("out" : Text)]) (IsIn [("out" : Text)]) (twoFunctions apart)
      (runOut (twoFunctions apart)).2.tree := by
  have hparse : Options.parse outArgs (fun _ => none) = .ok outOptions := by rfl
  have hlist : listed outOptions .refusing (twoFunctions apart) =
      .ok [⟨"d", ["f"]⟩, ⟨"e", ["g"]⟩] := by decide +kernel
  have hplace : FileTree.placeOf (twoFunctions apart).cwd outOptions.output = ["out"] := by
    decide +kernel
  obtain ⟨-, hin, hway⟩ := @catalog_confined _ .refusing (twoFunctions apart) outArgs
    (fun _ => none) outOptions hparse rfl
  refine ⟨hparse, by decide +kernel, ?_⟩
  rw [hplace] at hin hway
  refine (hin ?_).mono (hway (by decide +kernel)) fun _ => id
  rw [hlist]
  rintro _ ⟨⟩
  decide

/-- A catalog of one category whose name leads upwards. -/
def climbing : Text := "# A\n## Functions\n### ../x\n[f]\n"

/-- The file of the category is written beside the output directory. -/
theorem catalog_escapes :
    (runOut (twoFunctions climbing)).1 = 0 ∧
    (twoFunctions climbing).node? ["x.lua"] = none ∧
    (runOut (twoFunctions climbing)).2.tree.node? ["x.lua"] =
      some (.file (some "---@meta\n\n---\n---D\n---\nfunction f() end\n\n")) ∧
    ¬ FileTree.Confined (FileTree.OnWay [] "out") (IsIn (FileTree.placeOf [] "out"))
      (twoFunctions climbing) (runOut (twoFunctions climbing)).2.tree := by
  have hbefore : (twoFunctions climbing).node? ["x.lua"] = none := by decide +kernel
  have hafter : (runOut (twoFunctions climbing)).2.tree.node? ["x.lua"] =
      some (.file (some "---@meta\n\n---\n---D\n---\nfunction f() end\n\n")) := by decide +kernel
  refine ⟨by decide +kernel, hbefore, hafter, fun hconfined => ?_⟩
  have hchange := hconfined.change ["x.lua"]
  rw [hbefore, hafter] at hchange
  cases hchange with
  | written _ allowed _ =>
    have hout : FileTree.placeOf [] "out" = ["out"] := by decide +kernel
    rw [hout] at allowed
    obtain ⟨name, hname⟩ := allowed
    exact absurd (congrArg List.length hname) (by simp)

end WikiStubs.Run
