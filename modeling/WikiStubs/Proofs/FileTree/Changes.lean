import WikiStubs.Proofs.FileTree

/-!
# What an operation changes

Between two trees every place keeps what stands there, or it is a new directory where nothing was,
or it holds a text where no directory was. `FileTree.Confined` says at which places the last two
can happen. A write is confined to the place of its path (`FileTree.Wrote.confined`), and making
the directories of a path is confined to the places on the way of the path
(`FileTree.confined_makeDirs`). Confinement composes, so it is read off a whole run.

What is confined keeps all directories and the files elsewhere (`FileTree.Confined.keeps`). When no
directory is new, nothing can be walked that could not be walked before either
(`FileTree.Confined.keeps_back`), and what could be written still can
(`FileTree.Writable.of_confined`).
-/
namespace WikiStubs

namespace Path

theorem isPrefix_dropHere (names : List Text) : dropHere names <+: names := by
  rw [← List.reverse_suffix, dropHere, List.reverse_reverse]
  exact List.dropWhile_suffix _

theorem isPrefix_parent (names : List Text) : parent names <+: names :=
  (isPrefix_dropHere _).trans ((List.dropLast_prefix _).trans (isPrefix_dropHere names))

end Path

namespace FileTree

variable {tree tree' tree'' : FileTree} {dir place : Place} {path text : Text} {names : List Text}
  {Dirs Dirs' Files Files' Kept : Place → Prop}

/-! ## Confinement -/

/-- What may happen to what stands at a place. -/
inductive Change (Dirs Files : Place → Prop) (place : Place) :
    Option Node → Option Node → Prop where
  | kept (node : Option Node) : Change Dirs Files place node node
  | made (allowed : Dirs place) : Change Dirs Files place none (some .directory)
  | written {node : Option Node} (text : Text) (allowed : Files place)
      (notDirectory : node ≠ some .directory) :
      Change Dirs Files place node (some (.file (some text)))

/-- New directories are made at some places only, and files written at some places only. -/
structure Confined (Dirs Files : Place → Prop) (tree tree' : FileTree) : Prop where
  cwd : tree'.cwd = tree.cwd
  change : ∀ p, Change Dirs Files p (tree.node? p) (tree'.node? p)

namespace Change

variable {n n' n'' : Option Node} {text : Option Text}

theorem trans (h : Change Dirs Files place n n') (h' : Change Dirs Files place n' n'') :
    Change Dirs Files place n n'' := by
  cases h with
  | kept => exact h'
  | made allowed =>
    cases h' with
    | kept => exact .made allowed
    | written _ _ notDirectory => exact absurd rfl notDirectory
  | written _ allowed notDirectory =>
    cases h' with
    | kept => exact .written _ allowed notDirectory
    | written _ _ _ => exact .written _ allowed notDirectory

theorem mono (h : Change Dirs Files place n n') (hdirs : Dirs place → Dirs' place)
    (hfiles : Files place → Files' place) : Change Dirs' Files' place n n' := by
  cases h with
  | kept => exact .kept _
  | made allowed => exact .made (hdirs allowed)
  | written _ allowed notDirectory => exact .written _ (hfiles allowed) notDirectory

theorem of_directory (h : Change Dirs Files place (some .directory) n') :
    n' = some .directory := by
  cases h with
  | kept => rfl
  | written _ _ notDirectory => exact absurd rfl notDirectory

theorem of_file (h : Change Dirs Files place (some (.file text)) n') (hnot : ¬ Files place) :
    n' = some (.file text) := by
  cases h with
  | kept => rfl
  | written _ allowed _ => exact absurd allowed hnot

theorem to_directory (h : Change Dirs Files place n (some .directory)) (hnot : ¬ Dirs place) :
    n = some .directory := by
  cases h with
  | kept => rfl
  | made allowed => exact absurd allowed hnot

theorem to_file (h : Change Dirs Files place n (some (.file text))) (hnot : ¬ Files place) :
    n = some (.file text) := by
  cases h with
  | kept => rfl
  | written _ allowed _ => exact absurd allowed hnot

end Change

namespace Confined

theorem refl (tree : FileTree) : Confined Dirs Files tree tree := ⟨rfl, fun _ => .kept _⟩

theorem trans (h : Confined Dirs Files tree tree') (h' : Confined Dirs Files tree' tree'') :
    Confined Dirs Files tree tree'' :=
  ⟨h'.cwd.trans h.cwd, fun p => (h.change p).trans (h'.change p)⟩

theorem mono (h : Confined Dirs Files tree tree') (hdirs : ∀ p, Dirs p → Dirs' p)
    (hfiles : ∀ p, Files p → Files' p) : Confined Dirs' Files' tree tree' :=
  ⟨h.cwd, fun p => (h.change p).mono (hdirs p) (hfiles p)⟩

/-- Directories stay, and so do files at places that are not written to. -/
theorem keeps (h : Confined Dirs Files tree tree') (hkept : ∀ p, Files p → ¬ Kept p) :
    Keeps Kept tree tree' where
  cwd := h.cwd
  dirs p hp := Change.of_directory (hp ▸ h.change p)
  files p _ hk hp := Change.of_file (hp ▸ h.change p) fun hfile => hkept p hfile hk

/-- When no directory is new, all that is there now was there before, but for what is written. -/
theorem keeps_back (h : Confined (fun _ => False) Files tree tree')
    (hkept : ∀ p, Files p → ¬ Kept p) : Keeps Kept tree' tree where
  cwd := h.cwd.symm
  dirs p hp := Change.to_directory (hp ▸ h.change p) id
  files p _ hk hp := Change.to_file (hp ▸ h.change p) fun hfile => hkept p hfile hk

end Confined

theorem confined_set {n : Node} (hne : place ≠ [])
    (h : Change Dirs Files place (tree.node? place) (some n)) :
    Confined Dirs Files tree (tree.set place n) := by
  refine ⟨rfl, fun p => ?_⟩
  rw [node?_set hne]
  by_cases hp : place = p
  · rw [if_pos hp, ← hp]
    exact h
  · rw [if_neg hp]
    exact .kept _

/-! ## Writing -/

/-- A write is confined to the place where its path leads. -/
theorem Wrote.confined (h : Wrote tree path text tree') :
    Confined Dirs (· = placeOf tree.cwd path) tree tree' := by
  rw [h.eq]
  exact confined_set h.place_ne_nil (.written text rfl h.notDirectory)

theorem write_of_locate (hadm : admissible path = .ok ()) {node : Option Node}
    (hlocate : tree.locate (tree.origin path) (Path.components path) = .ok (place, node))
    (hnode : node ≠ some .directory) (text : Text) :
    tree.write path text = .ok (tree.set place (.file (some text))) := by
  rw [write, hadm, hlocate]
  rcases node with _ | _ | _
  · rfl
  · rfl
  · exact absurd rfl hnode

/-- Whatever text a file at the path is to have, it can be written. -/
def Writable (tree : FileTree) (path : Text) : Prop :=
  ∀ text, ∃ tree', tree.write path text = .ok tree'

theorem writable_of_locate (hadm : admissible path = .ok ()) {node : Option Node}
    (hlocate : tree.locate (tree.origin path) (Path.components path) = .ok (place, node))
    (hnode : node ≠ some .directory) : tree.Writable path := fun text =>
  ⟨_, write_of_locate hadm hlocate hnode text⟩

/-- What could be written still can, as long as no directory is made. -/
theorem Writable.of_confined (h : Confined (fun _ => False) Files tree tree')
    (hwritable : tree.Writable path) : tree'.Writable path := by
  obtain ⟨_, hwrite⟩ := hwritable []
  have hwrote := wrote_of_write hwrite
  have hkeeps : Keeps (fun _ => False) tree tree' := h.keeps fun _ _ => id
  have hnode : tree'.node? (placeOf tree.cwd path) ≠ some .directory := fun hdir =>
    hwrote.notDirectory (Change.to_directory (hdir ▸ h.change _) id)
  exact writable_of_locate hwrote.admissible (hwrote.locate_of_keeps hkeeps) hnode

/-! ## Several files -/

/-- Puts files with texts at places, one after the other. -/
def setFiles (tree : FileTree) (files : List (Place × Text)) : FileTree :=
  files.foldl (fun tree file => tree.set file.1 (.file (some file.2))) tree

variable {files : List (Place × Text)}

theorem node?_setFiles_of_ne (hroot : ∀ file ∈ files, file.1 ≠ [])
    (hne : ∀ file ∈ files, file.1 ≠ place) :
    (tree.setFiles files).node? place = tree.node? place := by
  induction files generalizing tree with
  | nil => rfl
  | cons file files ih =>
    rw [List.forall_mem_cons] at hroot hne
    exact (ih hroot.2 hne.2).trans ((node?_set hroot.1 _ _).trans (if_neg hne.1))

/-- Of files at different places each one stays. -/
theorem node?_setFiles_of_mem (hroot : ∀ file ∈ files, file.1 ≠ [])
    (hnodup : (files.map (·.1)).Nodup) (hmem : (place, text) ∈ files) :
    (tree.setFiles files).node? place = some (.file (some text)) := by
  induction files generalizing tree with
  | nil => exact absurd hmem List.not_mem_nil
  | cons file files ih =>
    rw [List.forall_mem_cons] at hroot
    rw [List.map_cons, List.nodup_cons] at hnodup
    rcases List.mem_cons.1 hmem with rfl | hmem
    · have hlater : ∀ file ∈ files, file.1 ≠ place := fun file hfile he =>
        hnodup.1 (List.mem_map.2 ⟨file, hfile, he⟩)
      refine (node?_setFiles_of_ne hroot.2 hlater).trans ?_
      exact (node?_set hroot.1 _ _).trans (if_pos rfl)
    · exact ih hroot.2 hnodup.2 hmem

/-! ## Making directories -/

/-- The place is where the path leads, or where it leads without some of its last names. -/
def OnWay (cwd : Place) (path : Text) (place : Place) : Prop :=
  ∃ names, names <+: Path.components path ∧
    place = names.foldl step (if Path.isAbsolute path then [] else cwd)

/-- A path that never leads upwards has on its way only what encloses its place. -/
theorem OnWay.isPrefix {cwd : Place} (hup : Path.up ∉ Path.components path)
    (h : OnWay cwd path place) : place <+: placeOf cwd path := by
  obtain ⟨names, ⟨rest, hrest⟩, rfl⟩ := h
  have hgrow : ∀ (rest : List Text) (d : Place), Path.up ∉ rest → d <+: rest.foldl step d := by
    intro rest
    induction rest with
    | nil => exact fun d _ => List.prefix_refl d
    | cons name rest ih =>
      intro d hrest
      rw [List.mem_cons, not_or] at hrest
      refine List.IsPrefix.trans ?_ (ih (step d name) hrest.2)
      rw [step, if_neg (Ne.symm hrest.1)]
      split
      · exact List.prefix_refl d
      · exact List.prefix_append ..
  rw [placeOf, ← hrest, List.foldl_append]
  exact hgrow rest _ fun hmem => hup (hrest ▸ List.mem_append_right _ hmem)

theorem confined_makeDir (h : tree.makeDir dir names = .ok tree') :
    Confined (· = names.foldl step dir) Files tree tree' := by
  rw [makeDir] at h
  cases hlocate : tree.locate dir names with
  | error e => simp [hlocate, bind, Except.bind] at h
  | ok x =>
    obtain ⟨place, node⟩ := x
    cases node with
    | some n => simp [hlocate, bind, Except.bind] at h
    | none =>
      obtain ⟨hplace, hnode, name, d, -, hends⟩ := of_locate hlocate (by simp)
      have htree : tree' = tree.set place .directory := by
        simpa [hlocate, bind, Except.bind] using h.symm
      have hne : place ≠ [] := by
        rw [hends]
        exact List.append_ne_nil_of_right_ne_nil _ (List.cons_ne_nil _ _)
      rw [htree]
      refine confined_set hne ?_
      rw [← hnode]
      exact .made hplace

theorem confined_ensureDir (tree : FileTree) (dir : Place) (names : List Text) :
    Confined (· = names.foldl step dir) Files tree (tree.ensureDir dir names).1 := by
  unfold ensureDir
  split
  · next h => exact confined_makeDir h
  · split <;> exact Confined.refl tree

theorem confined_ensureDirs (tree : FileTree) (dir : Place) (names : List Text) :
    Confined (fun p => ∃ pre, pre <+: names ∧ p = pre.foldl step dir) Files tree
      (tree.ensureDirs dir names).1 := by
  have hlast : ∀ (tree : FileTree) (names : List Text),
      Confined (fun p => ∃ pre, pre <+: names ∧ p = pre.foldl step dir) Files tree
        (tree.ensureDir dir names).1 := fun tree names =>
    (confined_ensureDir tree dir names).mono (fun _ hp => ⟨names, List.prefix_refl _, hp⟩)
      fun _ => id
  have hparent : ∀ {names : List Text} {p : Place},
      (∃ pre, pre <+: Path.parent names ∧ p = pre.foldl step dir) →
        ∃ pre, pre <+: names ∧ p = pre.foldl step dir := by
    rintro names p ⟨pre, hpre, hp⟩
    exact ⟨pre, hpre.trans (Path.isPrefix_parent names), hp⟩
  fun_induction ensureDirs tree dir names with
  | case1 => exact Confined.refl tree
  | case2 names _ _ _ enclosing hmade ih =>
    rw [hmade] at ih
    exact (ih.mono (fun _ => hparent) fun _ => id).trans (hlast enclosing names)
  | case3 _ _ _ _ _ _ hmade ih =>
    rw [hmade] at ih
    exact ih.mono (fun _ => hparent) fun _ => id
  | case4 names _ _ _ _ hensure =>
    have hconfined := hlast tree names
    rwa [hensure] at hconfined

/-- Making the directories of a path changes nothing but the places on its way. -/
theorem confined_makeDirs (tree : FileTree) (path : Text) :
    Confined (OnWay tree.cwd path) Files tree (tree.makeDirs path).1 := by
  unfold makeDirs
  split
  · exact confined_ensureDirs ..
  · exact Confined.refl tree

theorem cwd_makeDirs (tree : FileTree) (path : Text) : (tree.makeDirs path).1.cwd = tree.cwd := by
  have hconfined : Confined (OnWay tree.cwd path) (fun _ => False) tree (tree.makeDirs path).1 :=
    confined_makeDirs tree path
  exact hconfined.cwd

theorem keeps_makeDirs (tree : FileTree) (path : Text) :
    Keeps Kept tree (tree.makeDirs path).1 := by
  have hconfined : Confined (OnWay tree.cwd path) (fun _ => False) tree (tree.makeDirs path).1 :=
    confined_makeDirs tree path
  exact hconfined.keeps fun _ => False.elim

end FileTree
end WikiStubs
