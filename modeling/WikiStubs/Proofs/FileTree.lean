import Mathlib.Data.List.Basic
import WikiStubs.FileTree

/-!
# What stays where it is

There are no links in a file tree, so where a path leads follows from its names alone
(`FileTree.placeOf`); what stands on the way only decides whether it can be walked. Walking meets
no other nodes when directories stay directories, so a file that is kept is read as before
(`FileTree.Keeps.read`). Writing a file keeps all directories and every file at another place
(`FileTree.Wrote.keeps`), and what has been written is read back (`FileTree.Wrote.read`).

The path of a file ends in a component with the extension, whatever slashes the directory and the
base name have (`Path.exists_components_file`). A name without slashes is a component of its own
(`Path.components_join`).
-/
namespace WikiStubs

/-! ## The last component of a path -/

namespace Path

/-- What is written after a text without a slash belongs to its last piece. -/
theorem exists_splitOn_append {v : Text} (hv : '/' ∉ v) (u : Text) :
    ∃ init last, u.splitOn '/' = init ++ [last] ∧ (u ++ v).splitOn '/' = init ++ [last ++ v] := by
  induction u with
  | nil => exact ⟨[], [], rfl, List.splitOn_eq_singleton hv⟩
  | cons c u ih =>
    obtain ⟨init, last, hu, huv⟩ := ih
    rw [List.cons_append, List.splitOn_cons_eq_if_modifyHead, List.splitOn_cons_eq_if_modifyHead,
      hu, huv]
    split
    · exact ⟨[] :: init, last, rfl, rfl⟩
    · cases init with
      | nil => exact ⟨[], c :: last, rfl, rfl⟩
      | cons piece init => exact ⟨(c :: piece) :: init, last, rfl, rfl⟩

/-- A last piece that is not empty is the last component. -/
theorem components_of_splitOn {path last : Text} {init : List Text}
    (h : path.splitOn '/' = init ++ [last]) (hne : last ≠ []) :
    components path = init.filter (· ≠ []) ++ [last] := by
  rw [components, h, List.filter_append, List.filter_cons_of_pos (by simpa using hne),
    List.filter_nil]

theorem exists_file_eq (dir base extension : Text) :
    ∃ u, file dir base extension = u ++ '.' :: extension := by
  unfold file join
  split
  · exact ⟨base, rfl⟩
  · split
    · exact ⟨dir ++ base, by rw [List.append_assoc]⟩
    · exact ⟨dir ++ '/' :: base, by rw [List.append_assoc, List.cons_append]⟩

theorem exists_components_file {extension : Text} (h : '/' ∉ extension) (dir base : Text) :
    ∃ init stem, components (file dir base extension) = init ++ [stem ++ '.' :: extension] := by
  obtain ⟨u, hu⟩ := exists_file_eq dir base extension
  obtain ⟨init, stem, -, hsplit⟩ := exists_splitOn_append (v := '.' :: extension) (by simp [h]) u
  rw [hu]
  exact ⟨_, stem, components_of_splitOn hsplit (by simp)⟩

/-! ## Names without slashes -/

theorem components_append_slash (dir rest : Text) :
    components (dir ++ '/' :: rest) = components dir ++ components rest := by
  have hsplit : (dir ++ '/' :: rest).splitOn '/' = dir.splitOn '/' ++ rest.splitOn '/' :=
    List.splitOnP_append_cons _ _ (by simp)
  rw [components, hsplit, List.filter_append, components, components]

theorem components_of_name {name : Text} (hne : name ≠ []) (h : '/' ∉ name) :
    components name = [name] := by
  have hsplit : name.splitOn '/' = [] ++ [name] := List.splitOn_eq_singleton h
  rw [components_of_splitOn hsplit hne]
  rfl

theorem isAbsolute_eq_false {name : Text} (h : '/' ∉ name) : isAbsolute name = false := by
  rw [isAbsolute, decide_eq_false_iff_not]
  exact fun e => h (List.mem_of_head? e)

theorem components_join {dir name : Text} (hne : name ≠ []) (h : '/' ∉ name) :
    components (join dir name) = components dir ++ [name] := by
  rw [join, isAbsolute_eq_false h, if_neg (by decide)]
  split
  · next hdir =>
    rcases hdir with rfl | hlast
    · exact components_of_name hne h
    · obtain ⟨d, rfl⟩ := List.getLast?_eq_some_iff.1 hlast
      rw [List.append_assoc, List.singleton_append, components_append_slash,
        components_append_slash, components_of_name hne h]
      simp [components]
  · rw [components_append_slash, components_of_name hne h]

theorem isAbsolute_join {dir name : Text} (h : '/' ∉ name) :
    isAbsolute (join dir name) = isAbsolute dir := by
  rw [join, isAbsolute_eq_false h, if_neg (by decide)]
  cases dir with
  | nil => exact isAbsolute_eq_false h
  | cons c dir => split <;> rfl

end Path

namespace FileTree

variable {tree tree' : FileTree} {dir place : Place} {name path text : Text} {names : List Text}
  {node : Option Node}

/-! ## Nodes -/

theorem find?_put (place p : Place) (node : Node) (es : List (Place × Node)) :
    find? p (put place node es) = if place = p then some node else find? p es := by
  induction es with
  | nil => rfl
  | cons e es ih =>
    obtain ⟨q, n⟩ := e
    by_cases hq : q = place
    · subst hq
      rw [put, if_pos rfl, find?, find?]
      split <;> rfl
    · rw [put, if_neg hq, find?, find?, ih]
      by_cases hp : q = p
      · subst hp
        rw [if_pos rfl, if_pos rfl, if_neg (Ne.symm hq)]
      · rw [if_neg hp, if_neg hp]

theorem node?_set (hne : place ≠ []) (n : Node) (p : Place) :
    (tree.set place n).node? p = if place = p then some n else tree.node? p := by
  rw [node?, set, find?_put, node?]
  by_cases hp : p = []
  · subst hp
    rw [if_pos rfl, if_neg hne, if_pos rfl]
  · rw [if_neg hp, if_neg hp]

/-! ## Places -/

/-- Where a name leads from a directory. -/
def step (dir : Place) (name : Text) : Place :=
  if name = Path.here then dir else if name = Path.up then dir.dropLast else dir ++ [name]

/-- Where a path leads from a working directory. -/
def placeOf (cwd : Place) (path : Text) : Place :=
  (Path.components path).foldl step (if Path.isAbsolute path then [] else cwd)

theorem placeOf_eq (tree : FileTree) (path : Text) :
    placeOf tree.cwd path = (Path.components path).foldl step (tree.origin path) := rfl

/-- A name that leads into a directory, and not to itself or upwards. -/
def IsProper (name : Text) : Prop := name ≠ Path.here ∧ name ≠ Path.up

theorem step_of_proper (h : IsProper name) (dir : Place) : step dir name = dir ++ [name] := by
  rw [step, if_neg h.1, if_neg h.2]

theorem child?_of_proper (h : IsProper name) (hsize : name.byteSize ≤ maxName) :
    tree.child? dir name = .ok (dir ++ [name], tree.node? (dir ++ [name])) := by
  rw [child?, if_neg h.1, if_neg h.2, if_neg (Nat.not_lt.2 hsize)]

/-- A name that is not proper leads to a directory, whatever the tree is. -/
theorem child?_of_not_proper (tree : FileTree) (h : ¬ IsProper name) :
    tree.child? dir name = .ok (step dir name, some .directory) := by
  rw [child?, step]
  by_cases hhere : name = Path.here
  · rw [if_pos hhere, if_pos hhere]
  · have hup : name = Path.up := by
      by_contra hup
      exact h ⟨hhere, hup⟩
    rw [if_neg hhere, if_neg hhere, if_pos hup, if_pos hup]

/-- A proper name leads to its place, and to what stands there. -/
theorem of_child? (hproper : IsProper name) (h : tree.child? dir name = .ok (place, node)) :
    name.byteSize ≤ maxName ∧ place = dir ++ [name] ∧ node = tree.node? (dir ++ [name]) := by
  rw [child?, if_neg hproper.1, if_neg hproper.2] at h
  split at h
  · cases h
  · next hsize =>
    cases h
    exact ⟨Nat.not_lt.1 hsize, rfl, rfl⟩

theorem eq_step_of_child? (h : tree.child? dir name = .ok (place, node)) :
    place = step dir name := by
  by_cases hproper : IsProper name
  · rw [(of_child? hproper h).2.1, step_of_proper hproper]
  · rw [child?_of_not_proper tree hproper] at h
    cases h
    rfl

/-! ## Paths of files -/

/-- A name with a character that is no dot is proper. -/
theorem isProper_of_mem {c : Char} (hc : c ∈ name) (h : c ≠ '.') : IsProper name := by
  constructor
  · rintro rfl
    exact h (List.mem_singleton.1 hc)
  · rintro rfl
    rcases List.mem_cons.1 hc with e | hc
    · exact h e
    · exact h (List.mem_singleton.1 hc)

/-- The path of a file leads to a place whose name has the extension. -/
theorem exists_placeOf_file {extension : Text} (hslash : '/' ∉ extension)
    (hproper : ∃ c ∈ extension, c ≠ '.') (cwd : Place) (dir base : Text) :
    ∃ d stem, placeOf cwd (Path.file dir base extension) = d ++ [stem ++ '.' :: extension] := by
  obtain ⟨init, stem, hcomponents⟩ := Path.exists_components_file hslash dir base
  obtain ⟨c, hc, hne⟩ := hproper
  have hname : IsProper (stem ++ '.' :: extension) :=
    isProper_of_mem (List.mem_append_right _ (List.mem_cons_of_mem _ hc)) hne
  rw [placeOf, hcomponents, List.foldl_append]
  exact ⟨_, stem, step_of_proper hname _⟩

/-- A file whose base name has no slash stands in the directory of its path. -/
theorem placeOf_file {extension base : Text} (hslash : '/' ∉ extension)
    (hproper : ∃ c ∈ extension, c ≠ '.') (hbase : '/' ∉ base) (cwd : Place) (dir : Text) :
    placeOf cwd (Path.file dir base extension) =
      placeOf cwd dir ++ [base ++ '.' :: extension] := by
  obtain ⟨c, hc, hdot⟩ := hproper
  have hname : IsProper (base ++ '.' :: extension) :=
    isProper_of_mem (List.mem_append_right _ (List.mem_cons_of_mem _ hc)) hdot
  have hclean : '/' ∉ base ++ '.' :: extension := by simp [hbase, hslash]
  rw [placeOf, Path.file, Path.components_join (by simp) hclean, Path.isAbsolute_join hclean,
    List.foldl_append]
  exact step_of_proper hname _

/-! ## Walking -/

theorem walk_cons_eq_ok {d : Place} : tree.walk dir (name :: names) = .ok d ↔
    ∃ place, tree.child? dir name = .ok (place, some .directory) ∧
      tree.walk place names = .ok d := by
  rw [walk]
  cases hchild : tree.child? dir name with
  | error e => simp [bind, Except.bind]
  | ok x =>
    obtain ⟨place, _ | _ | _⟩ := x <;> simp [bind, Except.bind]

theorem walk_eq_ok {d : Place} (h : tree.walk dir names = .ok d) : d = names.foldl step dir := by
  induction names generalizing dir with
  | nil =>
    cases h
    rfl
  | cons name names ih =>
    obtain ⟨place, hchild, hwalk⟩ := walk_cons_eq_ok.1 h
    rw [ih hwalk, eq_step_of_child? hchild, List.foldl_cons]

theorem locate_concat : tree.locate dir (names ++ [name]) =
    (tree.walk dir names).bind fun d => tree.child? d name := by
  rw [locate, List.getLast?_concat, List.dropLast_concat]
  rfl

theorem locate_concat_eq_ok {x : Place × Option Node} :
    tree.locate dir (names ++ [name]) = .ok x ↔
      ∃ d, tree.walk dir names = .ok d ∧ tree.child? d name = .ok x := by
  rw [locate_concat]
  cases tree.walk dir names with
  | error e => simp [Except.bind]
  | ok d => simp [Except.bind]

/-- Names that lead to no directory lead to their place by a proper last name. -/
theorem of_locate (h : tree.locate dir names = .ok (place, node)) (hnode : node ≠ some .directory) :
    place = names.foldl step dir ∧ node = tree.node? place ∧
      ∃ name d, names.getLast? = some name ∧ place = d ++ [name] := by
  rcases List.eq_nil_or_concat names with rfl | ⟨init, name, rfl⟩
  · cases h
    exact absurd rfl hnode
  · rw [List.concat_eq_append] at h ⊢
    obtain ⟨d, hwalk, hchild⟩ := locate_concat_eq_ok.1 h
    by_cases hproper : IsProper name
    · obtain ⟨-, rfl, hnode'⟩ := of_child? hproper hchild
      rw [List.foldl_append, ← walk_eq_ok hwalk]
      exact ⟨(step_of_proper hproper d).symm, hnode', name, d, List.getLast?_concat .., rfl⟩
    · rw [child?_of_not_proper tree hproper] at hchild
      cases hchild
      exact absurd rfl hnode

/-! ## What is kept -/

/-- All directories stay, and so do the files at some of the places. -/
structure Keeps (Kept : Place → Prop) (tree tree' : FileTree) : Prop where
  cwd : tree'.cwd = tree.cwd
  dirs : ∀ p, tree.node? p = some .directory → tree'.node? p = some .directory
  files : ∀ p text, Kept p → tree.node? p = some (.file text) → tree'.node? p = some (.file text)

namespace Keeps

variable {Kept : Place → Prop}

theorem child? (h : Keeps Kept tree tree') {n : Node}
    (hchild : tree.child? dir name = .ok (place, some n)) (hn : n = .directory ∨ Kept place) :
    tree'.child? dir name = .ok (place, some n) := by
  by_cases hproper : IsProper name
  · obtain ⟨hsize, rfl, hnode⟩ := of_child? hproper hchild
    rw [child?_of_proper hproper hsize]
    cases n with
    | directory => rw [h.dirs _ hnode.symm]
    | file text =>
      rcases hn with hn | hn
      · cases hn
      · rw [h.files _ _ hn hnode.symm]
  · rw [child?_of_not_proper tree hproper] at hchild
    rw [child?_of_not_proper tree' hproper, hchild]

theorem walk (h : Keeps Kept tree tree') {d : Place} (hwalk : tree.walk dir names = .ok d) :
    tree'.walk dir names = .ok d := by
  induction names generalizing dir with
  | nil => exact hwalk
  | cons name names ih =>
    obtain ⟨place, hchild, hwalk⟩ := walk_cons_eq_ok.1 hwalk
    exact walk_cons_eq_ok.2 ⟨place, h.child? hchild (Or.inl rfl), ih hwalk⟩

theorem locate (h : Keeps Kept tree tree') {n : Node}
    (hlocate : tree.locate dir names = .ok (place, some n)) (hn : n = .directory ∨ Kept place) :
    tree'.locate dir names = .ok (place, some n) := by
  rcases List.eq_nil_or_concat names with rfl | ⟨init, name, rfl⟩
  · exact hlocate
  · rw [List.concat_eq_append] at hlocate ⊢
    obtain ⟨d, hwalk, hchild⟩ := locate_concat_eq_ok.1 hlocate
    exact locate_concat_eq_ok.2 ⟨d, h.walk hwalk, h.child? hchild hn⟩

end Keeps

/-! ## Reading and writing -/

theorem read_eq_ok {t : Text} : tree.read path = .ok t ↔ admissible path = .ok () ∧
    ∃ place, tree.locate (tree.origin path) (Path.components path) =
      .ok (place, some (.file (some t))) := by
  rw [read]
  cases admissible path with
  | error e => simp [bind, Except.bind]
  | ok u =>
    cases hlocate : tree.locate (tree.origin path) (Path.components path) with
    | error e => simp [bind, Except.bind]
    | ok x =>
      obtain ⟨place, _ | ⟨_ | text⟩ | _⟩ := x <;> simp [bind, Except.bind]

/-- A file that is kept is read as before. -/
theorem Keeps.read {Kept : Place → Prop} (h : Keeps Kept tree tree')
    (hkept : Kept (placeOf tree.cwd path)) {t : Text} (hread : tree.read path = .ok t) :
    tree'.read path = .ok t := by
  obtain ⟨hadm, place, hlocate⟩ := read_eq_ok.1 hread
  have horigin : tree'.origin path = tree.origin path := by rw [origin, h.cwd, origin]
  have hplace := (of_locate hlocate (by simp)).1
  refine read_eq_ok.2 ⟨hadm, place, horigin ▸ h.locate hlocate (Or.inr ?_)⟩
  rwa [hplace, ← placeOf_eq]

/-- Setting a node keeps what does not stand there. -/
theorem keeps_set {Kept : Place → Prop} {n : Node} (hne : place ≠ [])
    (hdir : tree.node? place ≠ some .directory)
    (hfile : ∀ text, tree.node? place = some (.file text) → ¬ Kept place) :
    Keeps Kept tree (tree.set place n) where
  cwd := rfl
  dirs p hp := by
    rw [node?_set hne, if_neg]
    · exact hp
    · rintro rfl
      exact hdir hp
  files p text hkept hp := by
    rw [node?_set hne, if_neg]
    · exact hp
    · rintro rfl
      exact hfile text hp hkept

/-- What a write does: the file stands where the path leads to, and no directory stood there. -/
structure Wrote (tree : FileTree) (path text : Text) (tree' : FileTree) : Prop where
  admissible : FileTree.admissible path = .ok ()
  located : tree.locate (tree.origin path) (Path.components path) =
    .ok (placeOf tree.cwd path, tree.node? (placeOf tree.cwd path))
  notDirectory : tree.node? (placeOf tree.cwd path) ≠ some .directory
  ends : ∃ name dir, (Path.components path).getLast? = some name ∧
    placeOf tree.cwd path = dir ++ [name]
  eq : tree' = tree.set (placeOf tree.cwd path) (.file (some text))

theorem wrote_of_write (h : tree.write path text = .ok tree') : Wrote tree path text tree' := by
  rw [write] at h
  cases hadm : admissible path with
  | error e => simp [hadm, bind, Except.bind] at h
  | ok u =>
    cases hlocate : tree.locate (tree.origin path) (Path.components path) with
    | error e => simp [hadm, hlocate, bind, Except.bind] at h
    | ok x =>
      obtain ⟨place, node⟩ := x
      have hnode : node ≠ some .directory := by
        rintro rfl
        simp [hadm, hlocate, bind, Except.bind] at h
      have htree : tree' = tree.set place (.file (some text)) := by
        rcases node with _ | _ | _
        · simpa [hadm, hlocate, bind, Except.bind] using h.symm
        · simpa [hadm, hlocate, bind, Except.bind] using h.symm
        · exact absurd rfl hnode
      obtain ⟨hplace, hnode', hends⟩ := of_locate hlocate hnode
      rw [← placeOf_eq] at hplace
      rw [hplace] at hlocate hnode' htree hends
      exact ⟨hadm, hnode' ▸ hlocate, hnode' ▸ hnode, hends, htree⟩

namespace Wrote

theorem place_ne_nil (h : Wrote tree path text tree') : placeOf tree.cwd path ≠ [] := by
  obtain ⟨name, dir, -, hplace⟩ := h.ends
  rw [hplace]
  exact List.append_ne_nil_of_right_ne_nil _ (List.cons_ne_nil _ _)

theorem node?_eq (h : Wrote tree path text tree') (p : Place) : tree'.node? p =
    if placeOf tree.cwd path = p then some (.file (some text)) else tree.node? p := by
  rw [h.eq, node?_set h.place_ne_nil]

/-- Directories stay, and so do files elsewhere. -/
theorem keeps (h : Wrote tree path text tree') {Kept : Place → Prop}
    (hkept : ¬ Kept (placeOf tree.cwd path)) : Keeps Kept tree tree' := by
  rw [h.eq]
  exact keeps_set h.place_ne_nil h.notDirectory fun _ _ => hkept

/-- The last name of the path leads from a directory to the file. -/
theorem exists_walk (h : Wrote tree path text tree') :
    ∃ init name dir, Path.components path = init ++ [name] ∧
      tree.walk (tree.origin path) init = .ok dir ∧ IsProper name ∧ name.byteSize ≤ maxName ∧
      placeOf tree.cwd path = dir ++ [name] := by
  obtain ⟨name, -, hlast, -⟩ := h.ends
  obtain ⟨init, hcomponents⟩ := List.getLast?_eq_some_iff.1 hlast
  have hlocated := h.located
  rw [hcomponents] at hlocated
  obtain ⟨dir, hwalk, hchild⟩ := locate_concat_eq_ok.1 hlocated
  have hproper : IsProper name := by
    by_contra hnot
    rw [child?_of_not_proper tree hnot] at hchild
    exact h.notDirectory (Prod.mk.inj (Except.ok.inj hchild)).2.symm
  obtain ⟨hsize, hplace, -⟩ := of_child? hproper hchild
  exact ⟨init, name, dir, hcomponents, hwalk, hproper, hsize, hplace⟩

/-- As long as directories stay, the path leads to the same place. -/
theorem locate_of_keeps (h : Wrote tree path text tree') {Kept : Place → Prop} {later : FileTree}
    (hkeeps : Keeps Kept tree later) :
    later.locate (later.origin path) (Path.components path) =
      .ok (placeOf tree.cwd path, later.node? (placeOf tree.cwd path)) := by
  have horigin : later.origin path = tree.origin path := by rw [origin, hkeeps.cwd, origin]
  obtain ⟨init, name, dir, hcomponents, hwalk, hproper, hsize, hplace⟩ := h.exists_walk
  rw [horigin, hcomponents, hplace]
  exact locate_concat_eq_ok.2 ⟨dir, hkeeps.walk hwalk, child?_of_proper hproper hsize⟩

/-- What has been written is read back. -/
theorem read (h : Wrote tree path text tree') : tree'.read path = .ok text := by
  have hkeeps : Keeps (fun _ => False) tree tree' := h.keeps id
  refine read_eq_ok.2 ⟨h.admissible, placeOf tree.cwd path, ?_⟩
  rw [h.locate_of_keeps hkeeps, h.node?_eq, if_pos rfl]

end Wrote

end FileTree
end WikiStubs
