import WikiStubs.Proofs.Section.Spans

/-!
# Outlines

The names and bodies of sections depend on the lines of the page alone, not on where these stand.
The outline of some lines at a level is the list of the names and bodies that the heading lines of
that level give (`outline`); without a heading above the level it is what the sections of the
lines show (`map_fromLevel`). So two pages can be compared line by line.

* `outline_block`: a heading line and the lines up to the next heading come off the front.
* `Section.ofPage_of_single`: a page whose first line is its only heading of level 1 has one
  section. Its subsections are the outline of the other lines.
-/
namespace WikiStubs

/-- The names and bodies of the sections that the heading lines of a level open. -/
def outline (level : Nat) : List Text → List (Text × Text)
  | [] => []
  | l :: ls =>
    if IsHeading level l then
      (Heading.nameOf (Heading.title l), (ls.takeWhile fun l => ¬ IsHeadingFrom 1 l).flatten) ::
        outline level ls
    else outline level ls

@[simp] theorem outline_nil (level : Nat) : outline level [] = [] := rfl

theorem outline_cons_of_heading {level : Nat} {l : Text} (h : IsHeading level l)
    (ls : List Text) : outline level (l :: ls) =
      (Heading.nameOf (Heading.title l), (ls.takeWhile fun l => ¬ IsHeadingFrom 1 l).flatten) ::
        outline level ls := by
  rw [outline, if_pos h]

theorem outline_cons_of_other {level : Nat} {l : Text} (h : ¬ IsHeading level l)
    (ls : List Text) : outline level (l :: ls) = outline level ls := by
  rw [outline, if_neg h]

theorem outline_append_of_none {level : Nat} {ls : List Text} (h : ∀ l ∈ ls, ¬ IsHeading level l)
    (ks : List Text) : outline level (ls ++ ks) = outline level ks := by
  induction ls with
  | nil => rfl
  | cons l ls ih =>
    rw [List.cons_append, outline_cons_of_other (h l (List.mem_cons_self ..))]
    exact ih fun k hk => h k (List.mem_cons_of_mem _ hk)

theorem outline_eq_nil_iff {level : Nat} {ls : List Text} :
    outline level ls = [] ↔ ∀ l ∈ ls, ¬ IsHeading level l := by
  induction ls with
  | nil => simp
  | cons l ls ih =>
    by_cases h : IsHeading level l
    · simp [outline_cons_of_heading h, h]
    · simp [outline_cons_of_other h, h, ih]

theorem takeWhile_block {block ks : List Text} (hblock : ∀ l ∈ block, ¬ IsHeadingFrom 1 l)
    (hks : ∀ k ∈ ks.head?, IsHeadingFrom 1 k) :
    (block ++ ks).takeWhile (fun l => ¬ IsHeadingFrom 1 l) = block := by
  rw [List.takeWhile_append_of_pos fun l hl => decide_eq_true (hblock l hl)]
  cases ks with
  | nil => simp
  | cons k ks => simp [hks k rfl]

/-- A heading line and its block, up to the next heading or the end. -/
theorem outline_block {level : Nat} (h1 : 1 ≤ level) (h7 : level ≤ maxLevel) {head : Text}
    (hhead : IsHeading level head) {block ks : List Text}
    (hblock : ∀ l ∈ block, ¬ IsHeadingFrom 1 l) (hks : ∀ k ∈ ks.head?, IsHeadingFrom 1 k) :
    outline level (head :: (block ++ ks)) =
      (Heading.nameOf (Heading.title head), block.flatten) :: outline level ks := by
  rw [outline_cons_of_heading hhead, takeWhile_block hblock hks, outline_append_of_none]
  exact fun l hl hh => hblock l hl ⟨level, h7, h1, hh⟩

/-! ## Sections -/

/-- Among lines without a heading above `level`, the headings are those of `level` and the deeper
ones. -/
theorem isHeadingFrom_one_iff {level : Nat} {l : Line} (h1 : 1 ≤ level)
    (h : ∀ k, l.level? = some k → level ≤ k) :
    IsHeadingFrom 1 l.text ↔ l.isDeeper level = true ∨ l.level? = some level := by
  rw [Line.isDeeper_iff, Line.isHeadingFrom_iff (Nat.le_refl 1)]
  constructor
  · intro hx
    obtain ⟨k, hk, -⟩ := hx
    rcases Nat.lt_or_eq_of_le (h k hk) with hlt | rfl
    · exact Or.inl ⟨k, hk, hlt⟩
    · exact Or.inr hk
  · intro hx
    rcases hx with ⟨k, hk, hlt⟩ | hk
    · exact ⟨k, hk, by omega⟩
    · exact ⟨level, hk, h1⟩

/-- The extents that lines are cut into show their outline. -/
theorem map_cut {level : Nat} (h1 : 1 ≤ level) {ls : List Line}
    (hleast : ∀ l ∈ ls, ∀ k, l.level? = some k → level ≤ k) (h7 : level ≤ maxLevel) :
    (Extent.cut level ls).2.map (fun x => (x.name, x.body level)) =
      outline level (ls.map (·.text)) := by
  induction ls with
  | nil => rfl
  | cons l ls ih =>
    have hrest : ∀ k ∈ ls, ∀ j, k.level? = some j → level ≤ j :=
      fun k hk => hleast k (List.mem_cons_of_mem _ hk)
    by_cases hl : l.level? = some level
    · have hcongr : ∀ k ∈ ls, decide ((!k.isDeeper level) = true ∧
          decide (k.level? ≠ some level) = true) = decide (¬ IsHeadingFrom 1 k.text) := by
        intro k hk
        rw [decide_eq_decide, isHeadingFrom_one_iff h1 (hrest k hk)]
        simp
      rw [List.map_cons, outline_cons_of_heading (Line.level?_eq_some_iff.1 hl).1, ← ih hrest,
        Extent.cut_cons_of_level hl, List.map_cons]
      simp only [Extent.body, Extent.lead_eq, List.takeWhile_takeWhile, List.takeWhile_map,
        Line.join, List.flatMap_def]
      rw [takeWhile_congr hcongr]
      rfl
    · have hno : ¬ IsHeading level l.text := fun hh =>
        hl (Line.level?_eq_some_iff.2 ⟨hh, h1, h7⟩)
      rw [List.map_cons, outline_cons_of_other hno, ← ih hrest, Extent.cut_cons_of_other hl]

namespace Section

theorem map_fromLevel {low level : Nat} {ls : List Line} (hlow : 1 ≤ low)
    (hleast : LeastLevel low level ls) (hall : ∀ l ∈ ls, ∀ k, l.level? = some k → low ≤ k) :
    (fromLevel low ls).map (fun s => (s.name, s.body)) = outline level (ls.map (·.text)) := by
  have h1 := hleast.low_le
  rw [← map_cut (by omega) (fun l hl k hk => hleast.least l hl k hk (hall l hl k hk))
    hleast.le_maxLevel, fromLevel_of_least hlow hleast, List.map_map]
  rfl

theorem ofPage_eq (t : Text) : ofPage t = fromLevel 1 (Line.ofText t) := rfl

/-- The sections of a page show its outline at its least level. -/
theorem map_ofPage {t : Text} {level : Nat} (h : LeastHeading 1 level t.rawLines) :
    (ofPage t).map (fun s => (s.name, s.body)) = outline level t.rawLines := by
  rw [ofPage_eq, map_fromLevel (Nat.le_refl 1) (h.leastLevel_ofText (Nat.le_refl 1)),
    Line.map_text_ofText]
  exact fun l _ k hk => (Line.level?_eq_some_iff.1 hk).2.1

/-- Among subsections of distinct names each is found by its name. -/
theorem subsection?_of_mem {s u : Section} (h : (s.subsections.map (·.name)).Nodup)
    (hu : u ∈ s.subsections) : s.subsection? u.name = some u := find?_of_mem h hu

theorem exists_subsection? {s : Section} {parts : List (Text × Text)}
    (h : s.subsections.map (fun u => (u.name, u.body)) = parts) (hnames : (parts.map (·.1)).Nodup)
    {name body : Text} (hmem : (name, body) ∈ parts) :
    ∃ u, s.subsection? name = some u ∧ u.body = body := by
  subst h
  rw [List.map_map] at hnames
  obtain ⟨u, hu, he⟩ := List.mem_map.1 hmem
  obtain ⟨rfl, rfl⟩ := Prod.mk.inj he
  exact ⟨u, subsection?_of_mem hnames hu, rfl⟩

/-- A page whose first line is its only heading of level 1 has one section, with the text up to
the next heading as its body. The subsections are the outline of what follows the first line. -/
theorem ofPage_of_single {t head : Text} {ls : List Text} (hl : t.rawLines = head :: ls)
    (hhead : IsHeading 1 head) (hone : ∀ l ∈ ls, ¬ IsHeading 1 l) {level : Nat}
    (hlevel : LeastHeading 2 level ls) (hnames : ((outline level ls).map (·.1)).Nodup) :
    ∃ s, ofPage t = [s] ∧ s.name = Heading.nameOf (Heading.title head) ∧
      s.body = (ls.takeWhile fun l => ¬ IsHeadingFrom 1 l).flatten ∧
      s.subsections.map (fun u => (u.name, u.body)) = outline level ls := by
  obtain ⟨k, ks, hk, rfl, rfl⟩ := List.map_eq_cons_iff.1 ((Line.map_text_ofText t).trans hl)
  have hno : ∀ l ∈ ks, l.level? ≠ some 1 := fun l hl hh =>
    hone l.text (List.mem_map_of_mem hl) (Line.level?_eq_some_iff.1 hh).1
  have hlead : (Extent.cut 1 ks).1 = ks := by
    rw [Extent.lead_eq, List.takeWhile_eq_self_iff]
    exact fun l hl => decide_eq_true (hno l hl)
  have htop : LeastHeading 1 1 t.rawLines :=
    ⟨Nat.le_refl 1, by decide, ⟨k.text, hl ▸ List.mem_cons_self .., hhead⟩,
      fun j h1 hlt => by omega⟩
  have hpage : ofPage t = [ofExtent 1 ⟨Heading.nameOf (Heading.title k.text), k, ks⟩] := by
    rw [ofPage_eq, fromLevel_of_least (Nat.le_refl 1) (htop.leastLevel_ofText (Nat.le_refl 1)), hk,
      Extent.cut_cons_of_level (Line.level?_eq_some_iff.2 ⟨hhead, by decide, by decide⟩),
      Extent.cut_eq_nil_iff.2 hno, hlead, List.map_singleton]
  have hbody := map_ofPage htop
  rw [hpage, hl, outline_cons_of_heading hhead] at hbody
  have hsub : (fromLevel 2 ks).map (fun u => (u.name, u.body)) =
      outline level (ks.map (·.text)) := by
    refine map_fromLevel (by decide) (hlevel.leastLevel (by decide)) fun l hl j hj => ?_
    have h1 := (Line.level?_eq_some_iff.1 hj).2.1
    have : j ≠ 1 := by intro e; subst e; exact hno l hl hj
    omega
  refine ⟨_, hpage, rfl, (Prod.mk.inj (List.cons.inj hbody).1).2, ?_⟩
  rw [subsections_ofExtent, keepLast_of_nodup, hsub]
  rw [← hsub, List.map_map] at hnames
  exact hnames

end Section
end WikiStubs
