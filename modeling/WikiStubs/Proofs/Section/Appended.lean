import WikiStubs.Proofs.Heading
import WikiStubs.Proofs.Section.Outline
import WikiStubs.Proofs.Section.RoundTrip

/-!
# Sections written behind a page

A heading one level below the only top-level section of a page, written behind the page together
with text whose headings are all deeper, opens one more subsection. What the lines of the page are
cut into stays as it is (`Extent.cut_append_heading`), so the section of the page keeps its name,
its body and its subsections, except that the new one takes the place of a namesake
(`Section.ofPage_append`).
-/
namespace WikiStubs

/-! ## Lines -/

namespace Line

theorem placeFrom_append (offset : Nat) (ls ks : List Text) :
    placeFrom offset (ls ++ ks) =
      placeFrom offset ls ++ placeFrom (offset + Text.byteSize ls.flatten) ks := by
  induction ls generalizing offset with
  | nil => rfl
  | cons l ls ih => simp [placeFrom, ih, Nat.add_assoc]

theorem ofText_append {s : Text} (h : s.getLast? = some '\n') (t : Text) :
    ofText (s ++ t) = ofText s ++ placeFrom s.byteSize t.rawLines := by
  rw [ofText, Text.rawLines_append h, placeFrom_append, Text.flatten_rawLines, Nat.zero_add, ofText]

/-- The lines of a text without headings up to a level have no level up to it. -/
theorem lt_of_level?_placeFrom {ls : List Text} {level : Nat}
    (h : ∀ l ∈ ls, ∀ k, 1 ≤ k → k ≤ level → ¬ IsHeading k l) {offset : Nat} {l : Line}
    (hl : l ∈ placeFrom offset ls) {k : Nat} (hk : l.level? = some k) : level < k := by
  obtain ⟨hhead, hk1, -⟩ := level?_eq_some_iff.1 hk
  by_contra hle
  refine h l.text ?_ k hk1 (by omega) hhead
  rw [← map_text_placeFrom offset ls]
  exact List.mem_map_of_mem hl

end Line

theorem LeastLevel.append {low level : Nat} {ls ms : List Line} (h : LeastLevel low level ls)
    (hms : ∀ l ∈ ms, ∀ k, l.level? = some k → low ≤ k → level ≤ k) :
    LeastLevel low level (ls ++ ms) := by
  obtain ⟨l, hl, hlevel⟩ := h.occurs
  refine ⟨h.low_le, ⟨l, List.mem_append_left ms hl, hlevel⟩, fun l hl k hk hle => ?_⟩
  exact (List.mem_append.1 hl).elim (fun hl => h.least l hl k hk hle) fun hl => hms l hl k hk hle

namespace Extent

variable {level : Nat}

/-- A heading of the level ends what comes before it: that is cut as if nothing followed. -/
theorem cut_append_heading {l : Line} (h : l.level? = some level) (ls ks : List Line) :
    cut level (ls ++ l :: ks) =
      ((cut level ls).1, (cut level ls).2 ++ (cut level (l :: ks)).2) := by
  induction ls with
  | nil => rw [List.nil_append, cut_cons_of_level h]; rfl
  | cons k ls ih =>
    rw [List.cons_append]
    by_cases hk : k.level? = some level
    · rw [cut_cons_of_level hk, cut_cons_of_level hk, ih, List.cons_append]
    · rw [cut_cons_of_other hk, cut_cons_of_other hk, ih]

/-- Lines without a heading of the level belong to the last extent before them. -/
theorem cut_append_of_single {ls ms : List Line} {x : Extent} (hx : (cut level ls).2 = [x])
    (hms : ∀ l ∈ ms, l.level? ≠ some level) :
    (cut level (ls ++ ms)).2 = [{ x with content := x.content ++ ms }] := by
  induction ls with
  | nil => cases hx
  | cons l ls ih =>
    by_cases hl : l.level? = some level
    · rw [cut_cons_of_level hl] at hx
      obtain ⟨rfl, hrest⟩ := List.cons.inj hx
      have hls := cut_eq_nil_iff.1 hrest
      have hall : ∀ k ∈ ls ++ ms, k.level? ≠ some level := fun k hk =>
        (List.mem_append.1 hk).elim (hls k) (hms k)
      rw [List.cons_append, cut_cons_of_level hl, cut_of_none hall, cut_of_none hls]
    · rw [cut_cons_of_other hl] at hx
      rw [List.cons_append, cut_cons_of_other hl, ih hx]

end Extent

/-! ## Sections -/

namespace Section

/-- The section of an extent in which a heading of the next level opens one more subsection. -/
theorem ofExtent_append {level : Nat} {x : Extent}
    (hnext : LeastLevel (level + 1) (level + 1) x.content)
    {head : Line} (hhead : head.level? = some (level + 1)) {ks : List Line}
    (hks : ∀ l ∈ ks, ∀ k, l.level? = some k → level + 1 < k) :
    ∃ v : Section, v.name = Heading.nameOf (Heading.title head.text) ∧
      (ofExtent level { x with content := x.content ++ head :: ks }).body =
        (ofExtent level x).body ∧
      (ofExtent level { x with content := x.content ++ head :: ks }).subsections =
        put v (ofExtent level x).subsections := by
  have hks' : ∀ l ∈ ks, l.level? ≠ some (level + 1) := fun l hl hk =>
    absurd (hks l hl _ hk) (Nat.lt_irrefl _)
  have hnext' : LeastLevel (level + 1) (level + 1) (x.content ++ head :: ks) :=
    ⟨Nat.le_refl _, ⟨head, by simp, hhead⟩, fun l _ k _ hle => hle⟩
  have hone : 1 ≤ level + 1 := Nat.le_add_left 1 level
  refine ⟨ofExtent (level + 1) ⟨Heading.nameOf (Heading.title head.text), head, ks⟩, rfl, ?_, ?_⟩
  · obtain ⟨l, hl, hlevel⟩ := hnext.occurs
    have hdeeper : l.isDeeper level = true :=
      Line.isDeeper_iff.2 ⟨level + 1, hlevel, Nat.lt_succ_self level⟩
    have hstop : (x.content.takeWhile (!·.isDeeper level)).length ≠ x.content.length := fun e => by
      have hall := List.takeWhile_eq_self_iff.1 ((List.takeWhile_sublist _).eq_of_length e)
      have hl := hall l hl
      simp [hdeeper] at hl
    simp only [ofExtent, Extent.body, List.takeWhile_append, if_neg hstop]
  · rw [subsections_ofExtent, subsections_ofExtent, fromLevel_of_least hone hnext',
      fromLevel_of_least hone hnext, Extent.cut_append_heading hhead,
      Extent.cut_cons_of_level hhead, Extent.cut_of_none hks', List.map_append, List.map_singleton,
      keepLast_concat]

variable {t : Text} {s u : Section}

/-- The only section of a page is that of its only extent. -/
theorem exists_extent_of_ofPage (h : ofPage t = [s]) :
    ∃ level x, LeastLevel 1 level (Line.ofText t) ∧
      (Extent.cut level (Line.ofText t)).2 = [x] ∧ s = ofExtent level x := by
  rw [ofPage_eq] at h
  rcases leastLevel_or_none 1 (Line.ofText t) with hnone | ⟨level, hleast⟩
  · rw [fromLevel_of_none (Nat.le_refl 1) hnone] at h
    cases h
  · rw [fromLevel_of_least (Nat.le_refl 1) hleast, List.map_eq_singleton_iff] at h
    obtain ⟨x, hx, hs⟩ := h
    exact ⟨level, x, hleast, hx, hs.symm⟩

/-- The subsections of an extent have its least deeper level. -/
theorem leastLevel_of_mem_subsections {low level : Nat} {x : Extent}
    (h : Found low (Line.ofText t) level x) (hu : u ∈ (ofExtent level x).subsections) :
    LeastLevel (level + 1) (u.level t) x.content := by
  rw [subsections_ofExtent] at hu
  have hu := mem_keepLast hu
  rcases leastLevel_or_none (level + 1) x.content with hnone | ⟨least, hleast⟩
  · rw [fromLevel_of_none (Nat.le_add_left 1 level) hnone] at hu
    cases hu
  · rw [fromLevel_content hleast] at hu
    obtain ⟨y, hy, rfl⟩ := List.mem_map.1 hu
    rwa [level_ofExtent (h.trans (found_of_mem_cut hleast hy))]

/-- A page with one section, which has a subsection of the next level, and behind it a heading of
that level and text without a heading of that level or above: the new heading opens a subsection,
and nothing else changes. -/
theorem ofPage_append (hend : t.getLast? = some '\n') (hone : ofPage t = [s])
    (hu : u ∈ s.subsections) (hnext : u.level t = s.level t + 1) {line : Text}
    (hline : line.rawLines = [line]) (hlast : line.getLast? = some '\n')
    (hhead : IsHeading (s.level t + 1) line) {more : Text}
    (hmore : ∀ l ∈ more.rawLines, ∀ k, 1 ≤ k → k ≤ s.level t + 1 → ¬ IsHeading k l) :
    ∃ s' v : Section, ofPage (t ++ (line ++ more)) = [s'] ∧
      v.name = Heading.nameOf (Heading.title line) ∧ s'.name = s.name ∧ s'.body = s.body ∧
      s'.subsections = put v s.subsections := by
  obtain ⟨level, x, hleast, hx, rfl⟩ := exists_extent_of_ofPage hone
  have hfound := found_of_mem_cut hleast (hx ▸ List.mem_singleton_self x)
  rw [level_ofExtent hfound] at hnext hhead hmore
  have hsub := leastLevel_of_mem_subsections hfound hu
  rw [hnext] at hsub
  -- The lines of the new page are those of the page, the heading, and deeper ones.
  obtain ⟨head, ks, hheadtext, hdeeper, hlines⟩ : ∃ (head : Line) (ks : List Line),
      head.text = line ∧ (∀ l ∈ ks, ∀ k, l.level? = some k → level + 1 < k) ∧
      Line.ofText (t ++ (line ++ more)) = Line.ofText t ++ head :: ks := by
    refine ⟨⟨t.byteSize, line⟩, Line.placeFrom (t.byteSize + line.byteSize) more.rawLines, rfl,
      fun l hl k hk => Line.lt_of_level?_placeFrom hmore hl hk, ?_⟩
    rw [Line.ofText_append hend, Text.rawLines_append hlast, hline]
    rfl
  have hheadlevel : head.level? = some (level + 1) :=
    Line.level?_eq_some_iff.2 ⟨hheadtext ▸ hhead, by omega, hsub.le_maxLevel⟩
  have hnew : ∀ l ∈ head :: ks, ∀ k, l.level? = some k → level < k := by
    rw [List.forall_mem_cons]
    refine ⟨fun k hk => ?_, fun l hl k hk => Nat.lt_of_succ_lt (hdeeper l hl k hk)⟩
    rw [hheadlevel] at hk
    cases hk
    exact Nat.lt_succ_self level
  have hleast' := hleast.append fun l hl k hk _ => Nat.le_of_lt (hnew l hl k hk)
  rw [← hlines] at hleast'
  obtain ⟨v, hname, hbody, hsubsections⟩ := ofExtent_append hsub hheadlevel hdeeper
  refine ⟨ofExtent level { x with content := x.content ++ head :: ks }, v, ?_,
    hheadtext ▸ hname, rfl, hbody, hsubsections⟩
  rw [ofPage_eq, fromLevel_of_least (Nat.le_refl 1) hleast', hlines,
    Extent.cut_append_of_single hx fun l hl hk => absurd (hnew l hl _ hk) (Nat.lt_irrefl _),
    List.map_singleton]

end Section
end WikiStubs
