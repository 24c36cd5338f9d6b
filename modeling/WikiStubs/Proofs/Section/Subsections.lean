import WikiStubs.Proofs.Catalog
import WikiStubs.Proofs.Section.RoundTrip
import WikiStubs.Proofs.Section.Shift

/-!
# Subsections

The text of a section behind its heading line has sections of its own at the least deeper level
(`Section.inner`). The subsections are those of them that no later namesake replaces, at their
place in the page (`subdivided`). A replacing section stands where the replaced one stood in the
list, not where it stands on the page. So the subsections are in the order of the page exactly
when the names occur first in the order in which they occur last, and the same goes for the
categories of a catalog, which are the subsections of one section (`inDocumentOrder_iff`).
-/
namespace WikiStubs

/-- Two spans that do not overlap, whichever comes first. -/
def Span.Apart (s u : Span) : Prop := s.stop ≤ u.start ∨ u.stop ≤ s.start

theorem Span.Apart.symm {s u : Span} (h : s.Apart u) : u.Apart s := Or.symm h

namespace Section

/-! ## The text of a section -/

/-- The text that a section covers behind its heading line. -/
def content (t : Text) (s : Section) : Text := (s.covered t).rawLines.tail.flatten

/-- The offset behind the heading line of a section. -/
def contentStart (t : Text) (s : Section) : Nat :=
  s.span.start + ((s.covered t).rawLines.headD []).byteSize

/-- The sections of the text of a section, at the least level below its own. Their spans are
offsets in that text. -/
def inner (t : Text) (s : Section) : List Section := ofText (s.level t + 1) (s.content t)

section
variable {t : Text} {low level : Nat} {x : Extent}

theorem content_ofExtent (h : Found low (Line.ofText t) level x) :
    (ofExtent level x).content t = Line.join x.content := by
  obtain ⟨pre, post, e, -⟩ := h.place
  have hlines := Line.rawLines_join (e.trans (List.append_assoc ..).symm)
  rw [content, covered_ofExtent h, Extent.text, ← Line.join_cons, hlines, List.map_cons,
    List.tail_cons, Line.join, List.flatMap_def]

theorem contentStart_ofExtent (h : Found low (Line.ofText t) level x) :
    (ofExtent level x).contentStart t = x.head.stop := by
  rw [contentStart, covered_ofExtent h, firstLine_text h]
  rfl

/-- The sections of the text of a section are those of its lines, but for their place. -/
theorem inner_ofExtent (h : Found low (Line.ofText t) level x) :
    ((ofExtent level x).inner t).map (shift x.head.stop) = fromLevel (level + 1) x.content := by
  obtain ⟨pre, post, e, -⟩ := h.place
  have hsplit : Line.ofText t = (pre ++ [x.head]) ++ x.content ++ post := by rw [e]; simp
  have hstop : (Line.join (pre ++ [x.head])).byteSize = x.head.stop := by
    rw [Line.join_append, Text.byteSize_append, ← Line.start_of_split e]
    simp [Line.stop]
  have hplace : (Line.ofText (Line.join x.content)).map (Line.shift x.head.stop) = x.content := by
    rw [← hstop, Line.ofText_join_shift hsplit]
  have hinner : (ofExtent level x).inner t =
      fromLevel (level + 1) (Line.ofText (Line.join x.content)) := by
    rw [inner, level_ofExtent h, content_ofExtent h, ofText, fromLevel,
      max_eq_left (Nat.le_add_left 1 level)]
  rw [hinner, ← fromLevel_shift, hplace]

/-- What the lines of a section are cut into stands behind the body, in order, and within the
span. -/
theorem placed_fromLevel (h : Found low (Line.ofText t) level x) :
    InDocumentOrder (fromLevel (level + 1) x.content) ∧
      ∀ u ∈ fromLevel (level + 1) x.content, u.span.start < u.span.stop ∧
        x.head.stop + (x.body level).byteSize ≤ u.span.start ∧ u.span.stop ≤ x.span.stop := by
  rcases leastLevel_or_none (level + 1) x.content with hnone | ⟨least, hleast⟩
  · rw [fromLevel_of_none (Nat.le_add_left 1 level) hnone]
    exact ⟨.nil, fun u hu => absurd hu List.not_mem_nil⟩
  · have htiles := Extent.tiles_cut least (from_content h)
    have hlead := congrArg Text.byteSize (lead_eq_body_append hleast.low_le x)
    rw [Text.byteSize_append] at hlead
    have hstop : x.span.stop = x.head.stop + (Line.join x.content).byteSize := by
      simp [Extent.span, Extent.text, Line.stop, Nat.add_assoc]
    have hspan : ∀ y ∈ (Extent.cut least x.content).2, y.span.start < y.span.stop := fun y hy => by
      have hhead := Text.byteSize_pos
        (Line.text_ne_nil_of_mem (h.trans (found_of_mem_cut hleast hy)).mem_head)
      simp only [Extent.span, Extent.text, Text.byteSize_append]
      omega
    have hle : ∀ s ∈ (Extent.cut least x.content).2.map Extent.span, s.start ≤ s.stop :=
      List.forall_mem_map.2 fun y hy => Nat.le_of_lt (hspan y hy)
    have hbounds := List.forall_mem_map.1 (htiles.bounds hle).2
    rw [fromLevel_content hleast, List.forall_mem_map, InDocumentOrder, List.pairwise_map]
    refine ⟨List.pairwise_map.1 (htiles.pairwise hle), fun y hy => ⟨hspan y hy, ?_, ?_⟩⟩
    · have := (hbounds y hy).1
      simp only [ofExtent]
      omega
    · rw [hstop]
      exact (hbounds y hy).2

end

/-! ## Which sections are left -/

/-- The subsections of a section, by the sections of its text. -/
structure Subdivided (t : Text) (s : Section) : Prop where
  /-- Each name once, where it occurs first. -/
  names : s.subsections.map (·.name) = ((s.inner t).map (·.name)).eraseDups
  /-- The section of a name is the last one that has it, at its place on the page. -/
  lookup : ∀ name, s.subsection? name =
    (((s.inner t).filter (·.name = name)).getLast?).map (shift (s.contentStart t))
  apart : (s.subsections.map (·.span)).Pairwise Span.Apart
  inside : ∀ u ∈ s.subsections,
    s.contentStart t + s.body.byteSize ≤ u.span.start ∧ u.span.stop ≤ s.span.stop

/-- **Subsections.** At any depth the subsections of a section are the last namesakes among the
sections of its text. They do not overlap and lie behind its body, within its span. -/
theorem subdivided {m : Nat} {t : Text} {s : Section} (h : Below s (ofText m t)) :
    Subdivided t s := by
  obtain ⟨level, x, hx, rfl⟩ := found_of_below h (by omega) fun _ hs => hs
  have hsub : (ofExtent level x).subsections =
      (keepLast ((ofExtent level x).inner t)).map (shift x.head.stop) := by
    rw [subsections_ofExtent, ← inner_ofExtent hx, keepLast_shift]
  obtain ⟨horder, hplaced⟩ := placed_fromLevel hx
  constructor
  case names =>
    rw [hsub, names_shift, names_keepLast]
  case lookup =>
    intro name
    rw [subsection?, hsub, List.find?_map, contentStart_ofExtent hx, ← find?_keepLast]
    simp only [Function.comp_def, name_shift]
  case apart =>
    obtain ⟨dropped, hperm⟩ := perm_keepLast (fromLevel (level + 1) x.content)
    have hapart : (fromLevel (level + 1) x.content).Pairwise fun s u => s.span.Apart u.span :=
      horder.imp Or.inl
    rw [hperm.pairwise_iff Span.Apart.symm, List.pairwise_append] at hapart
    rw [subsections_ofExtent, List.pairwise_map]
    exact hapart.1
  case inside =>
    intro u hu
    rw [subsections_ofExtent] at hu
    rw [contentStart_ofExtent hx]
    exact (hplaced u (mem_keepLast hu)).2

/-- A page with a heading that skips a level, and with two subsections of one name around
another. -/
def repeatedPage : Text := "# f\nlead\n### x\n## a\nold\n## b\n## a\nnew\n"

def repeatedSection : Section :=
  ⟨"f", "lead\n", [⟨"a", "new\n", [], ⟨29, 38⟩⟩, ⟨"b", "", [], ⟨24, 29⟩⟩], ⟨0, 38⟩⟩

theorem below_repeatedSection : Below repeatedSection (ofText 1 repeatedPage) := by
  have hpage : ofText 1 repeatedPage = [repeatedSection] := rfl
  rw [hpage]
  exact .here (List.mem_singleton_self _)

/-- The second `a` is found, and listed first. -/
theorem subdivided_repeatedSection : Below repeatedSection (ofText 1 repeatedPage) ∧
    repeatedSection.subsections.map (·.name) = [("a" : Text), ("b" : Text)] ∧
    (repeatedSection.subsection? "a").map (·.body) = some ("new\n" : Text) := by
  have hsub := subdivided below_repeatedSection
  have hlast : (((repeatedSection.inner repeatedPage).filter
      (·.name = ("a" : Text))).getLast?).map (·.body) = some ("new\n" : Text) := by decide
  refine ⟨below_repeatedSection, hsub.names.trans (by decide), ?_⟩
  rw [hsub.lookup, Option.map_map, ← hlast]
  simp only [Function.comp_def, body_shift]

/-! ## Their order -/

theorem inDocumentOrder_ofExtent_iff {t : Text} {low level : Nat} {x : Extent}
    (h : Found low (Line.ofText t) level x) : InDocumentOrder (ofExtent level x).subsections ↔
      (((ofExtent level x).inner t).map (·.name)).eraseDups =
        (((ofExtent level x).inner t).map (·.name)).dedup := by
  obtain ⟨horder, hplaced⟩ := placed_fromLevel h
  have hnames : (fromLevel (level + 1) x.content).map (·.name) =
      ((ofExtent level x).inner t).map (·.name) := by
    rw [← inner_ofExtent h, names_shift]
  rw [subsections_ofExtent, inDocumentOrder_keepLast_iff horder fun u hu => (hplaced u hu).1,
    hnames]

theorem below_of_subsection? {s u : Section} {ss : List Section} {name : Text}
    (hs : ss.head? = some s) (hu : s.subsection? name = some u) : Below u ss :=
  .inside (List.mem_of_mem_head? hs) (.here (List.mem_of_find?_eq_some hu))

/-- **Order of subsections.** At any depth the subsections of a section, and so the sections that
the categories of a catalog are read from, stand in the order of the page exactly when the names
of the sections of its text occur first in the order in which they occur last. -/
theorem inDocumentOrder_iff (t : Text) :
    (∀ m s, Below s (ofText m t) → (InDocumentOrder s.subsections ↔
      ((s.inner t).map (·.name)).eraseDups = ((s.inner t).map (·.name)).dedup)) ∧
    ∀ cs, Catalog.ofPage t = .ok cs → ∃ top functions : Section,
      (ofPage t).head? = some top ∧ top.subsection? "Functions" = some functions ∧
      List.Forall₂ (fun s c => Catalog.categoryOf s = .ok c) functions.subsections cs ∧
      (InDocumentOrder functions.subsections ↔
        ((functions.inner t).map (·.name)).eraseDups =
          ((functions.inner t).map (·.name)).dedup) := by
  have hall : ∀ m s, Below s (ofText m t) → (InDocumentOrder s.subsections ↔
      ((s.inner t).map (·.name)).eraseDups = ((s.inner t).map (·.name)).dedup) := by
    intro m s h
    obtain ⟨level, x, hx, rfl⟩ := found_of_below h (by omega) fun _ hs => hs
    exact inDocumentOrder_ofExtent_iff hx
  refine ⟨hall, fun cs hcs => ?_⟩
  obtain ⟨top, functions, htop, hfunctions, hread⟩ := Catalog.exists_of_ofPage hcs
  exact ⟨top, functions, htop, hfunctions, hread,
    hall 1 functions (below_of_subsection? htop hfunctions)⟩

/-- A page with two subsections of one name, with no other name between them. -/
def neighboursPage : Text := "# f\n## a\nold\n## a\nnew\n## b\n"

def neighboursSection : Section :=
  ⟨"f", "", [⟨"a", "new\n", [], ⟨13, 22⟩⟩, ⟨"b", "", [], ⟨22, 27⟩⟩], ⟨0, 27⟩⟩

theorem inDocumentOrder_neighbours : Below neighboursSection (ofText 1 neighboursPage) ∧
    InDocumentOrder neighboursSection.subsections := by
  have hpage : ofText 1 neighboursPage = [neighboursSection] := rfl
  have hbelow : Below neighboursSection (ofText 1 neighboursPage) :=
    hpage ▸ .here (List.mem_singleton_self _)
  exact ⟨hbelow, ((inDocumentOrder_iff neighboursPage).1 1 _ hbelow).2 (by decide)⟩

/-- A catalog with a category between two of one name. -/
def repeatedCatalog : Text :=
  "# API\n## Functions\n### a\n* [f](f)\n### b\n* [g](g)\n### a\n* [h](h)\n"

/-- The section listed first stands last on the page, and so does the category read from it. -/
theorem subsections_out_of_order :
    (Below repeatedSection (ofText 1 repeatedPage) ∧
      ¬ InDocumentOrder repeatedSection.subsections) ∧
    Catalog.ofPage repeatedCatalog =
      .ok [⟨"a", [("h" : Text)]⟩, ⟨"b", [("g" : Text)]⟩] := by
  refine ⟨⟨below_repeatedSection, ?_⟩, by decide +kernel⟩
  simp [InDocumentOrder, repeatedSection]

end Section
end WikiStubs
