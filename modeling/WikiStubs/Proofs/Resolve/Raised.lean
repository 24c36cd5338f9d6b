import WikiStubs.Proofs.Resolve.Outcome
import WikiStubs.Proofs.Section.RoundTrip
import WikiStubs.Proofs.Section.Shift

/-!
# Pages one level too deep

A page may give its own name in a heading of the level that its other headings have, as if it were
one of its own subsections (`TooDeep`). Without its first character that heading is one level
higher, and the page is one section: it keeps the name and body of the first section, and the
other sections become its subsections (`Section.ofPage_drop_one`). The second reading of
`settle` repairs such pages (`resolve_raises`).
-/
namespace WikiStubs

/-- The page starts with a heading of a level from 2 on, has another heading of that level, and
none above it. -/
structure TooDeep (level : Nat) (t : Text) : Prop where
  two_le : 2 ≤ level
  le_maxLevel : level ≤ maxLevel
  first : ∃ l₀ ls, t.rawLines = l₀ :: ls ∧ IsHeading level l₀ ∧ ∃ l ∈ ls, IsHeading level l
  least : ∀ l ∈ t.rawLines, ∀ k, 1 ≤ k → k < level → ¬ IsHeading k l

/-- A heading line starts with a hash sign of one byte. -/
theorem IsHeading.byteSize_eq {level : Nat} {l : Text} (h : IsHeading (level + 1) l) :
    l.byteSize = Text.byteSize l.tail + 1 := by
  obtain ⟨gap, c, rest, rfl, -⟩ := h
  simp only [List.replicate_succ, List.cons_append, List.tail_cons, Text.byteSize_cons]
  exact Nat.add_comm ..

namespace TooDeep

variable {level : Nat} {t : Text}

theorem leastHeading (h : TooDeep level t) : LeastHeading 1 level t.rawLines := by
  obtain ⟨l₀, ls, hl, hhead, -⟩ := h.first
  exact ⟨Nat.le_of_succ_le h.two_le, h.le_maxLevel, ⟨l₀, hl ▸ List.mem_cons_self .., hhead⟩,
    fun k hk hlt l hmem => h.least l hmem k hk hlt⟩

/-- The lines of the page with and without its first character: a heading and the one above it,
and the same lines behind them, one byte apart. -/
theorem exists_lines (h : TooDeep (level + 1) t) : ∃ (first raised : Line) (ks : List Line),
    Line.ofText t = first :: ks.map (Line.shift 1) ∧
    Line.ofText (t.drop 1) = raised :: ks ∧ raised.start = 0 ∧
    first.level? = some (level + 1) ∧ raised.level? = some level ∧
    ∃ l ∈ ks, l.level? = some (level + 1) := by
  obtain ⟨l₀, ls, hl, hhead, l, hmem, hlevel⟩ := h.first
  have htwo := h.two_le
  have h7 := h.le_maxLevel
  have hup := (Heading.isHeading_tail hhead).1
  have hne : l₀.tail ≠ [] := fun e => not_isHeading_nil level (e ▸ hup)
  refine ⟨⟨0, l₀⟩, ⟨0, l₀.tail⟩, Line.placeFrom (Text.byteSize l₀.tail) ls, ?_, ?_, rfl,
    Line.level?_eq_some_iff.2 ⟨hhead, by omega, h7⟩,
    Line.level?_eq_some_iff.2 ⟨hup, by omega, by omega⟩, ?_⟩
  · rw [Line.ofText, hl, Line.placeFrom, Line.placeFrom_shift, hhead.byteSize_eq, Nat.zero_add]
  · rw [Line.ofText, rawLines_drop_one hl, if_neg hne, Line.placeFrom, Nat.zero_add]
  · rw [← Line.map_text_placeFrom (Text.byteSize l₀.tail) ls] at hmem
    obtain ⟨k, hk, rfl⟩ := List.mem_map.1 hmem
    exact ⟨k, hk, Line.level?_eq_some_iff.2 ⟨hlevel, by omega, h7⟩⟩

end TooDeep

namespace Section

/-- The section covers the page without its first character. It has the name and body of `first`
and the other sections as subsections, a later one in the place of an earlier namesake. -/
structure Raised (s : Section) (t : Text) (first : Section) (others : List Section) : Prop where
  span : s.span = ⟨0, Text.byteSize (t.drop 1)⟩
  name : s.name = first.name
  body : s.body = first.body
  /-- The byte that is gone moves them, at every depth. -/
  subsections : s.subsections.map (shift 1) = keepLast others

theorem Raised.names {s first : Section} {t : Text} {others : List Section}
    (h : s.Raised t first others) :
    s.subsections.map (·.name) = (others.map (·.name)).eraseDups := by
  rw [← names_keepLast, ← h.subsections, names_shift]

/-- A heading of the least level that occurs again behind it: its section, then those of the lines
behind it, at the same level. -/
theorem fromLevel_cons_of_again {low level : Nat} {l : Line} {ls : List Line} (hlow : 1 ≤ low)
    (h : LeastLevel low level (l :: ls)) (hl : l.level? = some level)
    (hagain : ∃ j ∈ ls, j.level? = some level) :
    (∃ x, fromLevel low (l :: ls) = ofExtent level x :: fromLevel level ls) ∧
      fromLevel level ls ≠ [] := by
  have hls : LeastLevel level level ls := ⟨Nat.le_refl _, hagain, fun _ _ _ _ hle => hle⟩
  have hone : 1 ≤ level := hlow.trans h.low_le
  constructor
  · rw [fromLevel_of_least hlow h, Extent.cut_cons_of_level hl, List.map_cons,
      ← fromLevel_of_least hone hls]
    exact ⟨_, rfl⟩
  · obtain ⟨j, hj, hlevel⟩ := hagain
    rw [fromLevel_of_least hone hls, Ne, List.map_eq_nil_iff, Extent.cut_eq_nil_iff]
    exact fun hnone => hnone j hj hlevel

/-- The sections of a page one level too deep, and the one section that is left of it without its
first character. -/
theorem ofPage_drop_one {level : Nat} {t : Text} (h : TooDeep level t) :
    ∃ first second s : Section, ∃ rest : List Section, ofPage t = first :: second :: rest ∧
      (∀ u ∈ first :: second :: rest, u.level t = level) ∧
      ofPage (t.drop 1) = [s] ∧ s.Raised t first (second :: rest) := by
  obtain ⟨k, rfl⟩ : ∃ k, level = k + 1 := ⟨level - 1, by have := h.two_le; omega⟩
  have hone : 1 ≤ k := Nat.le_of_succ_le_succ h.two_le
  obtain ⟨head, raised, ks, hpage, hdrop, hstart, hhead, hraised, j, hj, hagain⟩ := h.exists_lines
  have hleast := h.leastHeading.leastLevel_ofText (Nat.le_refl 1)
  have hdeeper : ∀ j ∈ ks, ∀ i, j.level? = some i → k < i := fun j hj i hi => by
    have hmem : j.shift 1 ∈ Line.ofText t :=
      hpage ▸ List.mem_cons_of_mem _ (List.mem_map_of_mem hj)
    exact hleast.least _ hmem i hi (Line.level?_eq_some_iff.1 hi).2.1
  have hsingle := fromLevel_cons_of_deeper (Nat.le_refl 1) hone hraised
    fun j hj i hi _ => hdeeper j hj i hi
  obtain ⟨⟨x, hsections⟩, hne⟩ := fromLevel_cons_of_again (Nat.le_refl 1) (hpage ▸ hleast) hhead
    ⟨j.shift 1, List.mem_map_of_mem hj, hagain⟩
  obtain ⟨second, rest, hothers⟩ := List.exists_cons_of_ne_nil hne
  rw [← hdrop, ← ofPage_eq] at hsingle
  rw [← hpage, ← ofPage_eq, hothers] at hsections
  -- both readings open with the section of the first line
  obtain ⟨l₀, ls, hlines, hl₀, -⟩ := h.first
  obtain ⟨s, ss, hs, hname, hbody⟩ := opens_as (openedAt_raised hlines h.leastHeading hone hl₀)
    (openedAt_of_ofPage hsections h.leastHeading)
  obtain ⟨rfl, rfl⟩ := List.cons.inj (hsingle.symm.trans hs)
  refine ⟨_, second, _, rest, hsections, fun u hu => ?_, hsingle, ?_, hname, hbody, ?_⟩
  · rw [← hsections, ofPage_eq, fromLevel_of_least (Nat.le_refl 1) hleast] at hu
    obtain ⟨y, hy, rfl⟩ := List.mem_map.1 hu
    exact level_ofExtent (found_of_mem_cut hleast hy)
  · have htext : raised.text ++ Line.join ks = t.drop 1 := by
      rw [← Line.join_cons, ← hdrop, Line.join_ofText]
    simp only [ofExtent, Extent.span, Extent.text, htext, hstart, Nat.zero_add]
  · rw [subsections_ofExtent, ← keepLast_shift, ← fromLevel_shift, hothers]

end Section

section
variable {pages : Text → Except Fault Text} {function t : Text} {level : Nat}

/-- **Pages one level too deep.** A function whose page is one level too deep resolves to one
section that covers the page without its first character: the first section of the page, with the
others as its subsections. -/
theorem resolve_raises (hpage : pages function = .ok t) (h : TooDeep level t) :
    ∃ first second s : Section, ∃ rest : List Section,
      Section.ofPage t = first :: second :: rest ∧
      (∀ u ∈ first :: second :: rest, u.level t = level) ∧
      Noting.fromStart (resolve (.ofPages pages) function).run =
        (.ok s, [.reading function, .releveled function (rest.length + 2)]) ∧
      s.Raised t first (second :: rest) := by
  obtain ⟨first, second, s, rest, hsections, hlevels, hsingle, hraised⟩ :=
    Section.ofPage_drop_one h
  have hsettled : settled? t = some s := by
    simp only [settled?, hsections, hsingle, List.head?_cons]
  have hnotes : settleNotes function t = [.releveled function (rest.length + 2)] := by
    simp only [settleNotes, hsections, List.length_cons]
  have hrun := (Resolves.found hpage hsettled).fromStart_eq
  rw [hnotes] at hrun
  exact ⟨first, second, s, rest, hsections, hlevels, hrun, hraised⟩

end

/-- A page one level too deep whose first section skips a level and whose other sections repeat a
name. -/
def deepPage : Text :=
  "## rectb\nlead\n#### x\n## Parameters\nold\n## Returns\n## Parameters\nnew\n"

theorem tooDeep_deepPage : TooDeep 2 deepPage where
  two_le := Nat.le_refl 2
  le_maxLevel := by decide
  first := ⟨"## rectb\n", _, rfl, by decide, "## Returns\n", by decide, by decide⟩
  least := by
    have hnone : ∀ l ∈ deepPage.rawLines, ¬ IsHeading 1 l := by decide
    intro l hl k hk hlt
    obtain rfl : k = 1 := by omega
    exact hnone l hl

/-- The page opens with `rectb` and has the other two names below it. -/
theorem resolve_raises_deepPage : TooDeep 2 deepPage ∧ ∃ s : Section,
    Noting.fromStart (resolve (.ofPages fun _ => .ok deepPage) "rectb").run =
      (.ok s, [.reading "rectb", .releveled "rectb" 4]) ∧
    s.span = ⟨0, 67⟩ ∧ s.name = "rectb" ∧
    s.subsections.map (·.name) = [("Parameters" : Text), ("Returns" : Text)] := by
  obtain ⟨first, second, s, rest, hsections, -, hrun, hraised⟩ :=
    @resolve_raises (fun _ => .ok deepPage) "rectb" _ _ rfl tooDeep_deepPage
  have hpage : (Section.ofPage deepPage).map (·.name) =
      [("rectb" : Text), ("Parameters" : Text), ("Returns" : Text), ("Parameters" : Text)] := by
    decide
  rw [hsections] at hpage
  obtain ⟨hfirst, hothers⟩ := List.cons.inj hpage
  have hlength : rest.length + 1 = 3 := by simpa using congrArg List.length hothers
  rw [Nat.add_right_cancel hlength] at hrun
  refine ⟨tooDeep_deepPage, s, hrun, hraised.span.trans (by decide), hraised.name.trans hfirst, ?_⟩
  rw [hraised.names, hothers]
  decide

end WikiStubs
