import WikiStubs.Proofs.Section.Appended
import WikiStubs.Proofs.Section.Shift

/-!
# Parts of a page

A part of a page that starts and stops where sections do is read alone as it is read within the
page: what stands around it moves its sections and changes nothing else about them.

* `Section.ofText_covered`: the text of a section, at any depth, is read as this section, from
  whichever level that counts on the page down to its own.
* `Section.ofText_joined`: two pages of one least level, put together where a heading of that
  level starts the second, have the sections of the first and then those of the second.
-/
namespace WikiStubs

namespace Section

/-! ## One section -/

/-- The text of an extent is read as its section, at the place where the text starts. -/
theorem ofText_text {t : Text} {least low level : Nat} {x : Extent}
    (h : Found least (Line.ofText t) level x) (hleast : 1 ≤ least) (hlow : least ≤ low)
    (hlevel : low ≤ level) : (ofText low x.text).map (shift x.head.start) = [ofExtent level x] := by
  obtain ⟨pre, post, hplace, -⟩ := h.place
  have hsplit : Line.ofText t = pre ++ (x.head :: x.content) ++ post :=
    hplace.trans (List.append_assoc ..).symm
  have hlines : (Line.ofText x.text).map (Line.shift x.head.start) = x.head :: x.content := by
    rw [Line.start_of_split hplace, ← Line.ofText_join_shift hsplit, Line.join_cons]
    rfl
  have hdeeper : ∀ l ∈ x.content, ∀ k, l.level? = some k → low ≤ k → level < k := by
    intro l hl k hk hle
    exact h.deeper l hl k hk (hlow.trans hle)
  have hsections : ofText low x.text = fromLevel low (Line.ofText x.text) := by
    rw [ofText, fromLevel, max_eq_left (hleast.trans hlow)]
  rw [hsections, ← fromLevel_shift, hlines,
    fromLevel_cons_of_deeper (hleast.trans hlow) hlevel h.head hdeeper, ← h.name]

/-- **The text of a section.** The text that a section covers, at any depth, has that section and
no other, from any level on that counts on the page and is not below its own. All spans start from
the text instead of the page. -/
theorem ofText_covered {m low : Nat} {t : Text} {s : Section} (h : Below s (ofText m t))
    (hlow : max m 1 ≤ low) (hlevel : low ≤ s.level t) :
    ∃ alone, ofText low (s.covered t) = [alone] ∧ alone.shift s.span.start = s := by
  obtain ⟨level, x, hx, rfl⟩ := found_of_below h (by omega) fun _ hs => hs
  rw [level_ofExtent hx] at hlevel
  rw [covered_ofExtent hx]
  exact List.map_eq_singleton_iff.1 (ofText_text hx (by omega) hlow hlevel)

/-- A page for which headings of level 1 do not count, with one of them in a section that stands
behind a namesake. -/
def nestedPage : Text := "lead\n## a\nx\n#### d\n### n\nold\n### n\ny\n# t\n#### e\nz\n## b\n"

def nestedSection : Section := ⟨"n", "y\n# t\n", [⟨"e", "z\n", [], ⟨41, 50⟩⟩], ⟨29, 50⟩⟩

theorem ofText_covered_nested : Below nestedSection (ofText 2 nestedPage) ∧
    max 2 1 ≤ 2 ∧ 2 ≤ nestedSection.level nestedPage ∧
    ∃ alone, ofText 2 (nestedSection.covered nestedPage) = [alone] ∧
      alone.shift 29 = nestedSection := by
  have hpage : ofText 2 nestedPage =
      [⟨"a", "x\n", [nestedSection], ⟨5, 50⟩⟩, ⟨"b", [], [], ⟨50, 55⟩⟩] := rfl
  have hbelow : Below nestedSection (ofText 2 nestedPage) := by
    rw [hpage]
    exact .inside (List.mem_cons_self ..) (.here (List.mem_cons_self ..))
  have hlevel : 2 ≤ nestedSection.level nestedPage := by decide
  exact ⟨hbelow, by decide, hlevel, ofText_covered hbelow (by decide) hlevel⟩

/-! ## One page behind another -/

/-- A heading of the least level ends what comes before it: the sections of the lines before it and
those from it on do not depend on each other. -/
theorem fromLevel_append_heading {low level : Nat} {l : Line} {ls ks : List Line} (hlow : 1 ≤ low)
    (hls : LeastLevel low level ls) (hks : LeastLevel low level (l :: ks))
    (hl : l.level? = some level) :
    fromLevel low (ls ++ l :: ks) = fromLevel low ls ++ fromLevel low (l :: ks) := by
  have hleast : LeastLevel low level (ls ++ l :: ks) := hls.append hks.least
  rw [fromLevel_of_least hlow hleast, fromLevel_of_least hlow hls, fromLevel_of_least hlow hks,
    Extent.cut_append_heading hl, List.map_append]

/-- **Pages put together.** Of two texts with the same least level, of which the first ends with a
line feed and the second starts with a heading of that level, the sections of the whole are those
of the first and then those of the second, which stand behind it. -/
theorem ofText_joined {m level : Nat} {a b : Text} (hend : a.getLast? = some '\n')
    (ha : LeastHeading (max m 1) level a.rawLines) (hb : LeastHeading (max m 1) level b.rawLines)
    (hfirst : IsHeading level (b.rawLines.headD [])) :
    ofText m (a ++ b) = ofText m a ++ (ofText m b).map (shift a.byteSize) := by
  have hlow : 1 ≤ max m 1 := by omega
  obtain ⟨line, hline, -⟩ := hb.occurs
  obtain ⟨head, rest, hrest⟩ := List.exists_cons_of_ne_nil (List.ne_nil_of_mem hline)
  -- the lines of `b`, where they stand in the whole
  have hbehind : (Line.ofText b).map (Line.shift a.byteSize) =
      ⟨a.byteSize, head⟩ :: Line.placeFrom (a.byteSize + head.byteSize) rest := by
    rw [Line.ofText, Line.placeFrom_shift, Nat.zero_add, hrest]
    rfl
  have hlines : Line.ofText (a ++ b) =
      Line.ofText a ++ (Line.ofText b).map (Line.shift a.byteSize) := by
    rw [Line.ofText_append hend, Line.ofText, Line.ofText, Line.placeFrom_shift, Nat.zero_add]
  have hleast : LeastLevel (max m 1) level ((Line.ofText b).map (Line.shift a.byteSize)) := by
    refine LeastHeading.leastLevel hlow ?_
    rw [List.map_map]
    exact (Line.map_text_ofText b).symm ▸ hb
  rw [hbehind] at hleast
  have hlevel : Line.level? ⟨a.byteSize, head⟩ = some level := by
    rw [hrest] at hfirst
    exact (hleast.level?_iff hlow).2 hfirst
  have hsections : ofText m (a ++ b) = fromLevel (max m 1) (Line.ofText (a ++ b)) := rfl
  rw [hsections, hlines, hbehind,
    fromLevel_append_heading hlow (ha.leastLevel_ofText hlow) hleast hlevel, ← hbehind,
    fromLevel_shift]
  rfl

/-- A page that starts at level 2, below some text. -/
def upperPart : Text := "lead\n## a\nx\n## b\n"

/-- Another one, which repeats a name, skips a level and does not end its last line. -/
def lowerPart : Text := "## a\n#### c\ny"

theorem ofText_joined_repeated : LeastHeading (max 0 1) 2 upperPart.rawLines ∧
    LeastHeading (max 0 1) 2 lowerPart.rawLines ∧
    (ofText 0 (upperPart ++ lowerPart)).map (fun s => (s.name, s.span)) =
      [(("a" : Text), ⟨5, 12⟩), ("b", ⟨12, 17⟩), ("a", ⟨17, 30⟩)] := by
  have hupper : LeastHeading (max 0 1) 2 upperPart.rawLines := by
    refine ⟨by decide, by decide, by decide, fun k hk hlt => ?_⟩
    obtain rfl : k = 1 := by omega
    decide
  have hlower : LeastHeading (max 0 1) 2 lowerPart.rawLines := by
    refine ⟨by decide, by decide, by decide, fun k hk hlt => ?_⟩
    obtain rfl : k = 1 := by omega
    decide
  refine ⟨hupper, hlower, ?_⟩
  rw [ofText_joined (by decide) hupper hlower (by decide), List.map_append, List.map_map]
  simp only [Function.comp_def, name_shift, span_shift]
  decide

end Section
end WikiStubs
