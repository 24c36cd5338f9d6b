import WikiStubs.Proofs.Section.Tree

/-!
# Where the sections of a page lie

The top-level sections of a page are those of its heading lines that have the least level from
the one asked for: one section for each such line, in order, named by the rest of the line. Their
spans tile the page from the first such line to its end, so that nothing is lost or read twice
(`ofText_tiles`).

At any depth the body of a section runs from behind its heading line to the next heading line of
a level that sections have, or to the end of its span (`body_eq_slice`): the headings that skip a
level and those of replaced sections end it like any other.
-/
namespace WikiStubs

/-- The least level from `low` on that a heading line among the given lines has. -/
structure LeastHeading (low level : Nat) (ls : List Text) : Prop where
  low_le : low ≤ level
  le_maxLevel : level ≤ maxLevel
  occurs : ∃ l ∈ ls, IsHeading level l
  least : ∀ k, low ≤ k → k < level → ∀ l ∈ ls, ¬ IsHeading k l

namespace Line

theorem mem_rawLines_iff {t l : Text} : l ∈ t.rawLines ↔ ∃ k ∈ ofText t, k.text = l := by
  rw [← map_text_ofText, List.mem_map]

/-- The offset of the first heading line of a level from `low` on that starts at `start` or later
and before `stop`, and `stop` if there is none. -/
def firstHeading (low start stop : Nat) (ls : List Line) : Nat :=
  match ls.find? fun l => start ≤ l.start ∧ l.start < stop ∧ IsHeadingFrom low l.text with
  | some l => l.start
  | none => stop

/-- Among consecutive lines the first heading ends what comes before it. -/
theorem firstHeading_eq (low : Nat) {offset : Nat} {pre ls post : List Line}
    (h : From offset (pre ++ (ls ++ post))) :
    let start := offset + (join pre).byteSize
    firstHeading low start (start + (join ls).byteSize) (pre ++ (ls ++ post)) =
      start + (join (ls.takeWhile fun l => ¬ IsHeadingFrom low l.text)).byteSize := by
  have hls := (from_append.1 (from_append.1 h).2).1
  have hfind : (pre ++ (ls ++ post)).find? (fun l => offset + (join pre).byteSize ≤ l.start ∧
      l.start < offset + (join pre).byteSize + (join ls).byteSize ∧ IsHeadingFrom low l.text) =
      ls.find? fun l => IsHeadingFrom low l.text := by
    rw [← filter_between h, List.find?_filter, filter_between h]
    simp [and_assoc]
  simp only [firstHeading, hfind]
  generalize offset + (join pre).byteSize = start at hls
  clear hfind h
  induction ls generalizing start with
  | nil => simp
  | cons l ls ih =>
    obtain ⟨rfl, -, hls⟩ := hls
    by_cases hl : IsHeadingFrom low l.text
    · simp [hl]
    · have := ih l.stop hls
      simpa [hl, stop, Nat.add_assoc] using this

/-- The lines before the first heading among some lines of a page. -/
theorem split_at_heading (low : Nat) {t : Text} {pre ls post : List Line}
    (h : ofText t = pre ++ (ls ++ post)) :
    ofText t = pre ++ (ls.takeWhile fun l => ¬ IsHeadingFrom low l.text) ++
      ((ls.dropWhile fun l => ¬ IsHeadingFrom low l.text) ++ post) := by
  rw [List.append_assoc, ← List.append_assoc (ls.takeWhile _), List.takeWhile_append_dropWhile, h]

theorem not_isHeadingFrom_of_mem {low : Nat} {t l : Text} {pre ls post : List Line}
    (h : ofText t = pre ++ (ls ++ post))
    (hl : l ∈ (join (ls.takeWhile fun l => ¬ IsHeadingFrom low l.text)).rawLines) :
    ¬ IsHeadingFrom low l := by
  rw [rawLines_join (split_at_heading low h), List.mem_map] at hl
  obtain ⟨k, hk, rfl⟩ := hl
  simpa using List.mem_takeWhile_imp hk

theorem slice_firstHeading {low : Nat} {t : Text} {pre ls post : List Line}
    (h : ofText t = pre ++ (ls ++ post)) :
    let start := (join pre).byteSize
    t.slice start (firstHeading low start (start + (join ls).byteSize) (ofText t)) =
      join (ls.takeWhile fun l => ¬ IsHeadingFrom low l.text) := by
  have hfirst := firstHeading_eq low (h ▸ from_ofText t)
  rw [← h, Nat.zero_add] at hfirst
  have ht := join_ofText t
  rw [split_at_heading low h, join_append, join_append, List.append_assoc] at ht
  intro start
  rw [hfirst, ← ht, Text.slice_append]

end Line

/-- Only the elements of a list decide where `takeWhile` stops. -/
theorem takeWhile_congr {α : Type} {p q : α → Bool} {l : List α} (h : ∀ a ∈ l, p a = q a) :
    l.takeWhile p = l.takeWhile q := by
  induction l with
  | nil => rfl
  | cons a l ih =>
    rw [List.takeWhile_cons, List.takeWhile_cons, h a (List.mem_cons_self ..),
      ih fun b hb => h b (List.mem_cons_of_mem _ hb)]

namespace LeastHeading

theorem leastLevel {low level : Nat} {ls : List Line} (hlow : 1 ≤ low)
    (h : LeastHeading low level (ls.map (·.text))) : LeastLevel low level ls := by
  obtain ⟨l, hl, hh⟩ := h.occurs
  obtain ⟨k, hk, rfl⟩ := List.mem_map.1 hl
  have := h.low_le
  refine ⟨h.low_le, ⟨k, hk, Line.level?_eq_some_iff.2 ⟨hh, by omega, h.le_maxLevel⟩⟩, ?_⟩
  intro l hl j hj hle
  by_contra hlt
  exact h.least j hle (by omega) l.text (List.mem_map_of_mem hl) (Line.level?_eq_some_iff.1 hj).1

theorem leastLevel_ofText {low level : Nat} {t : Text} (hlow : 1 ≤ low)
    (h : LeastHeading low level t.rawLines) : LeastLevel low level (Line.ofText t) :=
  leastLevel hlow (by rwa [Line.map_text_ofText])

end LeastHeading

theorem LeastLevel.leastHeading {low level : Nat} {ls : List Line} (hlow : 1 ≤ low)
    (h : LeastLevel low level ls) : LeastHeading low level (ls.map (·.text)) := by
  obtain ⟨l, hl, hlevel⟩ := h.occurs
  have h7 := h.le_maxLevel
  refine ⟨h.low_le, h7, ⟨l.text, List.mem_map_of_mem hl, (Line.level?_eq_some_iff.1 hlevel).1⟩,
    fun k hk hlt l hl hh => ?_⟩
  obtain ⟨j, hj, rfl⟩ := List.mem_map.1 hl
  have := h.least j hj k (Line.level?_eq_some_iff.2 ⟨hh, by omega, by omega⟩) hk
  omega

namespace Section

/-! ## Top-level sections -/

theorem ofText_of_none {m : Nat} {t : Text}
    (h : ∀ l ∈ t.rawLines, ¬ IsHeadingFrom (max m 1) l) : ofText m t = [] := by
  have hlow : 1 ≤ max m 1 := by omega
  refine fromLevel_of_none hlow fun l hl k hk => ?_
  by_contra hlt
  exact h l.text (Line.mem_rawLines_iff.2 ⟨l, hl, rfl⟩)
    ((Line.isHeadingFrom_iff hlow).2 ⟨k, hk, by omega⟩)

theorem ofText_of_least {m level : Nat} {t : Text}
    (h : LeastHeading (max m 1) level t.rawLines) :
    ofText m t = (Extent.cut level (Line.ofText t)).2.map (ofExtent level) :=
  fromLevel_of_least (by omega) (h.leastLevel_ofText (by omega))

/-- **Top-level sections.** Without a heading line of a level from `m` on (from 1 on if `m` is 0)
there is no section. Otherwise there is one for each heading line of the least such level, in
order, and the text is its part before the first of these lines followed by the spans. -/
theorem ofText_tiles (m : Nat) (t : Text) :
    ((∀ l ∈ t.rawLines, ¬ IsHeadingFrom (max m 1) l) → ofText m t = []) ∧
    (maxLevel < m → ofText m t = []) ∧
    ∀ level, LeastHeading (max m 1) level t.rawLines →
      (ofText m t).map (fun s => (s.span.start, s.name)) =
        ((Line.ofText t).filter (fun l => IsHeading level l.text)).map
          (fun l => (l.start, Heading.nameOf (Heading.title l.text))) ∧
      ∃ lead : Text, (∀ l ∈ lead.rawLines, ¬ IsHeading level l) ∧
        Tiles lead.byteSize ((ofText m t).map (·.span)) t.byteSize ∧
        t = lead ++ (ofText m t).flatMap (fun s => t.slice s.span.start s.span.stop) := by
  refine ⟨ofText_of_none, fun hm => ofText_of_none ?_, fun level h => ?_⟩
  · intro l _ hx
    obtain ⟨k, h1, h2, -⟩ := hx
    omega
  have hhead : ∀ l : Line, l.level? = some level ↔ IsHeading level l.text := fun l => by
    have := h.low_le
    rw [Line.level?_eq_some_iff]
    exact ⟨fun h => h.1, fun hl => ⟨hl, by omega, h.le_maxLevel⟩⟩
  rw [ofText_of_least h]
  simp only [List.map_map, List.flatMap_map]
  refine ⟨?_, Line.join (Extent.cut level (Line.ofText t)).1, ?_, ?_, ?_⟩
  · have hnames : ∀ x ∈ (Extent.cut level (Line.ofText t)).2,
        x.name = Heading.nameOf (Heading.title x.head.text) := fun x hx =>
      (Extent.head_of_mem_cut hx).2
    simp only [← hhead, ← Extent.heads_cut, List.map_map]
    refine List.map_congr_left fun x hx => ?_
    simp [ofExtent, Extent.span, hnames x hx]
  · intro l hl
    rw [Extent.rawLines_lead, List.mem_map] at hl
    obtain ⟨k, hk, rfl⟩ := hl
    exact fun hh => Extent.level?_ne_of_mem_lead hk ((hhead k).2 hh)
  · have := Extent.tiles_cut level (Line.from_ofText t)
    simp only [Line.join_ofText, Nat.zero_add] at this
    exact this
  · exact Extent.eq_lead_append_slices level t

/-- Two sections of level 2 behind one of level 1 that is too high to count. -/
theorem ofText_tiles_two :
    LeastHeading (max 2 1) 2 (Text.rawLines "# a\n## b\n### c\n## d\n") ∧
      (ofText 2 "# a\n## b\n### c\n## d\n").map (fun s => (s.span.start, s.name)) =
        [(4, ("b" : Text)), (15, ("d" : Text))] := by
  have hleast : LeastHeading (max 2 1) 2 (Text.rawLines "# a\n## b\n### c\n## d\n") :=
    ⟨by decide, by decide, by decide, fun k h1 h2 => by omega⟩
  refine ⟨hleast, ?_⟩
  rw [((ofText_tiles 2 "# a\n## b\n### c\n## d\n").2.2 2 hleast).1]
  rfl

/-! ## Bodies -/

/-- The body of an extent that is found ends at its first heading line of a level that counts. -/
theorem body_ofExtent {low level : Nat} {ls : List Line} {x : Extent} (hlow : 1 ≤ low)
    (h : Found low ls level x) :
    (ofExtent level x).body =
      Line.join (x.content.takeWhile fun l => ¬ IsHeadingFrom low l.text) := by
  have hcongr : ∀ l ∈ x.content, (!l.isDeeper level) = decide (¬ IsHeadingFrom low l.text) := by
    intro l hl
    have := h.low_le
    rw [Bool.eq_iff_iff, Bool.not_eq_true', ← Bool.not_eq_true, Line.isDeeper_iff,
      decide_eq_true_iff, Line.isHeadingFrom_iff hlow]
    refine not_congr ⟨?_, ?_⟩
    · intro hx
      obtain ⟨k, hk, hlt⟩ := hx
      exact ⟨k, hk, by omega⟩
    · intro hx
      obtain ⟨k, hk, hle⟩ := hx
      exact ⟨k, hk, h.deeper l hl k hk hle⟩
  simp only [ofExtent, Extent.body]
  rw [takeWhile_congr hcongr]

/-- **Bodies.** No line of the body of a section, at any depth, is a heading line of a level from
`m` on, and the body is the text from behind the heading line of the section to the first such
line in its span, or to the end of the span. -/
theorem body_eq_slice {m : Nat} {t : Text} {s : Section} (h : Below s (ofText m t)) :
    (∀ l ∈ s.body.rawLines, ¬ IsHeadingFrom (max m 1) l) ∧
    ∃ head ∈ Line.ofText t, head.start = s.span.start ∧ IsHeadingFrom (max m 1) head.text ∧
      s.name = Heading.nameOf (Heading.title head.text) ∧
      s.body = t.slice head.stop
        (Line.firstHeading (max m 1) head.stop s.span.stop (Line.ofText t)) := by
  have hlow : 1 ≤ max m 1 := by omega
  obtain ⟨level, x, hx, rfl⟩ := found_of_below h hlow fun _ hs => hs
  obtain ⟨pre, post, e, -⟩ := hx.place
  have hbody := body_ofExtent hlow hx
  have hassoc : Line.ofText t = (pre ++ [x.head]) ++ (x.content ++ post) := by rw [e]; simp
  have hstart : x.head.stop = (Line.join (pre ++ [x.head])).byteSize := by
    have hfrom := Line.from_ofText t
    rw [e] at hfrom
    have := (Line.from_append.1 hfrom).2.1
    simp [Line.stop, this]
  have hstop : (ofExtent level x).span.stop = x.head.stop + (Line.join x.content).byteSize := by
    simp [ofExtent, Extent.span, Extent.text, Line.stop, Nat.add_assoc]
  refine ⟨fun l hl => ?_, x.head, hx.mem_head, rfl, ?_, hx.name, ?_⟩
  · exact Line.not_isHeadingFrom_of_mem hassoc (hbody ▸ hl)
  · exact (Line.isHeadingFrom_iff hlow).2 ⟨level, hx.head, hx.low_le⟩
  · rw [hbody, hstop, hstart, Line.slice_firstHeading hassoc]

/-- A section two levels below the one that holds it. -/
theorem body_eq_slice_nested :
    ∃ s : Section, Below s (ofText 1 "# a\nx\n### b\ny\n# c\n") ∧
      (∀ l ∈ s.body.rawLines, ¬ IsHeadingFrom (max 1 1) l) ∧ s.name = "b" ∧ s.body = "y\n" := by
  have htop : ofText 1 "# a\nx\n### b\ny\n# c\n" ≠ [] := List.ne_nil_of_length_pos (by decide)
  have hsub : ((ofText 1 "# a\nx\n### b\ny\n# c\n").head htop).subsections ≠ [] :=
    List.ne_nil_of_length_pos Nat.zero_lt_one
  have hbelow : Below (((ofText 1 "# a\nx\n### b\ny\n# c\n").head htop).subsections.head hsub)
      (ofText 1 "# a\nx\n### b\ny\n# c\n") :=
    .inside (List.head_mem htop) (.here (List.head_mem hsub))
  exact ⟨_, hbelow, (body_eq_slice hbelow).1, rfl, rfl⟩

end Section
end WikiStubs
