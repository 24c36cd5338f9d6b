import Mathlib.Data.List.TakeWhile
import WikiStubs.Heading
import WikiStubs.Proofs.Text.Trim

/-!
# Heading lines

What a heading line is, said without its reader: exactly `level` hash signs, one or more spaces
or tabs, then a character that is not blank (`IsHeading`). The reader finds the headings of level
1 to 7 and no others, and names them by the rest of the line (`Heading.ofLine?_eq_some_iff`).

The lines of a page stand one after the other (`Line.From`), so that a run of consecutive lines
is found again among all lines by the offsets where it starts and stops (`Line.filter_between`).

A heading is written as hash signs, spaces or tabs, and its name. When the name is one line without
blanks around it, the line is read back as a heading of that level and name
(`Heading.isHeading_written`).
-/
namespace WikiStubs

/-- A line that starts with exactly `level` hash signs, one or more spaces or tabs, and a
character that is not blank. -/
def IsHeading (level : Nat) (line : Text) : Prop :=
  ∃ (gap : Text) (c : Char) (rest : Text), line = List.replicate level '#' ++ gap ++ c :: rest ∧
    gap ≠ [] ∧ (∀ g ∈ gap, g = ' ' ∨ g = '\t') ∧ Text.isBlank c = false

/-- A heading line of a level that sections have, from `low` on. -/
def IsHeadingFrom (low : Nat) (line : Text) : Prop :=
  ∃ level, level ≤ maxLevel ∧ low ≤ level ∧ IsHeading level line

theorem isGap_iff {c : Char} : isGap c = true ↔ c = ' ' ∨ c = '\t' := by
  simp [isGap]

theorem isBlank_of_isGap {c : Char} (h : isGap c = true) : Text.isBlank c = true := by
  rcases isGap_iff.1 h with rfl | rfl <;> decide

theorem isGap_eq_false {c : Char} (h : Text.isBlank c = false) : isGap c = false := by
  cases hgap : isGap c
  · rfl
  · rw [isBlank_of_isGap hgap] at h; cases h

namespace Text

theorem eq_of_dropFinal (c : Char) (t : Text) : t = dropFinal c t ∨ t = dropFinal c t ++ [c] := by
  unfold dropFinal
  split
  · next h => right; obtain ⟨s, rfl⟩ := List.getLast?_eq_some_iff.1 h; simp
  · left; rfl

theorem dropFinal_append_cons {c d : Char} (h : d ≠ c) (s t : Text) :
    dropFinal c (s ++ d :: t) = s ++ d :: dropFinal c t := by
  have hl : (s ++ d :: t).getLast? = (d :: t).getLast? := by
    rw [List.getLast?_append]; cases ht : (d :: t).getLast? <;> simp_all
  by_cases ht : t = []
  · subst ht; simp [dropFinal, hl, h]
  · simp only [dropFinal, hl, List.getLast?_cons_of_ne_nil ht]
    split
    · rw [List.dropLast_append_of_ne_nil (by simp), List.dropLast_cons_of_ne_nil ht]
    · rfl

end Text

/-! ## The parts of a heading line -/

/-- A line cut after its hash signs and after the spaces and tabs behind them. -/
theorem eq_parts (line : Text) :
    line = List.replicate (line.takeWhile (· == '#')).length '#' ++
      (line.dropWhile (· == '#')).takeWhile isGap ++
        (line.dropWhile (· == '#')).dropWhile isGap := by
  have hhash : line.takeWhile (· == '#') =
      List.replicate (line.takeWhile (· == '#')).length '#' :=
    List.eq_replicate_of_mem fun c hc => by simpa using List.mem_takeWhile_imp hc
  rw [← hhash, List.append_assoc, List.takeWhile_append_dropWhile,
    List.takeWhile_append_dropWhile]

/-- The cut of a line that is made of the parts of a heading line. -/
theorem parts_eq (level : Nat) {gap : Text} {c : Char} (rest : Text) (hne : gap ≠ [])
    (hg : ∀ g ∈ gap, g = ' ' ∨ g = '\t') (hc : Text.isBlank c = false) :
    let line := List.replicate level '#' ++ gap ++ c :: rest
    line.takeWhile (· == '#') = List.replicate level '#' ∧
      line.dropWhile (· == '#') = gap ++ c :: rest ∧
      (line.dropWhile (· == '#')).dropWhile isGap = c :: rest := by
  have hcg : isGap c = false := isGap_eq_false hc
  have hg : ∀ g ∈ gap, isGap g = true := fun g hm => isGap_iff.2 (hg g hm)
  obtain ⟨g, gs, rfl⟩ := List.exists_cons_of_ne_nil hne
  have hgh : (g == '#') = false := by
    rcases isGap_iff.1 (hg g (List.mem_cons_self ..)) with rfl | rfl <;> decide
  have hall : ∀ x ∈ List.replicate level '#', (x == '#') = true := by
    intro x hx; rw [List.eq_of_mem_replicate hx]; rfl
  have hrest : ((g :: gs) ++ c :: rest).dropWhile (· == '#') = (g :: gs) ++ c :: rest := by
    simp [hgh]
  simp only [List.append_assoc, List.takeWhile_append_of_pos hall,
    List.dropWhile_append_of_pos hall, hrest]
  refine ⟨by simp [hgh], trivial, ?_⟩
  rw [List.dropWhile_append_of_pos hg]; simp [hcg]

theorem isHeading_iff {level : Nat} {line : Text} :
    IsHeading level line ↔
      let rest := line.dropWhile (· == '#')
      (line.takeWhile (· == '#')).length = level ∧ (rest.dropWhile isGap).length < rest.length ∧
        (rest.dropWhile isGap).head?.any (fun c => !Text.isBlank c) = true := by
  constructor
  · intro hx
    obtain ⟨gap, c, rest, rfl, hne, hg, hc⟩ := hx
    obtain ⟨e1, e2, e3⟩ := parts_eq level rest hne hg hc
    have := List.length_pos_iff.2 hne
    simp only [e1, e3, List.length_replicate]
    refine ⟨trivial, ?_, by simp [hc]⟩
    rw [e2, List.length_append]; omega
  · intro hx
    obtain ⟨h1, h2, h3⟩ := hx
    have hline := eq_parts line
    have hsplit := List.takeWhile_append_dropWhile (p := isGap) (l := line.dropWhile (· == '#'))
    rw [h1] at hline
    generalize line.dropWhile (· == '#') = rest at *
    obtain ⟨c, t, ht, hc⟩ : ∃ c t, rest.dropWhile isGap = c :: t ∧ Text.isBlank c = false := by
      cases hd : rest.dropWhile isGap with
      | nil => rw [hd] at h3; simp at h3
      | cons c t => rw [hd] at h3; exact ⟨c, t, rfl, by simpa using h3⟩
    refine ⟨rest.takeWhile isGap, c, t, ht ▸ hline, ?_, fun g hg => ?_, hc⟩
    · intro e; rw [e, List.nil_append] at hsplit; rw [hsplit] at h2; omega
    · exact isGap_iff.1 (List.mem_takeWhile_imp hg)

instance (level : Nat) (line : Text) : Decidable (IsHeading level line) :=
  decidable_of_iff _ isHeading_iff.symm

instance (low : Nat) (line : Text) : Decidable (IsHeadingFrom low line) :=
  inferInstanceAs (Decidable (∃ level, level ≤ maxLevel ∧ low ≤ level ∧ IsHeading level line))

/-- A line feed at the end makes no difference. -/
theorem isHeading_dropFinal {level : Nat} {line : Text} :
    IsHeading level (Text.dropFinal '\n' line) ↔ IsHeading level line := by
  constructor
  · intro hx
    obtain ⟨gap, c, rest, e, hne, hg, hc⟩ := hx
    rcases Text.eq_of_dropFinal '\n' line with e' | e'
    · exact ⟨gap, c, rest, e'.trans e, hne, hg, hc⟩
    · exact ⟨gap, c, rest ++ ['\n'], by rw [e', e]; simp, hne, hg, hc⟩
  · intro hx
    obtain ⟨gap, c, rest, rfl, hne, hg, hc⟩ := hx
    have hcn : c ≠ '\n' := by intro e; subst e; exact absurd hc (by decide)
    exact ⟨gap, c, _, Text.dropFinal_append_cons hcn _ _, hne, hg, hc⟩

theorem isHeading_append_lineFeed {level : Nat} {line : Text} :
    IsHeading level (line ++ ['\n']) ↔ IsHeading level line := by
  rw [← isHeading_dropFinal, Text.dropFinal, if_pos (by simp), List.dropLast_concat]

/-- A heading line starts with a hash sign. -/
theorem not_isHeadingFrom_of_head {low : Nat} (hlow : 1 ≤ low) {line : Text}
    (h : line.head? ≠ some '#') : ¬ IsHeadingFrom low line := by
  intro hx
  obtain ⟨level, -, hle, gap, c, rest, rfl, -⟩ := hx
  obtain ⟨k, rfl⟩ : ∃ k, level = k + 1 := ⟨level - 1, by omega⟩
  exact h rfl

theorem not_isHeading_nil (level : Nat) : ¬ IsHeading level [] := by
  intro hx
  obtain ⟨gap, c, rest, e, -⟩ := hx
  simp at e

/-- What follows a heading line does not matter. -/
theorem IsHeading.append {level : Nat} {line : Text} (h : IsHeading level line) (more : Text) :
    IsHeading level (line ++ more) := by
  obtain ⟨gap, c, rest, rfl, hne, hg, hc⟩ := h
  exact ⟨gap, c, rest ++ more, by simp, hne, hg, hc⟩

theorem IsHeading.unique {k j : Nat} {line : Text} (h : IsHeading k line)
    (h' : IsHeading j line) : k = j := (isHeading_iff.1 h).1.symm.trans (isHeading_iff.1 h').1

namespace Heading

/-- The line after its hash signs and the spaces and tabs behind them, without its line feed. -/
def title (line : Text) : Text :=
  ((Text.dropFinal '\n' line).dropWhile (· == '#')).dropWhile isGap

/-- The reader finds the heading lines of levels 1 to 7, each with the name that the rest of the
line spells. -/
theorem ofLine?_eq_some_iff {line : Text} {h : Heading} :
    ofLine? line = some h ↔
      IsHeading h.level line ∧ 1 ≤ h.level ∧ h.level ≤ maxLevel ∧ h.name = nameOf (title line) := by
  obtain ⟨level, name⟩ := h
  rw [← isHeading_dropFinal, isHeading_iff]
  simp only [ofLine?, title, ← List.length_pos_iff]
  generalize Text.dropFinal '\n' line = body
  constructor
  · intro h
    split at h
    · next hc => cases h; exact ⟨⟨rfl, hc.2.2.1, hc.2.2.2⟩, hc.1, hc.2.1, rfl⟩
    · cases h
  · intro hx
    obtain ⟨⟨rfl, h2, h3⟩, h4, h5, rfl⟩ := hx
    rw [if_pos ⟨h4, h5, h2, h3⟩]

/-- Without its first hash sign a heading is one level higher and has the same name. -/
theorem isHeading_tail {level : Nat} {line : Text} (h : IsHeading (level + 1) line) :
    IsHeading level line.tail ∧ title line.tail = title line := by
  obtain ⟨gap, c, rest, rfl, hne, hg, hc⟩ := h
  have hcn : c ≠ '\n' := by intro e; subst e; exact absurd hc (by decide)
  have htail : (List.replicate (level + 1) '#' ++ gap ++ c :: rest).tail =
      List.replicate level '#' ++ gap ++ c :: rest := by simp [List.replicate_succ]
  rw [htail]
  refine ⟨⟨gap, c, rest, rfl, hne, hg, hc⟩, ?_⟩
  simp only [title, Text.dropFinal_append_cons hcn]
  rw [(parts_eq _ _ hne hg hc).2.2, (parts_eq _ _ hne hg hc).2.2]

end Heading

/-! ## Levels -/

namespace Line

/-- The level of the heading on the line. -/
def level? (l : Line) : Option Nat := (Heading.ofLine? l.text).map (·.level)

theorem level?_eq_some_iff {l : Line} {k : Nat} :
    l.level? = some k ↔ IsHeading k l.text ∧ 1 ≤ k ∧ k ≤ maxLevel := by
  simp only [level?, Option.map_eq_some_iff, Heading.ofLine?_eq_some_iff]
  constructor
  · intro hx
    obtain ⟨h, ⟨h1, h2, h3, -⟩, rfl⟩ := hx
    exact ⟨h1, h2, h3⟩
  · intro hx
    obtain ⟨h1, h2, h3⟩ := hx
    exact ⟨⟨k, Heading.nameOf (Heading.title l.text)⟩, ⟨h1, h2, h3, rfl⟩, rfl⟩

theorem nameAt?_eq_some_iff {l : Line} {k : Nat} {name : Text} :
    l.nameAt? k = some name ↔ l.level? = some k ∧ name = Heading.nameOf (Heading.title l.text) := by
  unfold nameAt? level?
  cases h : Heading.ofLine? l.text with
  | none => simp
  | some h' =>
    obtain ⟨-, -, -, hn⟩ := Heading.ofLine?_eq_some_iff.1 h
    by_cases hk : h'.level = k
    · simp [hk, hn, eq_comm]
    · simp [hk]

theorem nameAt?_eq_none_iff {l : Line} {k : Nat} : l.nameAt? k = none ↔ l.level? ≠ some k := by
  cases h : l.nameAt? k with
  | none =>
    simp only [true_iff]
    intro hk
    rw [nameAt?_eq_some_iff.2 ⟨hk, rfl⟩] at h
    cases h
  | some name => simp [(nameAt?_eq_some_iff.1 h).1]

theorem isDeeper_iff {l : Line} {k : Nat} :
    l.isDeeper k = true ↔ ∃ j, l.level? = some j ∧ k < j := by
  unfold isDeeper level?
  cases Heading.ofLine? l.text <;> simp

theorem isHeadingFrom_iff {l : Line} {low : Nat} (hlow : 1 ≤ low) :
    IsHeadingFrom low l.text ↔ ∃ k, l.level? = some k ∧ low ≤ k := by
  constructor
  · intro hx
    obtain ⟨k, h1, h2, h3⟩ := hx
    exact ⟨k, level?_eq_some_iff.2 ⟨h3, by omega, h1⟩, h2⟩
  · intro hx
    obtain ⟨k, h1, h2⟩ := hx
    obtain ⟨h3, -, h4⟩ := level?_eq_some_iff.1 h1
    exact ⟨k, h4, h2, h3⟩

theorem isHeadingFrom_succ_iff {l : Line} {k : Nat} :
    IsHeadingFrom (k + 1) l.text ↔ l.isDeeper k = true := by
  rw [isHeadingFrom_iff (Nat.le_add_left 1 k), isDeeper_iff]
  rfl

/-! ## Places -/

def stop (l : Line) : Nat := l.start + l.text.byteSize

/-- Lines that stand one after the other from an offset on, none of them empty. -/
def From : Nat → List Line → Prop
  | _, [] => True
  | offset, l :: ls => l.start = offset ∧ l.text ≠ [] ∧ From l.stop ls

@[simp] theorem join_nil : join [] = [] := rfl

@[simp] theorem join_cons (l : Line) (ls : List Line) : join (l :: ls) = l.text ++ join ls := by
  simp [join]

@[simp] theorem join_append (ls ks : List Line) : join (ls ++ ks) = join ls ++ join ks := by
  simp [join]

theorem map_text_placeFrom (offset : Nat) (ts : List Text) :
    (placeFrom offset ts).map (·.text) = ts := by
  induction ts generalizing offset with
  | nil => rfl
  | cons t ts ih => simp [placeFrom, ih]

theorem from_placeFrom {ts : List Text} (h : ∀ t ∈ ts, t ≠ []) (offset : Nat) :
    From offset (placeFrom offset ts) := by
  induction ts generalizing offset with
  | nil => trivial
  | cons t ts ih =>
    exact ⟨rfl, h t (List.mem_cons_self ..), ih (fun u hu => h u (List.mem_cons_of_mem _ hu)) _⟩

theorem map_text_ofText (t : Text) : (ofText t).map (·.text) = t.rawLines :=
  map_text_placeFrom 0 _

/-- Consecutive lines of a page are the lines of their text. -/
theorem rawLines_join {t : Text} {pre ls post : List Line} (h : ofText t = pre ++ ls ++ post) :
    (join ls).rawLines = ls.map (·.text) := by
  have hl := Text.lined_rawLines t
  rw [← map_text_ofText, h, List.map_append, List.map_append] at hl
  rw [join, List.flatMap_def]
  exact hl.middle

theorem from_ofText (t : Text) : From 0 (ofText t) :=
  from_placeFrom (fun _ h => Text.ne_nil_of_mem_rawLines h) 0

theorem from_append {offset : Nat} {ls ks : List Line} :
    From offset (ls ++ ks) ↔ From offset ls ∧ From (offset + (join ls).byteSize) ks := by
  induction ls generalizing offset with
  | nil => simp [From]
  | cons l ls ih =>
    simp only [List.cons_append, From, ih, join_cons, Text.byteSize_append, stop]
    constructor
    · intro hx
      obtain ⟨rfl, h2, h3, h4⟩ := hx
      exact ⟨⟨rfl, h2, h3⟩, by rwa [Nat.add_assoc] at h4⟩
    · intro hx
      obtain ⟨⟨rfl, h2, h3⟩, h4⟩ := hx
      exact ⟨rfl, h2, h3, by rwa [Nat.add_assoc]⟩

theorem From.bounds {offset : Nat} {ls : List Line} (h : From offset ls) {l : Line} (hl : l ∈ ls) :
    offset ≤ l.start ∧ l.start < offset + (join ls).byteSize := by
  induction ls generalizing offset with
  | nil => cases hl
  | cons k ks ih =>
    obtain ⟨rfl, hne, hks⟩ := h
    have hpos := Text.byteSize_pos hne
    simp only [join_cons, Text.byteSize_append]
    rcases List.mem_cons.1 hl with rfl | hl
    · omega
    · have := ih hks hl
      simp only [stop] at this
      omega

theorem From.lt_of_append {offset : Nat} {ls ks : List Line} (h : From offset (ls ++ ks))
    {l k : Line} (hl : l ∈ ls) (hk : k ∈ ks) : l.start < k.start := by
  obtain ⟨hls, hks⟩ := from_append.1 h
  have h1 := hls.bounds hl
  have h2 := hks.bounds hk
  omega

/-- A line of a page starts behind the text before it. -/
theorem start_of_split {t : Text} {l : Line} {pre post : List Line}
    (h : ofText t = pre ++ l :: post) : l.start = (join pre).byteSize := by
  have hfrom := from_ofText t
  rw [h] at hfrom
  simpa using (from_append.1 hfrom).2.1

theorem text_ne_nil_of_mem {t : Text} {l : Line} (h : l ∈ ofText t) : l.text ≠ [] := by
  have hmem : l.text ∈ t.rawLines := by
    rw [← map_text_ofText]
    exact List.mem_map_of_mem h
  exact Text.ne_nil_of_mem_rawLines hmem

/-- Consecutive lines are those that start from their first offset on and before their last. -/
theorem filter_between {offset : Nat} {pre ls post : List Line}
    (h : From offset (pre ++ (ls ++ post))) :
    let start := offset + (join pre).byteSize
    (pre ++ (ls ++ post)).filter
      (fun l => start ≤ l.start ∧ l.start < start + (join ls).byteSize) = ls := by
  obtain ⟨hpre, h⟩ := from_append.1 h
  obtain ⟨hls, hpost⟩ := from_append.1 h
  have e1 : pre.filter (fun l => offset + (join pre).byteSize ≤ l.start ∧
      l.start < offset + (join pre).byteSize + (join ls).byteSize) = [] :=
    List.filter_eq_nil_iff.2 fun l hl => by have := hpre.bounds hl; simp; omega
  have e2 : ls.filter (fun l => offset + (join pre).byteSize ≤ l.start ∧
      l.start < offset + (join pre).byteSize + (join ls).byteSize) = ls :=
    List.filter_eq_self.2 fun l hl => by have := hls.bounds hl; simp; omega
  have e3 : post.filter (fun l => offset + (join pre).byteSize ≤ l.start ∧
      l.start < offset + (join pre).byteSize + (join ls).byteSize) = [] :=
    List.filter_eq_nil_iff.2 fun l hl => by have := hpost.bounds hl; simp; omega
  simp only [List.filter_append, e1, e2, e3, List.nil_append, List.append_nil]

end Line

/-! ## Writing headings -/

namespace Heading

/-- What a heading can be called: one line that is not empty and has no blanks around it. -/
structure IsTitle (name : Text) : Prop where
  ne_nil : name ≠ []
  oneLine : '\n' ∉ name
  trimmed : name.trim = name

/-- What stands between the hash signs and the name of a heading: spaces and tabs. -/
def IsGap (gap : Text) : Prop := gap ≠ [] ∧ ∀ g ∈ gap, g = ' ' ∨ g = '\t'

def written (level : Nat) (gap name : Text) : Text :=
  List.replicate level '#' ++ gap ++ name ++ ['\n']

variable {gap name : Text}

theorem rawLines_written (level : Nat) (hgap : IsGap gap) (hname : IsTitle name) :
    (written level gap name).rawLines = [written level gap name] := by
  have hline : '\n' ∉ List.replicate level '#' ++ gap ++ name := by
    simp only [List.mem_append, List.mem_replicate, not_or]
    refine ⟨⟨fun h => absurd h.2 (by decide), fun h => ?_⟩, hname.oneLine⟩
    rcases hgap.2 _ h with e | e <;> cases e
  exact Text.rawLines_line hline []

namespace IsTitle

theorem exists_cons (h : IsTitle name) : ∃ c t, name = c :: t ∧ Text.isBlank c = false := by
  obtain ⟨c, t, rfl⟩ := List.exists_cons_of_ne_nil h.ne_nil
  exact ⟨c, t, rfl, Text.of_head? (Text.of_trimBy_eq h.trimmed).1 c rfl⟩

/-- Nothing is cut off such a name. -/
theorem nameOf_eq (h : IsTitle name) : nameOf name = name := by
  have hlast := Text.of_getLast (Text.of_trimBy_eq h.trimmed).2
  have hreturn : Text.dropFinal '\r' name = name :=
    if_neg fun e => absurd (hlast _ e) (by decide)
  rw [nameOf, hreturn]
  exact Text.trimEndBy_of_getLast fun c hc => isGap_eq_false (hlast c hc)

end IsTitle

/-- A heading that is written is read with its level and its name. -/
theorem isHeading_written (level : Nat) (hgap : IsGap gap) (hname : IsTitle name) :
    IsHeading level (written level gap name) ∧ nameOf (title (written level gap name)) = name := by
  obtain ⟨c, t, rfl, hc⟩ := hname.exists_cons
  have hline : Text.dropFinal '\n' (written level gap (c :: t)) =
      List.replicate level '#' ++ gap ++ c :: t := by
    rw [written, Text.dropFinal, if_pos (List.getLast?_concat ..), List.dropLast_concat]
  have htitle : title (written level gap (c :: t)) = c :: t := by
    rw [title, hline]
    exact (parts_eq level t hgap.1 hgap.2 hc).2.2
  exact ⟨isHeading_append_lineFeed.2 ⟨gap, c, t, rfl, hgap.1, hgap.2, hc⟩,
    htitle.symm ▸ hname.nameOf_eq⟩

end Heading
end WikiStubs
