import WikiStubs.Proofs.Section.Tree

/-!
# Sections at another place

Lines that stand further down a page have the same sections: names, bodies and the shape of the
tree stay, and every span moves by the same number of bytes (`Section.fromLevel_shift`). So the
sections of a stretch of a page can be compared with those of its text alone.
-/
namespace WikiStubs

/-- The span, further down by `n` bytes. -/
def Span.shift (n : Nat) (s : Span) : Span := ⟨s.start + n, s.stop + n⟩

/-! ## Lines -/

namespace Line

/-- The line, further down by `n` bytes. -/
def shift (n : Nat) (l : Line) : Line := ⟨l.start + n, l.text⟩

@[simp] theorem text_shift (n : Nat) (l : Line) : (l.shift n).text = l.text := rfl

theorem level?_shift (n : Nat) (l : Line) : (l.shift n).level? = l.level? := rfl

theorem isDeeper_shift (n level : Nat) (l : Line) :
    (l.shift n).isDeeper level = l.isDeeper level := rfl

theorem join_shift (n : Nat) (ls : List Line) : join (ls.map (shift n)) = join ls := by
  simp only [join, List.flatMap_map, text_shift]

theorem placeFrom_shift (n offset : Nat) (ts : List Text) :
    (placeFrom offset ts).map (shift n) = placeFrom (offset + n) ts := by
  induction ts generalizing offset with
  | nil => rfl
  | cons t ts ih =>
    rw [placeFrom, List.map_cons, ih, placeFrom, shift, Nat.add_right_comm]

/-- Consecutive lines are placed from where the first one starts. -/
theorem From.eq_placeFrom {offset : Nat} {ls : List Line} (h : From offset ls) :
    placeFrom offset (ls.map (·.text)) = ls := by
  induction ls generalizing offset with
  | nil => rfl
  | cons l ls ih =>
    obtain ⟨rfl, -, hls⟩ := h
    rw [List.map_cons, placeFrom, ← stop, ih hls]

/-- Consecutive lines of a page are the lines of their text, further down. -/
theorem ofText_join_shift {t : Text} {pre ls post : List Line} (h : ofText t = pre ++ ls ++ post) :
    (ofText (join ls)).map (shift (join pre).byteSize) = ls := by
  have hpage := from_ofText t
  rw [h] at hpage
  have hls := (from_append.1 (from_append.1 hpage).1).2
  rw [ofText, rawLines_join h, placeFrom_shift]
  exact hls.eq_placeFrom

end Line

/-! ## Extents -/

namespace Extent

/-- The extent, further down by `n` bytes. -/
def shift (n : Nat) (x : Extent) : Extent := ⟨x.name, x.head.shift n, x.content.map (Line.shift n)⟩

theorem cut_shift (n level : Nat) (ls : List Line) :
    cut level (ls.map (Line.shift n)) =
      ((cut level ls).1.map (Line.shift n), (cut level ls).2.map (shift n)) := by
  induction ls with
  | nil => rfl
  | cons l ls ih =>
    rw [List.map_cons]
    by_cases h : l.level? = some level
    · rw [cut_cons_of_level h, cut_cons_of_level (Line.level?_shift n l ▸ h), ih]
      rfl
    · rw [cut_cons_of_other h, cut_cons_of_other (Line.level?_shift n l ▸ h), ih]
      rfl

theorem span_shift (n : Nat) (x : Extent) : (x.shift n).span = x.span.shift n := by
  have htext : (x.shift n).text = x.text := by
    simp only [text, shift, Line.text_shift, Line.join_shift]
  simp only [span, htext, Span.shift, Span.mk.injEq]
  exact ⟨rfl, Nat.add_right_comm ..⟩

theorem body_shift (n level : Nat) (x : Extent) : (x.shift n).body level = x.body level := by
  simp only [body, shift, List.takeWhile_map, Line.join_shift, Function.comp_def,
    Line.isDeeper_shift]

end Extent

/-! ## Sections -/

namespace Section

mutual

/-- The section with all spans, at every depth, further down by `n` bytes. -/
def shift (n : Nat) : Section → Section
  | ⟨name, body, subsections, span⟩ => ⟨name, body, shiftAll n subsections, span.shift n⟩

def shiftAll (n : Nat) : List Section → List Section
  | [] => []
  | s :: ss => shift n s :: shiftAll n ss

end

theorem shiftAll_eq (n : Nat) (ss : List Section) : shiftAll n ss = ss.map (shift n) := by
  induction ss with
  | nil => rfl
  | cons s ss ih => rw [shiftAll, ih, List.map_cons]

@[simp] theorem name_shift (n : Nat) (s : Section) : (s.shift n).name = s.name := by
  cases s; rfl

@[simp] theorem body_shift (n : Nat) (s : Section) : (s.shift n).body = s.body := by
  cases s; rfl

@[simp] theorem span_shift (n : Nat) (s : Section) : (s.shift n).span = s.span.shift n := by
  cases s; rfl

theorem names_shift (n : Nat) (ss : List Section) :
    (ss.map (shift n)).map (·.name) = ss.map (·.name) := by
  rw [List.map_map]
  exact List.map_congr_left fun s _ => name_shift n s

theorem put_shift (n : Nat) (s : Section) (ss : List Section) :
    put (s.shift n) (ss.map (shift n)) = (put s ss).map (shift n) := by
  induction ss with
  | nil => rfl
  | cons u us ih =>
    simp only [List.map_cons, put, name_shift, ih]
    split <;> rfl

theorem keepLast_shift (n : Nat) (ss : List Section) :
    keepLast (ss.map (shift n)) = (keepLast ss).map (shift n) := by
  induction ss using List.reverseRecOn with
  | nil => rfl
  | append_singleton ss s ih =>
    rw [List.map_append, List.map_singleton, keepLast_concat, ih, put_shift, keepLast_concat]

theorem within_shift (n depth : Nat) (ls : List Line) :
    within depth (ls.map (Line.shift n)) = (within depth ls).map (shift n) := by
  induction depth generalizing ls with
  | zero => rfl
  | succ depth ih =>
    have hsection : ∀ x : Extent,
        (⟨(x.shift n).name, (x.shift n).body (maxLevel - depth),
          keepLast (within depth (x.shift n).content), (x.shift n).span⟩ : Section) =
        shift n ⟨x.name, x.body (maxLevel - depth), keepLast (within depth x.content), x.span⟩ := by
      intro x
      rw [shift, shiftAll_eq, ← keepLast_shift, ← ih, Extent.body_shift, Extent.span_shift]
      rfl
    simp only [within, Extent.cut_shift]
    cases (Extent.cut (maxLevel - depth) ls).2 with
    | nil => exact ih ls
    | cons x xs =>
      rw [List.map_cons]
      simp only [← List.map_cons, List.map_map]
      exact List.map_congr_left fun y _ => hsection y

theorem fromLevel_shift (n low : Nat) (ls : List Line) :
    fromLevel low (ls.map (Line.shift n)) = (fromLevel low ls).map (shift n) := within_shift ..

end Section
end WikiStubs
