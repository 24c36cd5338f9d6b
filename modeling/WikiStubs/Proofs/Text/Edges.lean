import Mathlib.Data.List.ModifyLast
import WikiStubs.Proofs.Text.Trim

/-!
# The first and the last line of a text

A text is its last line with whole lines before it (`exists_lastLine`). Text in front of another
joins the first line of it and leaves the other lines (`lines_append`).

Trimming a text before it is cut into lines therefore changes three kinds of lines. Blank lines
at both ends go. The first line that is not blank loses its indent, unless what is not blank
starts where a line does (`StartsLine`, `filter_lines_after_blanks`). The last line loses the
blanks at its end (`blanksBehind`, `filter_lines_before_blanks`). Of the lines that are not blank
none is lost, and only the first and the last are trimmed (`filled_trim`).
-/
namespace WikiStubs.Text

/-! ## Whole lines -/

/-- The text ends where a line ends. -/
def EndsLine (t : Text) : Prop := t = [] ∨ t.getLast? = some '\n'

instance (t : Text) : Decidable (EndsLine t) := inferInstanceAs (Decidable (_ ∨ _))

/-- The last line of a text: what follows its last line feed. -/
def lastLine (t : Text) : Text := (t.reverse.takeWhile (· ≠ '\n')).reverse

theorem lastLine_append {l : Text} (h : '\n' ∉ l) (t : Text) :
    lastLine (t ++ l) = lastLine t ++ l := by
  have hl : ∀ c ∈ l.reverse, decide (c ≠ '\n') = true := fun c hc =>
    decide_eq_true fun e => h (e ▸ List.mem_reverse.1 hc)
  rw [lastLine, List.reverse_append, List.takeWhile_append_of_pos hl, List.reverse_append,
    List.reverse_reverse, lastLine]

theorem lastLine_of_endsLine {t : Text} (h : EndsLine t) : lastLine t = [] := by
  rcases h with rfl | h
  · rfl
  · obtain ⟨s, rfl⟩ := List.getLast?_eq_some_iff.1 h
    simp [lastLine]

theorem lineFeed_not_mem_lastLine (t : Text) : '\n' ∉ lastLine t := fun h => by
  simpa using List.mem_takeWhile_imp (List.mem_reverse.1 h)

/-- A text is whole lines and its last line. -/
theorem exists_lastLine (t : Text) : ∃ above, EndsLine above ∧ t = above ++ lastLine t := by
  by_cases h : '\n' ∈ t
  · obtain ⟨s, l, hcut⟩ := exists_splitAtLast? h
    obtain ⟨rfl, hl⟩ := splitAtLast?_eq_some_iff.1 hcut
    have hs : EndsLine (s ++ ['\n']) := Or.inr (List.getLast?_concat ..)
    have heq : s ++ '\n' :: l = s ++ ['\n'] ++ l := by simp
    rw [heq, lastLine_append hl, lastLine_of_endsLine hs]
    exact ⟨s ++ ['\n'], hs, rfl⟩
  · refine ⟨[], Or.inl rfl, ?_⟩
    have hlast := lastLine_append h []
    rw [List.nil_append] at hlast
    rw [List.nil_append, hlast]
    rfl

theorem lastLine_suffix (t : Text) : lastLine t <:+ t := by
  obtain ⟨above, -, hcut⟩ := exists_lastLine t
  exact ⟨above, hcut.symm⟩

theorem mem_getLast?_of_suffix {c : Char} {s t : Text} (h : s <:+ t) (hc : c ∈ s.getLast?) :
    c ∈ t.getLast? := by
  obtain ⟨a, rfl⟩ := h
  rw [List.getLast?_append, Option.mem_def.1 hc]
  rfl

theorem endsLine_iff {t : Text} : EndsLine t ↔ lastLine t = [] := by
  refine ⟨lastLine_of_endsLine, fun h => ?_⟩
  obtain ⟨above, habove, ht⟩ := exists_lastLine t
  rwa [ht, h, List.append_nil]

theorem lines_append_of_endsLine {s : Text} (h : EndsLine s) (t : Text) :
    lines (s ++ t) = lines s ++ lines t := by
  rcases h with rfl | h
  · rfl
  · rw [lines, rawLines_append h, List.map_append, lines, lines]

/-! ## The first line -/

/-- Text without a line feed joins the first line of what follows. -/
theorem rawLines_append_of_not_mem {s : Text} (hne : s ≠ []) (h : '\n' ∉ s) (t : Text) :
    rawLines (s ++ t) = (s ++ (rawLines t).headD []) :: (rawLines t).tail := by
  induction s with
  | nil => exact absurd rfl hne
  | cons c s ih =>
    rw [List.mem_cons, not_or] at h
    rw [List.cons_append, rawLines_cons (Ne.symm h.1)]
    by_cases hs : s = []
    · rw [hs, List.nil_append, List.singleton_append]
    · rw [ih hs h.2, List.headD_cons, List.tail_cons, List.cons_append]

theorem dropFinal_append {c : Char} {s : Text} (h : s.getLast? ≠ some c) (t : Text) :
    dropFinal c (s ++ t) = s ++ dropFinal c t := by
  by_cases ht : t = []
  · subst ht
    rw [List.append_nil, dropFinal, if_neg h]
    exact (List.append_nil s).symm
  · unfold dropFinal
    rw [List.getLast?_append_of_ne_nil s ht, List.dropLast_append_of_ne_nil ht]
    split <;> rfl

/-- The end of a line does not reach into text that does not end in a part of it. -/
theorem dropLineEnd_append {s : Text} (hn : s.getLast? ≠ some '\n') (hr : s.getLast? ≠ some '\r')
    (l : Text) : dropLineEnd (s ++ l) = s ++ dropLineEnd l := by
  by_cases hl : l = []
  · subst hl
    rw [List.append_nil, dropLineEnd, if_neg hn]
    exact (List.append_nil s).symm
  · unfold dropLineEnd
    rw [List.getLast?_append_of_ne_nil s hl, List.dropLast_append_of_ne_nil hl]
    split
    · exact dropFinal_append hr _
    · rfl

theorem dropLineEnd_prefix_self (l : Text) : dropLineEnd l <+: l := by
  have hfinal : ∀ {c : Char} {t : Text}, dropFinal c t <+: t := by
    intro c t
    unfold dropFinal
    split
    · exact List.dropLast_prefix t
    · exact List.prefix_refl t
  unfold dropLineEnd
  split
  · exact hfinal.trans (List.dropLast_prefix l)
  · exact List.prefix_refl l

theorem lines_append {s : Text} (hne : s ≠ []) (h : '\n' ∉ s) (hr : s.getLast? ≠ some '\r')
    (t : Text) : lines (s ++ t) = (s ++ (lines t).headD []) :: (lines t).tail := by
  have hn : s.getLast? ≠ some '\n' := fun hlast => h (List.mem_of_getLast? hlast)
  have hhead : (lines t).headD [] = dropLineEnd ((rawLines t).headD []) := by
    unfold lines
    cases rawLines t <;> rfl
  rw [lines, rawLines_append_of_not_mem hne h, List.map_cons, dropLineEnd_append hn hr, hhead,
    List.map_tail, lines]

/-- The first line is the start of the text. -/
theorem headD_lines_prefix_self (t : Text) : (lines t).headD [] <+: t := by
  cases ht : rawLines t with
  | nil => simp [lines, ht]
  | cons l ls =>
    have hl : l <+: t := by
      rw [← flatten_rawLines t, ht]
      exact List.prefix_append l _
    rw [lines, ht]
    exact (dropLineEnd_prefix_self l).trans hl

/-- A text starts with a mark exactly if its first line does. -/
theorem prefix_headD_lines_iff {mark : Text} (hne : mark ≠ []) (h : '\n' ∉ mark)
    (hr : mark.getLast? ≠ some '\r') {t : Text} : mark <+: (lines t).headD [] ↔ mark <+: t := by
  refine ⟨fun hpre => hpre.trans (headD_lines_prefix_self t), ?_⟩
  rintro ⟨u, rfl⟩
  rw [lines_append hne h hr, List.headD_cons]
  exact List.prefix_append mark _

/-! ## Blanks around a text -/

/-- Nothing but blank lines stands before what is not blank. -/
def StartsLine (t : Text) : Prop := EndsLine (t.takeWhile isBlank)

instance (t : Text) : Decidable (StartsLine t) := inferInstanceAs (Decidable (EndsLine _))

def endBlanks (t : Text) : Text := (t.reverse.takeWhile isBlank).reverse

/-- The blanks behind the last line that is not blank, without its line end. -/
def blanksBehind (t : Text) : Text := (lines (endBlanks t)).headD []

theorem isBlank_of_mem_endBlanks {c : Char} {t : Text} (h : c ∈ endBlanks t) :
    isBlank c = true := List.mem_takeWhile_imp (List.mem_reverse.1 h)

theorem of_mem_blanksBehind {c : Char} {t : Text} (h : c ∈ blanksBehind t) :
    isBlank c = true ∧ c ≠ '\n' := by
  refine ⟨isBlank_of_mem_endBlanks ((headD_lines_prefix_self _).subset h), ?_⟩
  unfold blanksBehind at h
  cases hlines : lines (endBlanks t) with
  | nil =>
    rw [hlines] at h
    cases h
  | cons l ls =>
    rw [hlines, List.headD_cons] at h
    rintro rfl
    exact (mem_of_mem_lines (hlines ▸ List.mem_cons_self ..)).1 h

theorem trimEnd_append_endBlanks (t : Text) : t.trimEnd ++ endBlanks t = t := by
  rw [trimEnd, trimEndBy, endBlanks, ← List.reverse_append, List.takeWhile_append_dropWhile,
    List.reverse_reverse]

theorem of_getLast?_trimEndBy {p : Char → Bool} {c : Char} {t : Text}
    (h : c ∈ (trimEndBy p t).getLast?) : p c = false := by
  rw [trimEndBy, List.getLast?_reverse] at h
  have hhead := List.head?_dropWhile_not p t.reverse
  rwa [Option.mem_def.1 h] at hhead

theorem isBlank_of_getLast?_trimEnd {c : Char} {t : Text} (h : c ∈ t.trimEnd.getLast?) :
    isBlank c = false := of_getLast?_trimEndBy h

/-- The start of a text with something to keep does not matter to its end. -/
theorem takeWhile_append_trim {t : Text} (h : t.trim ≠ []) :
    t.takeWhile isBlank ++ t.trim = t.trimEnd := by
  have hdrop : ((t.dropWhile isBlank).reverse.dropWhile isBlank).isEmpty ≠ true := fun hnil => by
    refine h ?_
    rw [trim, trimBy, trimEndBy, List.isEmpty_iff.1 hnil]
    rfl
  have hcut : t.reverse = (t.dropWhile isBlank).reverse ++ (t.takeWhile isBlank).reverse := by
    rw [← List.reverse_append, List.takeWhile_append_dropWhile]
  rw [trimEnd, trimEndBy, hcut, List.dropWhile_append, if_neg hdrop, List.reverse_append,
    List.reverse_reverse]
  rfl

/-- A text whose last character is not blank does not end with a line. -/
theorem lastLine_ne_nil {t : Text} (hne : t ≠ []) (hlast : ∀ c ∈ t.getLast?, isBlank c = false) :
    lastLine t ≠ [] := fun hnil => by
  rcases endsLine_iff.2 hnil with h | h
  · exact hne h
  · exact absurd (hlast _ h) (by decide)

section
variable {p : Text → Bool} (hp : ∀ l, p l = true → ∃ c ∈ l, isBlank c = false)
include hp

theorem not_of_blank {l : Text} (hl : ∀ c ∈ l, isBlank c = true) : ¬ p l = true := fun hkept => by
  obtain ⟨c, hc, hblank⟩ := hp l hkept
  rw [hl c hc] at hblank
  cases hblank

theorem filter_lines_of_blank {b : Text} (hb : ∀ c ∈ b, isBlank c = true) :
    (lines b).filter p = [] :=
  List.filter_eq_nil_iff.2 fun _ hl =>
    not_of_blank hp fun c hc => hb c ((mem_of_mem_lines hl).2 c hc)

/-- Blanks behind a text join its last line, and further lines are blank. -/
theorem filter_lines_before_blanks {t b : Text} (hlast : ∀ c ∈ t.getLast?, isBlank c = false)
    (hb : ∀ c ∈ b, isBlank c = true) :
    ∃ above, (lines (t ++ b)).filter p = above ++ [lastLine t ++ (lines b).headD []].filter p ∧
      (lines t).filter p = above ++ [lastLine t].filter p := by
  by_cases hne : t = []
  · subst hne
    have hfirst : ¬ p (lastLine [] ++ (lines b).headD []) = true :=
      not_of_blank hp fun c hc => hb c ((headD_lines_prefix_self b).subset hc)
    have hnil : ¬ p (lastLine []) = true := not_of_blank hp (List.forall_mem_nil _)
    refine ⟨[], ?_, by rw [List.filter_cons_of_neg hnil]; rfl⟩
    rw [List.nil_append, filter_lines_of_blank hp hb, List.filter_cons_of_neg hfirst]
    rfl
  obtain ⟨above, habove, hcut⟩ := exists_lastLine t
  have hline := lastLine_ne_nil hne hlast
  have hend : (lastLine t).getLast? ≠ some '\r' := fun hr =>
    absurd (hlast '\r' (mem_getLast?_of_suffix (lastLine_suffix t) hr)) (by decide)
  have htail : ((lines b).tail).filter p = [] := by
    rw [List.filter_eq_nil_iff]
    exact fun l hl => List.filter_eq_nil_iff.1 (filter_lines_of_blank hp hb) l
      (List.mem_of_mem_tail hl)
  have hlines : ∀ u : Text, lines (t ++ u) =
      lines above ++ (lastLine t ++ (lines u).headD []) :: (lines u).tail := fun u => by
    conv_lhs => rw [hcut]
    rw [List.append_assoc, lines_append_of_endsLine habove,
      lines_append hline (lineFeed_not_mem_lastLine t) hend]
  refine ⟨(lines above).filter p, ?_, ?_⟩
  · rw [hlines, List.filter_append, ← List.singleton_append, List.filter_append, htail,
      List.append_nil]
  · have hself := hlines []
    rw [List.append_nil] at hself
    rw [hself, List.filter_append]
    simp [lines]

end

section
variable {p : Text → Bool} (hp : ∀ l, p l = true → ∃ c ∈ l.head?, isBlank c = false)
include hp

/-- Blanks before a text make whole blank lines, or they stand on its first line, which then starts
with a blank. -/
theorem filter_lines_after_blanks {b t : Text} (hb : ∀ c ∈ b, isBlank c = true) :
    (lines (b ++ t)).filter p =
      (if EndsLine b then lines t else (lines t).tail).filter p := by
  obtain ⟨above, habove, hcut⟩ := exists_lastLine b
  have hblank : ∀ c ∈ above, isBlank c = true := fun c hc =>
    hb c (hcut ▸ List.mem_append_left _ hc)
  have hmem : ∀ l, p l = true → ∃ c ∈ l, isBlank c = false := fun l hl =>
    (hp l hl).imp fun c hc => ⟨List.mem_of_mem_head? hc.1, hc.2⟩
  rw [hcut, List.append_assoc, lines_append_of_endsLine habove, List.filter_append,
    filter_lines_of_blank hmem hblank, List.nil_append, ← hcut]
  by_cases hindent : lastLine b = []
  · rw [if_pos (endsLine_iff.2 hindent), hindent, List.nil_append]
  · have hline : ¬ p (dropLineEnd (lastLine b ++ (rawLines t).headD [])) = true := fun hkept => by
      -- the line starts with a blank, or nothing is left of it
      obtain ⟨c, hc, hchar⟩ := hp _ hkept
      obtain ⟨d, l, hl⟩ := List.exists_cons_of_ne_nil hindent
      have hd : isBlank d = true :=
        hb d (hcut ▸ List.mem_append_right _ (hl ▸ List.mem_cons_self ..))
      obtain ⟨u, hu⟩ := dropLineEnd_prefix_self (lastLine b ++ (rawLines t).headD [])
      obtain ⟨v, hv⟩ := List.head?_eq_some_iff.1 hc
      rw [hv, hl, List.cons_append, List.cons_append] at hu
      rw [(List.cons.inj hu).1, hd] at hchar
      cases hchar
    rw [if_neg fun hends => hindent (endsLine_iff.1 hends), lines,
      rawLines_append_of_not_mem hindent (lineFeed_not_mem_lastLine b), List.map_cons,
      List.filter_cons_of_neg hline, List.map_tail, lines]

end

/-! ## Lines that are not blank -/

/-- Whether a line has a character that is not blank. -/
def isFilled (l : Text) : Bool := l.any fun c => !isBlank c

/-- The lines of a text that are not blank. -/
def filled (t : Text) : List Text := (lines t).filter isFilled

theorem isFilled_iff {l : Text} : isFilled l = true ↔ ∃ c ∈ l, isBlank c = false := by
  simp [isFilled]

/-- Something is left of a line exactly if it is not blank. -/
theorem trim_ne_nil_iff {l : Text} : l.trim ≠ [] ↔ isFilled l = true := by
  rw [isFilled_iff, trim, ne_eq, trimBy_eq_nil_iff]
  simp

theorem filled_of_blank {b : Text} (hb : ∀ c ∈ b, isBlank c = true) : filled b = [] :=
  filter_lines_of_blank (fun _ => isFilled_iff.1) hb

/-- The first line of a text reaches beyond its first character that is not blank. -/
theorem filled_indented {indent : Text} (h : '\n' ∉ indent) {c : Char} (hc : isBlank c = false)
    (t : Text) : filled (indent ++ c :: t) =
      (indent ++ c :: (lines t).headD []) :: (lines t).tail.filter isFilled := by
  have hline : '\n' ∉ indent ++ [c] := by
    rw [List.mem_append, List.mem_singleton, not_or]
    exact ⟨h, fun e => absurd hc (e ▸ by decide)⟩
  have hend : (indent ++ [c]).getLast? ≠ some '\r' := by
    rw [List.getLast?_concat]
    exact fun e => absurd hc (Option.some.inj e ▸ by decide)
  have hlines := lines_append (List.concat_ne_nil c indent) hline hend t
  rw [List.append_assoc, List.append_assoc, List.singleton_append, List.singleton_append] at hlines
  rw [filled, hlines, List.filter_cons_of_pos]
  exact isFilled_iff.2 ⟨c, List.mem_append_right _ (List.mem_cons_self ..), hc⟩

/-- Blanks before a text stand on lines of their own and at the start of its first line. -/
theorem filled_after_blanks {b t : Text} (hb : ∀ c ∈ b, isBlank c = true)
    (hhead : ∀ c ∈ t.head?, isBlank c = false) :
    (filled (b ++ t)).modifyHead (List.dropWhile isBlank) = filled t := by
  cases t with
  | nil =>
    rw [List.append_nil, filled_of_blank hb]
    rfl
  | cons c t =>
    have hc : isBlank c = false := hhead c rfl
    obtain ⟨above, habove, hcut⟩ := exists_lastLine b
    have hblanks : filled above = [] :=
      filled_of_blank fun d hd => hb d (hcut ▸ List.mem_append_left _ hd)
    have hindent : ∀ d ∈ lastLine b, isBlank d = true := fun d hd =>
      hb d ((lastLine_suffix b).subset hd)
    have hboth : filled (b ++ c :: t) = filled (lastLine b ++ c :: t) := by
      conv_lhs => rw [hcut]
      rw [filled, List.append_assoc, lines_append_of_endsLine habove, List.filter_append, ← filled,
        hblanks, List.nil_append, filled]
    have hself : filled (c :: t) =
        (c :: (lines t).headD []) :: (lines t).tail.filter isFilled :=
      filled_indented List.not_mem_nil hc t
    rw [hboth, filled_indented (lineFeed_not_mem_lastLine b) hc, hself, List.modifyHead_cons,
      List.dropWhile_append_of_pos hindent, List.dropWhile_cons_of_neg (by simp [hc])]

/-- Blanks behind a text stand at the end of its last line and on lines of their own. -/
theorem filled_before_blanks {t b : Text} (hlast : ∀ c ∈ t.getLast?, isBlank c = false)
    (hb : ∀ c ∈ b, isBlank c = true) : (filled (t ++ b)).modifyLast trimEnd = filled t := by
  by_cases hne : t = []
  · rw [hne, List.nil_append, filled_of_blank hb]
    rfl
  · have hend : ∀ c ∈ (lastLine t).getLast?, isBlank c = false := fun c hc =>
      hlast c (mem_getLast?_of_suffix (lastLine_suffix t) hc)
    obtain ⟨c, hc⟩ := Option.ne_none_iff_exists'.1
      (mt List.getLast?_eq_none_iff.1 (lastLine_ne_nil hne hlast))
    have hkept : ∀ l : Text, isFilled (lastLine t ++ l) = true := fun l =>
      isFilled_iff.2 ⟨c, List.mem_append_left _ (List.mem_of_getLast? hc), hend c hc⟩
    have hself := hkept []
    rw [List.append_nil] at hself
    have hbehind : ∀ c ∈ (lines b).headD [], isBlank c = true := fun c hc =>
      hb c ((headD_lines_prefix_self b).subset hc)
    obtain ⟨above, hlines, hlinesSelf⟩ :=
      filter_lines_before_blanks (fun _ => isFilled_iff.1) hlast hb
    rw [filled, filled, hlines, hlinesSelf, List.filter_cons_of_pos (hkept _),
      List.filter_cons_of_pos hself, List.filter_nil, List.modifyLast_concat, trimEnd,
      trimEndBy_append hbehind, trimEndBy_of_getLast hend]

/-- Lines without the blanks around all of them: the first line has none at its start, and the
last one none at its end. -/
def trimEdges (ls : List Text) : List Text :=
  (ls.modifyHead (List.dropWhile isBlank)).modifyLast trimEnd

/-- Trimming a text trims its lines around all of them. -/
theorem filled_trim (t : Text) : filled t.trim = trimEdges (filled t) := by
  by_cases hne : t.trim = []
  · have hblank := trimBy_eq_nil_iff.1 hne
    rw [hne, filled_of_blank hblank]
    rfl
  · obtain ⟨a, b, ha, hb, ht⟩ := exists_eq_trimBy isBlank t
    change t = a ++ t.trim ++ b at ht
    have hend : ∀ c ∈ t.trim.getLast?, isBlank c = false := fun c hc => of_getLast?_trimEndBy hc
    have hstart : (filled t).modifyHead (List.dropWhile isBlank) = filled (t.trim ++ b) := by
      conv_lhs => rw [ht, List.append_assoc]
      refine filled_after_blanks ha fun c hc => ?_
      rw [List.head?_append_of_ne_nil _ hne] at hc
      exact of_head?_trimBy hc
    rw [trimEdges, hstart, filled_before_blanks hend hb]

/-- What this leaves of one of the lines. -/
def trimmedBetween (before : List Text) (line : Text) (after : List Text) : Text :=
  let start : Text := if before = [] then line.dropWhile isBlank else line
  if after = [] then start.trimEnd else start

theorem trimEdges_append (before : List Text) (line : Text) (after : List Text) :
    trimEdges (before ++ line :: after) = before.modifyHead (List.dropWhile isBlank) ++
      trimmedBetween before line after :: after.modifyLast trimEnd := by
  have hafter : ∀ l : Text, (l :: after).modifyLast trimEnd =
      (if after = [] then l.trimEnd else l) :: after.modifyLast trimEnd := by
    intro l
    split
    · next hnil => rw [hnil]; rfl
    · next hne => exact List.modifyLast_append_of_right_ne_nil trimEnd [l] after hne
  cases before with
  | nil =>
    rw [List.nil_append, trimEdges, List.modifyHead_cons, hafter]
    rfl
  | cons l before =>
    rw [trimEdges, List.cons_append, List.modifyHead_cons, ← List.cons_append,
      List.modifyLast_append_of_right_ne_nil _ _ _ (List.cons_ne_nil line after), hafter]
    rfl

end WikiStubs.Text
