import Mathlib.Data.List.Induction
import WikiStubs.Proofs.Text.Trim

/-!
# Line ends with a carriage return

`Text.crlf` puts a carriage return before every line feed. The readers of texts take a carriage
return for a blank, for the end of a line, or for an ordinary character; that stands before a line
feed, which they take for the same. So they commute with `crlf`: what they cut a text into is cut
at the same places, and its parts are written with the same line ends as the whole.
-/
namespace WikiStubs.Text

/-- The text with a carriage return before every line feed. -/
def crlf (t : Text) : Text := t.flatMap fun c => if c = '\n' then ['\r', '\n'] else [c]

/-- The text without its carriage returns. -/
def withoutReturns (t : Text) : Text := t.filter (· ≠ '\r')

@[simp] theorem crlf_nil : crlf [] = [] := rfl

@[simp] theorem crlf_lineFeed (t : Text) : crlf ('\n' :: t) = '\r' :: '\n' :: crlf t := rfl

theorem crlf_cons {c : Char} (h : c ≠ '\n') (t : Text) : crlf (c :: t) = c :: crlf t := by
  rw [crlf, List.flatMap_cons, if_neg h]
  rfl

@[simp] theorem crlf_append (s t : Text) : crlf (s ++ t) = crlf s ++ crlf t := List.flatMap_append

theorem crlf_of_not_mem {t : Text} (h : '\n' ∉ t) : crlf t = t := by
  induction t with
  | nil => rfl
  | cons c t ih =>
    rw [List.mem_cons, not_or] at h
    rw [crlf_cons (Ne.symm h.1), ih h.2]

@[simp] theorem crlf_eq_nil {t : Text} : crlf t = [] ↔ t = [] := by
  cases t with
  | nil => simp
  | cons c t => by_cases hc : c = '\n' <;> simp [hc, crlf_cons]

theorem withoutReturns_of_not_mem {t : Text} (h : '\r' ∉ t) : withoutReturns t = t :=
  List.filter_eq_self.2 fun _ hc => decide_eq_true fun e => h (e ▸ hc)

/-- Only carriage returns are added. -/
theorem withoutReturns_crlf {t : Text} (h : '\r' ∉ t) : withoutReturns (crlf t) = t := by
  induction t with
  | nil => rfl
  | cons c t ih =>
    rw [List.mem_cons, not_or] at h
    by_cases hc : c = '\n'
    · subst hc
      rw [crlf_lineFeed, withoutReturns, List.filter_cons_of_neg (by decide),
        List.filter_cons_of_pos (by decide)]
      exact congrArg ('\n' :: ·) (ih h.2)
    · rw [crlf_cons hc, withoutReturns, List.filter_cons_of_pos (by simpa using Ne.symm h.1)]
      exact congrArg (c :: ·) (ih h.2)

theorem mem_crlf_of_mem {c : Char} {t : Text} (h : c ∈ t) : c ∈ crlf t := by
  induction t with
  | nil => cases h
  | cons d t ih =>
    by_cases hd : d = '\n'
    · subst hd
      rcases List.mem_cons.1 h with rfl | h
      · simp
      · simp [ih h]
    · rw [crlf_cons hd]
      exact List.mem_cons.2 ((List.mem_cons.1 h).imp id ih)

/-- A text without a carriage return is what `crlf` makes of itself only. -/
theorem crlf_eq_iff {mark t : Text} (h : '\r' ∉ mark) (h' : '\n' ∉ mark) :
    crlf t = mark ↔ t = mark := by
  constructor
  · intro e
    rw [← e, crlf_of_not_mem fun hn => h' (e ▸ mem_crlf_of_mem hn)]
  · rintro rfl
    exact crlf_of_not_mem h'

theorem all_crlf {p : Char → Bool} (hp : p '\r' = p '\n') (t : Text) :
    (crlf t).all p = t.all p := by
  induction t with
  | nil => rfl
  | cons c t ih =>
    by_cases hc : c = '\n'
    · subst hc
      rw [crlf_lineFeed, List.all_cons, List.all_cons, hp, ih, List.all_cons, ← Bool.and_assoc,
        Bool.and_self]
    · rw [crlf_cons hc, List.all_cons, ih, List.all_cons]

theorem head?_crlf_eq_some_iff {c : Char} (hr : c ≠ '\r') (hn : c ≠ '\n') {t : Text} :
    (crlf t).head? = some c ↔ t.head? = some c := by
  cases t with
  | nil => rfl
  | cons d t =>
    by_cases hd : d = '\n'
    · subst hd
      simp [Ne.symm hr, Ne.symm hn]
    · rw [crlf_cons hd, List.head?_cons, List.head?_cons]

theorem getLast?_crlf (t : Text) : (crlf t).getLast? = t.getLast? := by
  rcases List.eq_nil_or_concat t with rfl | ⟨s, c, rfl⟩
  · rfl
  · rw [List.concat_eq_append, crlf_append]
    by_cases hc : c = '\n'
    · subst hc
      simp
    · simp [crlf_cons hc]

/-! ## Trimming -/

section
variable {p : Char → Bool} (hp : p '\r' = p '\n')
include hp

theorem dropWhile_crlf (t : Text) : (crlf t).dropWhile p = crlf (t.dropWhile p) := by
  induction t with
  | nil => rfl
  | cons c t ih =>
    by_cases hc : c = '\n'
    · subst hc
      cases hn : p '\n' <;> simp [hp, hn, ih]
    · rw [crlf_cons hc]
      cases hpc : p c <;> simp [hpc, ih, crlf_cons hc]

theorem takeWhile_crlf (t : Text) : (crlf t).takeWhile p = crlf (t.takeWhile p) := by
  induction t with
  | nil => rfl
  | cons c t ih =>
    by_cases hc : c = '\n'
    · subst hc
      cases hn : p '\n' <;> simp [hp, hn, ih]
    · rw [crlf_cons hc]
      cases hpc : p c <;> simp [hpc, ih, crlf_cons hc]

theorem trimEndBy_crlf (t : Text) : trimEndBy p (crlf t) = crlf (trimEndBy p t) := by
  induction t using List.reverseRecOn with
  | nil => rfl
  | append_singleton t c ih =>
    by_cases hpc : p c = true
    · have hall : ∀ d ∈ crlf [c], p d = true := by
        by_cases hc : c = '\n'
        · subst hc
          simp [hp, hpc]
        · simpa [crlf_cons hc] using hpc
      rw [crlf_append, trimEndBy_append hall, ih, trimEndBy_append (by simpa using hpc)]
    · rw [Bool.not_eq_true] at hpc
      have hlast : ∀ d ∈ (crlf (t ++ [c])).getLast?, p d = false := by
        by_cases hc : c = '\n'
        · subst hc
          simpa using hpc
        · simpa [crlf_cons hc] using hpc
      rw [trimEndBy_of_getLast hlast, trimEndBy_of_getLast (by simpa using hpc)]

theorem trimBy_crlf (t : Text) : trimBy p (crlf t) = crlf (trimBy p t) := by
  rw [trimBy, dropWhile_crlf hp, trimEndBy_crlf hp, trimBy]

end

theorem trim_crlf (t : Text) : (crlf t).trim = crlf t.trim := trimBy_crlf (by decide) t

/-- Blanks at the start go, line ends among them. -/
theorem dropBlanks_crlf (t : Text) : (crlf t).dropWhile isBlank = crlf (t.dropWhile isBlank) :=
  dropWhile_crlf (by decide) t

/-- A last character that does not count stays outside of what is taken. -/
theorem takeWhile_concat {p : Char → Bool} {c : Char} (h : p c = false) (t : Text) :
    (t ++ [c]).takeWhile p = t.takeWhile p := by
  rw [List.takeWhile_append]
  split
  · next hall =>
    rw [(List.takeWhile_prefix p).eq_of_length hall, List.takeWhile_cons_of_neg (by simp [h]),
      List.append_nil]
  · rfl

theorem dropWhile_concat {p : Char → Bool} {c : Char} (h : p c = false) (t : Text) :
    (t ++ [c]).dropWhile p = t.dropWhile p ++ [c] := by
  rw [List.dropWhile_append]
  split
  · next hnil => simp [List.isEmpty_iff.1 hnil, h]
  · rfl

/-! ## Cutting -/

theorem splitOn_crlf {c : Char} (hr : '\r' ≠ c) (hn : '\n' ≠ c) (t : Text) :
    (crlf t).splitOn c = (t.splitOn c).map crlf := by
  induction t with
  | nil => simp
  | cons d t ih =>
    obtain ⟨u, us, hsplit⟩ := List.exists_cons_of_ne_nil (List.splitOn_ne_nil c t)
    rw [hsplit, List.map_cons] at ih
    by_cases hd : d = '\n'
    · subst hd
      simp [List.splitOn_cons_eq_if_modifyHead, hr, hn, ih, hsplit]
    · rw [crlf_cons hd, List.splitOn_cons_eq_if_modifyHead, List.splitOn_cons_eq_if_modifyHead, ih,
        hsplit]
      split
      · simp
      · simp [crlf_cons hd]

/-- A carriage return is a blank before a blank: it adds a piece without characters, which is no
word. -/
theorem words_crlf (t : Text) : words (crlf t) = words t := by
  have hpieces : ∃ u us us', t.splitOnP isBlank = u :: us ∧ (crlf t).splitOnP isBlank = u :: us' ∧
      us'.filter (· ≠ []) = us.filter (· ≠ []) := by
    induction t with
    | nil => exact ⟨[], [], [], rfl, rfl, rfl⟩
    | cons c t ih =>
      obtain ⟨u, us, us', hu, hu', hfilter⟩ := ih
      by_cases hc : c = '\n'
      · subst hc
        refine ⟨[], u :: us, [] :: u :: us', ?_, ?_, ?_⟩
        · rw [List.splitOnP_cons_eq_if_modifyHead, if_pos (by decide), hu]
        · rw [crlf_lineFeed, List.splitOnP_cons_eq_if_modifyHead, if_pos (by decide),
            List.splitOnP_cons_eq_if_modifyHead, if_pos (by decide), hu']
        · simp only [List.filter_cons, hfilter]
          simp
      · rw [crlf_cons hc, List.splitOnP_cons_eq_if_modifyHead,
          List.splitOnP_cons_eq_if_modifyHead, hu, hu']
        by_cases hb : isBlank c = true
        · refine ⟨[], u :: us, u :: us', if_pos hb, if_pos hb, ?_⟩
          simp only [List.filter_cons, hfilter]
        · exact ⟨c :: u, us, us', if_neg hb, if_neg hb, hfilter⟩
  obtain ⟨u, us, us', hu, hu', hfilter⟩ := hpieces
  rw [words, words, hu, hu', List.filter_cons, List.filter_cons, hfilter]

theorem joinWords_crlf (t : Text) : joinWords (crlf t) = joinWords t := by
  rw [joinWords, words_crlf, joinWords]

/-! ## Lines -/

theorem rawLines_crlf (t : Text) : rawLines (crlf t) = (rawLines t).map crlf := by
  induction t with
  | nil => rfl
  | cons c t ih =>
    by_cases hc : c = '\n'
    · subst hc
      rw [crlf_lineFeed, rawLines_cons (by decide), rawLines_lineFeed, rawLines_lineFeed, ih]
      rfl
    · rw [crlf_cons hc, rawLines_cons hc, rawLines_cons hc, ih]
      cases rawLines t with
      | nil => simp [crlf_cons hc]
      | cons l ls => simp [crlf_cons hc]

/-- A line that has no line end but at most a line feed at its end. -/
structure IsLine (l : Text) : Prop where
  noReturn : '\r' ∉ l
  noLineFeed : '\n' ∉ l.dropLast

theorem isLine_of_mem_rawLines {t l : Text} (h : '\r' ∉ t) (hl : l ∈ rawLines t) : IsLine l where
  noReturn hr := h (flatten_rawLines t ▸ List.mem_flatten_of_mem hl hr)
  noLineFeed := lineFeed_not_mem_dropLast hl

/-- What `crlf` makes of a line: with a line feed at its end it gets a carriage return before it,
without one it stays. -/
theorem IsLine.crlf_eq {l : Text} (h : IsLine l) :
    (∃ k, l = k ++ ['\n'] ∧ '\r' ∉ k ∧ crlf l = k ++ ['\r', '\n']) ∨ '\n' ∉ l ∧ crlf l = l := by
  rcases List.eq_nil_or_concat l with rfl | ⟨k, c, rfl⟩
  · exact Or.inr ⟨List.not_mem_nil, rfl⟩
  · obtain ⟨hr, hn⟩ := h
    rw [List.concat_eq_append, List.dropLast_concat] at hn
    rw [List.concat_eq_append, List.mem_append, not_or] at hr
    rw [List.concat_eq_append]
    by_cases hc : c = '\n'
    · subst hc
      exact Or.inl ⟨k, rfl, hr.1, by rw [crlf_append, crlf_of_not_mem hn]; rfl⟩
    · have hl : '\n' ∉ k ++ [c] := by simpa [hn] using Ne.symm hc
      exact Or.inr ⟨hl, crlf_of_not_mem hl⟩

theorem dropFinal_of_not_mem {c : Char} {t : Text} (h : c ∉ t) : dropFinal c t = t :=
  if_neg fun hlast => h (List.mem_of_getLast? hlast)

theorem lines_crlf {t : Text} (h : '\r' ∉ t) : lines (crlf t) = lines t := by
  rw [lines, rawLines_crlf, List.map_map, lines]
  refine List.map_congr_left fun l hl => ?_
  rcases (isLine_of_mem_rawLines h hl).crlf_eq with ⟨k, rfl, hk, hcrlf⟩ | ⟨-, hcrlf⟩
  · rw [Function.comp_apply, hcrlf, dropLineEnd, dropLineEnd, if_pos (by simp), if_pos (by simp),
      List.dropLast_concat, dropFinal_of_not_mem hk]
    simp [dropFinal, List.dropLast_append_of_ne_nil]
  · rw [Function.comp_apply, hcrlf]

/-! ## Searching -/

/-- A mark has no line end in it. -/
def IsMark (mark : Text) : Prop := mark ≠ [] ∧ ∀ c ∈ mark, c ≠ '\r' ∧ c ≠ '\n'

instance (mark : Text) : Decidable (IsMark mark) :=
  have : Decidable (∀ c ∈ mark, c ≠ '\r' ∧ c ≠ '\n') := List.decidableBAll _ mark
  inferInstanceAs (Decidable (_ ∧ _))

theorem after?_crlf {mark : Text} (h : ∀ c ∈ mark, c ≠ '\r' ∧ c ≠ '\n') (t : Text) :
    after? mark (crlf t) = (after? mark t).map crlf := by
  induction mark generalizing t with
  | nil => rfl
  | cons m mark ih =>
    obtain ⟨hr, hn⟩ := h m (List.mem_cons_self ..)
    cases t with
    | nil => rfl
    | cons c t =>
      by_cases hc : c = '\n'
      · subst hc
        rw [crlf_lineFeed, after?, if_neg hr, after?, if_neg hn, Option.map_none]
      · rw [crlf_cons hc, after?, after?]
        split
        · exact ih (fun c hc => h c (List.mem_cons_of_mem _ hc)) t
        · rfl

theorem startsWith_crlf {mark : Text} (h : ∀ c ∈ mark, c ≠ '\r' ∧ c ≠ '\n') (t : Text) :
    startsWith mark (crlf t) = startsWith mark t := by
  rw [startsWith, after?_crlf h, Option.isSome_map, startsWith]

/-- Nothing that starts with a line end starts with a mark. -/
theorem after?_of_lineEnd {mark : Text} (h : IsMark mark) {c : Char} (hc : c = '\r' ∨ c = '\n')
    (t : Text) : after? mark (c :: t) = none := by
  obtain ⟨m, mark, rfl⟩ := List.exists_cons_of_ne_nil h.1
  obtain ⟨hr, hn⟩ := h.2 m (List.mem_cons_self ..)
  rw [after?, if_neg]
  rintro rfl
  exact hc.elim hr hn

theorem splitAtFirst?_crlf {mark : Text} (h : IsMark mark) (t : Text) :
    splitAtFirst? mark (crlf t) = (splitAtFirst? mark t).map (Prod.map crlf crlf) := by
  induction t with
  | nil => rw [crlf_nil, splitAtFirst?, if_neg h.1]; rfl
  | cons c t ih =>
    by_cases hc : c = '\n'
    · subst hc
      rw [crlf_lineFeed, splitAtFirst?, after?_of_lineEnd h (.inl rfl), splitAtFirst?,
        after?_of_lineEnd h (.inr rfl), splitAtFirst?, after?_of_lineEnd h (.inr rfl), ih]
      cases splitAtFirst? mark t <;> rfl
    · have hafter := after?_crlf h.2 (c :: t)
      rw [crlf_cons hc] at hafter ⊢
      rw [splitAtFirst?, hafter, splitAtFirst?]
      cases after? mark (c :: t) with
      | some rest => rfl
      | none =>
        rw [ih]
        cases splitAtFirst? mark t with
        | none => rfl
        | some parts => simp [crlf_cons hc]

theorem splitAtLast?_crlf {c : Char} (hr : c ≠ '\r') (hn : c ≠ '\n') (t : Text) :
    splitAtLast? c (crlf t) = (splitAtLast? c t).map (Prod.map crlf crlf) := by
  induction t with
  | nil => rfl
  | cons d t ih =>
    by_cases hd : d = '\n'
    · subst hd
      rw [crlf_lineFeed, splitAtLast?, splitAtLast?, ih, splitAtLast?]
      cases splitAtLast? c t <;> simp [Ne.symm hr, Ne.symm hn]
    · rw [crlf_cons hd, splitAtLast?, ih, splitAtLast?]
      cases splitAtLast? c t with
      | some parts => simp [crlf_cons hd]
      | none => split <;> simp_all

theorem untilOnLine?_crlf {mark : Text} (h : IsMark mark) (t : Text) :
    untilOnLine? mark (crlf t) = (untilOnLine? mark t).map (Prod.map crlf crlf) := by
  induction t with
  | nil => rfl
  | cons c t ih =>
    by_cases hc : c = '\n'
    · subst hc
      rw [crlf_lineFeed, untilOnLine?, if_neg (by decide), after?_of_lineEnd h (.inr rfl),
        untilOnLine?, if_pos rfl, untilOnLine?, if_pos rfl]
      rfl
    · rw [crlf_cons hc, untilOnLine?, if_neg hc, after?_crlf h.2, untilOnLine?, if_neg hc]
      cases after? mark t with
      | some rest => simp [crlf_cons hc]
      | none =>
        rw [ih]
        cases untilOnLine? mark t with
        | none => rfl
        | some parts => simp [crlf_cons hc]

end WikiStubs.Text
