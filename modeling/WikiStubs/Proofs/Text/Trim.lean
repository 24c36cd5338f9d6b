import Mathlib.Data.List.Basic
import Mathlib.Data.List.Infix
import Mathlib.Data.List.TakeWhile
import WikiStubs.Proofs.Text.Lines

/-!
# Trimming, words and lists

What is left of a text when the characters around it are dropped: `trimBy_surround` drops what
was put around it, and `trimBy_of_none` has nothing to drop. A list that is written with a comma
and a space between its parts comes apart at the commas into parts with a space before them
(`splitOn_comma`), which no reader of parts looks at. Words that are joined have no blank left
(`isBlank_of_mem_joinWords`), and a text without blanks at its ends keeps its ends when its words
are joined (`head?_joinWords`, `getLast?_joinWords`). A search finds the first occurrence of a
mark, or there is none (`splitAtFirst?_eq_some_iff`, `splitAtFirst?_eq_none_iff`); one on the line
of its start also wants a character before the mark (`untilOnLine?_eq_some_iff`).
-/
namespace WikiStubs.Text

/-! ## Trimming -/

section
variable {p : Char → Bool} {a b t : Text}

theorem trimEndBy_append (hb : ∀ c ∈ b, p c = true) (t : Text) :
    trimEndBy p (t ++ b) = trimEndBy p t := by
  have hb : ∀ c ∈ b.reverse, p c = true := fun c hc => hb c (List.mem_reverse.1 hc)
  rw [trimEndBy, List.reverse_append, List.dropWhile_append_of_pos hb, trimEndBy]

theorem trimEndBy_of_getLast (h : ∀ c ∈ t.getLast?, p c = false) : trimEndBy p t = t := by
  rcases List.eq_nil_or_concat t with rfl | ⟨s, c, rfl⟩
  · rfl
  · have hc := h c (by simp)
    simp [trimEndBy, hc]

theorem trimBy_surround (ha : ∀ c ∈ a, p c = true) (hb : ∀ c ∈ b, p c = true) (t : Text) :
    trimBy p (a ++ t ++ b) = trimBy p t := by
  rw [trimBy, trimBy, List.append_assoc, List.dropWhile_append_of_pos ha, List.dropWhile_append]
  split
  · next h =>
    rw [List.isEmpty_iff.1 h, List.dropWhile_eq_nil_iff.2 hb]
  · exact trimEndBy_append hb _

/-- Only the ends of a text matter. -/
theorem trimBy_of_ends (hhead : ∀ c ∈ t.head?, p c = false)
    (hlast : ∀ c ∈ t.getLast?, p c = false) : trimBy p t = t := by
  have hdrop : t.dropWhile p = t := by
    cases t with
    | nil => rfl
    | cons c t => rw [List.dropWhile_cons_of_neg (by simp [hhead c rfl])]
  rw [trimBy, hdrop]
  exact trimEndBy_of_getLast hlast

theorem dropWhile_around (hne : t ≠ []) (hhead : ∀ c ∈ t.head?, p c = false) (a b : Text) :
    (a ++ t ++ b).dropWhile p = a.dropWhile p ++ t ++ b := by
  obtain ⟨c, s, rfl⟩ := List.exists_cons_of_ne_nil hne
  have hc : p c = false := hhead c rfl
  rw [List.append_assoc, List.dropWhile_append]
  split
  · next h => rw [List.isEmpty_iff.1 h]; simp [hc]
  · rw [List.append_assoc]

/-- Nothing is trimmed beyond a part whose ends are kept. -/
theorem trimBy_around (hne : t ≠ []) (hhead : ∀ c ∈ t.head?, p c = false)
    (hlast : ∀ c ∈ t.getLast?, p c = false) (a b : Text) :
    trimBy p (a ++ t ++ b) = a.dropWhile p ++ t ++ trimEndBy p b := by
  have hne' : t.reverse ≠ [] := List.reverse_ne_nil_iff.2 hne
  have hend := dropWhile_around hne' (by rwa [List.head?_reverse]) b.reverse (a.dropWhile p).reverse
  rw [trimBy, dropWhile_around hne hhead, trimEndBy, List.reverse_append, List.reverse_append,
    ← List.append_assoc, hend, trimEndBy]
  simp

theorem trimBy_of_none (h : ∀ c ∈ t, p c = false) : trimBy p t = t :=
  trimBy_of_ends (fun c hc => h c (List.mem_of_mem_head? hc))
    fun c hc => h c (List.mem_of_getLast? hc)

/-- A text that has nothing to trim has nothing to drop at either end. -/
theorem of_trimBy_eq (h : trimBy p t = t) : t.dropWhile p = t ∧ trimEndBy p t = t := by
  have hend : (trimEndBy p (t.dropWhile p)).length ≤ (t.dropWhile p).length := by
    simpa [trimEndBy] using (List.dropWhile_sublist (l := (t.dropWhile p).reverse) p).length_le
  have hdrop : t.dropWhile p = t := by
    refine (List.dropWhile_suffix p).eq_of_length_le ?_
    rw [trimBy] at h
    rwa [h] at hend
  exact ⟨hdrop, by rwa [trimBy, hdrop] at h⟩

/-- What is trimmed stands at the end. -/
theorem exists_eq_trimEndBy (p : Char → Bool) (t : Text) :
    ∃ b, (∀ c ∈ b, p c = true) ∧ t = trimEndBy p t ++ b := by
  refine ⟨(t.reverse.takeWhile p).reverse,
    fun c hc => List.mem_takeWhile_imp (List.mem_reverse.1 hc), ?_⟩
  rw [trimEndBy, ← List.reverse_append, List.takeWhile_append_dropWhile, List.reverse_reverse]

/-- A text is what is left of it, with what is dropped around it. -/
theorem exists_eq_trimBy (p : Char → Bool) (t : Text) :
    ∃ a b, (∀ c ∈ a, p c = true) ∧ (∀ c ∈ b, p c = true) ∧ t = a ++ trimBy p t ++ b := by
  obtain ⟨b, hb, hend⟩ := exists_eq_trimEndBy p (t.dropWhile p)
  refine ⟨t.takeWhile p, b, fun c hc => List.mem_takeWhile_imp hc, hb, ?_⟩
  rw [trimBy, List.append_assoc, ← hend, List.takeWhile_append_dropWhile]

/-- What is left starts with a character that is kept. -/
theorem of_head?_trimBy {c : Char} (h : c ∈ (trimBy p t).head?) : p c = false := by
  obtain ⟨b, -, hb⟩ := exists_eq_trimEndBy p (t.dropWhile p)
  obtain ⟨u, hu⟩ := List.head?_eq_some_iff.1 h
  have hhead := List.head?_dropWhile_not p t
  rw [hb, ← trimBy, hu, List.cons_append, List.head?_cons] at hhead
  exact hhead

/-- A character that is not dropped is left. -/
theorem mem_trimBy {c : Char} (hc : c ∈ t) (hp : p c = false) : c ∈ trimBy p t := by
  obtain ⟨a, b, ha, hb, ht⟩ := exists_eq_trimBy p t
  rw [ht, List.mem_append, List.mem_append] at hc
  rcases hc with (hc | hc) | hc
  · simp [ha c hc] at hp
  · exact hc
  · simp [hb c hc] at hp

theorem trimEndBy_eq_nil_iff : trimEndBy p t = [] ↔ ∀ c ∈ t, p c = true := by
  unfold trimEndBy
  rw [List.reverse_eq_nil_iff, List.dropWhile_eq_nil_iff]
  simp

/-- Nothing is left exactly if all is dropped. -/
theorem trimBy_eq_nil_iff : trimBy p t = [] ↔ ∀ c ∈ t, p c = true := by
  constructor
  · intro h c hc
    by_contra hkept
    exact List.ne_nil_of_mem (mem_trimBy hc (Bool.eq_false_iff.2 hkept)) h
  · intro h
    rw [trimBy, List.dropWhile_eq_nil_iff.2 h]
    rfl

theorem mem_of_mem_trimEndBy {c : Char} (h : c ∈ trimEndBy p t) : c ∈ t := by
  unfold trimEndBy at h
  rw [List.mem_reverse] at h
  exact List.mem_reverse.1 ((List.dropWhile_sublist p).subset h)

theorem mem_of_mem_trimBy {c : Char} (h : c ∈ trimBy p t) : c ∈ t :=
  (List.dropWhile_sublist p).subset (mem_of_mem_trimEndBy h)

/-- A text whose start has nothing to drop starts with a character that is kept. -/
theorem of_head? (h : t.dropWhile p = t) : ∀ c ∈ t.head?, p c = false := by
  intro c hc
  obtain ⟨s, rfl⟩ := List.head?_eq_some_iff.1 hc
  by_contra hpc
  rw [Bool.not_eq_false] at hpc
  have hlen := (List.dropWhile_sublist (l := s) p).length_le
  rw [List.dropWhile_cons_of_pos hpc] at h
  rw [h, List.length_cons] at hlen
  omega

/-- A text whose end has nothing to trim ends in a character that is kept. -/
theorem of_getLast (h : trimEndBy p t = t) : ∀ c ∈ t.getLast?, p c = false := by
  intro c hc
  obtain ⟨s, rfl⟩ := List.getLast?_eq_some_iff.1 hc
  by_contra hpc
  rw [Bool.not_eq_false] at hpc
  have hlen : (trimEndBy p s).length ≤ s.length := by
    simpa [trimEndBy] using (List.dropWhile_sublist (l := s.reverse) p).length_le
  rw [trimEndBy_append (by simpa using hpc)] at h
  rw [h, List.length_append, List.length_singleton] at hlen
  omega

end

/-! ## Words -/

theorem words_cons_of_blank {c : Char} (hc : isBlank c = true) (t : Text) :
    words (c :: t) = words t := by
  rw [words, List.splitOnP_cons_eq_if_modifyHead, if_pos hc, List.filter_cons_of_neg (by simp),
    words]

theorem joinWords_cons_of_blank {c : Char} (hc : isBlank c = true) (t : Text) :
    joinWords (c :: t) = joinWords t := by
  rw [joinWords, words_cons_of_blank hc, joinWords]

theorem joinWords_of_word {t : Text} (hne : t ≠ []) (h : ∀ c ∈ t, isBlank c = false) :
    joinWords t = t := by
  rw [joinWords, words, List.splitOnP_eq_singleton h, List.filter_cons_of_pos (by simpa using hne),
    List.filter_nil, List.intercalate_singleton]

theorem words_append_of_blank {blanks : Text} (h : ∀ c ∈ blanks, isBlank c = true) (t : Text) :
    words (blanks ++ t) = words t := by
  induction blanks with
  | nil => rfl
  | cons c blanks ih =>
    rw [List.cons_append, words_cons_of_blank (h c (List.mem_cons_self ..)),
      ih fun d hd => h d (List.mem_cons_of_mem _ hd)]

theorem words_of_blank {blanks : Text} (h : ∀ c ∈ blanks, isBlank c = true) :
    words blanks = [] := by
  rw [← List.append_nil blanks, words_append_of_blank h]
  rfl

/-- A word ends at a blank. -/
theorem words_append_cons {w : Text} (hne : w ≠ []) (h : ∀ c ∈ w, isBlank c = false) {c : Char}
    (hc : isBlank c = true) (t : Text) : words (w ++ c :: t) = w :: words t := by
  rw [words, List.splitOnP_append_cons_of_forall_mem h c hc, List.filter_cons_of_pos (by simpa),
    words]

/-- Blanks after a word do not count. -/
theorem words_append_blank {w : Text} (hne : w ≠ []) (h : ∀ c ∈ w, isBlank c = false)
    {blanks : Text} (hblanks : ∀ c ∈ blanks, isBlank c = true) : words (w ++ blanks) = [w] := by
  cases blanks with
  | nil =>
    rw [List.append_nil, words, List.splitOnP_eq_singleton h, List.filter_cons_of_pos (by simpa),
      List.filter_nil]
  | cons c blanks =>
    rw [List.forall_mem_cons] at hblanks
    rw [words_append_cons hne h hblanks.1, words_of_blank hblanks.2]

/-- The first word of a text that starts with no blank starts with its first character. -/
theorem exists_words_cons {c : Char} (hc : isBlank c = false) (t : Text) :
    ∃ w ws, words (c :: t) = (c :: w) :: ws := by
  obtain ⟨u, us, hsplit⟩ := List.exists_cons_of_ne_nil (List.splitOnP_ne_nil isBlank t)
  refine ⟨u, us.filter (· ≠ []), ?_⟩
  rw [words, List.splitOnP_cons_eq_if_modifyHead, if_neg (Bool.eq_false_iff.1 hc), hsplit,
    List.modifyHead_cons, List.filter_cons_of_pos (by simp)]

/-- A text without words is blank. -/
theorem joinWords_eq_nil_iff {t : Text} : joinWords t = [] ↔ ∀ c ∈ t, isBlank c = true := by
  induction t with
  | nil => exact ⟨fun _ => List.forall_mem_nil _, fun _ => rfl⟩
  | cons c t ih =>
    rw [List.forall_mem_cons]
    by_cases hc : isBlank c = true
    · rw [joinWords_cons_of_blank hc, ih, and_iff_right hc]
    · obtain ⟨w, ws, hwords⟩ := exists_words_cons (Bool.eq_false_iff.2 hc) t
      have hne : joinWords (c :: t) ≠ [] := by
        rw [joinWords, hwords]
        cases ws <;> simp
      exact ⟨fun h => absurd h hne, fun h => absurd h.1 hc⟩

/-- The last word of a text that ends with no blank ends with its last character. -/
theorem exists_words_concat {c : Char} (hc : isBlank c = false) (t : Text) :
    ∃ ws w, words (t ++ [c]) = ws ++ [w ++ [c]] := by
  have hsplit : ∃ us u, (t ++ [c]).splitOnP isBlank = us ++ [u ++ [c]] := by
    induction t with
    | nil => exact ⟨[], [], List.splitOnP_eq_singleton (List.forall_mem_singleton.2 hc)⟩
    | cons d t ih =>
      obtain ⟨us, u, hsplit⟩ := ih
      rw [List.cons_append, List.splitOnP_cons_eq_if_modifyHead, hsplit]
      split
      · exact ⟨[] :: us, u, rfl⟩
      · cases us with
        | nil => exact ⟨[], d :: u, rfl⟩
        | cons v us => exact ⟨(d :: v) :: us, u, rfl⟩
  obtain ⟨us, u, hsplit⟩ := hsplit
  exact ⟨us.filter (· ≠ []), u, by rw [words, hsplit]; simp⟩

/-- Joined words start as the text does. -/
theorem head?_joinWords {t : Text} (h : ∀ c ∈ t.head?, isBlank c = false) :
    (joinWords t).head? = t.head? := by
  cases t with
  | nil => rfl
  | cons c t =>
    obtain ⟨w, ws, hwords⟩ := exists_words_cons (h c rfl) t
    rw [joinWords, hwords]
    cases ws <;> simp

/-- A list ends as its last part does. -/
theorem getLast?_intercalate_concat {w : Text} (hw : w ≠ []) (sep : Text) (ws : List Text) :
    (List.intercalate sep (ws ++ [w])).getLast? = w.getLast? := by
  induction ws with
  | nil => rw [List.nil_append, List.intercalate_singleton]
  | cons v ws ih =>
    obtain ⟨u, us, hcons⟩ := List.exists_cons_of_ne_nil (List.concat_ne_nil w ws)
    rw [List.cons_append, hcons, List.intercalate_cons_cons, ← hcons, List.getLast?_append, ih,
      List.getLast?_eq_some_getLast hw, Option.some_or]

/-- Joined words end as the text does. -/
theorem getLast?_joinWords {t : Text} (h : ∀ c ∈ t.getLast?, isBlank c = false) :
    (joinWords t).getLast? = t.getLast? := by
  rcases List.eq_nil_or_concat t with rfl | ⟨t, c, rfl⟩
  · rfl
  · rw [List.concat_eq_append] at h ⊢
    obtain ⟨ws, w, hwords⟩ := exists_words_concat (h c (by simp)) t
    rw [joinWords, hwords, getLast?_intercalate_concat (by simp), List.getLast?_concat,
      List.getLast?_concat]
/-- Words that are written with a space between them. -/
theorem words_intercalate {ws : List Text} (h : ∀ w ∈ ws, w ≠ [] ∧ ∀ c ∈ w, isBlank c = false) :
    words (List.intercalate [' '] ws) = ws := by
  have hne : ∀ w ∈ ws, decide (w ≠ []) = true := fun w hw => decide_eq_true (h w hw).1
  cases ws with
  | nil => rfl
  | cons w ws =>
    have hsplit : (List.intercalate [' '] (w :: ws)).splitOnP isBlank = w :: ws := by
      induction ws generalizing w with
      | nil =>
        rw [List.intercalate_singleton,
          List.splitOnP_eq_singleton (h w (List.mem_cons_self ..)).2]
      | cons v ws ih =>
        rw [List.intercalate_cons_cons, List.append_assoc, List.singleton_append,
          List.splitOnP_append_cons_of_forall_mem (h w (List.mem_cons_self ..)).2 ' ' (by decide),
          ih v (fun u hu => h u (List.mem_cons_of_mem _ hu))
            fun u hu => hne u (List.mem_cons_of_mem _ hu)]
    rw [words, hsplit, List.filter_eq_self.2 hne]

theorem intercalate_ne_nil {ws : List Text} (hne : ws ≠ []) (h : ∀ w ∈ ws, w ≠ []) (sep : Text) :
    List.intercalate sep ws ≠ [] := by
  obtain ⟨w, ws, rfl⟩ := List.exists_cons_of_ne_nil hne
  have hw := h w (List.mem_cons_self ..)
  cases ws with
  | nil => rwa [List.intercalate_singleton]
  | cons v ws =>
    rw [List.intercalate_cons_cons, List.append_assoc]
    exact List.append_ne_nil_of_left_ne_nil hw _

/-- A list of words starts with a character of a word and ends with one. -/
theorem mem_ends_intercalate {sep : Text} {ws : List Text} (h : ∀ w ∈ ws, w ≠ []) {c : Char}
    (hc : c ∈ (List.intercalate sep ws).head? ∨ c ∈ (List.intercalate sep ws).getLast?) :
    ∃ w ∈ ws, c ∈ w := by
  induction ws with
  | nil => simp at hc
  | cons w ws ih =>
    cases ws with
    | nil =>
      rw [List.intercalate_singleton] at hc
      exact ⟨w, List.mem_cons_self .., hc.elim List.mem_of_mem_head? List.mem_of_getLast?⟩
    | cons v ws =>
      have hw := h w (List.mem_cons_self ..)
      have hv : List.intercalate sep (v :: ws) ≠ [] :=
        intercalate_ne_nil (List.cons_ne_nil v ws) (fun u hu => h u (List.mem_cons_of_mem _ hu)) sep
      rw [List.intercalate_cons_cons] at hc
      rcases hc with hc | hc
      · obtain ⟨d, u, rfl⟩ := List.exists_cons_of_ne_nil hw
        rw [List.cons_append, List.cons_append, List.head?_cons, Option.mem_some_iff] at hc
        exact ⟨d :: u, List.mem_cons_self .., hc ▸ List.mem_cons_self ..⟩
      · rw [List.getLast?_append_of_ne_nil _ hv] at hc
        obtain ⟨u, hu, hcu⟩ := ih (fun u hu => h u (List.mem_cons_of_mem _ hu)) (Or.inr hc)
        exact ⟨u, List.mem_cons_of_mem _ hu, hcu⟩

theorem map_intercalate {f : Char → Char} {sep : Text} {ws : List Text}
    (h : ∀ w ∈ ws, w.map f = w) :
    (List.intercalate sep ws).map f = List.intercalate (sep.map f) ws := by
  induction ws with
  | nil => rfl
  | cons w ws ih =>
    have hw := h w (List.mem_cons_self ..)
    cases ws with
    | nil => rw [List.intercalate_singleton, List.intercalate_singleton, hw]
    | cons v ws =>
      rw [List.intercalate_cons_cons, List.intercalate_cons_cons, List.map_append, List.map_append,
        hw, ih fun u hu => h u (List.mem_cons_of_mem _ hu)]

theorem mem_intercalate {c : Char} {sep : Text} {ts : List Text}
    (h : c ∈ List.intercalate sep ts) : c ∈ sep ∨ ∃ t ∈ ts, c ∈ t := by
  induction ts with
  | nil => cases h
  | cons t ts ih =>
    cases ts with
    | nil => exact Or.inr ⟨t, List.mem_cons_self .., by simpa using h⟩
    | cons u us =>
      rw [List.intercalate_cons_cons, List.mem_append, List.mem_append] at h
      rcases h with (h | h) | h
      · exact Or.inr ⟨t, List.mem_cons_self .., h⟩
      · exact Or.inl h
      · exact (ih h).imp id fun ⟨v, hv, hc⟩ => ⟨v, List.mem_cons_of_mem _ hv, hc⟩

/-- The pieces of a text that is cut at some characters have none of these. -/
theorem mem_splitOnP {p : Char → Bool} {c : Char} {t u : Text} (hu : u ∈ t.splitOnP p)
    (hc : c ∈ u) : p c = false ∧ c ∈ t := by
  induction t generalizing u with
  | nil =>
    rw [List.splitOnP_nil, List.mem_singleton] at hu
    subst hu
    cases hc
  | cons d t ih =>
    rw [List.splitOnP_cons_eq_if_modifyHead] at hu
    split at hu
    · rcases List.mem_cons.1 hu with rfl | hu
      · cases hc
      · exact (ih hu hc).imp id (List.mem_cons_of_mem _)
    · next hd =>
      obtain ⟨v, vs, hsplit⟩ := List.exists_cons_of_ne_nil (List.splitOnP_ne_nil p t)
      rw [hsplit, List.modifyHead_cons] at hu
      rcases List.mem_cons.1 hu with rfl | hu
      · rcases List.mem_cons.1 hc with rfl | hc
        · exact ⟨Bool.eq_false_iff.2 hd, List.mem_cons_self ..⟩
        · exact (ih (hsplit ▸ List.mem_cons_self ..) hc).imp id (List.mem_cons_of_mem _)
      · exact (ih (hsplit ▸ List.mem_cons_of_mem _ hu) hc).imp id (List.mem_cons_of_mem _)

theorem mem_splitOn {c d : Char} {t u : Text} (hu : u ∈ t.splitOn d) (hc : c ∈ u) :
    c ≠ d ∧ c ∈ t := by
  rw [List.splitOn_eq_splitOnP] at hu
  obtain ⟨hne, hmem⟩ := mem_splitOnP hu hc
  exact ⟨by simpa using hne, hmem⟩

theorem mem_joinWords {c : Char} {t : Text} (h : c ∈ joinWords t) :
    c = '_' ∨ isBlank c = false ∧ c ∈ t := by
  rcases mem_intercalate h with h | ⟨w, hw, hc⟩
  · exact Or.inl (List.mem_singleton.1 h)
  · exact Or.inr (mem_splitOnP (List.mem_filter.1 hw).1 hc)

theorem isBlank_of_mem_joinWords {c : Char} {t : Text} (h : c ∈ joinWords t) :
    isBlank c = false := by
  rcases mem_joinWords h with rfl | ⟨hc, -⟩
  · decide
  · exact hc

/-! ## Lists with commas -/

theorem splitOn_comma {t : Text} {ts : List Text} (h : ∀ u ∈ t :: ts, ',' ∉ u) :
    (List.intercalate [',', ' '] (t :: ts)).splitOn ',' = t :: ts.map (' ' :: ·) := by
  induction ts generalizing t with
  | nil =>
    rw [List.intercalate_singleton, List.splitOn_eq_singleton (h t (List.mem_cons_self ..)),
      List.map_nil]
  | cons u us ih =>
    have ht := h t (List.mem_cons_self ..)
    rw [List.intercalate_cons_cons, List.append_assoc, List.cons_append, List.cons_append,
      List.nil_append, List.splitOn_append_cons_self_of_not_mem ht,
      List.splitOn_cons_eq_if_modifyHead, if_neg (by decide),
      ih fun v hv => h v (List.mem_cons_of_mem _ hv)]
    rfl

/-- A reader of parts that does not look at a space before a part reads what was written. -/
theorem filterMap_splitOn_comma {α : Type} {read : Text → Option α}
    (hspace : ∀ u, read (' ' :: u) = read u) (hnil : read [] = none) {ts : List Text}
    (h : ∀ u ∈ ts, ',' ∉ u) :
    ((List.intercalate [',', ' '] ts).splitOn ',').filterMap read = ts.filterMap read := by
  cases ts with
  | nil => simp [hnil]
  | cons t ts =>
    rw [splitOn_comma h, List.filterMap_cons, List.filterMap_map, List.filterMap_cons]
    have : (read ∘ fun u => ' ' :: u) = read := funext hspace
    rw [this]

/-! ## Searching -/

/-- A text is cut at the first of its marks in one way only. -/
theorem append_cons_inj {c : Char} {a b s t : Text} (ha : c ∉ a) (hb : c ∉ b)
    (h : a ++ c :: s = b ++ c :: t) : a = b ∧ s = t := by
  have hcut := congrArg (List.splitOn c) h
  rw [List.splitOn_append_cons_self_of_not_mem ha, List.splitOn_append_cons_self_of_not_mem hb]
    at hcut
  have hab : a = b := (List.cons.inj hcut).1
  subst hab
  exact ⟨rfl, (List.cons.inj (List.append_cancel_left h)).2⟩

theorem intercalate_cons (c : Char) (p : Text) (ps : List Text) :
    List.intercalate [c] (p :: ps) = p ++ ps.flatMap (c :: ·) := by
  induction ps generalizing p with
  | nil => simp
  | cons q ps ih =>
    rw [List.intercalate_cons_cons, ih, List.flatMap_cons, List.append_assoc]
    rfl

/-- Pieces with a mark before each but the first are cut apart again. -/
theorem splitOn_flatMap {c : Char} {p : Text} {ps : List Text} (h : ∀ q ∈ p :: ps, c ∉ q) :
    (p ++ ps.flatMap (c :: ·)).splitOn c = p :: ps := by
  rw [← intercalate_cons, List.splitOn_intercalate c h (List.cons_ne_nil p ps)]

/-- The pieces of a text that is cut at a mark, each after the mark before it. -/
theorem exists_splitOn_eq (c : Char) (t : Text) : ∃ p ps, t.splitOn c = p :: ps ∧
    t = p ++ ps.flatMap (c :: ·) ∧ ∀ q ∈ p :: ps, c ∉ q := by
  obtain ⟨p, ps, hcut⟩ := List.exists_cons_of_ne_nil (List.splitOn_ne_nil c t)
  refine ⟨p, ps, hcut, ?_, ?_⟩
  · rw [← intercalate_cons, ← hcut, List.intercalate_splitOn]
  · intro q hq hc
    exact (mem_splitOn (hcut ▸ hq) hc).1 rfl

theorem after?_append (mark t : Text) : after? mark (mark ++ t) = some t := after?_eq_some.2 rfl

theorem splitAtLast?_eq_none {c : Char} {t : Text} (h : c ∉ t) : splitAtLast? c t = none := by
  induction t with
  | nil => rfl
  | cons d t ih =>
    rw [List.mem_cons, not_or] at h
    rw [splitAtLast?, ih h.2, if_neg (Ne.symm h.1)]

theorem splitAtLast?_append {c : Char} {t : Text} (h : c ∉ t) (s : Text) :
    splitAtLast? c (s ++ c :: t) = some (s, t) := by
  induction s with
  | nil => rw [List.nil_append, splitAtLast?, splitAtLast?_eq_none h, if_pos rfl]
  | cons d s ih => rw [List.cons_append, splitAtLast?, ih]

theorem exists_splitAtLast? {c : Char} {t : Text} (h : c ∈ t) :
    ∃ before rest, splitAtLast? c t = some (before, rest) := by
  induction t with
  | nil => cases h
  | cons d t ih =>
    by_cases ht : c ∈ t
    · obtain ⟨before, rest, hsplit⟩ := ih ht
      exact ⟨d :: before, rest, by rw [splitAtLast?, hsplit]⟩
    · obtain rfl : c = d := by simpa [ht] using h
      exact ⟨[], t, by rw [splitAtLast?, splitAtLast?_eq_none ht, if_pos rfl]⟩

theorem splitAtLast?_eq_some_iff {c : Char} {t before rest : Text} :
    splitAtLast? c t = some (before, rest) ↔ t = before ++ c :: rest ∧ c ∉ rest := by
  constructor
  · intro h
    induction t generalizing before rest with
    | nil => cases h
    | cons d t ih =>
      by_cases ht : c ∈ t
      · obtain ⟨b, r, hsplit⟩ := exists_splitAtLast? ht
        rw [splitAtLast?, hsplit] at h
        obtain ⟨rfl, rfl⟩ := Prod.mk.inj (Option.some.inj h)
        obtain ⟨rfl, hr⟩ := ih hsplit
        exact ⟨rfl, hr⟩
      · rw [splitAtLast?, splitAtLast?_eq_none ht] at h
        by_cases hd : d = c
        · rw [if_pos hd] at h
          obtain ⟨rfl, rfl⟩ := Prod.mk.inj (Option.some.inj h)
          exact ⟨by rw [hd, List.nil_append], ht⟩
        · simp [hd] at h
  · rintro ⟨rfl, h⟩
    exact splitAtLast?_append h before

theorem splitAtFirst?_eq_none {c : Char} {t : Text} (h : c ∉ t) :
    splitAtFirst? [c] t = none := by
  induction t with
  | nil => rfl
  | cons d t ih =>
    rw [List.mem_cons, not_or] at h
    have hno : after? [c] (d :: t) = none := by simp [after?, h.1]
    rw [splitAtFirst?, hno, ih h.2, Option.map_none]

theorem splitAtFirst?_append {c : Char} {s : Text} (h : c ∉ s) (t : Text) :
    splitAtFirst? [c] (s ++ c :: t) = some (s, t) := by
  induction s with
  | nil => rw [List.nil_append, splitAtFirst?]; simp [after?]
  | cons d s ih =>
    rw [List.mem_cons, not_or] at h
    have hno : after? [c] (d :: (s ++ c :: t)) = none := by simp [after?, h.1]
    rw [List.cons_append, splitAtFirst?, hno, ih h.2, Option.map_some]

/-- A character is found where it occurs first. -/
theorem splitAtFirst?_singleton_eq_some_iff {c : Char} {t before rest : Text} :
    splitAtFirst? [c] t = some (before, rest) ↔ t = before ++ c :: rest ∧ c ∉ before := by
  constructor
  · intro h
    by_cases hc : c ∈ t
    · obtain ⟨before', rest', rfl, hfirst⟩ := List.eq_append_cons_of_mem hc
      rw [splitAtFirst?_append hfirst] at h
      obtain ⟨rfl, rfl⟩ := Prod.mk.inj (Option.some.inj h)
      exact ⟨rfl, hfirst⟩
    · rw [splitAtFirst?_eq_none hc] at h
      cases h
  · intro h
    obtain ⟨rfl, hfirst⟩ := h
    exact splitAtFirst?_append hfirst rest

theorem eq_of_splitAtFirst? {mark t before rest : Text}
    (h : splitAtFirst? mark t = some (before, rest)) : t = before ++ mark ++ rest := by
  induction t generalizing before with
  | nil =>
    rw [splitAtFirst?] at h
    split at h
    · next hmark =>
      cases h
      rw [hmark]
      rfl
    · cases h
  | cons c t ih =>
    rw [splitAtFirst?] at h
    split at h
    · next hafter =>
      cases h
      exact after?_eq_some.1 hafter
    · obtain ⟨⟨before', rest'⟩, hsplit, heq⟩ := Option.map_eq_some_iff.1 h
      cases heq
      rw [ih hsplit]
      rfl

/-- The text is cut around its first occurrence of a mark. -/
structure IsFirstCut (mark t before rest : Text) : Prop where
  eq : t = before ++ mark ++ rest
  first : ∀ before' rest', t = before' ++ mark ++ rest' → before.length ≤ before'.length

section
variable {mark t before rest : Text}

theorem isSome_splitAtFirst? (h : mark <:+: t) : (splitAtFirst? mark t).isSome = true := by
  induction t with
  | nil => rw [splitAtFirst?, if_pos (List.infix_nil.1 h), Option.isSome_some]
  | cons c t ih =>
    rw [splitAtFirst?]
    split
    · rfl
    · next hafter =>
      rw [Option.isSome_map]
      refine ih ((List.infix_cons_iff.1 h).resolve_left fun ⟨u, hu⟩ => ?_)
      rw [after?_eq_some.2 hu.symm] at hafter
      cases hafter

theorem splitAtFirst?_eq_none_iff : splitAtFirst? mark t = none ↔ ¬ mark <:+: t := by
  rw [← Option.not_isSome_iff_eq_none, not_iff_not]
  refine ⟨fun h => ?_, isSome_splitAtFirst?⟩
  obtain ⟨⟨before, rest⟩, hcut⟩ := Option.isSome_iff_exists.1 h
  exact ⟨before, rest, (eq_of_splitAtFirst? hcut).symm⟩

theorem length_le_of_splitAtFirst? (h : splitAtFirst? mark t = some (before, rest))
    {before' rest' : Text} (ht : t = before' ++ mark ++ rest') :
    before.length ≤ before'.length := by
  induction t generalizing before before' with
  | nil =>
    rw [splitAtFirst?] at h
    split at h
    · cases h
      exact Nat.zero_le _
    · cases h
  | cons c t ih =>
    rw [splitAtFirst?] at h
    split at h
    · cases h
      exact Nat.zero_le _
    · next hafter =>
      obtain ⟨⟨before₁, rest₁⟩, hcut, heq⟩ := Option.map_eq_some_iff.1 h
      cases heq
      cases before' with
      | nil =>
        rw [List.nil_append] at ht
        rw [after?_eq_some.2 ht] at hafter
        cases hafter
      | cons d before' =>
        rw [List.cons_append, List.cons_append, List.cons.injEq] at ht
        rw [List.length_cons, List.length_cons]
        exact Nat.succ_le_succ (ih hcut ht.2)

theorem splitAtFirst?_eq_some_iff :
    splitAtFirst? mark t = some (before, rest) ↔ IsFirstCut mark t before rest := by
  refine ⟨fun h => ⟨eq_of_splitAtFirst? h, fun _ _ => length_le_of_splitAtFirst? h⟩, fun h => ?_⟩
  obtain ⟨⟨before', rest'⟩, hcut⟩ :=
    Option.isSome_iff_exists.1 (isSome_splitAtFirst? ⟨before, rest, h.eq.symm⟩)
  have hlength := Nat.le_antisymm (length_le_of_splitAtFirst? hcut h.eq)
    (h.first _ _ (eq_of_splitAtFirst? hcut))
  have heq := (eq_of_splitAtFirst? hcut).symm.trans h.eq
  rw [List.append_assoc, List.append_assoc] at heq
  obtain ⟨rfl, hrest⟩ := List.append_inj heq hlength
  rw [hcut, List.append_cancel_left hrest]

/-- The part before a mark ends at the mark, and no mark in it ends it earlier. -/
theorem untilOnLine?_eq_some_iff (hmark : mark ≠ []) :
    untilOnLine? mark t = some (before, rest) ↔ t = before ++ mark ++ rest ∧ before ≠ [] ∧
      '\n' ∉ before ∧ ¬ mark <:+: before.tail ++ mark.dropLast := by
  constructor
  · intro h
    induction t generalizing before with
    | nil => cases h
    | cons c cs ih =>
      rw [untilOnLine?] at h
      split at h
      · cases h
      · next hc =>
        split at h
        · next hafter =>
          cases h
          refine ⟨by rw [after?_eq_some.1 hafter]; rfl, List.cons_ne_nil c [], by simp [Ne.symm hc],
            fun hin => ?_⟩
          have hlen := hin.length_le
          have hpos := List.length_pos_iff.2 hmark
          simp only [List.tail_cons, List.nil_append, List.length_dropLast] at hlen
          omega
        · next hafter =>
          obtain ⟨⟨before', rest'⟩, hcut, heq⟩ := Option.map_eq_some_iff.1 h
          cases heq
          obtain ⟨hcs, hne, hline, hfirst⟩ := ih hcut
          refine ⟨by rw [hcs]; rfl, List.cons_ne_nil c _, by simp [Ne.symm hc, hline],
            fun hin => ?_⟩
          obtain ⟨d, ds, rfl⟩ := List.exists_cons_of_ne_nil hne
          rw [List.tail_cons, List.cons_append, List.infix_cons_iff] at hin
          refine hin.elim (fun hpre => ?_) hfirst
          have hwhole : d :: (ds ++ mark.dropLast) <+: cs := by
            rw [hcs]
            exact ((List.prefix_append_right_inj (d :: ds)).2 (List.dropLast_prefix mark)).trans
              (List.prefix_append _ _)
          obtain ⟨u, hu⟩ := hpre.trans hwhole
          rw [after?_eq_some.2 hu.symm] at hafter
          cases hafter
  · rintro ⟨rfl, hne, hline, hfirst⟩
    induction before with
    | nil => exact absurd rfl hne
    | cons c bs ih =>
      rw [List.mem_cons, not_or] at hline
      rw [List.cons_append, List.cons_append, untilOnLine?, if_neg (Ne.symm hline.1)]
      cases bs with
      | nil => rw [List.nil_append, after?_append]
      | cons d ds =>
        rw [List.tail_cons, List.cons_append, List.infix_cons_iff, not_or] at hfirst
        have hafter : after? mark (d :: ds ++ mark ++ rest) = none := by
          rw [Option.eq_none_iff_forall_ne_some]
          intro u hu
          refine hfirst.1 (List.prefix_of_prefix_length_le ⟨u, (after?_eq_some.1 hu).symm⟩
            (?_ : d :: (ds ++ mark.dropLast) <+: d :: ds ++ mark ++ rest) ?_)
          · exact ((List.prefix_append_right_inj (d :: ds)).2 (List.dropLast_prefix mark)).trans
              (List.prefix_append _ _)
          · simp only [List.length_cons, List.length_append, List.length_dropLast]
            omega
        rw [hafter, ih (List.cons_ne_nil d ds) hline.2 hfirst.2]
        rfl

/-- A mark is found if there is one at all on the line. -/
theorem untilOnLine?_isSome (hne : before ≠ []) (hline : '\n' ∉ before) :
    (untilOnLine? mark (before ++ mark ++ rest)).isSome = true := by
  induction before with
  | nil => exact absurd rfl hne
  | cons c bs ih =>
    rw [List.mem_cons, not_or] at hline
    rw [List.cons_append, List.cons_append, untilOnLine?, if_neg (Ne.symm hline.1)]
    split
    · rfl
    · next hafter =>
      rw [Option.isSome_map]
      refine ih ?_ hline.2
      rintro rfl
      rw [List.nil_append, after?_append] at hafter
      cases hafter

theorem startsWith_iff : startsWith mark t = true ↔ mark <+: t := by
  rw [startsWith, Option.isSome_iff_exists]
  constructor
  · rintro ⟨rest, hrest⟩
    exact ⟨rest, (after?_eq_some.1 hrest).symm⟩
  · rintro ⟨rest, hrest⟩
    exact ⟨rest, after?_eq_some.2 hrest.symm⟩

end

end WikiStubs.Text
