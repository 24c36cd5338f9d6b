import WikiStubs.Text.Basic

/-!
# The lines of a text

`rawLines` cuts a text after every line feed. Here is what the readers of pages rely on: a text
that ends with a line feed and what follows it are cut apart (`rawLines_append`), and any run of
consecutive lines is cut into the same lines again (`Lined.middle`), so that a part of a page that
consists of whole lines can be read on its own. A line without its line end is part of the text
and has no line feed (`mem_of_mem_lines`).

`slice` is the part of a text between two byte offsets; `slice_append` finds the middle one of
three parts by its offset and size.
-/
namespace WikiStubs.Text

/-! ## Cutting -/

@[simp] theorem rawLines_nil : rawLines [] = [] := rfl

theorem rawLines_eq_nil {t : Text} : rawLines t = [] ↔ t = [] := by
  constructor
  · intro h; rw [← flatten_rawLines t, h]; rfl
  · intro e
    subst e
    rfl

theorem lines_eq_nil {t : Text} : lines t = [] ↔ t = [] := by
  rw [lines, List.map_eq_nil_iff, rawLines_eq_nil]

/-- A line that ends here. -/
theorem rawLines_lineFeed (t : Text) : rawLines ('\n' :: t) = ['\n'] :: rawLines t := by
  simp [rawLines]

/-- A character on the first line. -/
theorem rawLines_cons {c : Char} (hc : c ≠ '\n') (t : Text) :
    rawLines (c :: t) = (c :: (rawLines t).headD []) :: (rawLines t).tail := by
  simp only [rawLines, hc, if_false]
  cases rawLines t <;> rfl

theorem rawLines_append {s : Text} (h : s.getLast? = some '\n') (t : Text) :
    rawLines (s ++ t) = rawLines s ++ rawLines t := by
  induction s with
  | nil => cases h
  | cons c s ih =>
    by_cases hs : s = []
    · subst hs
      obtain rfl : c = '\n' := by simpa using h
      simp [rawLines_lineFeed]
    · have ih := ih (by rwa [List.getLast?_cons_of_ne_nil hs] at h)
      have hne : rawLines s ≠ [] := fun e => hs (rawLines_eq_nil.1 e)
      by_cases hc : c = '\n'
      · subst hc; simp [rawLines_lineFeed, ih]
      · obtain ⟨l, ls, hl⟩ := List.exists_cons_of_ne_nil hne
        rw [List.cons_append, rawLines_cons hc, rawLines_cons hc, ih, hl]; simp

/-- One line, with or without a line feed at its end. -/
theorem rawLines_single {l : Text} (hne : l ≠ []) (h : '\n' ∉ l.dropLast) : rawLines l = [l] := by
  induction l with
  | nil => exact absurd rfl hne
  | cons c l ih =>
    by_cases hl : l = []
    · subst hl; simp [rawLines]
    · rw [List.dropLast_cons_of_ne_nil hl, List.mem_cons, not_or] at h
      rw [rawLines_cons (Ne.symm h.1), ih hl h.2]; simp

theorem rawLines_line {l : Text} (h : '\n' ∉ l) (t : Text) :
    rawLines (l ++ '\n' :: t) = (l ++ ['\n']) :: rawLines t := by
  rw [show l ++ '\n' :: t = (l ++ ['\n']) ++ t by simp, rawLines_append (by simp),
    rawLines_single (by simp) (by simpa using h)]
  rfl

/-- Lines that are written one after the other, before more text. -/
theorem rawLines_flatMap {ls : List Text} (h : ∀ l ∈ ls, '\n' ∉ l) (t : Text) :
    rawLines (ls.flatMap (· ++ ['\n']) ++ t) = ls.map (· ++ ['\n']) ++ rawLines t := by
  induction ls with
  | nil => rfl
  | cons l ls ih =>
    rw [List.flatMap_cons, List.append_assoc, List.append_assoc, List.singleton_append,
      rawLines_line (h l (List.mem_cons_self ..)), ih fun k hk => h k (List.mem_cons_of_mem _ hk),
      List.map_cons, List.cons_append]

/-- A line has no line feed before its end. -/
theorem lineFeed_not_mem_dropLast {t l : Text} (h : l ∈ rawLines t) : '\n' ∉ l.dropLast := by
  induction t generalizing l with
  | nil => cases h
  | cons c t ih =>
    by_cases hc : c = '\n'
    · subst hc
      rw [rawLines_lineFeed] at h
      rcases List.mem_cons.1 h with rfl | h
      · exact List.not_mem_nil
      · exact ih h
    · rw [rawLines_cons hc] at h
      rcases List.mem_cons.1 h with rfl | h
      · cases hlines : rawLines t with
        | nil => exact List.not_mem_nil
        | cons k ks =>
          have hk := ih (hlines ▸ List.mem_cons_self ..)
          have hne : k ≠ [] := ne_nil_of_mem_rawLines (hlines ▸ List.mem_cons_self ..)
          rw [List.headD_cons, List.dropLast_cons_of_ne_nil hne, List.mem_cons, not_or]
          exact ⟨Ne.symm hc, hk⟩
      · exact ih (List.mem_of_mem_tail h)

/-- A line without its line end is part of the text and has no line feed. -/
theorem mem_of_mem_lines {t l : Text} (h : l ∈ lines t) : '\n' ∉ l ∧ ∀ c ∈ l, c ∈ t := by
  obtain ⟨k, hk, rfl⟩ := List.mem_map.1 h
  have hdrop := lineFeed_not_mem_dropLast hk
  have hsub : ∀ c ∈ k, c ∈ t := fun c hc => by
    rw [← flatten_rawLines t]
    exact List.mem_flatten_of_mem hk hc
  unfold dropLineEnd dropFinal
  split
  · split
    · exact ⟨fun hmem => hdrop ((List.dropLast_subset _) hmem), fun c hc =>
        hsub c ((List.dropLast_subset _) ((List.dropLast_subset _) hc))⟩
    · exact ⟨hdrop, fun c hc => hsub c ((List.dropLast_subset _) hc)⟩
  · next hlast =>
    refine ⟨fun hmem => ?_, hsub⟩
    have hne := ne_nil_of_mem_rawLines hk
    rw [← List.dropLast_concat_getLast hne, List.mem_append, List.mem_singleton] at hmem
    rcases hmem with hmem | hmem
    · exact hdrop hmem
    · exact hlast (by rw [List.getLast?_eq_some_getLast hne, ← hmem])

/-- Lines that differ from others at most by a line feed at their end, or are nothing but one. The
first line is kept apart, since a character before it changes no other line. -/
structure Ends (ks ls : List Text) : Prop where
  head : ls.headD [] = ks.headD [] ∨ ls.headD [] = ks.headD [] ++ ['\n']
  tail : ∀ l ∈ ls.tail, ∃ k, (k = [] ∨ k ∈ ks.tail) ∧ (l = k ∨ l = k ++ ['\n'])

theorem Ends.exists_of_mem {ks ls : List Text} (h : Ends ks ls) {l : Text} (hl : l ∈ ls) :
    ∃ k, (k = [] ∨ k ∈ ks) ∧ (l = k ∨ l = k ++ ['\n']) := by
  obtain ⟨l', ls, rfl⟩ := List.exists_cons_of_ne_nil (List.ne_nil_of_mem hl)
  rcases List.mem_cons.1 hl with rfl | hl
  · refine ⟨ks.headD [], ?_, h.head⟩
    cases ks with
    | nil => exact Or.inl rfl
    | cons k ks => exact Or.inr (List.mem_cons_self ..)
  · obtain ⟨k, hk, hlk⟩ := h.tail l hl
    exact ⟨k, hk.imp id List.mem_of_mem_tail, hlk⟩

/-- A line feed at the end of a text ends its last line, or is a line of its own. -/
theorem ends_append_lineFeed (s : Text) : Ends (rawLines s) (rawLines (s ++ ['\n'])) := by
  induction s with
  | nil => exact ⟨Or.inr rfl, by simp [rawLines_lineFeed]⟩
  | cons c s ih =>
    by_cases hc : c = '\n'
    · subst hc
      rw [List.cons_append, rawLines_lineFeed, rawLines_lineFeed]
      exact ⟨Or.inl rfl, fun l hl => ih.exists_of_mem hl⟩
    · rw [List.cons_append, rawLines_cons hc, rawLines_cons hc]
      exact ⟨ih.head.imp (congrArg (c :: ·)) (congrArg (c :: ·)), ih.tail⟩

/-! ## Consecutive lines -/

/-- Consecutive lines of some text. -/
def Lined (ls : List Text) : Prop := rawLines ls.flatten = ls

theorem lined_rawLines (t : Text) : Lined (rawLines t) := by rw [Lined, flatten_rawLines]

theorem rawLines_eq_cons {t l : Text} {ls : List Text} (h : rawLines t = l :: ls) :
    rawLines l = [l] ∧ Lined ls ∧ (ls ≠ [] → l.getLast? = some '\n') := by
  induction t generalizing l ls with
  | nil => cases h
  | cons c t ih =>
    by_cases hc : c = '\n'
    · subst hc
      rw [rawLines_lineFeed] at h
      obtain ⟨rfl, rfl⟩ := List.cons.inj h
      exact ⟨by simp [rawLines], lined_rawLines t, by simp⟩
    · rw [rawLines_cons hc] at h
      obtain ⟨rfl, rfl⟩ := List.cons.inj h
      cases ht : rawLines t with
      | nil => exact ⟨by simp [rawLines, hc], rfl, by simp⟩
      | cons k ks =>
        obtain ⟨h1, h2, h3⟩ := ih ht
        refine ⟨?_, h2, fun hne => ?_⟩
        · simp [rawLines_cons hc, h1]
        · have hk : k ≠ [] := by intro e; subst e; cases h1
          rw [List.headD_cons, List.getLast?_cons_of_ne_nil hk]
          exact h3 hne

namespace Lined

variable {l : Text} {ls ks : List Text}

theorem head (h : Lined (l :: ls)) : rawLines l = [l] := (rawLines_eq_cons h).1

theorem tail (h : Lined (l :: ls)) : Lined ls := (rawLines_eq_cons h).2.1

theorem ended (h : Lined (l :: ls)) (hne : ls ≠ []) : l.getLast? = some '\n' :=
  (rawLines_eq_cons h).2.2 hne

theorem right (h : Lined (ls ++ ks)) : Lined ks := by
  induction ls with
  | nil => exact h
  | cons l ls ih => exact ih h.tail

theorem left (h : Lined (ls ++ ks)) : Lined ls := by
  induction ls with
  | nil => rfl
  | cons l ls ih =>
    have hl := h.head
    by_cases hne : ls = []
    · subst hne; simpa [Lined] using hl
    · rw [Lined, List.flatten_cons, rawLines_append (h.ended (by simp [hne])), hl, ih h.tail]; rfl

theorem middle {pre post : List Text} (h : Lined (pre ++ ls ++ post)) : Lined ls :=
  h.left.right

theorem ne_nil (h : Lined ls) (hl : l ∈ ls) : l ≠ [] := ne_nil_of_mem_rawLines (h ▸ hl)

end Lined

/-! ## Parts by offset -/

theorem byteSize_pos {t : Text} (h : t ≠ []) : 0 < t.byteSize := by
  obtain ⟨c, t, rfl⟩ := List.exists_cons_of_ne_nil h
  have := c.utf8Size_pos
  simp only [byteSize_cons]; omega

def dropBytes : Nat → Text → Text
  | 0, t => t
  | _ + 1, [] => []
  | n + 1, c :: t => dropBytes (n + 1 - c.utf8Size) t

def takeBytes : Nat → Text → Text
  | 0, _ => []
  | _ + 1, [] => []
  | n + 1, c :: t => c :: takeBytes (n + 1 - c.utf8Size) t

/-- The text from one byte offset to another. -/
def slice (start stop : Nat) (t : Text) : Text := takeBytes (stop - start) (dropBytes start t)

theorem dropBytes_cons (n : Nat) (c : Char) (t : Text) :
    dropBytes (c.utf8Size + n) (c :: t) = dropBytes n t := by
  have := c.utf8Size_pos
  obtain ⟨k, hk⟩ : ∃ k, c.utf8Size + n = k + 1 := ⟨c.utf8Size + n - 1, by omega⟩
  rw [hk, dropBytes, ← hk, Nat.add_sub_cancel_left]

theorem takeBytes_cons (n : Nat) (c : Char) (t : Text) :
    takeBytes (c.utf8Size + n) (c :: t) = c :: takeBytes n t := by
  have := c.utf8Size_pos
  obtain ⟨k, hk⟩ : ∃ k, c.utf8Size + n = k + 1 := ⟨c.utf8Size + n - 1, by omega⟩
  rw [hk, takeBytes, ← hk, Nat.add_sub_cancel_left]

theorem dropBytes_append (s t : Text) : dropBytes s.byteSize (s ++ t) = t := by
  induction s with
  | nil => cases t <;> rfl
  | cons c s ih => rw [byteSize_cons, List.cons_append, dropBytes_cons, ih]

theorem takeBytes_append (s t : Text) : takeBytes s.byteSize (s ++ t) = s := by
  induction s with
  | nil => cases t <;> rfl
  | cons c s ih => rw [byteSize_cons, List.cons_append, takeBytes_cons, ih]

theorem slice_append (s t u : Text) :
    slice s.byteSize (s.byteSize + t.byteSize) (s ++ (t ++ u)) = t := by
  rw [slice, dropBytes_append, Nat.add_sub_cancel_left, takeBytes_append]

end WikiStubs.Text
