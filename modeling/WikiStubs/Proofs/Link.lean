import Mathlib.Data.List.Infix
import WikiStubs.Link
import WikiStubs.Proofs.Text.Trim

/-!
# Reading and rewriting links

What a bracket begins is a link exactly if a link stands there as it is written
(`Link.after?_eq_some_iff`). Which links can be read is a property of the link alone
(`Link.WellFormed`), so what follows a link on the page does not matter. The label of a link may
hold opening brackets: of several brackets the first one begins the link.

Rewriting replaces each link and leaves the text between them (`Link.rewrite_written`,
`Link.rewrite_append_of_not_mem`). A link is read on one line, so the lines of a text are rewritten
on their own (`Link.rewrite_append_lineFeed`).
-/
namespace WikiStubs

/-- The marks between the label of a link and its target. -/
def linkMiddle : Text := [']', '(']

theorem not_infix_tail {mark t : Text} {c : Char} (h : ¬ mark <:+: c :: t) : ¬ mark <:+: t :=
  fun hin => h (List.infix_cons_iff.2 (Or.inr hin))

/-- The bracket that ends a label makes no middle with it. -/
theorem linkMiddle_infix_concat {t : Text} : linkMiddle <:+: t ++ [']'] ↔ linkMiddle <:+: t := by
  rw [List.infix_concat_iff, or_iff_right]
  rintro ⟨s, hs⟩
  have hlast := congrArg List.getLast? hs
  simp [linkMiddle] at hlast

namespace Link

/-- The link as it stands in a text. -/
def written (l : Link) : Text := '[' :: l.label ++ [']', '('] ++ l.target ++ [')']

/-- A link that is read as it is written: both parts are nonempty and on one line, and each ends
where its mark stands for the first time after its first character. -/
structure WellFormed (l : Link) : Prop where
  label_ne_nil : l.label ≠ []
  label_oneLine : '\n' ∉ l.label
  label_first : ¬ linkMiddle <:+: l.label.tail
  target_ne_nil : l.target ≠ []
  target_oneLine : '\n' ∉ l.target
  target_first : ')' ∉ l.target.tail

variable {l : Link} {t s rest : Text}

/-! ## Reading -/

theorem label_cut_iff {label : Text} : Text.untilOnLine? "](" t = some (label, rest) ↔
    t = label ++ linkMiddle ++ rest ∧ label ≠ [] ∧ '\n' ∉ label ∧ ¬ linkMiddle <:+: label.tail := by
  have hcut : Text.untilOnLine? linkMiddle t = some (label, rest) ↔ _ :=
    Text.untilOnLine?_eq_some_iff (List.cons_ne_nil _ _)
  have hlast : linkMiddle.dropLast = [']'] := rfl
  rw [hlast, linkMiddle_infix_concat] at hcut
  exact hcut

theorem target_cut_iff {target : Text} : Text.untilOnLine? ")" t = some (target, rest) ↔
    t = target ++ [')'] ++ rest ∧ target ≠ [] ∧ '\n' ∉ target ∧ ')' ∉ target.tail := by
  have hcut : Text.untilOnLine? [')'] t = some (target, rest) ↔ _ :=
    Text.untilOnLine?_eq_some_iff (List.cons_ne_nil _ _)
  rw [List.dropLast_singleton, List.append_nil, List.singleton_infix_iff] at hcut
  exact hcut

/-- What a bracket begins is a link exactly if it is the link as it is written. -/
theorem after?_eq_some_iff : after? t = some (l, rest) ↔
    l.WellFormed ∧ '[' :: t = l.written ++ rest := by
  have hwritten : '[' :: t = l.written ++ rest ↔
      t = l.label ++ linkMiddle ++ (l.target ++ [')'] ++ rest) := by
    simp [written, linkMiddle]
  rw [hwritten]
  unfold after?
  constructor
  · intro h
    split at h
    · cases h
    · next hlabel =>
      split at h
      · cases h
      · next htarget =>
        cases h
        obtain ⟨rfl, h1, h2, h3⟩ := label_cut_iff.1 hlabel
        obtain ⟨rfl, h4, h5, h6⟩ := target_cut_iff.1 htarget
        exact ⟨⟨h1, h2, h3, h4, h5, h6⟩, rfl⟩
  · rintro ⟨⟨h1, h2, h3, h4, h5, h6⟩, rfl⟩
    rw [label_cut_iff.2 ⟨rfl, h1, h2, h3⟩]
    simp only [target_cut_iff.2 ⟨rfl, h4, h5, h6⟩]

/-- The label ends at marks that follow on the line, or before. -/
theorem exists_label_cut {label : Text} (hne : label ≠ []) (hline : '\n' ∉ label) (u : Text) :
    ∃ label' v, '\n' ∉ v ∧
      Text.untilOnLine? "](" (label ++ linkMiddle ++ u) = some (label', v ++ u) := by
  induction label with
  | nil => exact absurd rfl hne
  | cons c label ih =>
    rw [List.mem_cons, not_or] at hline
    rw [List.cons_append, List.cons_append, Text.untilOnLine?, if_neg (Ne.symm hline.1)]
    split
    · next rest hafter =>
      have heq : label ++ linkMiddle ++ u = linkMiddle ++ rest := Text.after?_eq_some.1 hafter
      rcases label with _ | ⟨d, _ | ⟨e, label⟩⟩
      · rw [List.nil_append] at heq
        exact ⟨[c], [], List.not_mem_nil, by rw [List.append_cancel_left heq, List.nil_append]⟩
      · simp [linkMiddle] at heq
      · have hrest : rest = label ++ linkMiddle ++ u := by
          simp [linkMiddle] at heq ⊢
          exact heq.2.2.symm
        refine ⟨[c], label ++ linkMiddle, fun hmem => ?_, by rw [hrest]⟩
        rcases List.mem_append.1 hmem with hmem | hmem
        · exact hline.2 (List.mem_cons_of_mem _ (List.mem_cons_of_mem _ hmem))
        · exact absurd hmem (by decide)
    · next hafter =>
      have hlabel : label ≠ [] := by
        rintro rfl
        exact absurd ((Text.after?_append linkMiddle u).symm.trans hafter) (by simp)
      obtain ⟨label', v, hv, hcut⟩ := ih hlabel hline.2
      exact ⟨c :: label', v, hv, by rw [hcut, Option.map_some]⟩

/-- There is a link if the marks of one follow on the line. -/
theorem after?_isSome_iff : (after? t).isSome = true ↔ ∃ label target rest, label ≠ [] ∧
    '\n' ∉ label ∧ target ≠ [] ∧ '\n' ∉ target ∧
      t = label ++ linkMiddle ++ (target ++ [')'] ++ rest) := by
  constructor
  · intro h
    obtain ⟨⟨l, rest⟩, hlink⟩ := Option.isSome_iff_exists.1 h
    obtain ⟨hl, ht⟩ := after?_eq_some_iff.1 hlink
    refine ⟨l.label, l.target, rest, hl.label_ne_nil, hl.label_oneLine, hl.target_ne_nil,
      hl.target_oneLine, ?_⟩
    simpa [written, linkMiddle] using ht
  · rintro ⟨label, target, rest, hlabel, hline, htarget, hline', rfl⟩
    obtain ⟨label', v, hv, hcut⟩ := exists_label_cut hlabel hline (target ++ [')'] ++ rest)
    have hend : (Text.untilOnLine? ")" (v ++ target ++ [')'] ++ rest)).isSome = true :=
      Text.untilOnLine?_isSome (List.append_ne_nil_of_right_ne_nil v htarget) (by simp [hv, hline'])
    rw [List.append_assoc, List.append_assoc, ← List.append_assoc target] at hend
    obtain ⟨⟨target', rest'⟩, htarget'⟩ := Option.isSome_iff_exists.1 hend
    unfold after?
    rw [hcut]
    simp only [htarget', Option.isSome_some]

theorem after?_eq_none (h : ¬ linkMiddle <:+: t) : after? t = none := by
  rw [Option.eq_none_iff_forall_ne_some]
  rintro ⟨l, rest⟩ hlink
  refine h ⟨l.label, l.target ++ [')'] ++ rest, ?_⟩
  rw [eq_of_after? hlink]
  simp [linkMiddle]

/-! ## Rewriting -/

theorem kept_of_external (h : l.isExternal = true) : l.kept = l.written := if_pos h

theorem kept_of_internal (h : l.isExternal = false) : l.kept = "`" ++ l.label ++ "`" :=
  if_neg (Bool.eq_false_iff.1 h)

theorem rewrite_cons_of_ne {c : Char} (h : c ≠ '[') (t : Text) :
    rewrite (c :: t) = c :: rewrite t := by
  rw [rewrite, if_neg h]

theorem rewrite_of_after? (h : after? t = some (l, rest)) :
    rewrite ('[' :: t) = l.kept ++ rewrite rest := by
  rw [rewrite, if_pos rfl]
  split
  · next h' => cases h.symm.trans h'; rfl
  · next h' => cases h.symm.trans h'

theorem rewrite_of_no_link (h : after? t = none) :
    rewrite ('[' :: t) = '[' :: rewrite t := by
  rw [rewrite, if_pos rfl]
  split
  · next h' => cases h.symm.trans h'
  · rfl

theorem rewrite_append_of_not_mem (h : '[' ∉ t) (s : Text) : rewrite (t ++ s) = t ++ rewrite s := by
  induction t with
  | nil => rfl
  | cons c t ih =>
    rw [List.mem_cons, not_or] at h
    rw [List.cons_append, rewrite_cons_of_ne (Ne.symm h.1), ih h.2, List.cons_append]

theorem rewrite_written (hl : l.WellFormed) (s : Text) :
    rewrite (l.written ++ s) = l.kept ++ rewrite s :=
  rewrite_of_after? (after?_eq_some_iff.2 ⟨hl, rfl⟩)

/-- A text without a link stays as it is. -/
theorem rewrite_of_none (h : ¬ linkMiddle <:+: t) : rewrite t = t := by
  induction t with
  | nil => rw [rewrite]
  | cons c t ih =>
    have ht := not_infix_tail h
    by_cases hc : c = '['
    · rw [hc, rewrite_of_no_link (after?_eq_none ht), ih ht]
    · rw [rewrite_cons_of_ne hc, ih ht]

/-! ## Characters -/

theorem mem_written_of_mem_kept {c : Char} {l : Link} (h : c ∈ l.kept) :
    c = '\x60' ∨ c ∈ l.written := by
  unfold kept at h
  split at h
  · exact Or.inr h
  · rcases List.mem_append.1 h with h | h
    · rcases List.mem_append.1 h with h | h
      · exact Or.inl (List.mem_singleton.1 h)
      · refine Or.inr (List.mem_append_left _ (List.mem_append_left _ (List.mem_append_left _ ?_)))
        exact List.mem_cons_of_mem _ h
    · exact Or.inl (List.mem_singleton.1 h)

/-- Rewriting the links of a text brings backticks into it and no other characters. -/
theorem mem_rewrite {c : Char} {t : Text} (h : c ∈ rewrite t) : c = '\x60' ∨ c ∈ t := by
  fun_induction rewrite t with
  | case1 => cases h
  | case2 t l rest hlink ih =>
    rw [(after?_eq_some_iff.1 hlink).2, List.mem_append]
    rcases List.mem_append.1 h with h | h
    · exact (mem_written_of_mem_kept h).imp id Or.inl
    · exact (ih h).imp id Or.inr
  | case3 t hlink ih =>
    rcases List.mem_cons.1 h with rfl | h
    · exact Or.inr (List.mem_cons_self ..)
    · exact (ih h).imp id (List.mem_cons_of_mem _)
  | case4 d t hd ih =>
    rcases List.mem_cons.1 h with rfl | h
    · exact Or.inr (List.mem_cons_self ..)
    · exact (ih h).imp id (List.mem_cons_of_mem _)

theorem exists_mem_kept {p : Char → Bool} (htick : p '\x60' = true) (hbracket : p '[' = true)
    (l : Link) : ∃ c ∈ l.kept, p c = true := by
  unfold kept
  split
  · exact ⟨'[', by simp, hbracket⟩
  · exact ⟨'\x60', by simp, htick⟩

/-- If backticks and brackets are of a kind, rewriting neither takes all characters of that kind
out of a text nor brings the first one in. -/
theorem exists_mem_rewrite_iff {p : Char → Bool} (htick : p '\x60' = true)
    (hbracket : p '[' = true) : (∃ c ∈ rewrite t, p c = true) ↔ ∃ c ∈ t, p c = true := by
  fun_induction rewrite t with
  | case1 => exact Iff.rfl
  | case2 t l rest hlink ih =>
    have hkept := exists_mem_kept htick hbracket l
    simp only [List.mem_append, or_and_right, exists_or, hkept, true_or, List.mem_cons,
      exists_eq_left, hbracket]
  | case3 t hlink ih => simp only [List.mem_cons, or_and_right, exists_or, ih]
  | case4 c t hc ih => simp only [List.mem_cons, or_and_right, exists_or, ih]

/-! ## Lines -/

/-- A link is read on its line, whatever the next lines are. -/
theorem after?_append_lineFeed (a b : Text) :
    after? (a ++ '\n' :: b) = (after? a).map fun (l, rest) => (l, rest ++ '\n' :: b) := by
  cases hlink : after? a with
  | some found =>
    obtain ⟨l, rest⟩ := found
    obtain ⟨hl, ha⟩ := after?_eq_some_iff.1 hlink
    refine after?_eq_some_iff.2 ⟨hl, ?_⟩
    rw [← List.append_assoc, ← ha, List.cons_append]
  | none =>
    rw [Option.map_none, ← Option.not_isSome_iff_eq_none, after?_isSome_iff]
    rintro ⟨label, target, rest, hlabel, hline, htarget, hline', heq⟩
    have hlink' : (after? a).isSome = true := by
      rw [← List.append_assoc, ← List.append_assoc] at heq
      rcases List.append_eq_append_iff.1 heq with ⟨u, hu, hrest⟩ | ⟨u, hu, hrest⟩
      · cases u with
        | nil =>
          exact after?_isSome_iff.2 ⟨label, target, [], hlabel, hline, htarget, hline', by
            rw [← List.append_assoc, ← List.append_assoc, hu, List.append_nil, List.append_nil]⟩
        | cons c u =>
          -- the link would have a line feed in it
          obtain ⟨rfl, -⟩ := List.cons.inj hrest
          have hmem : '\n' ∈ label ++ linkMiddle ++ target ++ [')'] :=
            hu ▸ List.mem_append_right a (List.mem_cons_self ..)
          simp [linkMiddle, hline, hline'] at hmem
      · exact after?_isSome_iff.2 ⟨label, target, u, hlabel, hline, htarget, hline', by
          rw [hu]
          simp only [List.append_assoc]⟩
    rw [hlink] at hlink'
    cases hlink'

/-- The lines before a line feed and after it are rewritten on their own. -/
theorem rewrite_append_lineFeed (a b : Text) :
    rewrite (a ++ '\n' :: b) = rewrite a ++ '\n' :: rewrite b := by
  fun_induction rewrite a with
  | case1 => exact rewrite_cons_of_ne (by decide) b
  | case2 a l rest hlink ih =>
    have hlink' := after?_append_lineFeed a b
    rw [hlink, Option.map_some] at hlink'
    rw [List.cons_append, rewrite_of_after? hlink', ih, List.append_assoc]
  | case3 a hlink ih =>
    have hlink' := after?_append_lineFeed a b
    rw [hlink, Option.map_none] at hlink'
    rw [List.cons_append, rewrite_of_no_link hlink', ih, List.cons_append]
  | case4 c a hc ih => rw [List.cons_append, rewrite_cons_of_ne hc, ih, List.cons_append]

/-- A line without a link stays as it is. -/
theorem rewrite_of_after?_eq_none (hline : '\n' ∉ t) (h : after? t = none) : rewrite t = t := by
  induction t with
  | nil => rw [rewrite]
  | cons c t ih =>
    rw [List.mem_cons, not_or] at hline
    have ht : after? t = none := by
      rw [← Option.not_isSome_iff_eq_none, after?_isSome_iff] at h ⊢
      rintro ⟨label, target, rest, -, hlabel, htarget, hline', rfl⟩
      exact h ⟨c :: label, target, rest, List.cons_ne_nil c label, by simp [hline.1, hlabel],
        htarget, hline', rfl⟩
    by_cases hc : c = '['
    · rw [hc, rewrite_of_no_link ht, ih hline.2 ht]
    · rw [rewrite_cons_of_ne hc, ih hline.2 ht]

/-- Rewriting makes no link on a line that has none. -/
theorem after?_rewrite_eq_none (h : after? t = none) : after? (rewrite t) = none := by
  by_cases hline : '\n' ∈ t
  · obtain ⟨a, b, rfl, ha⟩ := List.eq_append_cons_of_mem hline
    rw [after?_append_lineFeed, Option.map_eq_none_iff] at h
    rw [rewrite_append_lineFeed, rewrite_of_after?_eq_none ha h, after?_append_lineFeed, h,
      Option.map_none]
  · rwa [rewrite_of_after?_eq_none hline h]

end Link
end WikiStubs
