import WikiStubs.Proofs.Text.Trim
import WikiStubs.Resolve

/-!
# Which line forwards, and where to

A line forwards to a page when it is the opening of a redirect, a label, `](`, a target and a
closing parenthesis, with neither label nor target empty, and anything after that (`Shaped`). A
line can be read that way in several ways: the label that counts is the longest one, and then the
target is the longest one (`Longest`). Of several such lines of a page the first counts
(`Forwards`).

* `ofLine?_eq_some_iff`, `ofLine?_isSome_iff`: the reader of lines finds just that.
* `target?_eq_some_iff`, `target?_isSome_iff`: so does the reader of pages, which trims the target.
-/
namespace WikiStubs.Redirect

/-! ## Targets -/

theorem untilLastParen?_eq_some_iff {t target : Text} :
    untilLastParen? t = some target ↔
      target ≠ [] ∧ ∃ rest, t = target ++ ')' :: rest ∧ ')' ∉ rest := by
  unfold untilLastParen?
  constructor
  · intro h
    split at h
    · cases h
    · next before rest hne hsplit =>
      obtain rfl := Option.some.inj h
      exact ⟨hne, rest, Text.splitAtLast?_eq_some_iff.1 hsplit⟩
    · cases h
  · rintro ⟨hne, rest, rfl, hrest⟩
    rw [Text.splitAtLast?_append hrest]
    obtain ⟨c, t, rfl⟩ := List.exists_cons_of_ne_nil hne
    rfl

/-- A text with a closing parenthesis after its first character has a target. -/
theorem untilLastParen?_isSome {target : Text} (hne : target ≠ []) (rest : Text) :
    (untilLastParen? (target ++ ')' :: rest)).isSome := by
  obtain ⟨before, after, h⟩ := Text.exists_splitAtLast? (List.mem_append_right target
    (List.mem_cons_self (a := ')') (l := rest)))
  obtain ⟨heq, hafter⟩ := Text.splitAtLast?_eq_some_iff.1 h
  refine Option.isSome_iff_exists.2 ⟨before, untilLastParen?_eq_some_iff.2 ⟨?_, after, heq, hafter⟩⟩
  rintro rfl
  obtain ⟨c, target, rfl⟩ := List.exists_cons_of_ne_nil hne
  obtain ⟨-, rfl⟩ := List.cons.inj heq
  exact hafter (List.mem_append_right _ (List.mem_cons_self ..))

/-! ## Labels -/

/-- The text is a label, `](`, a target and a closing parenthesis, and anything after that. -/
structure Linked (text label target rest : Text) : Prop where
  eq : text = label ++ ("](" ++ (target ++ ')' :: rest))
  label : label ≠ []
  target : target ≠ []

theorem Linked.cons {t label target rest : Text} (h : Linked t label target rest) (c : Char) :
    Linked (c :: t) (c :: label) target rest :=
  ⟨by rw [h.eq, List.cons_append], List.cons_ne_nil _ _, h.target⟩

/-- The label is one character long, or the text after its first character is linked, too. -/
theorem Linked.of_cons {c : Char} {t label target rest : Text}
    (h : Linked (c :: t) label target rest) :
    label = [c] ∧ t = "](" ++ (target ++ ')' :: rest) ∨
      ∃ label', label = c :: label' ∧ Linked t label' target rest := by
  obtain ⟨heq, hlabel, htarget⟩ := h
  obtain ⟨d, label', rfl⟩ := List.exists_cons_of_ne_nil hlabel
  rw [List.cons_append] at heq
  obtain ⟨rfl, rfl⟩ := List.cons.inj heq
  by_cases hnil : label' = []
  · subst hnil; exact Or.inl ⟨rfl, rfl⟩
  · exact Or.inr ⟨label', rfl, rfl, hnil, htarget⟩

theorem afterOpening?_isSome {t label target rest : Text} (h : Linked t label target rest) :
    (afterOpening? t).isSome := by
  induction t generalizing label with
  | nil =>
    have hlabel := h.label
    simp [(List.append_eq_nil_iff.1 h.eq.symm).1] at hlabel
  | cons c t ih =>
    rw [afterOpening?]
    split
    · rfl
    · next hlater =>
      rcases h.of_cons with ⟨-, rfl⟩ | ⟨label', -, h'⟩
      · rw [Text.after?_append, Option.bind_some]
        exact untilLastParen?_isSome h.target rest
      · have hsome := ih h'
        rw [hlater] at hsome
        cases hsome

/-- The target is what the longest label leaves, up to the last closing parenthesis. -/
def Longest (text target : Text) : Prop :=
  ∃ label rest, Linked text label target rest ∧ ')' ∉ rest ∧
    ∀ label' target' rest', Linked text label' target' rest' → label'.length ≤ label.length

theorem longest_of_afterOpening? {t target : Text} (h : afterOpening? t = some target) :
    Longest t target := by
  induction t with
  | nil => cases h
  | cons c t ih =>
    rw [afterOpening?] at h
    split at h
    · next found hlater =>
      obtain rfl := Option.some.inj h
      obtain ⟨label, rest, hlinked, hrest, hmax⟩ := ih hlater
      refine ⟨c :: label, rest, hlinked.cons c, hrest, fun l g r hl => ?_⟩
      rcases hl.of_cons with ⟨rfl, -⟩ | ⟨l', rfl, hl'⟩
      · simp
      · simpa using hmax l' g r hl'
    · next hlater =>
      obtain ⟨u, hu, hparen⟩ := Option.bind_eq_some_iff.1 h
      obtain ⟨hne, rest, rfl, hrest⟩ := untilLastParen?_eq_some_iff.1 hparen
      obtain rfl := Text.after?_eq_some.1 hu
      refine ⟨[c], rest, ⟨rfl, List.cons_ne_nil _ _, hne⟩, hrest, fun l g r hl => ?_⟩
      rcases hl.of_cons with ⟨rfl, -⟩ | ⟨l', -, hl'⟩
      · exact Nat.le_refl _
      · have hsome := afterOpening?_isSome hl'
        rw [hlater] at hsome
        cases hsome

/-- There is one longest label, and one last closing parenthesis. -/
theorem Longest.unique {t target target' : Text} (h : Longest t target) (h' : Longest t target') :
    target = target' := by
  obtain ⟨label, rest, hlinked, hrest, hmax⟩ := h
  obtain ⟨label', rest', hlinked', hrest', hmax'⟩ := h'
  have hlen := Nat.le_antisymm (hmax' _ _ _ hlinked) (hmax _ _ _ hlinked')
  obtain ⟨-, heq⟩ := List.append_inj (hlinked.eq.symm.trans hlinked'.eq) hlen
  have heq := List.append_cancel_left heq
  have hsplit := Text.splitAtLast?_append hrest target
  rw [heq, Text.splitAtLast?_append hrest' target'] at hsplit
  exact (Prod.mk.inj (Option.some.inj hsplit)).1.symm

theorem afterOpening?_eq_some_iff {t target : Text} :
    afterOpening? t = some target ↔ Longest t target := by
  refine ⟨longest_of_afterOpening?, fun h => ?_⟩
  have hsome : (afterOpening? t).isSome := by
    obtain ⟨label, rest, hlinked, -⟩ := h
    exact afterOpening?_isSome hlinked
  obtain ⟨found, hfound⟩ := Option.isSome_iff_exists.1 hsome
  rw [hfound, h.unique (longest_of_afterOpening? hfound)]

/-! ## Lines -/

/-- The line can be read as a redirect. -/
def Shaped (line : Text) : Prop :=
  ∃ label target rest, line = opening ++ (label ++ ("](" ++ (target ++ ')' :: rest))) ∧
    label ≠ [] ∧ target ≠ []

theorem ofLine?_eq_some_iff {line target : Text} :
    ofLine? line = some target ↔ ∃ t, line = opening ++ t ∧ Longest t target := by
  rw [ofLine?, Option.bind_eq_some_iff]
  simp only [Text.after?_eq_some, afterOpening?_eq_some_iff]

theorem ofLine?_isSome_iff {line : Text} : (ofLine? line).isSome ↔ Shaped line := by
  constructor
  · intro h
    obtain ⟨target, h⟩ := Option.isSome_iff_exists.1 h
    obtain ⟨t, rfl, label, rest, hlinked, -⟩ := ofLine?_eq_some_iff.1 h
    exact ⟨label, target, rest, by rw [← hlinked.eq], hlinked.label, hlinked.target⟩
  · rintro ⟨label, target, rest, rfl, hlabel, htarget⟩
    rw [ofLine?, Text.after?_append, Option.bind_some]
    exact afterOpening?_isSome ⟨rfl, hlabel, htarget⟩

/-! ## Pages -/

/-- The lines of a page as a redirect is looked for in them: a carriage return stays. -/
def lines (page : Text) : List Text := page.rawLines.map (Text.dropFinal '\n')

/-- The first line of the page that can be read as a redirect forwards to the target. Blanks
around the target do not belong to it. -/
def Forwards (page target : Text) : Prop :=
  ∃ before t after written, lines page = before ++ (opening ++ t) :: after ∧
    (∀ l ∈ before, ¬ Shaped l) ∧ Longest t written ∧ target = written.trim

theorem target?_eq (page : Text) :
    target? page = ((lines page).findSome? ofLine?).map Text.trim := by
  rw [target?, lines, List.findSome?_map]
  rfl

theorem target?_eq_some_iff {page target : Text} :
    target? page = some target ↔ Forwards page target := by
  rw [target?_eq, Option.map_eq_some_iff]
  constructor
  · rintro ⟨written, h, rfl⟩
    obtain ⟨before, l, after, hlines, hl, hbefore⟩ := List.findSome?_eq_some_iff.1 h
    obtain ⟨t, rfl, ht⟩ := ofLine?_eq_some_iff.1 hl
    refine ⟨before, t, after, written, hlines, fun k hk hshaped => ?_, ht, rfl⟩
    rw [← ofLine?_isSome_iff, hbefore k hk] at hshaped
    cases hshaped
  · rintro ⟨before, t, after, written, hlines, hbefore, ht, rfl⟩
    refine ⟨written, List.findSome?_eq_some_iff.2 ⟨before, _, after, hlines,
      ofLine?_eq_some_iff.2 ⟨t, rfl, ht⟩, fun k hk => ?_⟩, rfl⟩
    by_contra hne
    exact hbefore k hk (ofLine?_isSome_iff.1 (Option.isSome_iff_ne_none.2 hne))

theorem target?_isSome_iff {page : Text} :
    (target? page).isSome ↔ ∃ l ∈ lines page, Shaped l := by
  rw [target?_eq, Option.isSome_map, List.findSome?_isSome_iff]
  simp only [ofLine?_isSome_iff]

theorem target?_eq_none_iff {page : Text} :
    target? page = none ↔ ∀ l ∈ lines page, ¬ Shaped l := by
  rw [← Option.not_isSome_iff_eq_none, target?_isSome_iff]
  simp only [not_exists, not_and]

end WikiStubs.Redirect
