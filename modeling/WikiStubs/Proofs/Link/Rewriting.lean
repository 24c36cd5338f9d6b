import WikiStubs.Proofs.Link
import WikiStubs.Proofs.Text.Edges
import WikiStubs.Record

/-!
# What rewriting leaves of links

A text is rewritten from left to right: `links` are the links that are found on the way, and the
text stays as it is exactly if all of them lead out of the wiki (`rewrite_eq_self_iff`).

Rewriting works line by line (`rewrite_by_lines`). Within a line, the first bracket that a link
can begin with begins it. Two things follow for links as pages write them.

* An opening bracket before a link, on its line, is taken for the start of the link. All the text
  from there on goes into the code (`rewrite_append_link_iff`).
* Of a link within the label of another only the inner marks are used up. The rest of the outer
  link is left behind, and it is a link again. Where no label holds a bracket, nothing that could
  be rewritten is left (`rewrite_again`).
-/
namespace WikiStubs
namespace Link

variable {l : Link} {t s p rest : Text}

/-! ## Line by line -/

theorem rewrite_append_of_endsLine {a : Text} (h : a.EndsLine) (t : Text) :
    rewrite (a ++ t) = rewrite a ++ rewrite t := by
  rcases h with rfl | h
  · rw [rewrite]
    rfl
  · obtain ⟨a, rfl⟩ := List.getLast?_eq_some_iff.1 h
    rw [List.append_assoc, List.singleton_append, rewrite_append_lineFeed, rewrite_append_lineFeed,
      rewrite, List.append_assoc]
    rfl

theorem rewrite_eq_nil (h : rewrite t = []) : t = [] := by
  cases t with
  | nil => rfl
  | cons c t =>
    by_cases hc : c = '['
    · subst hc
      cases hlink : after? t with
      | some found =>
        rw [rewrite_of_after? hlink] at h
        have hkept := (List.append_eq_nil_iff.1 h).1
        unfold kept at hkept
        split at hkept <;> simp at hkept
      | none =>
        rw [rewrite_of_no_link hlink] at h
        cases h
    · rw [rewrite_cons_of_ne hc] at h
      cases h

theorem lineFeed_not_mem_rewrite (h : '\n' ∉ t) : '\n' ∉ rewrite t := fun hmem =>
  (mem_rewrite hmem).elim (by decide) h

/-- The lines of the text that is rewritten are the lines of the text, each rewritten. -/
theorem rawLines_rewrite (t : Text) : (rewrite t).rawLines = t.rawLines.map rewrite := by
  induction h : t.length using Nat.strongRecOn generalizing t with
  | ind n ih =>
    by_cases hmem : '\n' ∈ t
    · obtain ⟨a, b, rfl, ha⟩ := List.eq_append_cons_of_mem hmem
      have hb := ih b.length (by rw [← h, List.length_append, List.length_cons]; omega) b rfl
      have hline : rewrite (a ++ ['\n']) = rewrite a ++ ['\n'] := by
        rw [rewrite_append_lineFeed, rewrite]
      rw [rewrite_append_lineFeed, Text.rawLines_line (lineFeed_not_mem_rewrite ha),
        Text.rawLines_line ha, List.map_cons, hline, hb]
    · by_cases hnil : t = []
      · rw [hnil, rewrite]
        rfl
      · have hdrop : ∀ {a : Text}, '\n' ∉ a → '\n' ∉ a.dropLast := fun ha hlast =>
          ha (List.dropLast_subset _ hlast)
        rw [Text.rawLines_single hnil (hdrop hmem), List.map_singleton,
          Text.rawLines_single (fun he => hnil (rewrite_eq_nil he))
            (hdrop (lineFeed_not_mem_rewrite hmem))]

/-- **Line by line.** What stands before a line feed and what stands after it are rewritten on
their own. So the description of a function has the lines of the subsection, each rewritten, and
a bracket that is left open on one of them does not matter to the others. -/
theorem rewrite_by_lines (a b : Text) :
    rewrite (a ++ '\n' :: b) = rewrite a ++ '\n' :: rewrite b ∧
      ∀ s d : Section, Corrections.descriptionFor? s.name = none →
        s.subsection? "Description" = some d →
          ∃ text, s.freeDescription = .ok text ∧ text.rawLines = d.text.rawLines.map rewrite := by
  refine ⟨rewrite_append_lineFeed a b, fun s d hcorrection hd => ?_⟩
  refine ⟨rewrite d.text, ?_, rawLines_rewrite d.text⟩
  rw [Section.freeDescription, hcorrection, hd]

theorem rewrite_below_open_bracket :
    rewrite "keys [a to z,\nsee [btn](btn)" = "keys [a to z,\nsee `btn`" := by
  have hfirst : rewrite "keys [a to z," = "keys [a to z," := rewrite_of_none (by decide)
  have hsecond : rewrite "see [btn](btn)" = "see `btn`" := by decide +kernel
  have hlines := (rewrite_by_lines "keys [a to z," "see [btn](btn)").1
  rw [hfirst, hsecond] at hlines
  exact hlines

/-! ## The links of a text -/

/-- The links of a text that are found from left to right, each behind the one before. -/
def links : Text → List Link
  | [] => []
  | c :: t =>
    if c = '[' then
      match _h : after? t with
      | some (l, rest) => l :: links rest
      | none => links t
    else links t
termination_by t => t.length
decreasing_by
  · have := length_after? _h; simp; omega
  · simp
  · simp

theorem links_cons_of_ne {c : Char} (h : c ≠ '[') (t : Text) : links (c :: t) = links t := by
  rw [links, if_neg h]

theorem links_of_after? (h : after? t = some (l, rest)) : links ('[' :: t) = l :: links rest := by
  rw [links, if_pos rfl]
  split
  · next h' => cases h.symm.trans h'; rfl
  · next h' => cases h.symm.trans h'

theorem links_of_no_link (h : after? t = none) : links ('[' :: t) = links t := by
  rw [links, if_pos rfl]
  split
  · next h' => cases h.symm.trans h'
  · rfl

/-- A text stays as it is exactly if all its links lead out of the wiki. -/
theorem rewrite_eq_self_iff : rewrite t = t ↔ ∀ l ∈ links t, l.isExternal = true := by
  fun_induction rewrite t with
  | case1 => simp [links]
  | case2 t l rest hlink ih =>
    rw [links_of_after? hlink, (after?_eq_some_iff.1 hlink).2, List.forall_mem_cons, ← ih]
    cases hext : l.isExternal with
    | true =>
      rw [kept_of_external hext, List.append_cancel_left_eq]
      exact (and_iff_right rfl).symm
    | false =>
      rw [kept_of_internal hext]
      simp [written]
  | case3 t hlink ih => rw [links_of_no_link hlink, List.cons_inj_right, ih]
  | case4 c t hc ih => rw [links_cons_of_ne hc, List.cons_inj_right, ih]

/-! ## Links as pages write them -/

/-- A text on one line without brackets. -/
def IsBare (t : Text) : Prop := ∀ c ∈ t, c ≠ '[' ∧ c ≠ ']' ∧ c ≠ '\n'

instance (t : Text) : Decidable (IsBare t) := List.decidableBAll _ t

namespace IsBare

theorem bracket_not_mem (h : IsBare t) : '[' ∉ t := fun hmem => (h _ hmem).1 rfl

theorem lineFeed_not_mem (h : IsBare t) : '\n' ∉ t := fun hmem => (h _ hmem).2.2 rfl

theorem not_infix (h : IsBare t) : ¬ linkMiddle <:+: t := fun hin =>
  (h _ (hin.subset (List.mem_cons_self ..))).2.1 rfl

end IsBare

/-- The label of a link, without brackets in it. -/
structure IsLabel (t : Text) : Prop where
  ne_nil : t ≠ []
  bare : IsBare t

instance (t : Text) : Decidable (IsLabel t) :=
  decidable_of_iff (t ≠ [] ∧ IsBare t) ⟨fun ⟨h1, h2⟩ => ⟨h1, h2⟩, fun ⟨h1, h2⟩ => ⟨h1, h2⟩⟩

/-- The target of a link within the wiki. -/
structure IsWikiTarget (t : Text) : Prop where
  ne_nil : t ≠ []
  plain : ∀ c ∈ t, c ≠ ')' ∧ c ≠ '\n'
  internal : ¬ ("http" : Text) <+: t

instance (t : Text) : Decidable (IsWikiTarget t) :=
  have : Decidable (∀ c ∈ t, c ≠ ')' ∧ c ≠ '\n') := List.decidableBAll _ t
  decidable_of_iff (t ≠ [] ∧ (∀ c ∈ t, c ≠ ')' ∧ c ≠ '\n') ∧ ¬ ("http" : Text) <+: t)
    ⟨fun ⟨h1, h2, h3⟩ => ⟨h1, h2, h3⟩, fun ⟨h1, h2, h3⟩ => ⟨h1, h2, h3⟩⟩

theorem isExternal_eq_false (h : IsWikiTarget l.target) : l.isExternal = false :=
  Bool.eq_false_iff.2 fun hext => h.internal (Text.startsWith_iff.1 hext)

/-- The label of a link within the wiki becomes code. It may hold opening brackets. -/
theorem rewrite_wiki_link (hne : l.label ≠ []) (hline : '\n' ∉ l.label)
    (hfirst : ¬ linkMiddle <:+: l.label) (htarget : IsWikiTarget l.target) (s : Text) :
    rewrite (l.written ++ s) = "`" ++ l.label ++ "`" ++ rewrite s := by
  have hl : l.WellFormed :=
    { label_ne_nil := hne
      label_oneLine := hline
      label_first := fun hin => hfirst (hin.trans (List.tail_suffix _).isInfix)
      target_ne_nil := htarget.ne_nil
      target_oneLine := fun h => (htarget.plain _ h).2 rfl
      target_first := fun h => (htarget.plain _ (List.mem_of_mem_tail h)).1 rfl }
  rw [rewrite_written hl, kept_of_internal (isExternal_eq_false htarget)]

/-- An opening bracket brings no middle of a link between two texts. -/
theorem not_linkMiddle_infix_append {r u : Text} (hr : ¬ linkMiddle <:+: r)
    (hu : ¬ linkMiddle <:+: u) : ¬ linkMiddle <:+: r ++ '[' :: u := by
  induction r with
  | nil =>
    rw [List.nil_append, List.infix_cons_iff, not_or]
    exact ⟨fun hpre => absurd (List.cons_prefix_cons.1 hpre).1 (by decide), hu⟩
  | cons c r ih =>
    rw [List.cons_append, List.infix_cons_iff, not_or]
    refine ⟨fun hpre => ?_, ih (not_infix_tail hr)⟩
    obtain ⟨rfl, hparen⟩ := List.cons_prefix_cons.1 hpre
    cases r with
    | nil => exact absurd (List.cons_prefix_cons.1 hparen).1 (by decide)
    | cons d r =>
      obtain ⟨rfl, -⟩ := List.cons_prefix_cons.1 hparen
      exact hr (List.prefix_append linkMiddle r).isInfix

/-- A bracket before a link on its line begins the link in its place. -/
theorem rewrite_bracket_before_link {r : Text} (hr : ¬ linkMiddle <:+: r) (hline : '\n' ∉ r)
    (hlabel : IsLabel l.label) (htarget : IsWikiTarget l.target) (s : Text) :
    rewrite ('[' :: r ++ l.written ++ s) = "`" ++ (r ++ '[' :: l.label) ++ "`" ++ rewrite s := by
  have hlink : '[' :: r ++ l.written = written ⟨r ++ '[' :: l.label, l.target⟩ := by simp [written]
  have hlabelLine : '\n' ∉ r ++ '[' :: l.label := by simp [hline, hlabel.bare.lineFeed_not_mem]
  rw [hlink]
  exact rewrite_wiki_link (l := ⟨r ++ '[' :: l.label, l.target⟩)
    (List.append_ne_nil_of_right_ne_nil r (List.cons_ne_nil '[' l.label)) hlabelLine
    (not_linkMiddle_infix_append hr hlabel.bare.not_infix) htarget s

/-! ## A link behind other text -/

/-- Text without the marks of a link stays as it is if no bracket is on its last line. -/
theorem rewrite_append_of_lastLine (hp : ¬ linkMiddle <:+: p) (hlast : '[' ∉ p.lastLine)
    (s : Text) : rewrite (p ++ s) = p ++ rewrite s := by
  obtain ⟨above, habove, hcut⟩ := Text.exists_lastLine p
  have hrest : ¬ linkMiddle <:+: above := fun hin =>
    hp (hin.trans (hcut ▸ (List.prefix_append above _).isInfix))
  have hrewrite : rewrite (above ++ p.lastLine ++ s) = above ++ p.lastLine ++ rewrite s := by
    rw [List.append_assoc, rewrite_append_of_endsLine habove, rewrite_of_none hrest,
      rewrite_append_of_not_mem hlast, List.append_assoc]
  rwa [← hcut] at hrewrite

/-- A bracket on the last line of a text is there a first time. -/
theorem exists_first_bracket (h : '[' ∈ p.lastLine) :
    ∃ q r, p = q ++ '[' :: r ∧ '\n' ∉ r ∧ '[' ∉ q.lastLine := by
  obtain ⟨above, habove, hcut⟩ := Text.exists_lastLine p
  obtain ⟨a, r, har, ha⟩ := List.eq_append_cons_of_mem h
  have hline := har ▸ Text.lineFeed_not_mem_lastLine p
  rw [List.mem_append, List.mem_cons, not_or, not_or] at hline
  refine ⟨above ++ a, r, by rw [List.append_assoc, ← har, ← hcut], hline.2.2, ?_⟩
  rwa [Text.lastLine_append hline.1, Text.lastLine_of_endsLine habove]

/-- **A link behind other text.** Only the link is rewritten exactly if no bracket stands before
it on its line. Otherwise the first such bracket is taken for its start. -/
theorem rewrite_append_link_iff (hp : ¬ linkMiddle <:+: p) (hlabel : IsLabel l.label)
    (htarget : IsWikiTarget l.target) (s : Text) :
    (rewrite (p ++ l.written ++ s) = p ++ ("`" ++ l.label ++ "`") ++ rewrite s ↔
      '[' ∉ p.lastLine) ∧
    ∀ q r, p = q ++ '[' :: r → '\n' ∉ r → '[' ∉ q.lastLine →
      rewrite (p ++ l.written ++ s) = q ++ ("`" ++ (r ++ '[' :: l.label) ++ "`") ++ rewrite s := by
  have hfirst : ∀ q r, p = q ++ '[' :: r → '\n' ∉ r → '[' ∉ q.lastLine →
      rewrite (p ++ l.written ++ s) = q ++ ("`" ++ (r ++ '[' :: l.label) ++ "`") ++ rewrite s := by
    rintro q r rfl hline hlast
    have hq : ¬ linkMiddle <:+: q := fun hin => hp (hin.trans (List.prefix_append q _).isInfix)
    have hr : ¬ linkMiddle <:+: r := fun hin =>
      hp (hin.trans ((List.suffix_cons '[' r).trans (List.suffix_append q _)).isInfix)
    rw [List.append_assoc, List.append_assoc, rewrite_append_of_lastLine hq hlast,
      ← List.append_assoc, rewrite_bracket_before_link hr hline hlabel htarget, List.append_assoc q]
  refine ⟨⟨fun h hmem => ?_, fun hlast => ?_⟩, hfirst⟩
  · obtain ⟨q, r, rfl, hline, hlast⟩ := exists_first_bracket hmem
    rw [hfirst q r rfl hline hlast] at h
    simp at h
  · rw [List.append_assoc, rewrite_append_of_lastLine hp hlast,
      rewrite_wiki_link hlabel.ne_nil hlabel.bare.lineFeed_not_mem hlabel.bare.not_infix htarget,
      List.append_assoc p]

/-- The brackets of a range of digits before a link go into the code with all that follows. -/
theorem rewrite_link_behind_range : ¬ linkMiddle <:+: ("[0-9] of the " : Text) ∧
    IsLabel "index" ∧ IsWikiTarget "index" ∧
    rewrite (("[0-9] of the " : Text) ++ written ⟨"index", "index"⟩ ++ []) =
      "`0-9] of the [index`" ∧
    rewrite (("[0-9] of the " : Text) ++ written ⟨"index", "index"⟩ ++ []) ≠
      ("[0-9] of the " : Text) ++ "`index`" ++ rewrite [] := by
  exact ⟨by decide, by decide, by decide, by decide +kernel, by decide +kernel⟩

theorem rewrite_link_below_range :
    rewrite (("a digit [0-9]\nof the " : Text) ++ written ⟨"index", "page"⟩ ++ " [1]") =
      "a digit [0-9]\nof the `index` [1]" := by
  have hp : ¬ linkMiddle <:+: ("a digit [0-9]\nof the " : Text) := by decide
  have hlink := (rewrite_append_link_iff (l := ⟨"index", "page"⟩) hp (by decide) (by decide)
    " [1]").1.2 (by decide)
  rw [hlink, rewrite_of_none (by decide : ¬ linkMiddle <:+: (" [1]" : Text))]
  decide

/-! ## Rewriting again -/

/-- A link with a link within its label, as a picture that leads to a page. -/
structure Nested where
  before : Text
  inner : Link
  after : Text
  target : Text

namespace Nested

/-- The outer link. -/
def outer (n : Nested) : Link := ⟨n.before ++ n.inner.written ++ n.after, n.target⟩

/-- What is left of the outer link, from the label of the inner one on. -/
def remnant (n : Nested) : Link := ⟨n.inner.label ++ '\x60' :: n.after, n.target⟩

/-- Both links lead to pages of the wiki, and no bracket stands in them but their own. -/
structure IsWiki (n : Nested) : Prop where
  label : IsLabel n.inner.label
  innerTarget : IsWikiTarget n.inner.target
  target : IsWikiTarget n.target
  before : IsBare n.before
  after : IsBare n.after
  target_noBracket : '[' ∉ n.target

variable {n : Nested}

theorem rewrite_outer (h : n.IsWiki) (s : Text) :
    rewrite (n.outer.written ++ s) = '\x60' :: n.before ++ n.remnant.written ++ rewrite s := by
  have hcut : n.outer.written ++ s = '[' :: n.before ++ n.inner.written ++
      (n.after ++ [']', '('] ++ n.target ++ [')'] ++ s) := by
    simp [written, outer]
  have hrest : '[' ∉ n.after ++ [']', '('] ++ n.target ++ [')'] := by
    simp [h.after.bracket_not_mem, h.target_noBracket]
  rw [hcut, rewrite_bracket_before_link h.before.not_infix h.before.lineFeed_not_mem h.label
    h.innerTarget, rewrite_append_of_not_mem hrest]
  simp [written, remnant]

/-- What is left is a link to a page of the wiki. -/
theorem rewrite_remnant (h : n.IsWiki) (s : Text) :
    rewrite (n.remnant.written ++ s) = "`" ++ n.remnant.label ++ "`" ++ rewrite s := by
  have hplain : ∀ c ∈ n.remnant.label, c ≠ ']' ∧ c ≠ '\n' := by
    intro c hc
    rcases List.mem_append.1 hc with hc | hc
    · exact (h.label.bare c hc).2
    · rcases List.mem_cons.1 hc with rfl | hc
      · decide
      · exact (h.after c hc).2
  refine rewrite_wiki_link ?_ (fun hmem => (hplain _ hmem).2 rfl)
    (fun hin => (hplain _ (hin.subset (List.mem_cons_self ..))).1 rfl) h.target s
  exact List.append_ne_nil_of_left_ne_nil h.label.ne_nil _

end Nested

/-- If no bracket goes into code, no link is left. -/
theorem rewrite_rewrite_of_labels (h : ∀ l ∈ links t, l.isExternal = true ∨ '[' ∉ l.label) :
    rewrite (rewrite t) = rewrite t := by
  fun_induction rewrite t with
  | case1 => rw [rewrite]
  | case2 t l rest hlink ih =>
    rw [links_of_after? hlink, List.forall_mem_cons] at h
    cases hext : l.isExternal with
    | true =>
      rw [kept_of_external hext, rewrite_written (after?_eq_some_iff.1 hlink).1,
        kept_of_external hext, ih h.2]
    | false =>
      have hcode : '[' ∉ "`" ++ l.label ++ "`" := by
        have hlabel := h.1.resolve_left (by simp [hext])
        simpa using hlabel
      rw [kept_of_internal hext, rewrite_append_of_not_mem hcode, ih h.2]
  | case3 t hlink ih =>
    rw [links_of_no_link hlink] at h
    rw [rewrite_of_no_link (after?_rewrite_eq_none hlink), ih h]
  | case4 c t hc ih =>
    rw [links_cons_of_ne hc] at h
    rw [rewrite_cons_of_ne hc, ih h]

/-- **Rewriting again.** A text that was rewritten stays as it is exactly if all links that are
still found in it lead out of the wiki, and this is so if no label of a link within the wiki holds
a bracket. Of a link within the label of another a link within the wiki is left. -/
theorem rewrite_again (t : Text) :
    (rewrite (rewrite t) = rewrite t ↔ ∀ l ∈ links (rewrite t), l.isExternal = true) ∧
    ((∀ l ∈ links t, l.isExternal = true ∨ '[' ∉ l.label) → rewrite (rewrite t) = rewrite t) ∧
    ∀ (p s : Text) (n : Nested), t = p ++ n.outer.written ++ s → ¬ linkMiddle <:+: p →
      '[' ∉ p.lastLine → n.IsWiki →
        rewrite t = p ++ '\x60' :: n.before ++ n.remnant.written ++ rewrite s ∧
        rewrite (rewrite t) =
          p ++ '\x60' :: n.before ++ ("`" ++ n.remnant.label ++ "`") ++ rewrite (rewrite s) ∧
        rewrite (rewrite t) ≠ rewrite t := by
  refine ⟨rewrite_eq_self_iff, rewrite_rewrite_of_labels, ?_⟩
  rintro p s n rfl hp hlast hn
  have honce : rewrite (p ++ n.outer.written ++ s) =
      p ++ '\x60' :: n.before ++ n.remnant.written ++ rewrite s := by
    rw [List.append_assoc, rewrite_append_of_lastLine hp hlast, Nested.rewrite_outer hn]
    simp only [List.append_assoc]
  have hcode : '[' ∉ '\x60' :: n.before := by
    simp [hn.before.bracket_not_mem]
  have htwice : rewrite (p ++ '\x60' :: n.before ++ n.remnant.written ++ rewrite s) =
      p ++ '\x60' :: n.before ++ ("`" ++ n.remnant.label ++ "`") ++ rewrite (rewrite s) := by
    rw [List.append_assoc, List.append_assoc, rewrite_append_of_lastLine hp hlast,
      rewrite_append_of_not_mem hcode, Nested.rewrite_remnant hn]
    simp only [List.append_assoc]
  rw [honce]
  refine ⟨rfl, htwice, ?_⟩
  rw [htwice]
  intro heq
  -- a backtick would stand where the bracket of the link does
  simp [written] at heq

/-- A picture that leads to a page leaves a link behind, and so does a link within a link. -/
theorem rewrite_picture_again :
    rewrite "[![logo](logo.png)](home)" = "`![logo`](home)" ∧
    rewrite (rewrite "[![logo](logo.png)](home)") = "`!`logo``" ∧
    rewrite "[[a](b)](c)" = "`[a`](c)" ∧ rewrite (rewrite "[[a](b)](c)") = "``a``" ∧
    ¬ ∀ t, rewrite (rewrite t) = rewrite t := by
  refine ⟨by decide +kernel, by decide +kernel, by decide +kernel, by decide +kernel, fun h => ?_⟩
  exact absurd (h "[[a](b)](c)") (by decide +kernel)

theorem rewrite_again_of_separate_links :
    rewrite (rewrite "the [palette](palette) of [docs](https://example.com/a)") =
      rewrite "the [palette](palette) of [docs](https://example.com/a)" :=
  (rewrite_again _).2.1 (by decide +kernel)

end Link
end WikiStubs
