import WikiStubs.Proofs.Heading
import WikiStubs.Proofs.Section.RoundTrip
import WikiStubs.Proofs.Text.Edges

/-!
# Names of sections

A heading line is read from its hash signs to its line feed, and the name is what is left of it
without one carriage return and then without spaces and tabs at its end (`Heading.nameOf`). These
are not all blanks: a heading line can end in others, which stay in the name
(`Heading.nameOf_eq`).

* `Section.trimmed_name_iff`: a name is never empty, is on one line and starts with a character
  that is not blank. It has no blanks at its end exactly when the heading line ends in spaces and
  tabs and at most one carriage return behind them.
* `Section.padded_name_not_trimmed`: the heading Parameters with a no-break space behind it opens a
  section that is not found under this name.
-/
namespace WikiStubs

/-! ## Ends of texts -/

namespace Text

/-- Nothing is trimmed beyond a character that is kept. -/
theorem trimEndBy_append_of_getLast {p : Char → Bool} {s : Text}
    (h : ∀ c ∈ s.getLast?, p c = false) (t : Text) : trimEndBy p (s ++ t) = s ++ trimEndBy p t := by
  have hs := trimEndBy_of_getLast h
  unfold trimEndBy at *
  rw [List.reverse_append, List.dropWhile_append]
  split
  · next hnil => rw [hs, List.isEmpty_iff.1 hnil, List.reverse_nil, List.append_nil]
  · rw [List.reverse_append, List.reverse_reverse]

theorem mem_of_mem_dropFinal {c d : Char} {t : Text} (h : d ∈ dropFinal c t) : d ∈ t := by
  rcases eq_of_dropFinal c t with e | e
  · exact e ▸ h
  · rw [e]
    exact List.mem_append_left _ h

theorem lineFeed_not_mem_dropFinal {t l : Text} (h : l ∈ rawLines t) : '\n' ∉ dropFinal '\n' l := by
  have hinner := lineFeed_not_mem_dropLast h
  unfold dropFinal
  split
  · exact hinner
  · next hlast =>
    intro hmem
    rcases List.eq_nil_or_concat l with rfl | ⟨k, c, rfl⟩
    · cases hmem
    · simp only [List.concat_eq_append, List.dropLast_concat, List.getLast?_concat,
        List.mem_append, List.mem_singleton] at hinner hlast hmem
      exact hmem.elim hinner fun e => hlast (e ▸ rfl)

/-- The first character that is not blank is not trimmed. -/
theorem exists_trimEnd {t : Text} {c : Char} {rest : Text} (h : t = c :: rest)
    (hc : isBlank c = false) : ∃ rest', t.trimEnd = c :: rest' := by
  have hcut := trimEnd_append_endBlanks t
  cases hend : t.trimEnd with
  | nil =>
    rw [hend, List.nil_append, h] at hcut
    have hblank := isBlank_of_mem_endBlanks (t := c :: rest) (hcut ▸ List.mem_cons_self ..)
    rw [hc] at hblank
    cases hblank
  | cons d rest' =>
    rw [hend, h, List.cons_append] at hcut
    rw [(List.cons.inj hcut).1]
    exact ⟨rest', rfl⟩

end Text

/-! ## The name in a heading line -/

namespace Heading

/-- What a heading line may end in for its name to be trimmed: spaces and tabs, and perhaps one
carriage return behind them. -/
def IsEnd (blanks : Text) : Prop :=
  ∃ gap : Text, (∀ c ∈ gap, c = ' ' ∨ c = '\t') ∧ (blanks = gap ∨ blanks = gap ++ ['\r'])

/-- The blanks at the end of a title that its name keeps. -/
def keptBlanks (title : Text) : Text :=
  (Text.dropFinal '\r' title.endBlanks).trimEndBy isGap

theorem keptBlanks_eq_nil_iff {title : Text} : keptBlanks title = [] ↔ IsEnd title.endBlanks := by
  unfold keptBlanks
  rw [Text.trimEndBy_eq_nil_iff]
  constructor
  · intro hgap
    exact ⟨_, fun c hc => isGap_iff.1 (hgap c hc), Text.eq_of_dropFinal '\r' _⟩
  · intro hend
    obtain ⟨gap, hgap, hblanks⟩ := hend
    have hdrop : Text.dropFinal '\r' title.endBlanks = gap := by
      rcases hblanks with h | h
      · rw [h, Text.dropFinal, if_neg]
        intro hlast
        rcases hgap _ (List.mem_of_getLast? hlast) with e | e <;> cases e
      · rw [h, Text.dropFinal, if_pos (List.getLast?_concat ..), List.dropLast_concat]
    rw [hdrop]
    exact fun c hc => isGap_iff.2 (hgap c hc)

theorem isBlank_of_mem_keptBlanks {title : Text} {c : Char} (h : c ∈ keptBlanks title) :
    Text.isBlank c = true := by
  have hmem := Text.mem_of_mem_dropFinal (Text.mem_of_mem_trimEndBy h)
  exact Text.isBlank_of_mem_endBlanks hmem

/-- A name is the title up to its last character that is not blank, with the blanks that are
kept. -/
theorem nameOf_eq (title : Text) : nameOf title = title.trimEnd ++ keptBlanks title := by
  have hlast : ∀ c ∈ title.trimEnd.getLast?, Text.isBlank c = false := fun c hc =>
    Text.isBlank_of_getLast?_trimEnd hc
  have hreturn : title.trimEnd.getLast? ≠ some '\r' := fun h => absurd (hlast _ h) (by decide)
  have hgap : ∀ c ∈ title.trimEnd.getLast?, isGap c = false := fun c hc =>
    isGap_eq_false (hlast c hc)
  conv_lhs => rw [nameOf, ← Text.trimEnd_append_endBlanks title]
  rw [Text.dropFinal_append hreturn, Text.trimEndBy_append_of_getLast hgap, keptBlanks]

/-- A title starts with a character that is not blank. -/
theorem exists_title {level : Nat} {line : Text} (h : IsHeading level line) :
    ∃ c rest, title line = c :: rest ∧ Text.isBlank c = false := by
  obtain ⟨gap, c, rest, rfl, hne, hgap, hc⟩ := h
  have hcn : c ≠ '\n' := by intro e; subst e; exact absurd hc (by decide)
  refine ⟨c, Text.dropFinal '\n' rest, ?_, hc⟩
  rw [title, Text.dropFinal_append_cons hcn, (parts_eq _ _ hne hgap hc).2.2]

section
variable {t : Text} {c : Char} {rest : Text}

/-- A name is trimmed to the same text as its title. -/
theorem trim_title (h : t = c :: rest) (hc : Text.isBlank c = false) :
    t.trim = t.trimEnd ∧ (nameOf t).trim = t.trimEnd := by
  obtain ⟨rest', hend⟩ := Text.exists_trimEnd h hc
  have hself : t.trimEnd.trim = t.trimEnd := by
    refine Text.trimBy_of_ends (fun d hd => ?_) fun d hd => Text.isBlank_of_getLast?_trimEnd hd
    rw [hend] at hd
    exact Option.some.inj hd ▸ hc
  have hblanks : ∀ b : Text, (∀ d ∈ b, Text.isBlank d = true) →
      (t.trimEnd ++ b).trim = t.trimEnd := by
    intro b hb
    have hsurround := Text.trimBy_surround (List.forall_mem_nil _) hb t.trimEnd
    rw [List.nil_append] at hsurround
    exact hsurround.trans hself
  constructor
  · conv_lhs => rw [← Text.trimEnd_append_endBlanks t]
    exact hblanks _ fun d hd => Text.isBlank_of_mem_endBlanks hd
  · rw [nameOf_eq]
    exact hblanks _ fun d hd => isBlank_of_mem_keptBlanks hd

/-- The name that a title spells has no blanks at its end exactly when the title ends as it may. -/
theorem trim_nameOf_iff (h : t = c :: rest) (hc : Text.isBlank c = false) :
    (nameOf t).trim = nameOf t ↔ IsEnd t.endBlanks := by
  rw [(trim_title h hc).2, nameOf_eq, List.self_eq_append_right, keptBlanks_eq_nil_iff]

end

theorem mem_of_mem_nameOf {t : Text} {c : Char} (h : c ∈ nameOf t) : c ∈ t :=
  Text.mem_of_mem_dropFinal (Text.mem_of_mem_trimEndBy h)

/-- How every name is spelled, after its title. -/
structure Names (title name : Text) : Prop where
  ne_nil : name ≠ []
  oneLine : '\n' ∉ name
  head : ∀ c ∈ name.head?, Text.isBlank c = false
  last : ∀ c ∈ name.getLast?, c ≠ ' ' ∧ c ≠ '\t'
  /-- They differ in blanks at the end only. -/
  trim : name.trim = title.trim

/-- The name of a heading line of a page. -/
theorem names_nameOf {level : Nat} {page line : Text} (h : IsHeading level line)
    (hline : line ∈ page.rawLines) : Names (title line) (nameOf (title line)) := by
  obtain ⟨c, rest, htitle, hc⟩ := exists_title h
  obtain ⟨rest', hend⟩ := Text.exists_trimEnd htitle hc
  have hname : nameOf (title line) = c :: (rest' ++ keptBlanks (title line)) := by
    rw [nameOf_eq, hend, List.cons_append]
  obtain ⟨htrim, hnametrim⟩ := trim_title htitle hc
  constructor
  case ne_nil => simp [hname]
  case oneLine =>
    intro hmem
    have hmem := (List.dropWhile_suffix _).subset (mem_of_mem_nameOf hmem)
    exact Text.lineFeed_not_mem_dropFinal hline ((List.dropWhile_suffix _).subset hmem)
  case head =>
    intro d hd
    rw [hname] at hd
    exact Option.some.inj hd ▸ hc
  case last =>
    intro d hd
    have hgap : isGap d = false := Text.of_getLast?_trimEndBy hd
    simpa [isGap] using hgap
  case trim => rw [hnametrim, htrim]

end Heading

/-! ## The names of sections -/

namespace Section

/-- The rest of the heading line of a section, behind its hash signs and the spaces and tabs after
them and without its line feed. -/
def title (t : Text) (s : Section) : Text := Heading.title ((s.covered t).rawLines.headD [])

/-- **Names.** At any depth the name of a section has at least one character, is on one line and
starts with a character that is not blank, and it is its heading line without blanks at the end.
But only spaces and tabs, and one carriage return behind them, are always cut off: the name has no
blanks around it exactly when the heading line ends in no others. -/
theorem trimmed_name_iff {m : Nat} {t : Text} {s : Section} (h : Below s (ofText m t)) :
    Heading.Names (s.title t) s.name ∧
      (Heading.IsTitle s.name ↔ Heading.IsEnd (s.title t).endBlanks) := by
  obtain ⟨level, x, hx, rfl⟩ := found_of_below h (by omega) fun _ hs => hs
  have htitle : (ofExtent level x).title t = Heading.title x.head.text := by
    rw [title, covered_ofExtent hx, firstLine_text hx]
  have hname : (ofExtent level x).name = Heading.nameOf (Heading.title x.head.text) := hx.name
  have hhead := (Line.level?_eq_some_iff.1 hx.head).1
  have hnames := Heading.names_nameOf hhead (Line.mem_rawLines_iff.2 ⟨_, hx.mem_head, rfl⟩)
  rw [htitle, hname]
  refine ⟨hnames, ?_⟩
  obtain ⟨c, rest, hstart, hc⟩ := Heading.exists_title hhead
  rw [← Heading.trim_nameOf_iff hstart hc]
  exact ⟨fun h => h.trimmed, fun h => ⟨hnames.ne_nil, hnames.oneLine, h⟩⟩

/-- A page whose heading lines end in a space, a tab and a carriage return, and in a no-break
space. -/
def paddedPage : Text := "# f \t\r\n## Parameters\u00a0\n* **x** : an index\n"

def paddedSection : Section := ⟨"Parameters\u00a0", "* **x** : an index\n", [], ⟨7, 42⟩⟩

def paddedTop : Section := ⟨"f", [], [paddedSection], ⟨0, 42⟩⟩

theorem ofText_paddedPage : ofText 1 paddedPage = [paddedTop] := by rfl

theorem trimmed_name_paddedTop : Below paddedTop (ofText 1 paddedPage) ∧
    (paddedTop.title paddedPage).endBlanks = " \t\r".toList ∧ Heading.IsTitle paddedTop.name := by
  have hbelow : Below paddedTop (ofText 1 paddedPage) :=
    ofText_paddedPage ▸ .here (List.mem_singleton_self _)
  have hend : (paddedTop.title paddedPage).endBlanks = " \t\r".toList := by decide
  refine ⟨hbelow, hend, (trimmed_name_iff hbelow).2.2 ?_⟩
  rw [hend]
  exact ⟨[' ', '\t'], by simp, Or.inr rfl⟩

/-- The no-break space stays in the name, and the section is not found by the name that its
heading shows. -/
theorem padded_name_not_trimmed : Below paddedSection (ofText 1 paddedPage) ∧
    ¬ Heading.IsTitle paddedSection.name ∧ paddedTop.subsection? "Parameters" = none := by
  have hbelow : Below paddedSection (ofText 1 paddedPage) :=
    ofText_paddedPage ▸ .inside (List.mem_singleton_self _) (.here (List.mem_singleton_self _))
  refine ⟨hbelow, fun h => ?_, rfl⟩
  exact absurd h.trimmed (by decide)

end Section
end WikiStubs
