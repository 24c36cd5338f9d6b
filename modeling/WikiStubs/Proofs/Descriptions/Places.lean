import WikiStubs.Proofs.Bullet.Grammar
import WikiStubs.Proofs.Descriptions
import WikiStubs.Proofs.Text.Edges

/-!
# The two places for the bullets of the parameters

A section has the bullets of its parameters in a subsection (`Section.withParameters`), or in its
body after a mark (`Section.withMark`). The same text has the same lines in both places but for
its edges, since what follows the mark is trimmed before it is cut into lines.

* The first bullet may be indented, and is no bullet then. After the mark the indent is gone and
  the line is one (`StartsInPlace`).
* The last bullet may have blanks behind it, which are gone after the mark (`EndsInPlace`). A line
  that is read as a bullet is read with or without them (`Bullet.ofLine?_append_blanks`), but for
  a line that ends in a colon, where the blanks are the description (`EndsReadably`).

Both places give the same lines if neither happens, and the same descriptions if the blanks at the
end do no harm (`Section.descriptions_of_places`).
-/
namespace WikiStubs

variable {t u e : Text}

/-! ## Blanks at the end of a bullet -/

theorem Text.after?_append_blanks {mark : Text} (hmark : mark.getLast?.any Text.isBlank = false)
    (he : ∀ c ∈ e, Text.isBlank c = true) (t : Text) :
    Text.after? mark (t ++ e) = (Text.after? mark t).map (· ++ e) := by
  induction mark generalizing t with
  | nil => rfl
  | cons m mark ih =>
    cases t with
    | nil =>
      rw [List.nil_append, Text.after?, Option.map_none, Option.eq_none_iff_forall_ne_some]
      intro rest hrest
      have hne := List.cons_ne_nil m mark
      have hmem : (m :: mark).getLast hne ∈ e := by
        rw [Text.after?_eq_some.1 hrest]
        exact List.mem_append_left _ (List.getLast_mem hne)
      rw [List.getLast?_eq_some_getLast hne, Option.any_some, he _ hmem] at hmark
      cases hmark
    | cons c t =>
      have hlast : mark.getLast?.any Text.isBlank = false := by
        cases mark with
        | nil => rfl
        | cons d mark => rwa [List.getLast?_cons_cons] at hmark
      rw [List.cons_append, Text.after?, Text.after?]
      split
      · exact ih hlast t
      · rfl

namespace Bullet

/-- A line that ends neither in a blank nor in a colon. -/
structure EndsInText (t : Text) : Prop where
  oneLine : '\n' ∉ t
  last : ∀ c ∈ t.getLast?, Text.isBlank c = false ∧ c ≠ ':'

theorem EndsInText.suffix (h : EndsInText t) (hu : u <:+ t) : EndsInText u where
  oneLine hmem := h.oneLine (hu.subset hmem)
  last c hc := h.last c (Text.mem_getLast?_of_suffix hu hc)

theorem EndsInText.dropWhile_append (h : EndsInText t) (hne : t ≠ []) (e : Text) :
    t.dropWhile Text.isBlank ≠ [] ∧
      (t ++ e).dropWhile Text.isBlank = t.dropWhile Text.isBlank ++ e := by
  have hkept : t.dropWhile Text.isBlank ≠ [] := fun hnil => by
    have hblank := List.dropWhile_eq_nil_iff.1 hnil _ (List.getLast_mem hne)
    rw [(h.last _ (List.getLast?_eq_some_getLast hne)).1] at hblank
    cases hblank
  refine ⟨hkept, ?_⟩
  rw [List.dropWhile_append, if_neg fun hempty => hkept (List.isEmpty_iff.1 hempty)]

section
variable (he : ∀ c ∈ e, Text.isBlank c = true ∧ c ≠ '\n')
include he

theorem descriptionOf?_append_blanks (h : EndsInText t) (hne : t ≠ []) :
    descriptionOf? (t ++ e) = (descriptionOf? t).map (· ++ e) := by
  obtain ⟨hkept, hdrop⟩ := h.dropWhile_append hne e
  have hline : ∀ c ∈ t.dropWhile Text.isBlank ++ e, decide (c ≠ '\n') = true := by
    intro c hc
    refine decide_eq_true ?_
    rcases List.mem_append.1 hc with hc | hc
    · rintro rfl
      exact h.oneLine ((List.dropWhile_sublist _).subset hc)
    · exact (he c hc).2
  unfold descriptionOf?
  rw [hdrop]
  split
  · next hnil => exact absurd (List.append_eq_nil_iff.1 hnil).1 hkept
  · rw [List.takeWhile_eq_self_iff.2 hline, List.takeWhile_eq_self_iff.2 fun c hc =>
      hline c (List.mem_append_left _ hc), Option.map_some]

theorem tail?_append_blanks (h : EndsInText t) : tail? (t ++ e) = (tail? t).map (· ++ e) := by
  have hblank : ∀ c ∈ e, Text.isBlank c = true := fun c hc => (he c hc).1
  unfold tail?
  rw [Text.after?_append_blanks rfl hblank]
  cases hbold : Text.after? "**" t with
  | none => rfl
  | some u =>
    have hu : EndsInText u := h.suffix ⟨_, (Text.after?_eq_some.1 hbold).symm⟩
    simp only [Option.map_some]
    by_cases hnil : u = []
    · subst hnil
      rw [List.nil_append, List.dropWhile_eq_nil_iff.2 hblank]
      rfl
    · rw [(hu.dropWhile_append hnil e).2, Text.after?_append_blanks rfl hblank]
      cases hcolon : Text.after? ":" (u.dropWhile Text.isBlank) with
      | none => rfl
      | some v =>
        have hcut := Text.after?_eq_some.1 hcolon
        have hv : EndsInText (u.dropWhile Text.isBlank) := hu.suffix (List.dropWhile_suffix _)
        have hne : v ≠ [] := by
          rintro rfl
          exact (hv.last ':' (by rw [hcut]; rfl)).2 rfl
        exact descriptionOf?_append_blanks he (hv.suffix ⟨_, hcut.symm⟩) hne

theorem split?_append_blanks (h : EndsInText t) :
    split? (t ++ e) = (split? t).map fun (names, d) => (names, d ++ e) := by
  induction t with
  | nil =>
    refine split?_eq_none fun hin => ?_
    exact absurd (he _ (hin.subset (List.mem_cons_self ..))).1 (by decide)
  | cons c t ih =>
    have ht : EndsInText t := h.suffix (List.suffix_cons c t)
    rw [List.cons_append, split?, split?, ih ht, tail?_append_blanks he ht]
    split
    · rfl
    · cases split? t with
      | some found => rfl
      | none => simp [Option.map_map, Function.comp_def]

/-- Blanks at the end of a line do not matter to what is read. -/
theorem ofLine?_append_blanks (h : EndsInText t) : ofLine? (t ++ e) = ofLine? t := by
  have hblank : ∀ c ∈ e, Text.isBlank c = true := fun c hc => (he c hc).1
  have hmark : afterMark? (t ++ e) = (afterMark? t).map (· ++ e) := by
    unfold afterMark?
    rw [Text.after?_append_blanks rfl hblank, Text.after?_append_blanks rfl hblank]
    cases Text.after? "* **" t <;> rfl
  unfold ofLine?
  rw [hmark]
  cases hstart : afterMark? t with
  | none => rfl
  | some u =>
    obtain ⟨mark, -, hline⟩ := afterMark?_eq_some.1 hstart
    have hu : u <:+ t := ⟨_, hline.symm⟩
    rw [Option.map_some, Option.bind_some, Option.bind_some, split?_append_blanks he (h.suffix hu)]
    cases split? u with
    | none => rfl
    | some found =>
      simp only [Option.map_some, Text.trimEnd, Text.trimEndBy_append hblank]

end

end Bullet

/-! ## The edges of the text -/

/-- The text starts with a bullet only where a line starts. -/
def StartsInPlace (b : Text) : Prop := isBulletLine b.trim = true → b.StartsLine

/-- The last line that is not blank, without the blanks behind it. -/
def lastText (b : Text) : Text := b.trimEnd.lastLine

/-- The text ends with a bullet only without blanks behind it. -/
def EndsInPlace (b : Text) : Prop :=
  isBulletLine (lastText b ++ b.blanksBehind) = true → b.blanksBehind = []

/-- The text ends with a bullet that has no blanks behind it, or is read without them. -/
def EndsReadably (b : Text) : Prop :=
  isBulletLine (lastText b ++ b.blanksBehind) = true →
    b.blanksBehind = [] ∨ Accepted (lastText b) ∧ (lastText b).getLast? ≠ some ':'

instance (b : Text) : Decidable (StartsInPlace b) := inferInstanceAs (Decidable (_ → _))

instance (b : Text) : Decidable (EndsInPlace b) := inferInstanceAs (Decidable (_ → _))

instance (b : Text) : Decidable (EndsReadably b) := inferInstanceAs (Decidable (_ → _))

theorem isBulletLine_head {l : Text} (h : isBulletLine l = true) :
    ∃ c ∈ l.head?, Text.isBlank c = false := by
  rcases isBulletLine_iff.1 h with ⟨u, rfl⟩ | ⟨u, rfl⟩
  · exact ⟨'*', rfl, by decide⟩
  · exact ⟨'-', rfl, by decide⟩

theorem isBulletLine_filled {l : Text} (h : isBulletLine l = true) :
    ∃ c ∈ l, Text.isBlank c = false :=
  (isBulletLine_head h).imp fun _ hc => ⟨List.mem_of_mem_head? hc.1, hc.2⟩

theorem isBulletLine_append {l : Text} (h : isBulletLine l = true) (u : Text) :
    isBulletLine (l ++ u) = true :=
  isBulletLine_iff.2 ((isBulletLine_iff.1 h).imp (·.trans (List.prefix_append l u))
    (·.trans (List.prefix_append l u)))

theorem isBulletLine_headD_lines {t : Text} :
    isBulletLine (t.lines.headD []) = true ↔ isBulletLine t = true := by
  rw [isBulletLine_iff, isBulletLine_iff,
    Text.prefix_headD_lines_iff (by decide) (by decide) (by decide),
    Text.prefix_headD_lines_iff (by decide) (by decide) (by decide)]

/-- Trimming at the start brings a bullet exactly if the text starts with an indented one. -/
theorem filter_lines_trim (b : Text) :
    b.trimEnd.lines.filter isBulletLine = b.trim.lines.filter isBulletLine ↔ StartsInPlace b := by
  by_cases hne : b.trim = []
  · have hblank : ∀ c ∈ b.trimEnd, Text.isBlank c = true := fun c hc =>
      Text.trimBy_eq_nil_iff.1 hne c (Text.mem_of_mem_trimEndBy hc)
    rw [Text.filter_lines_of_blank (fun _ => isBulletLine_filled) hblank, StartsInPlace, hne]
    exact ⟨fun _ h => absurd h (by decide), fun _ => rfl⟩
  · have hblank : ∀ c ∈ b.takeWhile Text.isBlank, Text.isBlank c = true := fun c hc =>
      List.mem_takeWhile_imp hc
    have hlines : b.trim.lines ≠ [] := fun hnil =>
      hne (Text.rawLines_eq_nil.1 (List.map_eq_nil_iff.1 hnil))
    obtain ⟨l, ls, hl⟩ := List.exists_cons_of_ne_nil hlines
    rw [← Text.takeWhile_append_trim hne,
      Text.filter_lines_after_blanks (fun _ => isBulletLine_head) hblank, StartsInPlace,
      ← isBulletLine_headD_lines, hl, List.headD_cons, List.tail_cons, Text.StartsLine]
    split
    · next hends => exact ⟨fun _ _ => hends, fun _ => rfl⟩
    · next hends =>
      by_cases hbullet : isBulletLine l = true
      · rw [List.filter_cons_of_pos hbullet]
        exact ⟨fun h => absurd h.symm (List.cons_ne_self _ _), fun h => absurd (h hbullet) hends⟩
      · rw [List.filter_cons_of_neg hbullet]
        exact ⟨fun _ h => absurd h hbullet, fun _ => rfl⟩

/-- Trimming at the end drops the blanks behind the last line. -/
theorem exists_filter_lines (b : Text) : ∃ above,
    b.lines.filter isBulletLine = above ++ [lastText b ++ b.blanksBehind].filter isBulletLine ∧
      b.trimEnd.lines.filter isBulletLine = above ++ [lastText b].filter isBulletLine := by
  have hcut := Text.filter_lines_before_blanks (t := b.trimEnd) (b := b.endBlanks)
    (fun _ => isBulletLine_filled) (fun _ => Text.isBlank_of_getLast?_trimEnd)
    fun _ => Text.isBlank_of_mem_endBlanks
  rwa [Text.trimEnd_append_endBlanks] at hcut

/-- Trimming at the end changes a bullet exactly if blanks stand behind the last one. -/
theorem filter_lines_trimEnd (b : Text) :
    b.lines.filter isBulletLine = b.trimEnd.lines.filter isBulletLine ↔ EndsInPlace b := by
  obtain ⟨above, hlines, hend⟩ := exists_filter_lines b
  rw [hlines, hend, List.append_cancel_left_eq, EndsInPlace]
  by_cases hbullet : isBulletLine (lastText b ++ b.blanksBehind) = true
  · rw [List.filter_cons_of_pos hbullet, List.filter_nil]
    constructor
    · intro h _
      have hmem : lastText b ++ b.blanksBehind ∈ [lastText b] :=
        (List.mem_filter.1 (h ▸ List.mem_singleton_self _)).1
      exact List.append_right_eq_self.1 (List.mem_singleton.1 hmem)
    · intro h
      have hnil := h hbullet
      rw [hnil, List.append_nil] at hbullet ⊢
      rw [List.filter_cons_of_pos hbullet, List.filter_nil]
  · have hlast : ¬ isBulletLine (lastText b) = true := fun h =>
      hbullet (isBulletLine_append h _)
    rw [List.filter_cons_of_neg hbullet, List.filter_cons_of_neg hlast]
    exact ⟨fun _ h => absurd h hbullet, fun _ => rfl⟩

theorem isBulletLine_of_accepted {l : Text} (h : Accepted l) : isBulletLine l = true := by
  obtain ⟨mark, names, blanks, d, hmark, -, -, -, -, rfl⟩ :=
    Bullet.ofLine?_isSome_iff.1 (accepted_iff.1 h)
  rw [isBulletLine_iff]
  rcases hmark with rfl | rfl
  · exact Or.inl ⟨_, rfl⟩
  · exact Or.inr ⟨_, rfl⟩

theorem ofLine_lastText {b : Text} (h : (lastText b).getLast? ≠ some ':') :
    Bullet.ofLine? (lastText b ++ b.blanksBehind) = Bullet.ofLine? (lastText b) := by
  refine Bullet.ofLine?_append_blanks (fun _ => Text.of_mem_blanksBehind)
    ⟨Text.lineFeed_not_mem_lastLine _, fun c hc => ⟨?_, ?_⟩⟩
  · exact Text.isBlank_of_getLast?_trimEnd (Text.mem_getLast?_of_suffix (Text.lastLine_suffix _) hc)
  · rintro rfl
    exact h hc

/-- A bullet that is read without the blanks behind it is read with them. -/
theorem describeAll_trimEnd {b : Text} (h : EndsReadably b) :
    describeAll (b.lines.filter isBulletLine) =
      describeAll (b.trimEnd.lines.filter isBulletLine) := by
  by_cases hplace : EndsInPlace b
  · rw [(filter_lines_trimEnd b).2 hplace]
  · obtain ⟨hbullet, hblanks⟩ := Classical.not_imp.1 hplace
    obtain ⟨haccepted, hcolon⟩ := (h hbullet).resolve_left hblanks
    obtain ⟨above, hlines, hend⟩ := exists_filter_lines b
    have hread : Bullet.ofLine (lastText b ++ b.blanksBehind) = Bullet.ofLine (lastText b) := by
      obtain ⟨bullet, hbullet⟩ := Option.isSome_iff_exists.1 (accepted_iff.1 haccepted)
      rw [Bullet.ofLine, Bullet.ofLine, ofLine_lastText hcolon, hbullet]
    rw [hlines, hend, List.filter_cons_of_pos hbullet,
      List.filter_cons_of_pos (isBulletLine_of_accepted haccepted), List.filter_nil,
      describeAll_concat, describeAll_concat, hread]

/-! ## Sections -/

/-- The lines of a text that start with a mark of a list. -/
def columnBullets (b : Text) : List Text :=
  b.lines.filter fun l => ("* " : Text) <+: l ∨ ("- " : Text) <+: l

theorem columnBullets_eq (b : Text) : columnBullets b = b.lines.filter isBulletLine := by
  refine List.filter_congr fun l _ => ?_
  rw [Bool.eq_iff_iff, decide_eq_true_iff, isBulletLine_iff]

namespace Section

variable (name b : Text) (span inner : Span) (below : List Section)

def withParameters : Section := ⟨name, [], [⟨"Parameters", b, below, inner⟩], span⟩

def withMark : Section := ⟨name, parametersMark ++ '\n' :: b, [], span⟩

theorem bullets_withParameters :
    (withParameters name b span inner below).bullets = b.lines.filter isBulletLine := by
  have hlines : (withParameters name b span inner below).parameterLines = b.lines := rfl
  have hreturns : (withParameters name b span inner below).returnLines = [] := rfl
  rw [bullets, hlines, hreturns, List.append_nil]

theorem bullets_withMark : (withMark name b span).bullets = b.trim.lines.filter isBulletLine := by
  have hcut : Text.splitAtFirst? parametersMark (withMark name b span).body =
      some ([], '\n' :: b) :=
    Text.splitAtFirst?_eq_some_iff.2 ⟨rfl, fun _ _ _ => Nat.zero_le _⟩
  have htrim : Text.trim ('\n' :: b) = b.trim := by
    have hsurround := Text.trimBy_surround (p := Text.isBlank) (a := ['\n']) (b := [])
      (List.forall_mem_singleton.2 (by decide)) (List.forall_mem_nil _) b
    rwa [List.append_nil] at hsurround
  have hno : (withMark name b span).subsection? "Parameters" = none := rfl
  have hlines : (withMark name b span).parameterLines = b.trim.lines := by
    rw [parameterLines, hno, hcut]
    exact congrArg Text.lines htrim
  have hreturns : (withMark name b span).returnLines = [] := rfl
  rw [bullets, hlines, hreturns, List.append_nil]

/-- **The two places.** In the subsection the bullets are the lines that start with a mark of a
list. After the mark they are the same lines if the text starts and ends in place, and other lines
if it does only one of the two. The descriptions are the same also where the last bullet is read
without the blanks behind it. -/
theorem descriptions_of_places (span' : Span) :
    (∀ ls, (withParameters name b span inner below).KeepsLines ls ↔ ls = columnBullets b) ∧
    (StartsInPlace b ∨ EndsInPlace b →
      ((withMark name b span').KeepsLines (columnBullets b) ↔
        StartsInPlace b ∧ EndsInPlace b)) ∧
    (StartsInPlace b → EndsReadably b →
      (withMark name b span').descriptions =
        (withParameters name b span inner below).descriptions) := by
  refine ⟨fun ls => ?_, fun hone => ?_, fun hstart hend => ?_⟩
  · rw [keepsLines_iff, bullets_withParameters, columnBullets_eq]
  · rw [keepsLines_iff, bullets_withMark, columnBullets_eq]
    rcases hone with hstart | hend
    · rw [← (filter_lines_trim b).2 hstart, filter_lines_trimEnd]
      exact (and_iff_right hstart).symm
    · rw [(filter_lines_trimEnd b).2 hend, filter_lines_trim]
      exact (and_iff_left hend).symm
  · rw [descriptions_eq, descriptions_eq, bullets_withMark, bullets_withParameters,
      ← (filter_lines_trim b).2 hstart, describeAll_trimEnd hend]

/-- An indented bullet is no bullet in the subsection, but the first one after the mark is. A
bullet whose description is blank is read in the subsection, but not at the end after the mark. -/
theorem descriptions_differ :
    (withParameters "f" "  * **a** : an index\n" ⟨0, 0⟩ ⟨0, 0⟩ []).descriptions =
      .ok TextMap.empty ∧
    (withMark "f" "  * **a** : an index\n" ⟨0, 0⟩).descriptions =
      .ok (TextMap.ofList [("a", "an index")]) ∧
    (withParameters "f" "* **a** :  \n" ⟨0, 0⟩ ⟨0, 0⟩ []).descriptions =
      .ok (TextMap.ofList [("a", "")]) ∧
    (withMark "f" "* **a** :  \n" ⟨0, 0⟩).descriptions =
      .error (.malformed .bullet "* **a** :") ∧
    ¬ ∀ b, (withMark "f" b ⟨0, 0⟩).descriptions =
      (withParameters "f" b ⟨0, 0⟩ ⟨0, 0⟩ []).descriptions := by
  refine ⟨by decide +kernel, by decide +kernel, by decide +kernel, by decide +kernel, fun h => ?_⟩
  exact absurd (h "* **a** :  \n") (by decide +kernel)

/-- The bullets of a page, with blanks behind the last one. -/
def colorBullets : Text := "\n* **color** : the [index](index)  \n"

theorem descriptions_of_color :
    StartsInPlace colorBullets ∧ EndsReadably colorBullets ∧
    (withMark "cls" colorBullets ⟨0, 0⟩).descriptions =
      (withParameters "cls" colorBullets ⟨0, 0⟩ ⟨0, 0⟩ []).descriptions := by
  have hstart : StartsInPlace colorBullets := by decide +kernel
  have hend : EndsReadably colorBullets := by decide +kernel
  have hplaces := descriptions_of_places "cls" colorBullets ⟨0, 0⟩ ⟨0, 0⟩ [] ⟨0, 0⟩
  exact ⟨hstart, hend, hplaces.2.2 hstart hend⟩

end Section

end WikiStubs
