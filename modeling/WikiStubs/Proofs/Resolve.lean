import WikiStubs.Resolve
import WikiStubs.Proofs.Section.Outline

/-!
# Which section a function resolves to

A page with several top-level sections is read again without its first character. On a page whose
first line is a heading one level too deep this makes the other sections subsections of the first
one, which keeps its name and body. Two kinds of pages lose their first section (`Displaced`): one
that starts with a heading of level 1, which is no heading any more, and one whose first line
becomes a heading that the other headings are not above.

* `openedAt` is the section that lines open at a level, and `openedAt_of_ofPage` finds the first
  section of a page there, so that two pages can be compared line by line.
* `rawLines_drop_one`: without its first character a page has the same lines after the first.
-/
namespace WikiStubs

/-- The name and body of the section that the first heading line of a level opens. -/
def openedAt (level : Nat) (ls : List Text) : Option (Text × Text) := (outline level ls).head?

theorem openedAt_cons_of_heading {level : Nat} {l : Text} (h : IsHeading level l)
    (ls : List Text) : openedAt level (l :: ls) = some (Heading.nameOf (Heading.title l),
      (ls.takeWhile fun l => ¬ IsHeadingFrom 1 l).flatten) := by
  rw [openedAt, outline_cons_of_heading h, List.head?_cons]

theorem openedAt_cons_of_other {level : Nat} {l : Text} (h : ¬ IsHeading level l)
    (ls : List Text) : openedAt level (l :: ls) = openedAt level ls := by
  rw [openedAt, outline_cons_of_other h, openedAt]

/-- The first section of a page is what its lines open at their least level. -/
theorem openedAt_of_ofPage {t : Text} {s : Section} {ss : List Section}
    (h : Section.ofPage t = s :: ss) {level : Nat} (hlevel : LeastHeading 1 level t.rawLines) :
    openedAt level t.rawLines = some (s.name, s.body) := by
  rw [openedAt, ← Section.map_ofPage hlevel, h, List.map_cons, List.head?_cons]

namespace Section

theorem ofPage_eq_nil_iff {t : Text} :
    ofPage t = [] ↔ ∀ l ∈ t.rawLines, ¬ IsHeadingFrom 1 l := by
  constructor
  · intro h l hl hh
    obtain ⟨k, hk, rfl⟩ := Line.mem_rawLines_iff.1 hl
    obtain ⟨j, hj, hle⟩ := (Line.isHeadingFrom_iff (Nat.le_refl 1)).1 hh
    rcases leastLevel_or_none 1 (Line.ofText t) with hnone | ⟨level, hleast⟩
    · have := hnone k hk j hj; omega
    · rw [ofPage_eq, fromLevel_of_least (Nat.le_refl 1) hleast, List.map_eq_nil_iff,
        Extent.cut_eq_nil_iff] at h
      obtain ⟨l', hl', hlevel⟩ := hleast.occurs
      exact h l' hl' hlevel
  · exact ofText_of_none (m := 1)

/-- A page with a section has a least level. -/
theorem exists_leastHeading {t : Text} (h : ofPage t ≠ []) :
    ∃ level, LeastHeading 1 level t.rawLines := by
  rcases leastLevel_or_none 1 (Line.ofText t) with hnone | ⟨level, hleast⟩
  · exact absurd (fromLevel_of_none (Nat.le_refl 1) hnone) h
  · exact ⟨level, Line.map_text_ofText t ▸ hleast.leastHeading (Nat.le_refl 1)⟩

end Section

/-! ## Without the first character -/

theorem rawLines_drop_one {t l₀ : Text} {ls : List Text} (h : t.rawLines = l₀ :: ls) :
    Text.rawLines (t.drop 1) = if l₀.tail = [] then ls else l₀.tail :: ls := by
  cases t with
  | nil => cases h
  | cons c t =>
    rw [List.drop_one, List.tail_cons]
    by_cases hc : c = '\n'
    · subst hc
      rw [Text.rawLines_lineFeed] at h
      obtain ⟨rfl, rfl⟩ := List.cons.inj h
      simp
    · rw [Text.rawLines_cons hc] at h
      obtain ⟨rfl, rfl⟩ := List.cons.inj h
      cases hr : Text.rawLines t with
      | nil => simp
      | cons k ks =>
        have hk : k ≠ [] := Text.ne_nil_of_mem_rawLines (hr ▸ List.mem_cons_self ..)
        simp [hk]

/-- The first section of a page without its first character, by the lines that are left. An empty
rest of the first line does not count. -/
theorem openedAt_of_drop_one {t l₀ : Text} {ls : List Text} (hl : t.rawLines = l₀ :: ls)
    {level : Nat} (hleast : LeastHeading 1 level (l₀.tail :: ls)) :
    ∃ s ss, Section.ofPage (t.drop 1) = s :: ss ∧
      openedAt level (l₀.tail :: ls) = some (s.name, s.body) := by
  have hlines : ∀ l, (∃ k, IsHeading k l) → (l ∈ Text.rawLines (t.drop 1) ↔ l ∈ l₀.tail :: ls) := by
    intro l hx
    obtain ⟨k, hk⟩ := hx
    rw [rawLines_drop_one hl]
    split
    · next he =>
      have : l ≠ [] := by intro e; subst e; exact not_isHeading_nil k hk
      simp [he, this]
    · rfl
  have hopened : openedAt level (Text.rawLines (t.drop 1)) = openedAt level (l₀.tail :: ls) := by
    rw [rawLines_drop_one hl]
    split
    · next he => rw [he, openedAt_cons_of_other (not_isHeading_nil level)]
    · rfl
  obtain ⟨l, hmem, hlevel⟩ := hleast.occurs
  have hleast' : LeastHeading 1 level (Text.rawLines (t.drop 1)) :=
    ⟨hleast.low_le, hleast.le_maxLevel, ⟨l, (hlines l ⟨_, hlevel⟩).2 hmem, hlevel⟩,
      fun k hk hlt l' hl' hh => hleast.least k hk hlt l' ((hlines l' ⟨k, hh⟩).1 hl') hh⟩
  cases hp : Section.ofPage (t.drop 1) with
  | nil =>
    exact absurd ⟨level, hleast.le_maxLevel, hleast.low_le, hlevel⟩
      (Section.ofPage_eq_nil_iff.1 hp l ((hlines l ⟨_, hlevel⟩).2 hmem))
  | cons s ss =>
    refine ⟨s, ss, rfl, ?_⟩
    rw [← hopened]
    exact openedAt_of_ofPage hp hleast'

/-- A page with several sections has a heading of their level after its first line. -/
theorem exists_heading_tail {t l₀ : Text} {ls : List Text} (hl : t.rawLines = l₀ :: ls)
    {s u : Section} {ss : List Section} (h : Section.ofPage t = s :: u :: ss) {level : Nat}
    (hlevel : LeastHeading 1 level t.rawLines) : ∃ l ∈ ls, IsHeading level l := by
  by_contra hno
  push Not at hno
  have hlen := congrArg List.length (Section.map_ofPage hlevel)
  rw [h, hl] at hlen
  by_cases hh : IsHeading level l₀
  · rw [outline_cons_of_heading hh, outline_eq_nil_iff.2 hno] at hlen
    simp at hlen
  · rw [outline_cons_of_other hh, outline_eq_nil_iff.2 hno] at hlen
    simp at hlen

/-! ## Four kinds of first lines -/

section
variable {t l₀ : Text} {ls : List Text} {level : Nat}

/-- A heading of level 1 is no heading without its hash sign: the other lines are left. -/
theorem openedAt_lost (hl : t.rawLines = l₀ :: ls) (h : IsHeading 1 l₀)
    (hls : ∃ l ∈ ls, IsHeading 1 l) :
    ∃ s ss, Section.ofPage (t.drop 1) = s :: ss ∧ openedAt 1 ls = some (s.name, s.body) := by
  obtain ⟨l, hmem, hlh⟩ := hls
  have hup := (Heading.isHeading_tail h).1
  have hno : ¬ IsHeading 1 l₀.tail := fun hh => by have := hh.unique hup; omega
  rw [← openedAt_cons_of_other hno]
  exact openedAt_of_drop_one hl
    ⟨Nat.le_refl 1, by decide, ⟨l, List.mem_cons_of_mem _ hmem, hlh⟩, fun k hk hlt => by omega⟩

/-- A deeper heading is one level higher, above all others, and opens the same section. -/
theorem openedAt_raised (hl : t.rawLines = l₀ :: ls)
    (hlevel : LeastHeading 1 (level + 1) t.rawLines) (hone : 1 ≤ level)
    (h : IsHeading (level + 1) l₀) :
    ∃ s ss, Section.ofPage (t.drop 1) = s :: ss ∧
      openedAt (level + 1) t.rawLines = some (s.name, s.body) := by
  obtain ⟨hup, htitle⟩ := Heading.isHeading_tail h
  have h7 := hlevel.le_maxLevel
  rw [hl, openedAt_cons_of_heading h, ← htitle, ← openedAt_cons_of_heading hup]
  refine openedAt_of_drop_one hl
    ⟨hone, by omega, ⟨_, List.mem_cons_self .., hup⟩, fun k hk hlt l hmem hh => ?_⟩
  rcases List.mem_cons.1 hmem with rfl | hmem
  · have := hh.unique hup; omega
  · exact hlevel.least k hk (by omega) l (hl ▸ List.mem_cons_of_mem _ hmem) hh

/-- A heading that is uncovered on the first line, and that no other heading is above, opens the
page. -/
theorem openedAt_uncovered (hl : t.rawLines = l₀ :: ls) (hlevel : LeastHeading 1 level t.rawLines)
    {k : Nat} (hk1 : 1 ≤ k) (hk : k ≤ level) (h : IsHeading k l₀.tail) :
    ∃ s ss, Section.ofPage (t.drop 1) = s :: ss ∧
      openedAt k (l₀.tail :: ls) = some (s.name, s.body) := by
  have h7 := hlevel.le_maxLevel
  refine openedAt_of_drop_one hl
    ⟨hk1, by omega, ⟨_, List.mem_cons_self .., h⟩, fun j hj hlt l hmem hh => ?_⟩
  rcases List.mem_cons.1 hmem with rfl | hmem
  · have := hh.unique h; omega
  · exact hlevel.least j hj (by omega) l (hl ▸ List.mem_cons_of_mem _ hmem) hh

/-- Any other first line makes no difference. -/
theorem openedAt_unchanged (hl : t.rawLines = l₀ :: ls) (hlevel : LeastHeading 1 level t.rawLines)
    (h : ¬ IsHeading level l₀) (hno : ∀ k, 1 ≤ k → k ≤ level → ¬ IsHeading k l₀.tail) :
    ∃ s ss, Section.ofPage (t.drop 1) = s :: ss ∧
      openedAt level t.rawLines = some (s.name, s.body) := by
  obtain ⟨l, hmem, hlh⟩ := hlevel.occurs
  have hmem : l ∈ ls := by
    rw [hl] at hmem
    rcases List.mem_cons.1 hmem with rfl | hmem
    · exact absurd hlh h
    · exact hmem
  have h1 := hlevel.low_le
  rw [hl, openedAt_cons_of_other h, ← openedAt_cons_of_other (hno level h1 (Nat.le_refl _))]
  refine openedAt_of_drop_one hl
    ⟨h1, hlevel.le_maxLevel, ⟨l, List.mem_cons_of_mem _ hmem, hlh⟩, fun k hk hlt l' hl' => ?_⟩
  rcases List.mem_cons.1 hl' with rfl | hl'
  · exact hno k hk (by omega)
  · exact hlevel.least k hk hlt l' (hl ▸ List.mem_cons_of_mem _ hl')

end

/-! ## Resolution -/

/-- The name and body of the section that a page opens with once its first character is gone,
where that need not be its first section. -/
inductive Displaced (t : Text) : Text → Text → Prop where
  /-- The page starts with a heading of level 1, which is lost. -/
  | lost {l₀ : Text} {ls : List Text} {name body : Text} : t.rawLines = l₀ :: ls →
      IsHeading 1 l₀ → openedAt 1 ls = some (name, body) → Displaced t name body
  /-- The first line is no heading of the least level, but without its first character it is a
  heading that is no deeper. -/
  | uncovered {l₀ : Text} {ls : List Text} {level k : Nat} {name body : Text} :
      t.rawLines = l₀ :: ls → LeastHeading 1 level t.rawLines → ¬ IsHeading level l₀ → 1 ≤ k →
      k ≤ level → IsHeading k l₀.tail → openedAt k (l₀.tail :: ls) = some (name, body) →
      Displaced t name body

/-- What opens the lines is the name and body of the first section. -/
theorem opens_as {ss : List Section} {o : Option (Text × Text)} {name body : Text}
    (h : ∃ u us, ss = u :: us ∧ o = some (u.name, u.body)) (ho : o = some (name, body)) :
    ∃ u us, ss = u :: us ∧ u.name = name ∧ u.body = body := by
  obtain ⟨u, us, hss, hu⟩ := h
  cases hu.symm.trans ho
  exact ⟨u, us, hss, rfl, rfl⟩

/-- A heading of level 1 makes 1 the least level. -/
theorem LeastHeading.eq_one {level : Nat} {l : Text} {ls : List Text}
    (h : LeastHeading 1 level ls) (hl : l ∈ ls) (hone : IsHeading 1 l) : level = 1 := by
  have h1 := h.low_le
  have : ¬ 1 < level := fun hlt => h.least 1 (Nat.le_refl 1) hlt l hl hone
  omega

section
variable {t : Text} {first second : Section} {ss : List Section}

/-- A page with several sections whose first section is displaced opens with what displaces it. -/
theorem opens_displaced (h : Section.ofPage t = first :: second :: ss) {name body : Text}
    (hd : Displaced t name body) :
    ∃ s ss', Section.ofPage (t.drop 1) = s :: ss' ∧ s.name = name ∧ s.body = body := by
  cases hd with
  | lost hl hone hopen =>
    obtain ⟨level, hlevel⟩ := Section.exists_leastHeading (h ▸ List.cons_ne_nil _ _)
    have htail := exists_heading_tail hl h hlevel
    obtain rfl := hlevel.eq_one (hl ▸ List.mem_cons_self ..) hone
    exact opens_as (openedAt_lost hl hone htail) hopen
  | uncovered hl hlevel hno hk1 hk hh hopen =>
    exact opens_as (openedAt_uncovered hl hlevel hk1 hk hh) hopen

/-- A page with several sections whose first section is not displaced opens with it. -/
theorem opens_first (h : Section.ofPage t = first :: second :: ss)
    (hno : ∀ name body, ¬ Displaced t name body) :
    ∃ s ss', Section.ofPage (t.drop 1) = s :: ss' ∧ s.name = first.name ∧
      s.body = first.body := by
  obtain ⟨level, hlevel⟩ := Section.exists_leastHeading (h ▸ List.cons_ne_nil _ _)
  obtain ⟨l₀, ls, hl⟩ : ∃ l₀ ls, t.rawLines = l₀ :: ls := by
    obtain ⟨l, hmem, -⟩ := hlevel.occurs
    exact List.exists_cons_of_ne_nil (List.ne_nil_of_mem hmem)
  have htail := exists_heading_tail hl h hlevel
  have hfirst := openedAt_of_ofPage h hlevel
  have hone : ¬ IsHeading 1 l₀ := by
    intro hone
    obtain rfl := hlevel.eq_one (hl ▸ List.mem_cons_self ..) hone
    obtain ⟨u, us, hu, hopen⟩ := openedAt_lost hl hone htail
    exact hno _ _ (.lost hl hone hopen)
  by_cases hh : IsHeading level l₀
  · have h1 := hlevel.low_le
    have hne : level ≠ 1 := by intro e; subst e; exact hone hh
    obtain ⟨k, rfl⟩ : ∃ k, level = k + 1 := ⟨level - 1, by omega⟩
    exact opens_as (openedAt_raised hl hlevel (by omega) hh) hfirst
  · refine opens_as (openedAt_unchanged hl hlevel hh fun k hk1 hk hup => ?_) hfirst
    obtain ⟨u, us, hu, hopen⟩ := openedAt_uncovered hl hlevel hk1 hk hup
    exact hno _ _ (.uncovered hl hlevel hh hk1 hk hup hopen)

/-- Without its first character a page with several sections has a first section: the displaced
one if there is one, else the one it had. -/
theorem reread (h : Section.ofPage t = first :: second :: ss) :
    ∃ s ss', Section.ofPage (t.drop 1) = s :: ss' ∧
      (∀ name body, Displaced t name body → s.name = name ∧ s.body = body) ∧
      ((∀ name body, ¬ Displaced t name body) → s.name = first.name ∧ s.body = first.body) := by
  have hopens : ∃ s ss', Section.ofPage (t.drop 1) = s :: ss' := by
    by_cases hd : ∃ name body, Displaced t name body
    · obtain ⟨name, body, hd⟩ := hd
      obtain ⟨s, ss', hs, -⟩ := opens_displaced h hd
      exact ⟨s, ss', hs⟩
    · obtain ⟨s, ss', hs, -⟩ := opens_first h fun name body hd' => hd ⟨name, body, hd'⟩
      exact ⟨s, ss', hs⟩
  obtain ⟨s, ss', hs⟩ := hopens
  refine ⟨s, ss', hs, fun name body hd => ?_, fun hno => ?_⟩
  · obtain ⟨u, us, hu, hname⟩ := opens_displaced h hd
    obtain ⟨rfl, -⟩ := List.cons.inj (hs.symm.trans hu)
    exact hname
  · obtain ⟨u, us, hu, hname⟩ := opens_first h hno
    obtain ⟨rfl, -⟩ := List.cons.inj (hs.symm.trans hu)
    exact hname

end

section
variable {m : Type → Type} [Monad m]

/-- The text that is read for a function in the end: its page, or the one that this forwards to. -/
def finalPage (src : PageSource m) (function : Text) : ExceptT Fault m Text := do
  let page ← src.fetch function
  match Section.ofPage page with
  | [] =>
    match Redirect.target? page with
    | none => throw (.unresolved function)
    | some target =>
      src.note (.redirected function target)
      src.fetch target
  | _ :: _ => pure page

theorem settle_of_single (src : PageSource m) (function : Text) {t : Text} {s : Section}
    (h : Section.ofPage t = [s]) : settle src function t = pure s := by
  simp [settle, h]

variable [LawfulMonad m]

theorem resolve_eq (src : PageSource m) (function : Text) :
    resolve src function = finalPage src function >>= settle src function := by
  unfold resolve finalPage
  rw [bind_assoc]
  congr 1
  funext page
  cases Section.ofPage page with
  | nil =>
    cases Redirect.target? page with
    | none => exact (ExceptT.bind_throw _).symm
    | some target => simp only [bind_assoc]
  | cons s ss => simp only [pure_bind]

theorem settle_of_several (src : PageSource m) (function : Text) {t : Text}
    {first second s : Section} {ss ss' : List Section}
    (h : Section.ofPage t = first :: second :: ss) (hs : Section.ofPage (t.drop 1) = s :: ss') :
    settle src function t = (do
      src.noteAll [.releveled function (first :: second :: ss).length]
      pure s) := by
  simp only [settle, h, hs, PageSource.noteAll, bind_pure_unit]

/-- A page with one section is all that is read. -/
theorem resolve_of_single {src : PageSource m} {function t : Text} {root : Section}
    (hread : src.read function = pure (.ok t)) (h : Section.ofPage t = [root]) :
    resolve src function = (do src.note (.reading function); pure root) := by
  have hfetch : src.fetch function = (do src.note (.reading function); pure t) := by
    rw [PageSource.fetch, hread]
    rfl
  rw [resolve_eq, finalPage, hfetch]
  simp only [bind_assoc, pure_bind, h, settle_of_single src function h]

/-- What a function resolves to, once a page with headings is found: the first section of that
page, or of the page without its first character. The two differ in name or body only where the
page has several sections and one of them is displaced. -/
theorem resolve_keeps_first_iff (src : PageSource m) (function : Text) :
    resolve src function = finalPage src function >>= settle src function ∧
    ∀ (t : Text) (first : Section) (rest : List Section), Section.ofPage t = first :: rest →
      ∃ (s : Section) (notes : List Event),
        settle src function t = (do src.noteAll notes; pure s) ∧
        (rest = [] → s = first) ∧
        (rest ≠ [] → ∀ name body, Displaced t name body → s.name = name ∧ s.body = body) ∧
        ((s.name = first.name ∧ s.body = first.body) ↔
          (rest = [] ∨
            ∀ name body, Displaced t name body → name = first.name ∧ body = first.body)) := by
  refine ⟨resolve_eq src function, fun t first rest h => ?_⟩
  cases rest with
  | nil =>
    refine ⟨first, [], ?_, fun _ => rfl, fun hne => absurd rfl hne, by simp⟩
    rw [settle_of_single src function h, PageSource.noteAll, liftM_pure, pure_bind]
  | cons second ss =>
    obtain ⟨s, ss', hs, hdisplaced, hkept⟩ := reread h
    refine ⟨s, [.releveled function (first :: second :: ss).length],
      settle_of_several src function h hs, fun he => absurd he (List.cons_ne_nil _ _),
      fun _ => hdisplaced, ?_, ?_⟩
    · intro hx
      obtain ⟨hname, hbody⟩ := hx
      refine Or.inr fun name body hd => ?_
      obtain ⟨rfl, rfl⟩ := hdisplaced name body hd
      exact ⟨hname, hbody⟩
    · intro hx
      rcases hx with he | hall
      · cases he
      · by_cases hd : ∃ name body, Displaced t name body
        · obtain ⟨name, body, hd⟩ := hd
          obtain ⟨rfl, rfl⟩ := hdisplaced name body hd
          exact hall _ _ hd
        · exact hkept fun name body h => hd ⟨name, body, h⟩

end

/-- Of two sections at level 1 the second is found. -/
theorem settle_two :
    ∃ (s : Section) (notes : List Event),
      settle (PageSource.ofPages fun _ => .ok "# a\nx\n# b\ny\n") "f" "# a\nx\n# b\ny\n" =
        (do (PageSource.ofPages fun _ => .ok "# a\nx\n# b\ny\n").noteAll notes; pure s) ∧
      s.name = "b" ∧ s.body = "y\n" := by
  have hne : Section.ofPage "# a\nx\n# b\ny\n" ≠ [] := List.ne_nil_of_length_pos (by decide)
  obtain ⟨s, notes, hs, -, hd, -⟩ :=
    (resolve_keeps_first_iff (PageSource.ofPages fun _ => .ok "# a\nx\n# b\ny\n") "f").2
      "# a\nx\n# b\ny\n" _ _ (List.cons_head_tail hne).symm
  exact ⟨s, notes, hs,
    hd (List.ne_nil_of_length_pos (by decide)) _ _ (.lost rfl (by decide) rfl)⟩

/-- The first section of this page is named `a`, and the function resolves to the one named `b`. -/
theorem resolve_loses_first :
    (Section.ofPage "# a\nx\n# b\ny\n").head?.map (fun s => (s.name, s.body)) =
        some (("a" : Text), ("x\n" : Text)) ∧
      (Noting.fromStart (resolve (.ofPages fun _ => .ok "# a\nx\n# b\ny\n") "f").run).1.map
        (fun s => (s.name, s.body)) = .ok (("b" : Text), ("y\n" : Text)) :=
  ⟨rfl, rfl⟩

end WikiStubs
