import WikiStubs.Proofs.Bullet
import WikiStubs.Proofs.Call
import WikiStubs.Proofs.Heading
import WikiStubs.Proofs.Section.Outline

/-!
# Pages of functions

The usual layout of a page that documents one function: a heading with the name of the function,
the call in inline code, a bullet for each parameter and for each return value under a heading of
its own, and the description at the end. Any number of empty lines may stand between the parts.

Such a page has one section (`FunctionPage.exists_section`), which has the call in its body and
the three other parts as subsections.
-/
namespace WikiStubs

/-- How many empty lines stand after each part of a page. -/
structure Spacing where
  afterTitle : Nat
  afterCall : Nat
  afterParametersHeading : Nat
  afterParameters : Nat
  afterReturnsHeading : Nat
  afterReturns : Nat
  afterDescriptionHeading : Nat
  afterDescription : Nat

/-- What the page of a function says. -/
structure FunctionPage extends Declaration where
  describe : Text → Text
  description : Text

namespace FunctionPage

def vars (p : FunctionPage) : List Text := p.params.map (·.name) ++ p.returns

def blanks (n : Nat) : List Text := List.replicate n []

def lead (p : FunctionPage) (s : Spacing) : List Text :=
  blanks s.afterTitle ++ (Call.tick :: (p.code ++ [Call.tick])) :: blanks s.afterCall

/-- The bullets of some variables, with empty lines around them. -/
def bullets (p : FunctionPage) (before after : Nat) (vs : List Text) : List Text :=
  blanks before ++ vs.map (fun v => Bullet.written v (p.describe v)) ++ blanks after

/-- The headings of the three parts under the call. -/
def parametersHeading : Text := "## Parameters"
@[inherit_doc parametersHeading] def returnsHeading : Text := "## Returns"
@[inherit_doc parametersHeading] def descriptionHeading : Text := "## Description"

/-- The lines before the description, without their line feeds. -/
def lines (p : FunctionPage) (s : Spacing) : List Text :=
  (['#', ' '] ++ p.name) :: (p.lead s ++
    parametersHeading ::
      (p.bullets s.afterParametersHeading s.afterParameters (p.params.map (·.name)) ++
    returnsHeading :: (p.bullets s.afterReturnsHeading s.afterReturns p.returns ++
    descriptionHeading :: blanks s.afterDescriptionHeading)))

def text (p : FunctionPage) (s : Spacing) : Text :=
  (p.lines s).flatMap (· ++ ['\n']) ++
    (p.description ++ List.replicate s.afterDescription '\n')

/-- Nothing on the page is corrected, and every part is kept as it is. -/
structure Valid (p : FunctionPage) : Prop extends p.toDeclaration.Valid where
  notCorrected : p.name ∉ (["keyp", "vbank", "exit", "reset"] : List Text)
  distinct : (p.params.map (·.name)).Nodup
  notExtra : ("bool" : Text) ∉ p.vars
  notSplit : ("x_y" : Text) ∉ p.vars
  plain : ∀ v ∈ p.vars, IsPlain (p.describe v)
  trimmed : p.description.trim = p.description
  noHeading : ∀ l ∈ p.description.rawLines, ¬ IsHeadingFrom 1 l
  noLink : ¬ linkMiddle <:+: p.description

variable {p : FunctionPage}

theorem Valid.isIdentifier (h : p.Valid) {v : Text} (hv : v ∈ p.vars) : IsIdentifier v := by
  rcases List.mem_append.1 hv with hv | hv
  · obtain ⟨a, ha, rfl⟩ := List.mem_map.1 hv
    exact (h.params a ha).name
  · exact h.returns v hv

/-! ## Lines -/

theorem mem_bullets {before after : Nat} {vs : List Text} {l : Text}
    (hl : l ∈ p.bullets before after vs) :
    l = [] ∨ ∃ v ∈ vs, l = Bullet.written v (p.describe v) := by
  simp only [bullets, blanks, List.mem_append, List.mem_replicate, List.mem_map] at hl
  rcases hl with (⟨-, rfl⟩ | ⟨v, hv, rfl⟩) | ⟨-, rfl⟩
  · exact Or.inl rfl
  · exact Or.inr ⟨v, hv, rfl⟩
  · exact Or.inl rfl

theorem mem_lead {s : Spacing} {l : Text} (hl : l ∈ p.lead s) :
    l = [] ∨ l = Call.tick :: (p.code ++ [Call.tick]) := by
  simp only [lead, blanks, List.mem_append, List.mem_replicate, List.mem_cons] at hl
  rcases hl with ⟨-, rfl⟩ | rfl | ⟨-, rfl⟩
  · exact Or.inl rfl
  · exact Or.inr rfl
  · exact Or.inl rfl

theorem lineFeed_not_mem_code (h : p.Valid) : '\n' ∉ p.code := by
  have hname : '\n' ∉ p.name := h.name.not_mem (by decide)
  have hargs := Declaration.not_mem_args h.toValid (c := '\n') (by decide) (by decide)
  have htail := Declaration.not_mem_tail h.toValid (c := '\n') (by decide) (by decide)
  simp [Declaration.code, hname, hargs, htail]

theorem lineFeed_not_mem_written (h : p.Valid) {v : Text} (hv : v ∈ p.vars) :
    '\n' ∉ Bullet.written v (p.describe v) := by
  have hname : '\n' ∉ v := (h.isIdentifier hv).not_mem (by decide)
  have hline := (h.plain v hv).oneLine
  simp [Bullet.written, Bullet.middle, hname, hline]

theorem lineFeed_not_mem_bullets (h : p.Valid) (before after : Nat) {vs : List Text}
    (hvs : ∀ v ∈ vs, v ∈ p.vars) : ∀ l ∈ p.bullets before after vs, '\n' ∉ l := by
  intro l hl
  rcases mem_bullets hl with rfl | ⟨v, hv, rfl⟩
  · simp
  · exact lineFeed_not_mem_written h (hvs v hv)

theorem lineFeed_not_mem_lines (h : p.Valid) (s : Spacing) : ∀ l ∈ p.lines s, '\n' ∉ l := by
  have hname : '\n' ∉ p.name := h.name.not_mem (by decide)
  intro l hl
  simp only [lines, List.mem_cons, List.mem_append] at hl
  rcases hl with rfl | hl | rfl | hl | rfl | hl | rfl | hl
  · simp [hname]
  · rcases mem_lead hl with rfl | rfl
    · simp
    · have := lineFeed_not_mem_code h
      simp [this, Call.tick]
  · decide
  · exact lineFeed_not_mem_bullets h _ _ (fun v hv => List.mem_append_left _ hv) l hl
  · decide
  · exact lineFeed_not_mem_bullets h _ _ (fun v hv => List.mem_append_right _ hv) l hl
  · decide
  · rw [(List.mem_replicate.1 hl).2]
    simp

def lastLines (p : FunctionPage) (s : Spacing) : List Text :=
  (blanks s.afterDescriptionHeading).map (· ++ ['\n']) ++
    Text.rawLines (p.description ++ List.replicate s.afterDescription '\n')

theorem rawLines_text (h : p.Valid) (s : Spacing) :
    (p.text s).rawLines = (['#', ' '] ++ p.name ++ ['\n']) ::
      ((p.lead s).map (· ++ ['\n']) ++ (parametersHeading ++ ['\n']) ::
        ((p.bullets s.afterParametersHeading s.afterParameters (p.params.map (·.name))).map
          (· ++ ['\n']) ++ (returnsHeading ++ ['\n']) ::
        ((p.bullets s.afterReturnsHeading s.afterReturns p.returns).map (· ++ ['\n']) ++
          (descriptionHeading ++ ['\n']) :: p.lastLines s))) := by
  rw [text, Text.rawLines_flatMap (lineFeed_not_mem_lines h s), lines, lastLines]
  simp only [List.map_cons, List.map_append, List.cons_append, List.append_assoc]

/-! ## Headings -/

theorem not_isHeadingFrom_lead (p : FunctionPage) (s : Spacing) :
    ∀ l ∈ (p.lead s).map (· ++ ['\n']), ¬ IsHeadingFrom 1 l := by
  intro l hl
  obtain ⟨k, hk, rfl⟩ := List.mem_map.1 hl
  refine not_isHeadingFrom_of_head (Nat.le_refl 1) ?_
  rcases mem_lead hk with rfl | rfl
  · decide
  · simp [Call.tick]

theorem not_isHeadingFrom_bullets (p : FunctionPage) (before after : Nat) (vs : List Text) :
    ∀ l ∈ (p.bullets before after vs).map (· ++ ['\n']), ¬ IsHeadingFrom 1 l := by
  intro l hl
  obtain ⟨k, hk, rfl⟩ := List.mem_map.1 hl
  refine not_isHeadingFrom_of_head (Nat.le_refl 1) ?_
  rcases mem_bullets hk with rfl | ⟨v, -, rfl⟩
  · decide
  · simp [Bullet.written]

/-- Line feeds at the end of a text without headings make no heading. -/
theorem not_isHeadingFrom_append {low n : Nat} {t : Text}
    (h : ∀ l ∈ t.rawLines, ¬ IsHeadingFrom low l) :
    ∀ l ∈ Text.rawLines (t ++ List.replicate n '\n'), ¬ IsHeadingFrom low l := by
  induction n with
  | zero => simpa using h
  | succ n ih =>
    intro l hl
    rw [List.replicate_succ', ← List.append_assoc] at hl
    obtain ⟨k, hk, hlk⟩ := (Text.ends_append_lineFeed _).exists_of_mem hl
    intro hx
    obtain ⟨level, h7, hle, hh⟩ := hx
    have hh : IsHeading level k := by
      rcases hlk with rfl | rfl
      · exact hh
      · exact isHeading_append_lineFeed.1 hh
    rcases hk with rfl | hk
    · exact not_isHeading_nil level hh
    · exact ih k hk ⟨level, h7, hle, hh⟩

theorem not_isHeadingFrom_lastLines (h : p.Valid) (s : Spacing) :
    ∀ l ∈ p.lastLines s, ¬ IsHeadingFrom 1 l := by
  intro l hl
  rcases List.mem_append.1 hl with hl | hl
  · obtain ⟨k, hk, rfl⟩ := List.mem_map.1 hl
    rw [(List.mem_replicate.1 hk).2]
    exact not_isHeadingFrom_of_head (Nat.le_refl 1) (by decide)
  · exact not_isHeadingFrom_append h.noHeading l hl

/-- The heading of an identifier is named by it. -/
theorem isHeading_title {name : Text} (h : IsIdentifier name) :
    IsHeading 1 (['#', ' '] ++ name ++ ['\n']) ∧
      Heading.nameOf (Heading.title (['#', ' '] ++ name ++ ['\n'])) = name := by
  have hgap : Heading.IsGap [' '] := ⟨by simp, by simp⟩
  have htitle : Heading.IsTitle name := ⟨h.1, h.not_mem (by decide),
    Text.trimBy_of_none fun c hc => isBlank_of_isIdentifierChar (h.2 c hc)⟩
  exact Heading.isHeading_written 1 hgap htitle

/-- The parts of a page: what its subsections are called, and what they hold. -/
def parts (p : FunctionPage) (s : Spacing) : List (Text × Text) :=
  [("Parameters", ((p.bullets s.afterParametersHeading s.afterParameters
      (p.params.map (·.name))).map (· ++ ['\n'])).flatten),
    ("Returns", ((p.bullets s.afterReturnsHeading s.afterReturns p.returns).map
      (· ++ ['\n'])).flatten),
    ("Description", (p.lastLines s).flatten)]

/-- What follows the title has a heading of level 2 for each part, and none above. -/
theorem outline_parts (h : p.Valid) (s : Spacing) {ls ps rs : List Text}
    (hls : ∀ l ∈ ls, ¬ IsHeadingFrom 1 l) (hps : ∀ l ∈ ps, ¬ IsHeadingFrom 1 l)
    (hrs : ∀ l ∈ rs, ¬ IsHeadingFrom 1 l) :
    let rest := ls ++ (parametersHeading ++ ['\n']) :: (ps ++ (returnsHeading ++ ['\n']) ::
      (rs ++ (descriptionHeading ++ ['\n']) :: p.lastLines s))
    (∀ l ∈ rest, ¬ IsHeading 1 l) ∧ LeastHeading 2 2 rest ∧ outline 2 rest =
      [(("Parameters" : Text), ps.flatten), (("Returns" : Text), rs.flatten),
        (("Description" : Text), (p.lastLines s).flatten)] := by
  have hds := not_isHeadingFrom_lastLines h s
  have hnone : ∀ {l : Text}, ¬ IsHeadingFrom 1 l → ¬ IsHeading 1 l := fun hno hh =>
    hno ⟨1, by decide, by decide, hh⟩
  refine ⟨fun l hl => ?_, ⟨by decide, by decide, ⟨parametersHeading ++ ['\n'],
    List.mem_append_right _ (List.mem_cons_self ..), by decide⟩, fun k hk hlt => by omega⟩, ?_⟩
  · simp only [List.mem_append, List.mem_cons] at hl
    rcases hl with hl | rfl | hl | rfl | hl | rfl | hl
    · exact hnone (hls l hl)
    · decide
    · exact hnone (hps l hl)
    · decide
    · exact hnone (hrs l hl)
    · decide
    · exact hnone (hds l hl)
  · have hlast : outline 2 ((descriptionHeading ++ ['\n']) :: (p.lastLines s ++ [])) =
        [(("Description" : Text), (p.lastLines s).flatten)] :=
      outline_block (by decide) (by decide) (by decide) hds (by simp)
    rw [List.append_nil] at hlast
    rw [outline_append_of_none fun l hl hh => hls l hl ⟨2, by decide, by decide, hh⟩,
      outline_block (by decide) (by decide) (by decide) hps ?_,
      outline_block (by decide) (by decide) (by decide) hrs ?_, hlast]
    · rfl
    · intro k hx
      obtain ⟨rfl⟩ := hx
      decide
    · intro k hx
      obtain ⟨rfl⟩ := hx
      decide

/-- A page has one section, with the call in its body and the other parts as subsections. -/
theorem exists_section (h : p.Valid) (s : Spacing) :
    ∃ root, Section.ofPage (p.text s) = [root] ∧ root.name = p.name ∧
      root.body = ((p.lead s).map (· ++ ['\n'])).flatten ∧
      root.subsections.map (fun u => (u.name, u.body)) = p.parts s := by
  have hlead := not_isHeadingFrom_lead p s
  obtain ⟨hone, hlevel, houtline⟩ := outline_parts h s hlead
    (not_isHeadingFrom_bullets p s.afterParametersHeading s.afterParameters
      (p.params.map (·.name)))
    (not_isHeadingFrom_bullets p s.afterReturnsHeading s.afterReturns p.returns)
  obtain ⟨hhead, hname⟩ := isHeading_title h.name
  have hnames : ((p.parts s).map (·.1)).Nodup := by
    simp only [parts, List.map_cons, List.map_nil]
    decide
  obtain ⟨root, hpage, hroot, hbody, hsub⟩ := Section.ofPage_of_single (rawLines_text h s) hhead
    hone hlevel (houtline ▸ hnames)
  refine ⟨root, hpage, hroot.trans hname, ?_, hsub.trans houtline⟩
  rw [hbody, takeWhile_block hlead]
  intro k hx
  obtain ⟨rfl⟩ := hx
  decide

end FunctionPage
end WikiStubs
