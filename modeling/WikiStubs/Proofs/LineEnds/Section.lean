import WikiStubs.Proofs.LineEnds.Text
import WikiStubs.Proofs.Resolve.Outcome

/-!
# Sections under other line ends

A page with a carriage return before every line feed has the same headings, and so the same tree
of sections, of the same names; only their bodies have the other line ends, and their spans differ
(`Recoded`). It forwards to the same page, and its second reading without the first character
finds the same section, although that character is another one when the page starts with an empty
line. A function is resolved in the same way (`Resolves.crlf`).
-/
namespace WikiStubs

open Text

/-! ## Lines -/

namespace Heading

theorem nameOf_return {t : Text} (h : '\r' ∉ t) : nameOf (t ++ ['\r']) = nameOf t := by
  rw [nameOf, nameOf, dropFinal_of_not_mem h, dropFinal, if_pos (by simp), List.dropLast_concat]

/-- A carriage return at the end of a line changes neither level nor name of a heading. -/
theorem ofLine?_return {k : Text} (h : '\r' ∉ k) :
    ofLine? (k ++ ['\r', '\n']) = ofLine? (k ++ ['\n']) := by
  have hbody : dropFinal '\n' (k ++ ['\r', '\n']) = k ++ ['\r'] := by simp [dropFinal]
  have hbody' : dropFinal '\n' (k ++ ['\n']) = k := by simp [dropFinal]
  have htitle : '\r' ∉ (k.dropWhile (· == '#')).dropWhile isGap := fun hmem =>
    h ((List.dropWhile_sublist _).subset ((List.dropWhile_sublist _).subset hmem))
  have hhash : ('\r' == '#') = false := rfl
  have hgap : isGap '\r' = false := rfl
  unfold ofLine?
  simp only [hbody, hbody', takeWhile_concat (p := (· == '#')) hhash,
    dropWhile_concat (p := (· == '#')) hhash, dropWhile_concat hgap, nameOf_return htitle,
    List.length_append, List.length_singleton, Nat.add_lt_add_iff_right]
  cases (k.dropWhile (· == '#')).dropWhile isGap with
  | nil => simp [show isBlank '\r' = true from rfl]
  | cons c t => rfl

theorem ofLine?_crlf {l : Text} (h : IsLine l) : ofLine? (crlf l) = ofLine? l := by
  rcases h.crlf_eq with ⟨k, rfl, hk, hcrlf⟩ | ⟨-, hcrlf⟩
  · rw [hcrlf, ofLine?_return hk]
  · rw [hcrlf]

end Heading

/-- A line, and the same line with a carriage return at its end, perhaps at another offset. -/
structure Line.Recoded (l l' : Line) : Prop where
  text : l'.text = crlf l.text
  isLine : IsLine l.text

namespace Line.Recoded

variable {l l' : Line} {ls ls' : List Line}

theorem nameAt? (h : Line.Recoded l l') (level : Nat) : l'.nameAt? level = l.nameAt? level := by
  rw [Line.nameAt?, h.text, Heading.ofLine?_crlf h.isLine, Line.nameAt?]

theorem isDeeper (h : Line.Recoded l l') (level : Nat) : l'.isDeeper level = l.isDeeper level := by
  rw [Line.isDeeper, h.text, Heading.ofLine?_crlf h.isLine, Line.isDeeper]

theorem placeFrom {ts : List Text} (h : ∀ t ∈ ts, IsLine t) (offset offset' : Nat) :
    List.Forall₂ Line.Recoded (Line.placeFrom offset ts)
      (Line.placeFrom offset' (ts.map crlf)) := by
  induction ts generalizing offset offset' with
  | nil => exact .nil
  | cons t ts ih =>
    exact .cons ⟨rfl, h t (List.mem_cons_self ..)⟩
      (ih (fun u hu => h u (List.mem_cons_of_mem _ hu)) _ _)

theorem join (h : List.Forall₂ Line.Recoded ls ls') :
    Line.join ls' = crlf (Line.join ls) ∧ '\r' ∉ Line.join ls := by
  induction h with
  | nil => exact ⟨rfl, List.not_mem_nil⟩
  | cons hl _ ih =>
    rw [Line.join_cons, Line.join_cons, ih.1, hl.text, crlf_append, List.mem_append, not_or]
    exact ⟨rfl, hl.isLine.noReturn, ih.2⟩

theorem takeWhile (h : List.Forall₂ Line.Recoded ls ls') (level : Nat) :
    List.Forall₂ Line.Recoded (ls.takeWhile fun l => !l.isDeeper level)
      (ls'.takeWhile fun l => !l.isDeeper level) := by
  induction h with
  | nil => exact .nil
  | cons hl _ ih =>
    rw [List.takeWhile_cons, List.takeWhile_cons, hl.isDeeper]
    split
    · exact .cons hl ih
    · exact .nil

end Line.Recoded

/-! ## Sections -/

structure Extent.Recoded (x x' : Extent) : Prop where
  name : x'.name = x.name
  content : List.Forall₂ Line.Recoded x.content x'.content

namespace Extent

theorem recoded_cut {ls ls' : List Line} (h : List.Forall₂ Line.Recoded ls ls') (level : Nat) :
    List.Forall₂ Line.Recoded (cut level ls).1 (cut level ls').1 ∧
      List.Forall₂ Extent.Recoded (cut level ls).2 (cut level ls').2 := by
  induction h with
  | nil => exact ⟨.nil, .nil⟩
  | cons hl _ ih =>
    simp only [cut, hl.nameAt?]
    split
    · exact ⟨.nil, .cons ⟨rfl, ih.1⟩ ih.2⟩
    · exact ⟨.cons hl ih.1, ih.2⟩

theorem Recoded.body {x x' : Extent} (h : x.Recoded x') (level : Nat) :
    x'.body level = crlf (x.body level) ∧ '\r' ∉ x.body level :=
  Line.Recoded.join (Line.Recoded.takeWhile h.content level)

end Extent

inductive Section.Recoded : Section → Section → Prop where
  | mk {s s' : Section} (name : s'.name = s.name) (body : s'.body = crlf s.body)
      (noReturn : '\r' ∉ s.body) (subsections : List.Forall₂ Recoded s.subsections s'.subsections) :
      Recoded s s'

namespace Section

variable {s s' : Section} {ss ss' : List Section}

namespace Recoded

theorem name (h : s.Recoded s') : s'.name = s.name := by cases h with | mk name => exact name

theorem body (h : s.Recoded s') : s'.body = crlf s.body := by cases h with | mk _ body => exact body

theorem noReturn (h : s.Recoded s') : '\r' ∉ s.body := by
  cases h with | mk _ _ noReturn => exact noReturn

theorem subsections (h : s.Recoded s') : List.Forall₂ Recoded s.subsections s'.subsections := by
  cases h with | mk _ _ _ subsections => exact subsections

theorem put (hs : s.Recoded s') (h : List.Forall₂ Recoded ss ss') :
    List.Forall₂ Recoded (put s ss) (put s' ss') := by
  induction h with
  | nil => exact .cons hs .nil
  | cons hu hus ih =>
    rw [Section.put, Section.put, hu.name, hs.name]
    split
    · exact .cons hs hus
    · exact .cons hu ih

theorem keepLast (h : List.Forall₂ Recoded ss ss') :
    List.Forall₂ Recoded (keepLast ss) (keepLast ss') := by
  have hfold : ∀ acc acc' : List Section, List.Forall₂ Recoded acc acc' →
      List.Forall₂ Recoded (ss.foldl (fun acc s => Section.put s acc) acc)
        (ss'.foldl (fun acc s => Section.put s acc) acc') := by
    induction h with
    | nil => exact fun _ _ hacc => hacc
    | cons hu _ ih => exact fun _ _ hacc => ih _ _ (hu.put hacc)
  exact hfold [] [] .nil

/-- The subsection of a name is there under other line ends, too, or in neither case. -/
theorem subsection? (h : s.Recoded s') (name : Text) :
    Option.Rel Recoded (s.subsection? name) (s'.subsection? name) := by
  have hss := h.subsections
  unfold Section.subsection?
  generalize s.subsections = ss, s'.subsections = ss' at hss
  induction hss with
  | nil => exact .none
  | cons hu _ ih =>
    rw [List.find?_cons, List.find?_cons, hu.name]
    split
    · exact .some hu
    · exact ih

end Recoded

theorem recoded_within {ls ls' : List Line} (h : List.Forall₂ Line.Recoded ls ls') (depth : Nat) :
    List.Forall₂ Recoded (within depth ls) (within depth ls') := by
  induction depth generalizing ls ls' with
  | zero => exact .nil
  | succ depth ih =>
    have hcut := (Extent.recoded_cut h (maxLevel - depth)).2
    simp only [within]
    generalize (Extent.cut (maxLevel - depth) ls).2 = xs,
      (Extent.cut (maxLevel - depth) ls').2 = xs' at hcut
    cases hcut with
    | nil => exact ih h
    | cons hx hxs =>
      refine List.forall₂_map_left_iff.2 (List.forall₂_map_right_iff.2 ?_)
      exact (List.Forall₂.cons hx hxs).imp fun x x' hx => .mk hx.name (hx.body _).1 (hx.body _).2
        (Recoded.keepLast (ih hx.content))

/-- A first line that is no heading is in no section. -/
theorem within_cons_of_other {l : Line} (h : ∀ level, l.nameAt? level = none) (depth : Nat)
    (ls : List Line) : within depth (l :: ls) = within depth ls := by
  induction depth with
  | zero => rfl
  | succ depth ih => simp only [within, Extent.cut, h, ih]

theorem recoded_ofPage {t : Text} (h : '\r' ∉ t) :
    List.Forall₂ Recoded (ofPage t) (ofPage (crlf t)) := by
  rw [ofPage, ofText, Line.ofText, ofPage, ofText, Line.ofText, rawLines_crlf]
  exact recoded_within (Line.Recoded.placeFrom (fun l hl => isLine_of_mem_rawLines h hl) 0 0) _

/-- Without its first character a page has the same sections. When that character is a line feed,
the other page loses the carriage return before it and starts with a line more, which is empty. -/
theorem recoded_ofPage_drop_one {t : Text} (h : '\r' ∉ t) :
    List.Forall₂ Recoded (ofPage (t.drop 1)) (ofPage ((crlf t).drop 1)) := by
  cases t with
  | nil => exact .nil
  | cons c t =>
    have ht : '\r' ∉ t := fun hmem => h (List.mem_cons_of_mem _ hmem)
    by_cases hc : c = '\n'
    · subst hc
      have hblank : ∀ level, (⟨0, ['\n']⟩ : Line).nameAt? level = none := fun _ => rfl
      rw [crlf_lineFeed, List.drop_one, List.tail_cons, List.drop_one, List.tail_cons, ofPage,
        ofText, ofPage, ofText, Line.ofText, Line.ofText, rawLines_lineFeed, Line.placeFrom,
        within_cons_of_other hblank, rawLines_crlf]
      exact recoded_within (Line.Recoded.placeFrom (fun l hl => isLine_of_mem_rawLines ht hl) 0 _) _
    · rw [crlf_cons hc]
      exact recoded_ofPage ht

end Section

/-! ## Redirects -/

namespace Redirect

theorem untilLastParen?_concat (t : Text) : untilLastParen? (t ++ ['\r']) = untilLastParen? t := by
  have hsplit : splitAtLast? ')' (t ++ ['\r']) =
      (splitAtLast? ')' t).map (Prod.map id (· ++ ['\r'])) := by
    induction t with
    | nil => rfl
    | cons d t ih =>
      rw [List.cons_append, splitAtLast?, ih, splitAtLast?]
      cases splitAtLast? ')' t with
      | some parts => rfl
      | none => split <;> simp_all
  rw [untilLastParen?, hsplit, untilLastParen?]
  cases splitAtLast? ')' t with
  | none => rfl
  | some parts => obtain ⟨_ | ⟨c, target⟩, rest⟩ := parts <;> rfl

theorem after?_concat {mark : Text} (h : IsMark mark) (t : Text) :
    after? mark (t ++ ['\r']) = (after? mark t).map (· ++ ['\r']) := by
  obtain ⟨hne, hmark⟩ := h
  clear hne
  induction mark generalizing t with
  | nil => rfl
  | cons m mark ih =>
    obtain ⟨hr, -⟩ := hmark m (List.mem_cons_self ..)
    cases t with
    | nil =>
      rw [List.nil_append, show after? (m :: mark) ['\r'] = none from if_neg hr]
      rfl
    | cons c t =>
      rw [List.cons_append, after?, after?]
      split
      · exact ih t fun c hc => hmark c (List.mem_cons_of_mem _ hc)
      · rfl

theorem afterOpening?_concat (t : Text) : afterOpening? (t ++ ['\r']) = afterOpening? t := by
  induction t with
  | nil => rfl
  | cons c t ih =>
    have hparen : (fun u => untilLastParen? (u ++ ['\r'])) = untilLastParen? :=
      funext untilLastParen?_concat
    rw [List.cons_append, afterOpening?, ih, afterOpening?, after?_concat (by decide),
      Option.bind_map]
    simp only [Function.comp_def, hparen]

theorem ofLine?_concat (line : Text) : ofLine? (line ++ ['\r']) = ofLine? line := by
  rw [ofLine?, after?_concat (by decide), ofLine?, Option.bind_map]
  exact congrArg (Option.bind (after? opening line)) (funext afterOpening?_concat)

/-- A line forwards to the same page. -/
theorem ofLine?_crlf {l : Text} (h : IsLine l) :
    ofLine? (dropFinal '\n' (crlf l)) = ofLine? (dropFinal '\n' l) := by
  rcases h.crlf_eq with ⟨k, rfl, -, hcrlf⟩ | ⟨-, hcrlf⟩
  · have hbody : dropFinal '\n' (k ++ ['\r', '\n']) = k ++ ['\r'] := by simp [dropFinal]
    have hbody' : dropFinal '\n' (k ++ ['\n']) = k := by simp [dropFinal]
    rw [hcrlf, hbody, hbody', ofLine?_concat]
  · rw [hcrlf]

theorem target?_crlf {page : Text} (h : '\r' ∉ page) : target? (crlf page) = target? page := by
  have hlines : (lines (crlf page)).map ofLine? = (lines page).map ofLine? := by
    rw [lines, lines, rawLines_crlf, List.map_map, List.map_map, List.map_map]
    exact List.map_congr_left fun l hl => ofLine?_crlf (isLine_of_mem_rawLines h hl)
  have hfind : ∀ ls : List Text, ls.findSome? ofLine? = (ls.map ofLine?).findSome? id :=
    fun ls => by rw [List.findSome?_map, Function.id_comp]
  rw [target?_eq, target?_eq, hfind, hlines, hfind]

end Redirect

/-! ## Resolution -/

theorem recoded_settled? {t : Text} (h : '\r' ∉ t) :
    Option.Rel Section.Recoded (settled? t) (settled? (crlf t)) := by
  have hpage := Section.recoded_ofPage h
  have hdrop := Section.recoded_ofPage_drop_one h
  unfold settled?
  generalize Section.ofPage t = ss, Section.ofPage (crlf t) = ss' at hpage
  cases hpage with
  | nil => exact .none
  | cons hs hss =>
    cases hss with
    | nil => exact .some hs
    | cons hu _ =>
      generalize Section.ofPage (t.drop 1) = ss, Section.ofPage ((crlf t).drop 1) = ss' at hdrop
      cases hdrop with
      | nil => exact .none
      | cons hs _ => exact .some hs

/-- The pages under other line ends. -/
def crlfPages (pages : Text → Except Fault Text) (page : Text) : Except Fault Text :=
  (pages page).map crlf

/-- Pages without carriage returns. -/
def NoReturns (pages : Text → Except Fault Text) : Prop :=
  ∀ page t, pages page = .ok t → '\r' ∉ t

section
variable {pages : Text → Except Fault Text} {function : Text}

theorem crlfPages_ok {page t : Text} (h : pages page = .ok t) :
    crlfPages pages page = .ok (crlf t) := by rw [crlfPages, h]; rfl

theorem crlfPages_error {page : Text} {e : Fault} (h : pages page = .error e) :
    crlfPages pages page = .error e := by rw [crlfPages, h]; rfl

theorem settled?_crlf_of_none {t : Text} (h : '\r' ∉ t) (unsettled : settled? t = none) :
    settled? (crlf t) = none := by
  have hrel := recoded_settled? h
  rw [unsettled] at hrel
  generalize settled? (crlf t) = o at hrel ⊢
  cases hrel with | none => rfl

theorem settled?_crlf_of_some {t : Text} {s : Section} (h : '\r' ∉ t)
    (settled : settled? t = some s) : ∃ s', settled? (crlf t) = some s' ∧ s.Recoded s' := by
  have hrel := recoded_settled? h
  rw [settled] at hrel
  generalize settled? (crlf t) = o at hrel ⊢
  cases hrel with | some hs => exact ⟨_, rfl, hs⟩

/-- How the result of a resolution is carried over to other line ends: a fault stays, a section is
the same under the other line ends. -/
inductive Section.RecodedResult : Except Fault Section → Except Fault Section → Prop where
  | error (e : Fault) : RecodedResult (.error e) (.error e)
  | ok {s s' : Section} (recoded : s.Recoded s') : RecodedResult (.ok s) (.ok s')

/-- Under other line ends a function is resolved in the same way. -/
theorem Resolves.crlf (hpages : NoReturns pages) {events : List Event}
    {result : Except Fault Section} (h : Resolves pages function events result) :
    ∃ events' result', Resolves (crlfPages pages) function events' result' ∧
      Section.RecodedResult result result' := by
  cases h with
  | unfetched page => exact ⟨_, _, .unfetched (crlfPages_error page), .error _⟩
  | found page settled =>
    obtain ⟨s', hs', hrec⟩ := settled?_crlf_of_some (hpages _ _ page) settled
    exact ⟨_, _, .found (crlfPages_ok page) hs', .ok hrec⟩
  | deadEnd page unsettled target =>
    have ht := hpages _ _ page
    exact ⟨_, _, .deadEnd (crlfPages_ok page) (settled?_crlf_of_none ht unsettled)
      ((Redirect.target?_crlf ht).trans target), .error _⟩
  | lost page unsettled forwards second =>
    have ht := hpages _ _ page
    exact ⟨_, _, .lost (crlfPages_ok page) (settled?_crlf_of_none ht unsettled)
      ((Redirect.target?_crlf ht).trans forwards) (crlfPages_error second), .error _⟩
  | forwarded page unsettled forwards second settled =>
    have ht := hpages _ _ page
    obtain ⟨s', hs', hrec⟩ := settled?_crlf_of_some (hpages _ _ second) settled
    exact ⟨_, _, .forwarded (crlfPages_ok page) (settled?_crlf_of_none ht unsettled)
      ((Redirect.target?_crlf ht).trans forwards) (crlfPages_ok second) hs', .ok hrec⟩
  | bare page unsettled forwards second bare =>
    have ht := hpages _ _ page
    exact ⟨_, _, .bare (crlfPages_ok page) (settled?_crlf_of_none ht unsettled)
      ((Redirect.target?_crlf ht).trans forwards) (crlfPages_ok second)
      (settled?_crlf_of_none (hpages _ _ second) bare), .error _⟩

/-- The same page is asked for after that of the function, or none in either case. -/
theorem forward?_crlf (hpages : NoReturns pages) :
    forward? (crlfPages pages) function = forward? pages function := by
  cases page : pages function with
  | error e => rw [forward?, crlfPages_error page, forward?, page]
  | ok t =>
    have ht := hpages _ _ page
    cases settled : settled? t with
    | none =>
      rw [forward?_of_unsettled (crlfPages_ok page) (settled?_crlf_of_none ht settled),
        forward?_of_unsettled page settled, Redirect.target?_crlf ht]
    | some s =>
      obtain ⟨s', hs', -⟩ := settled?_crlf_of_some ht settled
      rw [forward?_of_settled (crlfPages_ok page) hs', forward?_of_settled page settled]

end
end WikiStubs
