import WikiStubs.Proofs.Call
import WikiStubs.Proofs.LineEnds.Section
import WikiStubs.Proofs.Record.OneLine

/-!
# Records under other line ends

What a section says about a function is the same when every line feed on the page has a carriage
return before it: the calls have the same names and return values, the bullets are the same lines,
and the types follow from the same literals. Only two kinds of text may go over several lines and
are copied with their line ends, the defaults of parameters and the description of the function.
-/
namespace WikiStubs

open Text

/-! ## Links -/

namespace Link

theorem kept_crlf (l : Link) : kept ⟨crlf l.label, crlf l.target⟩ = crlf l.kept := by
  have hexternal : isExternal ⟨crlf l.label, crlf l.target⟩ = l.isExternal :=
    startsWith_crlf (by simp) l.target
  unfold kept
  rw [hexternal]
  split
  · simp [crlf_cons]
  · simp [crlf_cons]

theorem after?_crlf (t : Text) : after? (crlf t) =
    (after? t).map fun (l, rest) => (⟨crlf l.label, crlf l.target⟩, crlf rest) := by
  unfold after?
  rw [untilOnLine?_crlf (by decide)]
  cases untilOnLine? "](" t with
  | none => rfl
  | some parts =>
    obtain ⟨label, t⟩ := parts
    simp only [Option.map_some, Prod.map]
    rw [untilOnLine?_crlf (by decide)]
    cases untilOnLine? ")" t <;> rfl

/-- The links of a text are rewritten alike, since none goes over several lines. -/
theorem rewrite_crlf (t : Text) : rewrite (crlf t) = crlf (rewrite t) := by
  fun_induction rewrite t with
  | case1 => rw [crlf_nil, rewrite]
  | case2 t l rest hlink ih =>
    have hlink' := after?_crlf t
    rw [hlink] at hlink'
    rw [crlf_cons (by decide), rewrite_of_after? hlink', kept_crlf, ih, crlf_append]
  | case3 t hlink ih =>
    have hlink' := after?_crlf t
    rw [hlink] at hlink'
    rw [crlf_cons (by decide), rewrite_of_no_link hlink', ih, crlf_cons (by decide)]
  | case4 c t hc ih =>
    by_cases hn : c = '\n'
    · subst hn
      rw [crlf_lineFeed, rewrite_cons_of_ne (by decide), rewrite_cons_of_ne (by decide), ih,
        crlf_lineFeed]
    · rw [crlf_cons hn, rewrite_cons_of_ne hc, ih, crlf_cons hn]

end Link

/-! ## Calls -/

namespace Call

/-- Names of return values are on one line. -/
theorem returnsOfArrow?_crlf (list : Text) :
    returnsOfArrow? (crlf list) = returnsOfArrow? list := by
  have hchar : isReturnChar '\r' = isReturnChar '\n' := rfl
  rw [returnsOfArrow?, dropBlanks_crlf, getLast?_crlf, returnsOfArrow?]
  cases hnames : list.dropWhile isBlank with
  | nil => rfl
  | cons c names =>
    by_cases hall : (c :: names).all isReturnChar = true
    · have hn : '\n' ∉ c :: names := fun hmem => by
        have hreturn := List.all_eq_true.1 hall _ hmem
        revert hreturn
        decide
      rw [crlf_of_not_mem hn]
    · obtain ⟨d, names', hd⟩ := List.exists_cons_of_ne_nil (fun e =>
        List.cons_ne_nil c names (crlf_eq_nil.1 e) : crlf (c :: names) ≠ [])
      have hall' := all_crlf hchar (c :: names)
      rw [hd] at hall' ⊢
      simp only [hall', if_neg hall]

theorem returnsOfTail?_crlf (t : Text) : returnsOfTail? (crlf t) = returnsOfTail? t := by
  by_cases hnil : t = []
  · subst hnil; rfl
  · rw [returnsOfTail?_of_ne_nil fun e => hnil (crlf_eq_nil.1 e), returnsOfTail?_of_ne_nil hnil,
      dropBlanks_crlf, Text.after?_crlf (by simp), Option.bind_map]
    exact congrArg (Option.bind _) (funext returnsOfArrow?_crlf)

/-- A call, and the same call under other line ends. -/
structure Recoded (c c' : Call) : Prop where
  args : c'.args = crlf c.args
  returns : c'.returns = c.returns

/-- A call and what follows it, and the same under other line ends. -/
structure RecodedBefore (x x' : Call × Text) : Prop where
  call : x.1.Recoded x'.1
  rest : x'.2 = crlf x.2

theorem after?_crlf {f : Text} (hf : ∀ c ∈ f, c ≠ '\r' ∧ c ≠ '\n') (t : Text) :
    Option.Rel RecodedBefore (after? f t) (after? f (crlf t)) := by
  have htick : (decide ('\r' ≠ tick)) = decide ('\n' ≠ tick) := rfl
  unfold after?
  rw [Text.after?_crlf hf]
  cases Text.after? f t with
  | none => exact .none
  | some t₁ =>
    simp only [Option.map_some]
    rw [dropBlanks_crlf, Text.after?_crlf (by simp)]
    cases Text.after? "(" (t₁.dropWhile isBlank) with
    | none => exact .none
    | some t₂ =>
      simp only [Option.map_some]
      rw [dropWhile_crlf (p := fun c => decide (c ≠ tick)) htick,
        takeWhile_crlf (p := fun c => decide (c ≠ tick)) htick]
      cases hcode : t₂.dropWhile (fun c => decide (c ≠ tick)) with
      | nil => exact .none
      | cons d rest =>
        obtain rfl := eq_tick_of_dropWhile hcode
        rw [crlf_cons (by decide)]
        simp only
        rw [splitAtLast?_crlf (by decide) (by decide)]
        cases splitAtLast? ')' (t₂.takeWhile fun c => decide (c ≠ tick)) with
        | none => exact .none
        | some parts =>
          obtain ⟨args, tail⟩ := parts
          simp only [Option.map_some, Prod.map, returnsOfTail?_crlf]
          cases returnsOfTail? tail with
          | none => exact .none
          | some returns => exact .some ⟨⟨rfl, rfl⟩, rfl⟩

/-- The same calls are found. -/
theorem scan_crlf {f : Text} (hf : ∀ c ∈ f, c ≠ '\r' ∧ c ≠ '\n') (t : Text) :
    List.Forall₂ Recoded (scan f t) (scan f (crlf t)) := by
  fun_induction scan f t with
  | case1 => rw [crlf_nil, scan]; exact .nil
  | case2 t call rest hafter ih =>
    have hrel := after?_crlf hf t
    rw [hafter] at hrel
    cases hafter' : after? f (crlf t) with
    | none => rw [hafter'] at hrel; cases hrel
    | some x =>
      rw [hafter'] at hrel
      obtain ⟨call', rest'⟩ := x
      cases hrel with | some hx =>
      obtain ⟨hcall, rfl⟩ := hx
      rw [crlf_cons (by decide), scan_tick hafter']
      exact .cons hcall ih
  | case3 t hafter ih =>
    have hrel := after?_crlf hf t
    rw [hafter] at hrel
    cases hafter' : after? f (crlf t) with
    | none =>
      rw [crlf_cons (by decide), scan_tick_of_none hafter']
      exact ih
    | some x => rw [hafter'] at hrel; cases hrel
  | case4 c t hc ih =>
    by_cases hn : c = '\n'
    · subst hn
      rw [crlf_lineFeed, scan_cons_of_ne (by decide), scan_cons_of_ne (by decide)]
      exact ih
    · rw [crlf_cons hn, scan_cons_of_ne hc]
      exact ih

end Call

/-! ## Parameters -/

namespace Parameter

/-- The parameter with the other line ends in its default. -/
def crlf (p : Parameter) : Parameter := { p with default := p.default.map Text.crlf }

def withoutReturns (p : Parameter) : Parameter :=
  { p with default := p.default.map Text.withoutReturns }

theorem unbracket_crlf (t : Text) : unbracket (Text.crlf t) = Text.crlf (unbracket t) :=
  trimBy_crlf (by decide) t

theorem ofSpelling?_crlf (name : Text) (default : Option Text) :
    ofSpelling? (Text.crlf name) (default.map Text.crlf) =
      (ofSpelling? name default).map crlf := by
  rw [ofSpelling?, unbracket_crlf, joinWords_crlf, ofSpelling?]
  cases joinWords (unbracket name) <;> rfl

/-- Brackets at the ends of a token make it optional. -/
theorem bracketed_crlf (t : Text) :
    ((Text.crlf t).head? = some '[' ∨ (Text.crlf t).getLast? = some ']') ↔
      (t.head? = some '[' ∨ t.getLast? = some ']') := by
  rw [head?_crlf_eq_some_iff (by decide) (by decide), getLast?_crlf]

theorem ofTrimmed?_crlf (t : Text) : ofTrimmed? (Text.crlf t) = (ofTrimmed? t).map crlf := by
  rw [ofTrimmed?, splitAtFirst?_crlf (by decide), ofTrimmed?]
  cases Text.splitAtFirst? "=" t with
  | some parts =>
    have h := ofSpelling?_crlf parts.1 (some (unbracket parts.2))
    rw [Option.map_some, ← unbracket_crlf] at h
    exact h
  | none =>
    simp only [Option.map_none, bracketed_crlf]
    split
    · exact ofSpelling?_crlf t (some nilDefault)
    · exact ofSpelling?_crlf t none

/-- A token spells the same parameter. -/
theorem ofToken?_crlf (token : Text) : ofToken? (Text.crlf token) = (ofToken? token).map crlf := by
  by_cases hnil : token.trim = []
  · rw [ofToken?, trim_crlf, hnil, ofToken?, hnil]
    rfl
  · have hne : (Text.crlf token).trim ≠ [] := by rwa [trim_crlf, ne_eq, crlf_eq_nil]
    rw [ofToken?_of_ne_nil hne, trim_crlf, ofTrimmed?_crlf, ofToken?_of_ne_nil hnil]

theorem ofArgs_crlf (args : Text) : ofArgs (Text.crlf args) = (ofArgs args).map crlf := by
  rw [ofArgs, splitOn_crlf (by decide) (by decide), List.filterMap_map, ofArgs, List.map_filterMap]
  exact congrArg (List.filterMap · _) (funext ofToken?_crlf)

end Parameter

/-! ## Signatures -/

namespace Signature

/-- The signature with the other line ends in its defaults. -/
def crlf (s : Signature) : Signature := { s with params := s.params.map Parameter.crlf }

def withoutReturns (s : Signature) : Signature :=
  { s with params := s.params.map Parameter.withoutReturns }

theorem names_crlf (s : Signature) : s.crlf.names = s.names := by
  rw [names, crlf, List.map_map, names]
  rfl

theorem merge_crlf (s : Signature) (args : Text) (returns : Option Text) :
    s.crlf.merge (Text.crlf args) returns = (s.merge args returns).crlf := by
  simp only [merge, crlf, extend, Parameter.ofArgs_crlf, List.map_append, List.map_drop,
    List.length_map]
  rfl

theorem mergeAll_crlf {calls calls' : List Call} (h : List.Forall₂ Call.Recoded calls calls')
    (s : Signature) : s.crlf.mergeAll calls' = (s.mergeAll calls).crlf := by
  induction h generalizing s with
  | nil => rfl
  | cons hcall _ ih =>
    rw [mergeAll, List.foldl_cons, hcall.args, hcall.returns, merge_crlf]
    exact ih _

theorem ofText_crlf {f : Text} (hf : ∀ c ∈ f, c ≠ '\r' ∧ c ≠ '\n') (t : Text) :
    ofText f (Text.crlf t) = (ofText f t).crlf := mergeAll_crlf (Call.scan_crlf hf t) empty

theorem extract_crlf [PatternCompiler] {f : Text} (hf : ∀ c ∈ f, c ≠ '\r' ∧ c ≠ '\n') (t : Text) :
    extract f (Text.crlf t) = (extract f t).map crlf := by
  unfold extract
  rw [ofText_crlf hf]
  cases PatternCompiler.refusal? f <;> rfl

/-- No carriage return stands in a default unless one stands in the text. -/
theorem withoutReturns_crlf {s : Signature}
    (h : ∀ p ∈ s.params, ∀ d, p.default = some d → '\r' ∉ d) : s.crlf.withoutReturns = s := by
  have hparams : s.params.map (Parameter.withoutReturns ∘ Parameter.crlf) = s.params := by
    refine (List.map_congr_left fun p hp => ?_).trans (List.map_id _)
    obtain ⟨name, _ | d⟩ := p
    · rfl
    · have hd := h _ hp d rfl
      simp only [Function.comp_apply, Parameter.withoutReturns, Parameter.crlf, Option.map_some,
        Text.withoutReturns_crlf hd, id_eq]
  rw [withoutReturns, crlf, List.map_map, hparams]

theorem return_not_mem_default {f t : Text} (ht : '\r' ∉ t) {p : Parameter}
    (hp : p ∈ (ofText f t).params) {d : Text} (hd : p.default = some d) : '\r' ∉ d := by
  intro hmem
  rcases mem_params_mergeAll hp with hp | ⟨call, hcall, hp⟩
  · cases hp
  · obtain ⟨token, htoken, hp⟩ := List.mem_filterMap.1 hp
    rcases Parameter.mem_of_mem_default hp hd hmem with hnil | hmem
    · revert hnil
      decide
    · exact ht (Call.mem_of_mem_args hcall _ (mem_splitOn htoken hmem).2)

end Signature

/-! ## Types -/

namespace VarType

theorem isDigits_crlf (t : Text) : isDigits (crlf t) = isDigits t := by
  rw [isDigits, all_crlf (by decide), isDigits]
  simp only [ne_eq, crlf_eq_nil]

theorem isDecimal_crlf (t : Text) : isDecimal (crlf t) = isDecimal t := by
  have hunsigned : (Text.after? "-" (crlf t)).getD (crlf t) =
      crlf ((Text.after? "-" t).getD t) := by
    rw [Text.after?_crlf (by simp)]
    cases Text.after? "-" t <;> rfl
  unfold isDecimal
  simp only [hunsigned]
  rw [splitAtFirst?_crlf (by decide)]
  cases Text.splitAtFirst? "." ((Text.after? "-" t).getD t) with
  | none => exact isDigits_crlf _
  | some parts => simp only [Option.map_some, Prod.map, isDigits_crlf]

theorem ofLiteral?_crlf (t : Text) : ofLiteral? (crlf t) = ofLiteral? t := by
  have htrue : crlf t = ("true" : Text) ↔ t = ("true" : Text) :=
    crlf_eq_iff (by decide) (by decide)
  have hfalse : crlf t = ("false" : Text) ↔ t = ("false" : Text) :=
    crlf_eq_iff (by decide) (by decide)
  simp only [ofLiteral?, htrue, hfalse, isDecimal_crlf]

theorem ofDefault?_crlf (p : Parameter) : ofDefault? p.crlf = ofDefault? p := by
  obtain ⟨name, _ | d⟩ := p
  · rfl
  · exact ofLiteral?_crlf d

theorem ofParams?_crlf (params : List Parameter) (name : Text) :
    ofParams? (params.map Parameter.crlf) name = ofParams? params name := by
  rw [ofParams?, List.filter_map, List.filterMap_map, ofParams?]
  exact congrArg (fun f => ((params.filter _).filterMap f).getLast?) (funext ofDefault?_crlf)

theorem infer_crlf (descriptions : TextMap Text) (params : List Parameter) :
    infer descriptions (params.map Parameter.crlf) = infer descriptions params := by
  have hone : inferOne (params.map Parameter.crlf) = inferOne params := by
    funext name description
    rw [inferOne, ofParams?_crlf, inferOne]
  rw [infer, hone, infer]

end VarType

/-! ## Sections -/

/-- The characters of a literal are read off without decoding it. -/
theorem not_mem_toList_ofList {c : Char} {cs : List Char} (h : c ∉ cs) :
    c ∉ (String.ofList cs).toList := by rwa [String.toList_ofList]

theorem Corrections.return_not_mem_sectionTexts : ∀ e ∈ sectionTexts, '\r' ∉ e.text := by
  simp only [sectionTexts, List.forall_mem_cons, List.mem_append, not_or, List.not_mem_nil,
    false_imp_iff, implies_true, and_true]
  refine ⟨⟨⟨⟨?_, ?_⟩, ?_⟩, ?_⟩, ?_, ?_⟩
  all_goals exact not_mem_toList_ofList (by decide)

namespace Section

variable {s s' : Section} {function : Text}

namespace Recoded

/-- A section without a part under the other line ends has none, and one with it has the same. -/
theorem subsection?_cases (h : s.Recoded s') (name : Text) :
    (s.subsection? name = none ∧ s'.subsection? name = none) ∨
      ∃ u u', s.subsection? name = some u ∧ s'.subsection? name = some u' ∧ u.Recoded u' := by
  have hrel := h.subsection? name
  generalize s.subsection? name = o, s'.subsection? name = o' at hrel ⊢
  cases hrel with
  | none => exact Or.inl ⟨rfl, rfl⟩
  | some hu => exact Or.inr ⟨_, _, rfl, rfl, hu⟩

theorem lines_body (h : s.Recoded s') : s'.body.lines = s.body.lines := by
  rw [h.body, lines_crlf h.noReturn]

theorem parameterLines (h : s.Recoded s') : s'.parameterLines = s.parameterLines := by
  unfold Section.parameterLines
  rcases h.subsection?_cases "Parameters" with ⟨hnone, hnone'⟩ | ⟨u, u', hsome, hsome', hu⟩
  · rw [hnone, hnone', h.body, splitAtFirst?_crlf (by decide)]
    cases hsplit : splitAtFirst? parametersMark s.body with
    | none => rfl
    | some parts =>
      have hr : '\r' ∉ parts.2.trim := fun hmem => h.noReturn (by
        rw [eq_of_splitAtFirst? hsplit]
        exact List.mem_append_right _ (mem_of_mem_trimBy hmem))
      simp only [Option.map_some, Prod.map, trim_crlf, lines_crlf hr]
  · rw [hsome, hsome']
    exact hu.lines_body

theorem returnLines (h : s.Recoded s') : s'.returnLines = s.returnLines := by
  unfold Section.returnLines
  rcases h.subsection?_cases "Returns" with ⟨hnone, hnone'⟩ | ⟨u, u', hsome, hsome', hu⟩
  · rw [hnone, hnone']
  · rw [hsome, hsome']
    exact hu.lines_body

/-- The same lines describe the variables. -/
theorem descriptions (h : s.Recoded s') : s'.descriptions = s.descriptions := by
  rw [Section.descriptions, bullets, h.parameterLines, h.returnLines, Section.descriptions, bullets]

theorem signature [PatternCompiler] (h : s.Recoded s')
    (hf : ∀ c ∈ function, c ≠ '\r' ∧ c ≠ '\n') :
    s'.signature function = (s.signature function).map Signature.crlf := by
  have htable : ∀ e ∈ Corrections.signatures, e.2.crlf = e.2 := by decide
  unfold Section.signature
  cases hfix : Corrections.signatureFor? function with
  | some sig =>
    obtain ⟨e, hfind, rfl⟩ := Option.map_eq_some_iff.1 hfix
    exact congrArg Except.ok (htable e (List.mem_of_find?_eq_some hfind)).symm
  | none =>
    rw [h.body]
    exact Signature.extract_crlf hf s.body

theorem withoutReturns_signature [PatternCompiler] (h : s.Recoded s') {sig : Signature}
    (hsig : s.signature function = .ok sig) : sig.crlf.withoutReturns = sig := by
  have htable : ∀ e ∈ Corrections.signatures, e.2.crlf.withoutReturns = e.2 := by decide
  rcases signature_eq_ok_iff.1 hsig with hfix | ⟨-, -, rfl⟩
  · obtain ⟨e, hfind, rfl⟩ := Option.map_eq_some_iff.1 hfix
    exact htable e (List.mem_of_find?_eq_some hfind)
  · exact Signature.withoutReturns_crlf fun p hp d hd =>
      Signature.return_not_mem_default h.noReturn hp hd

/-- The same variables are described, or the same one is not. -/
theorem describedSignature [PatternCompiler] (h : s.Recoded s')
    (hf : ∀ c ∈ function, c ≠ '\r' ∧ c ≠ '\n') :
    s'.describedSignature function =
      (s.describedSignature function).map (Prod.map Signature.crlf id) := by
  have hundescribed : s'.undescribed = s.undescribed := by
    funext v
    rw [undescribed, h.name, undescribed]
  unfold Section.describedSignature
  rw [h.descriptions, h.signature hf, h.name, hundescribed]
  cases s.signature function with
  | error e => rfl
  | ok signature =>
    cases s.descriptions with
    | error e => rfl
    | ok described =>
      simp only [bind, Except.bind, Except.map, Signature.names_crlf]
      split <;> rfl

/-- The description of the function has the other line ends, unless it is a corrected one. -/
theorem freeDescription (h : s.Recoded s') :
    s'.freeDescription.map withoutReturns = s.freeDescription := by
  unfold Section.freeDescription
  rw [h.name]
  cases hfix : Corrections.descriptionFor? s.name with
  | some text =>
    obtain ⟨e, hfind, rfl⟩ := Option.map_eq_some_iff.1 hfix
    exact congrArg Except.ok (withoutReturns_of_not_mem
      (Corrections.return_not_mem_sectionTexts e (List.mem_of_find?_eq_some hfind)))
  | none =>
    rcases h.subsection?_cases "Description" with ⟨hnone, hnone'⟩ | ⟨u, u', hsome, hsome', hu⟩
    · rw [hnone, hnone']
      rfl
    · have hr : '\r' ∉ Link.rewrite u.text := fun hmem => by
        rcases Link.mem_rewrite hmem with he | hmem
        · cases he
        · exact hu.noReturn (mem_of_mem_trimBy hmem)
      rw [hsome, hsome']
      simp only [Section.text, hu.body, trim_crlf, Link.rewrite_crlf, Except.map]
      exact congrArg Except.ok (withoutReturns_crlf hr)

end Recoded
end Section

/-! ## Records -/

namespace Record

variable [PatternCompiler]

def withoutReturns (r : Record) : Record :=
  { r with
    signature := r.signature.withoutReturns
    description := r.description.withoutReturns }

/-- The signature that is described is that of the section. -/
theorem signature_of_describedSignature {s : Section} {function : Text}
    {x : Signature × TextMap Text} (h : s.describedSignature function = .ok x) :
    s.signature function = .ok x.1 := by
  unfold Section.describedSignature at h
  cases hsignature : s.signature function with
  | error e => rw [hsignature] at h; cases h
  | ok signature =>
    cases hdescribed : s.descriptions with
    | error e => rw [hsignature, hdescribed] at h; cases h
    | ok described =>
      rw [hsignature, hdescribed] at h
      simp only [bind, Except.bind] at h
      split at h
      · cases h
      · cases h
        rfl

/-- The same section under other line ends gives the same record, or fails with the same fault. -/
theorem ofSection_recoded {s s' : Section} (h : s.Recoded s') {function : Text}
    (hf : ∀ c ∈ function, c ≠ '\r' ∧ c ≠ '\n') :
    (ofSection function s').map withoutReturns = ofSection function s := by
  unfold ofSection
  rw [h.describedSignature hf, ← h.freeDescription]
  cases hdescribed : s.describedSignature function with
  | error e => rfl
  | ok x =>
    have hsignature := h.withoutReturns_signature (signature_of_describedSignature hdescribed)
    have hinfer : VarType.infer x.2 x.1.crlf.params = VarType.infer x.2 x.1.params :=
      VarType.infer_crlf x.2 x.1.params
    cases s'.freeDescription with
    | error e => rfl
    | ok d =>
      refine congrArg Except.ok ?_
      simp only [withoutReturns, id_eq, hsignature, hinfer]

end Record

end WikiStubs
