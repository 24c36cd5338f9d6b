import WikiStubs.Proofs.FunctionPage.Layout
import WikiStubs.Proofs.Record.Outcome
import WikiStubs.Proofs.Resolve
import WikiStubs.Proofs.VarType

/-!
# Pages of functions read back

The record of a function is what its page says, whatever the spacing of the page
(`FunctionPage.assemble_text`): the signature, the description of each variable and of the
function, and a type for each variable. Beside its variables a record describes `bool` only. The
page is not read when the pattern for the calls of the function is refused.
-/
namespace WikiStubs.FunctionPage

variable {p : FunctionPage} {s : Spacing} {root : Section}

/-- What the section of a page shows. -/
structure IsRoot (p : FunctionPage) (s : Spacing) (root : Section) : Prop where
  name : root.name = p.name
  body : root.body = ((p.lead s).map (· ++ ['\n'])).flatten
  subsections : root.subsections.map (fun u => (u.name, u.body)) = p.parts s

theorem IsRoot.exists_subsection? (h : IsRoot p s root) {name body : Text}
    (hmem : (name, body) ∈ p.parts s) : ∃ u, root.subsection? name = some u ∧ u.body = body := by
  refine Section.exists_subsection? h.subsections ?_ hmem
  simp only [parts, List.map_cons, List.map_nil]
  decide

theorem flatten_blanks (n : Nat) :
    ((blanks n).map (· ++ ['\n'])).flatten = List.replicate n '\n' := by
  rw [blanks, List.map_replicate, List.nil_append, List.flatten_replicate_singleton]

/-! ## Signature -/

theorem signatureFor?_name (h : p.Valid) : Corrections.signatureFor? p.name = none :=
  Corrections.signatureFor?_eq_none fun hmem => h.notCorrected (List.mem_append_left _ hmem)

theorem signature_eq [PatternCompiler] (h : p.Valid) (hroot : IsRoot p s root)
    (hcompiles : PatternCompiler.refusal? p.name = none) :
    root.signature p.name = .ok p.signature := by
  have hfeeds : ∀ n, Call.tick ∉ List.replicate n '\n' := fun n hmem => by
    cases List.eq_of_mem_replicate hmem
  have hbody : root.body = List.replicate s.afterTitle '\n' ++
      Call.tick :: (p.code ++ Call.tick :: ('\n' :: List.replicate s.afterCall '\n')) := by
    rw [hroot.body, lead, List.map_append, List.map_cons, List.flatten_append, List.flatten_cons,
      flatten_blanks, flatten_blanks]
    simp
  have hpost : Call.tick ∉ '\n' :: List.replicate s.afterCall '\n' := by
    rw [List.mem_cons, not_or]
    exact ⟨by decide, hfeeds _⟩
  refine Section.signature_eq_ok_iff.2 (Or.inr ⟨signatureFor?_name h, hcompiles, ?_⟩)
  rw [hbody, Declaration.ofText_code h.toValid (hfeeds _) hpost]

/-! ## Descriptions -/

theorem dropFinal_written (h : p.Valid) {v : Text} (hv : v ∈ p.vars) :
    Text.dropFinal '\r' (Bullet.written v (p.describe v)) = Bullet.written v (p.describe v) := by
  have hplain := h.plain v hv
  refine if_neg fun hlast => ?_
  rw [Bullet.written, ← List.append_assoc, List.getLast?_append_of_ne_nil _ hplain.ne_nil] at hlast
  have := Text.of_getLast (Text.of_trimBy_eq hplain.trimmed).2 _ hlast
  cases this

theorem lines_bullets (h : p.Valid) {before after : Nat} {vs : List Text}
    (hvs : ∀ v ∈ vs, v ∈ p.vars) :
    Text.lines ((p.bullets before after vs).map (· ++ ['\n'])).flatten =
      p.bullets before after vs := by
  have hlines := Text.rawLines_flatMap (lineFeed_not_mem_bullets h before after hvs) []
  rw [List.append_nil, Text.rawLines_nil, List.append_nil, List.flatMap_def] at hlines
  rw [Text.lines, hlines, List.map_map]
  refine (List.map_congr_left fun l hl => ?_).trans (List.map_id _)
  have hend : Text.dropLineEnd (l ++ ['\n']) = Text.dropFinal '\r' l := by
    rw [Text.dropLineEnd, if_pos (List.getLast?_concat ..), List.dropLast_concat]
  rcases mem_bullets hl with rfl | ⟨v, hv, rfl⟩
  · rfl
  · exact hend.trans (dropFinal_written h (hvs v hv))

theorem filter_bullets {before after : Nat} {vs : List Text} :
    (p.bullets before after vs).filter isBulletLine =
      vs.map (fun v => Bullet.written v (p.describe v)) := by
  have hblanks : ∀ n, (blanks n).filter isBulletLine = [] := fun n => by
    rw [List.filter_eq_nil_iff]
    intro l hl
    rw [(List.mem_replicate.1 hl).2]
    decide
  rw [bullets, List.filter_append, List.filter_append, hblanks, hblanks, List.nil_append,
    List.append_nil, List.filter_eq_self]
  intro l hl
  obtain ⟨v, -, rfl⟩ := List.mem_map.1 hl
  rfl

theorem bullets_eq (h : p.Valid) (hroot : IsRoot p s root) :
    root.bullets = p.vars.map (fun v => Bullet.written v (p.describe v)) := by
  obtain ⟨ps, hps, hpbody⟩ := hroot.exists_subsection? (List.mem_cons_self ..)
  obtain ⟨rs, hrs, hrbody⟩ := hroot.exists_subsection?
    (List.mem_cons_of_mem _ (List.mem_cons_self ..))
  rw [Section.bullets, Section.parameterLines, hps, Section.returnLines, hrs]
  simp only [hpbody, hrbody]
  rw [lines_bullets h fun v hv => List.mem_append_left _ hv,
    lines_bullets h fun v hv => List.mem_append_right _ hv, List.filter_append, filter_bullets,
    filter_bullets, vars, List.map_append]

theorem mapM_written (h : p.Valid) {vs : List Text} (hvs : ∀ v ∈ vs, v ∈ p.vars) :
    (vs.map fun v => Bullet.written v (p.describe v)).mapM Bullet.ofLine =
      .ok (vs.map fun v => ⟨[v], p.describe v⟩) := by
  induction vs with
  | nil => rfl
  | cons v vs ih =>
    have hv := hvs v (List.mem_cons_self ..)
    have hsplit : Corrections.splitName? v = none :=
      Corrections.splitName?_eq_none fun hmem => by
        obtain rfl := List.mem_singleton.1 hmem
        exact h.notSplit hv
    rw [List.map_cons, List.mapM_cons,
      Bullet.ofLine_written (h.isIdentifier hv) hsplit (h.plain v hv),
      ih fun u hu => hvs u (List.mem_cons_of_mem _ hu)]
    rfl

theorem descriptions_eq (h : p.Valid) (hroot : IsRoot p s root) :
    root.descriptions = .ok (TextMap.ofList (p.vars.map fun v => (v, p.describe v))) := by
  have hentries : (p.vars.map fun v => (⟨[v], p.describe v⟩ : Bullet)).flatMap
      (fun b => b.names.map fun n => (n, b.description)) =
      p.vars.map fun v => (v, p.describe v) := by
    rw [List.flatMap_map]
    exact List.map_eq_flatMap.symm
  rw [Section.descriptions, bullets_eq h hroot, mapM_written h fun v hv => hv, ← hentries]
  rfl

theorem freeDescription_eq (h : p.Valid) (hroot : IsRoot p s root) :
    root.freeDescription = .ok p.description := by
  have hnone : Corrections.descriptionFor? root.name = none := by
    rw [hroot.name]
    refine Corrections.descriptionFor?_eq_none fun hmem => h.notCorrected ?_
    exact List.mem_append_right ["keyp".toList, "vbank".toList] hmem
  have hmem : (("Description" : Text), (p.lastLines s).flatten) ∈ p.parts s :=
    List.mem_cons_of_mem _ (List.mem_cons_of_mem _ (List.mem_cons_self ..))
  obtain ⟨d, hd, hdbody⟩ := hroot.exists_subsection? hmem
  have hblank : ∀ n, ∀ c ∈ List.replicate n '\n', Text.isBlank c = true := fun n c hc => by
    rw [List.eq_of_mem_replicate hc]
    decide
  have htext : d.text = p.description := by
    rw [Section.text, hdbody, lastLines, List.flatten_append, flatten_blanks,
      Text.flatten_rawLines, ← List.append_assoc, Text.trim,
      Text.trimBy_surround (hblank _) (hblank _)]
    exact h.trimmed
  rw [Section.freeDescription, hnone, hd]
  simp only [htext, Link.rewrite_of_none h.noLink]

/-! ## The record -/

def described (p : FunctionPage) : TextMap Text :=
  (TextMap.ofList (p.vars.map fun v => (v, p.describe v))).insert "bool" "a boolean"

theorem get?_described (p : FunctionPage) (v : Text) :
    p.described.get? v = if ("bool" : Text) = v then some ("a boolean" : Text)
      else if v ∈ p.vars then some (p.describe v) else none := by
  rw [described, TextMap.get?_insert, TextMap.get?_ofList_map]

theorem names_signature (p : FunctionPage) : p.signature.names = p.vars := by
  rw [Signature.names, Declaration.signature, vars, List.map_map]
  rfl

theorem describedSignature_eq [PatternCompiler] (h : p.Valid) (hroot : IsRoot p s root)
    (hcompiles : PatternCompiler.refusal? p.name = none) :
    root.describedSignature p.name = .ok (p.signature, p.described) := by
  have hextras : (TextMap.ofList (p.vars.map fun v => (v, p.describe v))).insertAll
      (Corrections.extrasFor root.name) = p.described := by
    rw [hroot.name, Corrections.extrasFor_of_identifier h.name]
    rfl
  have hall : p.signature.names.find? (fun v => !p.described.contains v) = none := by
    rw [names_signature, List.find?_eq_none]
    intro v hv
    rw [TextMap.contains, get?_described, if_pos hv]
    split <;> simp
  rw [Section.describedSignature, signature_eq h hroot hcompiles, descriptions_eq h hroot]
  simp only [Except.bind, bind, hextras, hall]

theorem ofSection_eq [PatternCompiler] (h : p.Valid) (hroot : IsRoot p s root)
    (hcompiles : PatternCompiler.refusal? p.name = none) :
    Record.ofSection p.name root = .ok {
      name := p.name
      signature := p.signature
      descriptions := p.described
      types := VarType.infer p.described p.signature.params
      description := p.description } := by
  rw [Record.ofSection, describedSignature_eq h hroot hcompiles, freeDescription_eq h hroot]
  rfl

/-- When the pattern is refused, nothing is noted on the way. -/
theorem of_refused [PatternCompiler] (h : p.Valid) {message : Text}
    (hrefused : PatternCompiler.refusal? p.name = some message) (root : Section) :
    Record.ofSection p.name root = .error (.malformed .callPattern message) ∧
      Record.notes p.name root = [] := by
  have hsignature : root.signature p.name = .error (.malformed .callPattern message) :=
    Section.signature_eq_error_iff.2 ⟨signatureFor?_name h, message, hrefused, rfl⟩
  refine ⟨Record.ofSection_of_signature_error hsignature, ?_⟩
  rw [Record.notes, Record.signatureNotes, signatureFor?_name h,
    Section.describedSignature_of_error hsignature, hrefused]
  rfl

/-! ## Types -/

theorem map_name_signature (p : FunctionPage) :
    p.signature.params.map (·.name) = p.params.map (·.name) := by
  rw [Declaration.signature, List.map_map]
  rfl

theorem get?_types_of_param (h : p.Valid) {a : Argument} (ha : a ∈ p.params) :
    (VarType.infer p.described p.signature.params).get? a.name =
      some ((VarType.ofDefault? a.parameter).getD
        (VarType.classify a.name (p.describe a.name))) := by
  have hvar : a.name ∈ p.vars := List.mem_append_left _ (List.mem_map_of_mem ha)
  have hbool : ("bool" : Text) ≠ a.name := fun e => h.notExtra (e ▸ hvar)
  have hparams := VarType.ofParams?_of_mem (p := a.parameter) (map_name_signature p ▸ h.distinct)
    (List.mem_map_of_mem ha)
  rw [VarType.get?_infer, get?_described, if_neg hbool, if_pos hvar, Option.map_some,
    VarType.inferOne]
  exact congrArg (fun o => some (Option.getD o _)) hparams

theorem get?_types_of_other {v : Text} (hv : v ∉ p.params.map (·.name)) :
    (VarType.infer p.described p.signature.params).get? v =
      (p.described.get? v).map (VarType.classify v) := by
  have hparams : VarType.ofParams? p.signature.params v = none :=
    VarType.ofParams?_of_not_mem (by rwa [map_name_signature])
  rw [VarType.get?_infer]
  refine congrFun (congrArg Option.map (funext fun d => ?_)) _
  rw [VarType.inferOne, hparams, Option.getD_none]

/-! ## Pages read back -/

/-- What a record must hold to be the one that a page was written for. -/
structure Says (p : FunctionPage) (r : Record) : Prop where
  name : r.name = p.name
  signature : r.signature = p.signature
  descriptions : ∀ v, r.descriptions.get? v =
    if ("bool" : Text) = v then some ("a boolean" : Text)
    else if v ∈ p.vars then some (p.describe v) else none
  typeKeys : r.types.keys = r.descriptions.keys
  paramTypes : ∀ a ∈ p.params, r.types.get? a.name =
    some ((VarType.ofDefault? a.parameter).getD (VarType.classify a.name (p.describe a.name)))
  returnTypes : ∀ v ∈ p.returns, v ∉ p.params.map (·.name) →
    r.types.get? v = some (VarType.classify v (p.describe v))
  extraType : r.types.get? "bool" = some .boolean
  description : r.description = p.description

theorem says_record (h : p.Valid) : p.Says {
    name := p.name
    signature := p.signature
    descriptions := p.described
    types := VarType.infer p.described p.signature.params
    description := p.description } where
  name := rfl
  signature := rfl
  descriptions := get?_described p
  typeKeys := TextMap.keys_map _ _
  paramTypes _ ha := get?_types_of_param h ha
  returnTypes v hv hno := by
    have hvar : v ∈ p.vars := List.mem_append_right _ hv
    have hbool : ("bool" : Text) ≠ v := fun e => h.notExtra (e ▸ hvar)
    rw [get?_types_of_other hno, get?_described, if_neg hbool, if_pos hvar, Option.map_some]
  extraType := by
    rw [get?_types_of_other fun hmem => h.notExtra (List.mem_append_left _ hmem), get?_described,
      if_pos rfl]
    decide
  description := rfl

section
variable {m : Type → Type} [Monad m] [LawfulMonad m]

/-- **Pages read back.** From a page in the usual layout a record is put together, and it holds
what the page says, if the pattern for the calls of the function compiles. If the pattern is
refused, that is the fault, after the page has been fetched. -/
theorem assemble_text [PatternCompiler] (src : PageSource m) (p : FunctionPage) (h : p.Valid)
    (s : Spacing) (hread : src.read p.name = pure (.ok (p.text s))) :
    (PatternCompiler.refusal? p.name = none →
      ∃ (r : Record) (notes : List Event),
        assemble src p.name = (do src.noteAll notes; pure r) ∧ p.Says r) ∧
    ∀ message, PatternCompiler.refusal? p.name = some message →
      assemble src p.name = (do
        src.noteAll [.reading p.name]
        throw (.malformed .callPattern message)) := by
  obtain ⟨root, hpage, hname, hbody, hsub⟩ := exists_section h s
  constructor
  · intro hcompiles
    have hrecord := ofSection_eq h ⟨hname, hbody, hsub⟩ hcompiles
    refine ⟨_, .reading p.name :: Record.notes p.name root, ?_, says_record h⟩
    rw [assemble, resolve_of_single hread hpage]
    simp only [bind_assoc, pure_bind, hrecord, PageSource.noteAll, liftM_bind]
    rfl
  · intro message hrefused
    obtain ⟨hfault, hnotes⟩ := of_refused h hrefused root
    rw [assemble, resolve_of_single hread hpage]
    simp only [bind_assoc, pure_bind, hfault, hnotes, PageSource.noteAll, liftM_bind]
    rfl

end

/-- A page with a parameter of each kind. -/
def musicPage : FunctionPage where
  name := "music"
  params := [⟨"track", .required⟩, ⟨"frame", .optional⟩, ⟨"loop", .defaulted "true"⟩]
  returns := ["playing"]
  describe v := "the " ++ v
  description := "Plays music.\n\n`music()` stops it."

theorem valid_musicPage : musicPage.Valid where
  name := by decide
  params := by decide
  returns := by decide
  notCorrected := by decide
  distinct := by decide
  notExtra := by decide
  notSplit := by decide
  plain := by decide +kernel
  trimmed := by decide +kernel
  noHeading := by decide +kernel
  noLink := by decide +kernel

theorem assemble_musicPage :
    PatternCompiler.refusal? musicPage.name = none ∧ ∃ (r : Record) (notes : List Event),
      assemble (PageSource.ofPages fun _ => .ok (musicPage.text (.mk 1 1 0 1 0 1 0 1)))
        musicPage.name =
        (do
          (PageSource.ofPages fun _ => .ok (musicPage.text (.mk 1 1 0 1 0 1 0 1))).noteAll notes
          pure r) ∧
      musicPage.Says r := by
  have hcompiles : PatternCompiler.refusal? musicPage.name = none := by decide
  exact ⟨hcompiles, (assemble_text
    (PageSource.ofPages fun _ => .ok (musicPage.text (.mk 1 1 0 1 0 1 0 1))) musicPage
    valid_musicPage (.mk 1 1 0 1 0 1 0 1) rfl).1 hcompiles⟩

end WikiStubs.FunctionPage
