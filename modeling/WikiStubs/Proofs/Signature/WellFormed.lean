import WikiStubs.Proofs.Call.Spelled
import WikiStubs.Proofs.Signature
import WikiStubs.Proofs.Text.Edges

/-!
# Signatures that are read off a text are well formed

A page may show a call with brackets at odd places, with arguments that have no name, and with any
characters but a backtick between its parentheses. What is read off it is well formed all the same
(`Signature.WellFormed`).

* `Parameter.wellFormed_of_ofToken?`: one argument. It is cut at its first equals sign, brackets and
  blanks are dropped on either side, and the words of the name are joined. Brackets and blanks are
  dropped together, so none is left at an end, however they are nested; and joined words end as the
  text does, so none comes back.
* `Signature.WellFormed.merge`, `Signature.WellFormed.mergeAll`: merging one call, and merging all
  calls of a text.
* `Signature.ofText_code`: a signature that is well formed is read off the call that shows it. So
  the conditions are exact, and `Signature.ofText_exactly_wellFormed` has both directions.
* `Section.wellFormed_signature`: the signature of a function, be it read or corrected.
-/
namespace WikiStubs

/-! ## Well-formed signatures -/

/-- A name of a parameter. Brackets may stand within it, but not at its ends. -/
structure Parameter.IsName (name : Text) : Prop where
  ne_nil : name ≠ []
  plain : ∀ c ∈ name, Text.isBlank c = false ∧ c ≠ ',' ∧ c ≠ '=' ∧ c ≠ Call.tick
  head : ∀ c ∈ name.head?, c ≠ '[' ∧ c ≠ ']'
  last : ∀ c ∈ name.getLast?, c ≠ '[' ∧ c ≠ ']'

/-- The name and the default, if there is one, are what a call can show. -/
structure Parameter.WellFormed (p : Parameter) : Prop where
  name : IsName p.name
  default : ∀ value ∈ p.default, IsDefault value

/-- All parameters are well formed, and all return values are words. -/
structure Signature.WellFormed (s : Signature) : Prop where
  params : ∀ p ∈ s.params, p.WellFormed
  returns : ∀ r ∈ s.returns, r ≠ [] ∧ ∀ c ∈ r, Text.isWordChar c = true

/-- The arguments have no backtick, and the return list has nothing but words, commas and
spaces. -/
structure Call.WellFormed (call : Call) : Prop where
  args : tick ∉ call.args
  returns : ∀ list ∈ call.returns, ∀ c ∈ list, isReturnChar c = true

instance (name : Text) : Decidable (Parameter.IsName name) :=
  decidable_of_iff (name ≠ [] ∧
      name.all (fun c => !(Text.isBlank c || c == ',' || c == '=' || c == Call.tick)) = true ∧
      name.head?.all (fun c => c != '[' && c != ']') = true ∧
      name.getLast?.all (fun c => c != '[' && c != ']') = true) <| by
    simp only [List.all_eq_true, Option.all_eq_true, Bool.not_eq_true', Bool.or_eq_false_iff,
      Bool.and_eq_true, beq_eq_false_iff_ne, bne_iff_ne, and_assoc]
    exact ⟨fun ⟨h1, h2, h3, h4⟩ => ⟨h1, h2, h3, h4⟩, fun ⟨h1, h2, h3, h4⟩ => ⟨h1, h2, h3, h4⟩⟩

instance (p : Parameter) : Decidable p.WellFormed :=
  decidable_of_iff (Parameter.IsName p.name ∧ ∀ value ∈ p.default, IsDefault value)
    ⟨fun ⟨h1, h2⟩ => ⟨h1, h2⟩, fun ⟨h1, h2⟩ => ⟨h1, h2⟩⟩

instance (s : Signature) : Decidable s.WellFormed :=
  decidable_of_iff ((∀ p ∈ s.params, p.WellFormed) ∧
      ∀ r ∈ s.returns, r ≠ [] ∧ r.all Text.isWordChar = true) <| by
    simp only [List.all_eq_true]
    exact ⟨fun ⟨h1, h2⟩ => ⟨h1, h2⟩, fun ⟨h1, h2⟩ => ⟨h1, h2⟩⟩

/-! ## One argument -/

namespace Parameter

/-- What is left between brackets and blanks starts and ends with another character. -/
theorem isBracketing_of_head?_unbracket {t : Text} {c : Char} (h : c ∈ (unbracket t).head?) :
    isBracketing c = false := Text.of_head?_trimBy h

theorem isBracketing_of_getLast?_unbracket {t : Text} {c : Char}
    (h : c ∈ (unbracket t).getLast?) : isBracketing c = false := Text.of_getLast?_trimEndBy h

/-- A spelling of a name without the marks that end a name spells a name, if anything is left. -/
theorem isName_joinWords {t : Text} (hne : Text.joinWords (unbracket t) ≠ [])
    (h : ∀ c ∈ t, c ≠ ',' ∧ c ≠ '=' ∧ c ≠ Call.tick) :
    IsName (Text.joinWords (unbracket t)) := by
  have hfirst : ∀ c ∈ (unbracket t).head?, c ≠ '[' ∧ c ≠ ']' ∧ Text.isBlank c = false :=
    fun c hc => isBracketing_eq_false_iff.1 (isBracketing_of_head?_unbracket hc)
  have hfinal : ∀ c ∈ (unbracket t).getLast?, c ≠ '[' ∧ c ≠ ']' ∧ Text.isBlank c = false :=
    fun c hc => isBracketing_eq_false_iff.1 (isBracketing_of_getLast?_unbracket hc)
  have hhead := Text.head?_joinWords fun c hc => (hfirst c hc).2.2
  have hlast := Text.getLast?_joinWords fun c hc => (hfinal c hc).2.2
  refine ⟨hne, fun c hc => ?_, fun c hc => ?_, fun c hc => ?_⟩
  · rcases Text.mem_joinWords hc with rfl | ⟨hblank, hmem⟩
    · decide
    · exact ⟨hblank, h c (Text.mem_of_mem_trimBy hmem)⟩
  · rw [hhead] at hc
    exact ⟨(hfirst c hc).1, (hfirst c hc).2.1⟩
  · rw [hlast] at hc
    exact ⟨(hfinal c hc).1, (hfinal c hc).2.1⟩

theorem isDefault_unbracket {value : Text} (h : ∀ c ∈ value, c ≠ ',' ∧ c ≠ Call.tick) :
    IsDefault (unbracket value) :=
  ⟨fun c hc => h c (Text.mem_of_mem_trimBy hc), fun _ hc => isBracketing_of_head?_unbracket hc,
    fun _ hc => isBracketing_of_getLast?_unbracket hc⟩

/-- An argument without commas and backticks, in whatever state its brackets are. -/
theorem wellFormed_of_ofToken? {token : Text} {p : Parameter} (h : ofToken? token = some p)
    (hmarks : ∀ c ∈ token, c ≠ ',' ∧ c ≠ Call.tick) : p.WellFormed := by
  obtain ⟨name, default, hspelling, hname, hdefault⟩ := exists_spelling h
  obtain ⟨rfl, hne⟩ := ofSpelling?_eq_some hspelling
  refine ⟨isName_joinWords hne fun c hc => ?_, fun d hd => ?_⟩
  · obtain ⟨hmem, hequals⟩ := hname c hc
    exact ⟨(hmarks c hmem).1, hequals, (hmarks c hmem).2⟩
  · rcases hdefault d hd with rfl | ⟨value, rfl, hvalue⟩
    · decide
    · exact isDefault_unbracket fun c hc => hmarks c (hvalue c hc)

theorem wellFormed_of_mem_ofArgs {args : Text} (h : Call.tick ∉ args) {p : Parameter}
    (hp : p ∈ ofArgs args) : p.WellFormed := by
  obtain ⟨token, htoken, hread⟩ := List.mem_filterMap.1 hp
  refine wellFormed_of_ofToken? hread fun c hc => ?_
  obtain ⟨hcomma, hmem⟩ := Text.mem_splitOn htoken hc
  exact ⟨hcomma, ne_of_mem_of_not_mem hmem h⟩

end Parameter

/-! ## One call -/

namespace Call

variable {f t rest : Text} {call : Call}

theorem Declares.isReturnChar {tail : Text} {returns : Option Text} (h : Declares tail returns) :
    ∀ list ∈ returns, ∀ c ∈ list, isReturnChar c = true := by
  intro list hreturns c hc
  cases h with
  | nothing => cases hreturns
  | arrow _ _ _ hlist =>
    obtain rfl := Option.some.inj hreturns
    exact isReturnChar_iff.2 (hlist c hc)

theorem wellFormed_of_after? (h : after? f t = some (call, rest)) : call.WellFormed := by
  obtain ⟨t₁, t₂, tail, d, -, -, -, hargs, hreturns⟩ := after?_eq_some h
  refine ⟨fun hmem => ?_, (declares_of_returnsOfTail? hreturns).isReturnChar⟩
  have hcode : tick ∈ t₂.takeWhile fun c => decide (c ≠ tick) := by
    rw [(Text.splitAtLast?_eq_some_iff.1 hargs).1]
    exact List.mem_append_left _ hmem
  simpa using List.mem_takeWhile_imp hcode

theorem wellFormed_of_mem_scan (h : call ∈ scan f t) : call.WellFormed := by
  obtain ⟨u, rest, hafter, -⟩ := exists_after?_of_mem_scan h
  exact wellFormed_of_after? hafter

end Call

/-! ## Merging -/

namespace Signature

variable {s : Signature}

theorem isWordChar_of_mem_returnsOf {list r : Text}
    (h : ∀ c ∈ list, Call.isReturnChar c = true) (hr : r ∈ returnsOf list) :
    r ≠ [] ∧ ∀ c ∈ r, Text.isWordChar c = true := by
  obtain ⟨hmem, hne⟩ := List.mem_filter.1 hr
  obtain ⟨t, ht, rfl⟩ := List.mem_map.1 hmem
  refine ⟨by simpa using hne, fun c hc => ?_⟩
  rcases Text.mem_joinWords hc with rfl | ⟨hblank, hct⟩
  · decide +kernel
  · obtain ⟨hcomma, hlist⟩ := Text.mem_splitOn ht hct
    rcases Call.isReturnChar_iff.1 (h c hlist) with hword | hmark | rfl
    · exact hword
    · exact absurd hmark hcomma
    · exact absurd hblank (by decide)

theorem wellFormed_empty : empty.WellFormed := ⟨List.forall_mem_nil _, List.forall_mem_nil _⟩

/-- One call adds nothing but what its arguments and its return list show. -/
theorem WellFormed.merge (hs : s.WellFormed) {call : Call} (hcall : call.WellFormed) :
    (s.merge call.args call.returns).WellFormed := by
  refine ⟨fun p hp => ?_, fun r hr => ?_⟩
  · rcases mem_params_merge hp with hp | hp
    · exact hs.params p hp
    · exact Parameter.wellFormed_of_mem_ofArgs hcall.args hp
  · rcases mem_returns_merge hr with hr | ⟨list, hlist, hr⟩
    · exact hs.returns r hr
    · exact isWordChar_of_mem_returnsOf (hcall.returns list hlist) hr

theorem WellFormed.mergeAll (hs : s.WellFormed) {calls : List Call}
    (hcalls : ∀ call ∈ calls, call.WellFormed) : (s.mergeAll calls).WellFormed := by
  induction calls generalizing s with
  | nil => exact hs
  | cons call calls ih =>
    rw [List.forall_mem_cons] at hcalls
    exact ih (hs.merge hcalls.1) hcalls.2

theorem wellFormed_ofText (f t : Text) : (ofText f t).WellFormed :=
  wellFormed_empty.mergeAll fun _ hcall => Call.wellFormed_of_mem_scan hcall

end Signature

/-! ## Calls that show a signature -/

namespace Parameter

/-- The parameter as an argument without brackets around it. -/
def code (p : Parameter) : Text := p.name ++ p.default.elim [] ('=' :: ·)

variable {p : Parameter}

theorem IsName.isBracketing {name : Text} (h : IsName name) {c : Char}
    (hc : c ∈ name.head? ∨ c ∈ name.getLast?) : isBracketing c = false := by
  have hmem : c ∈ name := hc.elim List.mem_of_mem_head? List.mem_of_getLast?
  obtain ⟨hopen, hclose⟩ := hc.elim (h.head c) (h.last c)
  exact isBracketing_eq_false_iff.2 ⟨hopen, hclose, (h.plain c hmem).1⟩

theorem ofSpelling?_of_isName {name : Text} (h : IsName name) (default : Option Text) :
    ofSpelling? name default = some ⟨name, default⟩ := by
  have hname : unbracket name = name :=
    Text.trimBy_of_ends (fun c hc => h.isBracketing (Or.inl hc))
      fun c hc => h.isBracketing (Or.inr hc)
  rw [ofSpelling?, hname, Text.joinWords_of_word h.ne_nil fun c hc => (h.plain c hc).1]
  obtain ⟨c, t, rfl⟩ := List.exists_cons_of_ne_nil h.ne_nil
  rfl

theorem ofToken?_code (h : p.WellFormed) : ofToken? p.code = some p := by
  obtain ⟨name, default⟩ := p
  have hname : IsName name := h.name
  have hequals : '=' ∉ name := fun hmem => (hname.plain '=' hmem).2.2.1 rfl
  cases default with
  | none =>
    have htrim : name.trim = name := Text.trimBy_of_none fun c hc => (hname.plain c hc).1
    have hplain : ¬ (name.head? = some '[' ∨ name.getLast? = some ']') := by
      rintro (hc | hc)
      · exact (hname.head '[' hc).1 rfl
      · exact (hname.last ']' hc).2 rfl
    rw [code, Option.elim_none, List.append_nil,
      ofToken?_of_no_value hequals (htrim.symm ▸ hname.ne_nil), htrim, if_neg hplain,
      ofSpelling?_of_isName hname]
  | some value =>
    have hvalue : IsDefault value := h.default value rfl
    have hplain : unbracket value = value := Text.trimBy_of_ends hvalue.2.1 hvalue.2.2
    rw [code, Option.elim_some, ofToken?_of_value hequals, hplain, ofSpelling?_of_isName hname]

/-- Nothing in an argument ends it or the code around it. -/
theorem WellFormed.not_mem_code (h : p.WellFormed) : ',' ∉ p.code ∧ Call.tick ∉ p.code := by
  have hplain : ∀ c ∈ p.code, c ≠ ',' ∧ c ≠ Call.tick := by
    intro c hc
    rcases List.mem_append.1 hc with hc | hc
    · exact ⟨(h.name.plain c hc).2.1, (h.name.plain c hc).2.2.2⟩
    · cases hdefault : p.default with
      | none =>
        rw [hdefault] at hc
        cases hc
      | some value =>
        rw [hdefault, Option.elim_some] at hc
        rcases List.mem_cons.1 hc with rfl | hc
        · decide
        · exact (h.default value hdefault).1 c hc
  exact ⟨fun hc => (hplain _ hc).1 rfl, fun hc => (hplain _ hc).2 rfl⟩

end Parameter

namespace Signature

variable {s : Signature}

/-- The arguments that show the parameters. -/
def args (s : Signature) : Text := List.intercalate [',', ' '] (s.params.map Parameter.code)

/-- The arrow and the return values, if there are any. -/
def tail (s : Signature) : Text :=
  if s.returns = [] then [] else ['-', '>'] ++ List.intercalate [',', ' '] s.returns

/-- A call of `f` that shows the signature, without its backticks. -/
def code (s : Signature) (f : Text) : Text := f ++ ['('] ++ s.args ++ [')'] ++ s.tail

theorem ofArgs_args (h : s.WellFormed) : Parameter.ofArgs s.args = s.params := by
  have hcomma : ∀ u ∈ s.params.map Parameter.code, ',' ∉ u := by
    intro u hu
    obtain ⟨p, hp, rfl⟩ := List.mem_map.1 hu
    exact (h.params p hp).not_mem_code.1
  have hread : ∀ p ∈ s.params, (Parameter.ofToken? ∘ Parameter.code) p = some p := fun p hp =>
    Parameter.ofToken?_code (h.params p hp)
  rw [Parameter.ofArgs, args, Text.filterMap_splitOn_comma Parameter.ofToken?_cons_space rfl hcomma,
    List.filterMap_map, List.filterMap_congr hread, List.filterMap_some]

theorem tick_not_mem_args (h : s.WellFormed) : Call.tick ∉ s.args := by
  intro hmem
  rcases Text.mem_intercalate hmem with hc | ⟨u, hu, hc⟩
  · exact absurd hc (by decide)
  · obtain ⟨p, hp, rfl⟩ := List.mem_map.1 hu
    exact (h.params p hp).not_mem_code.2 hc

/-- What follows the arguments declares the return values. -/
theorem exists_declares (h : s.WellFormed) :
    ∃ returns, Call.Declares s.tail returns ∧ (returns.map returnsOf).getD [] = s.returns := by
  by_cases hnil : s.returns = []
  · rw [tail, if_pos hnil, hnil]
    exact ⟨none, .nothing, rfl⟩
  · have hlist := Text.intercalate_ne_nil hnil (fun r hr => (h.returns r hr).1) [',', ' ']
    have hchars : ∀ c ∈ List.intercalate [',', ' '] s.returns,
        Text.isWordChar c = true ∨ c = ',' ∨ c = ' ' := by
      intro c hc
      rcases Text.mem_intercalate hc with hc | ⟨r, hr, hc⟩
      · exact Or.inr (List.mem_pair.1 hc)
      · exact Or.inl ((h.returns r hr).2 c hc)
    have hread : returnsOf (List.intercalate [',', ' '] s.returns) = s.returns := by
      refine returnsOf_intercalate fun r hr => ⟨(h.returns r hr).1, fun hc => ?_, fun c hc => ?_⟩
      · exact absurd ((h.returns r hr).2 ',' hc) (by decide +kernel)
      · exact isBlank_of_isWordChar ((h.returns r hr).2 c hc)
    have harrow := Call.Declares.arrow (List.forall_mem_nil _) (List.forall_mem_nil _) hlist hchars
    refine ⟨some (List.intercalate [',', ' '] s.returns), ?_, hread⟩
    rw [tail, if_neg hnil]
    exact harrow

/-- A well-formed signature is read off the call that shows it. -/
theorem ofText_code (h : s.WellFormed) (f : Text) :
    ofText f (Call.tick :: (s.code f ++ [Call.tick])) = s := by
  obtain ⟨returns, hdeclares, hreturns⟩ := exists_declares h
  have htick := hdeclares.not_mem (c := Call.tick) (by decide) (by decide) (by decide +kernel)
  have hclose := hdeclares.not_mem (c := ')') (by decide) (by decide) (by decide +kernel)
  obtain ⟨returns', htail, hnames⟩ := Call.exists_returnsOfTail? hdeclares
  have hafter := Call.after?_written (f := f) (tick_not_mem_args h) htick hclose htail []
  have hread : ofText f ([] ++ Call.tick :: (s.code f ++ [Call.tick])) =
      empty.merge s.args returns' := ofText_of_after? List.not_mem_nil List.not_mem_nil hafter
  rw [List.nil_append] at hread
  rw [hread, merge_empty, hnames, ofArgs_args h, hreturns]

/-- **Well-formed signatures.** Whatever function is looked for, and whatever the text: every
parameter that is read off has a nonempty name without blanks, commas, equals signs and backticks,
and with no bracket at its ends; its default, if there is one, has no comma or backtick and no
bracket or blank at its ends; and every return value is a nonempty word. Nothing more holds of all
signatures, as each of this kind is read off some text. -/
theorem ofText_exactly_wellFormed (f : Text) :
    (∀ t, (ofText f t).WellFormed) ∧ ∀ s : Signature, s.WellFormed → ∃ t, ofText f t = s := by
  constructor
  · intro t
    exact wellFormed_ofText f t
  · intro s h
    exact ⟨Call.tick :: (s.code f ++ [Call.tick]), ofText_code h f⟩

/-- A page with brackets that are nested, apart, within a name and alone, and with arguments that
have no name. -/
def bracketPage : Text :=
  "\x60btnp([[player  id ]], [[a]b = [ -1 ] =], [ ] , = 1, hold]=[) -> is  on, , n\x60"

def bracketSignature : Signature :=
  ⟨[⟨"player_id", some "nil"⟩, ⟨"a]b", some "-1 ] ="⟩, ⟨"hold", some ""⟩], ["is_on", "n"]⟩

theorem ofText_bracketPage : ofText "btnp" bracketPage = bracketSignature ∧
    (ofText "btnp" bracketPage).WellFormed ∧ bracketSignature.WellFormed ∧
      ∃ t, ofText "key" t = bracketSignature := by
  have hread : ofText "btnp" bracketPage = bracketSignature := by decide +kernel
  have hformed : bracketSignature.WellFormed := by decide +kernel
  exact ⟨hread, (ofText_exactly_wellFormed "btnp").1 bracketPage, hformed,
    (ofText_exactly_wellFormed "key").2 bracketSignature hformed⟩

end Signature

/-! ## Signatures of functions -/

theorem Corrections.wellFormed_of_signatureFor? {function : Text} {s : Signature}
    (h : signatureFor? function = some s) : s.WellFormed := by
  have htable : ∀ e ∈ signatures, e.2.WellFormed := by decide +kernel
  obtain ⟨e, hfind, rfl⟩ := Option.map_eq_some_iff.1 h
  exact htable e (List.mem_of_find?_eq_some hfind)

/-- The signature of a function is well formed, be it read or corrected. -/
theorem Section.wellFormed_signature [PatternCompiler] {function : Text} {s : Section}
    {signature : Signature} (h : s.signature function = .ok signature) :
    signature.WellFormed := by
  rcases signature_eq_ok_iff.1 h with hfix | ⟨-, -, rfl⟩
  · exact Corrections.wellFormed_of_signatureFor? hfix
  · exact Signature.wellFormed_ofText function s.body

end WikiStubs
