import Mathlib.Data.List.Induction
import WikiStubs.Proofs.Call

/-!
# The calls between the backticks of a text

The calls of a function can be found without scanning. The text is cut at its backticks, and the
pieces after the first are gone through in order: a piece that shows a call of the function
(`Call.Shows`) and has a backtick after it is merged, and the piece behind it is passed over; any
other piece is passed over alone (`Call.Walk`). The walk ends with the signature that is read off
the text, and with no other, whenever the pattern of the calls compiles (`Call.walk_iff`).

The spelling of a call leaves open where the blanks after an arrow end and the return list begins.
It makes no difference, because return lists that differ by blanks at their start name the same
values (`Signature.returnsOf_append_of_blank`).
-/
namespace WikiStubs

/-! ## Return lists -/

namespace Signature

theorem returnsOf_cons_of_blank {c : Char} (hc : Text.isBlank c = true) (list : Text) :
    returnsOf (c :: list) = returnsOf list := by
  have hcomma : ¬ (c == ',') = true := by
    intro e
    obtain rfl : c = ',' := by simpa using e
    exact absurd hc (by decide)
  obtain ⟨p, ps, hcut⟩ := List.exists_cons_of_ne_nil (List.splitOn_ne_nil ',' list)
  rw [returnsOf, List.splitOn_cons_eq_if_modifyHead, if_neg hcomma, returnsOf, hcut,
    List.modifyHead_cons, List.map_cons, Text.joinWords_cons_of_blank hc, List.map_cons]

theorem returnsOf_append_of_blank {blanks : Text} (h : ∀ c ∈ blanks, Text.isBlank c = true)
    (list : Text) : returnsOf (blanks ++ list) = returnsOf list := by
  induction blanks with
  | nil => rfl
  | cons c blanks ih =>
    rw [List.cons_append, returnsOf_cons_of_blank (h c (List.mem_cons_self ..)),
      ih fun d hd => h d (List.mem_cons_of_mem _ hd)]

theorem returnsOf_of_blank {list : Text} (h : ∀ c ∈ list, Text.isBlank c = true) :
    returnsOf list = [] := by
  rw [← List.append_nil list, returnsOf_append_of_blank h]
  rfl

/-- Only what a return list names is merged. -/
theorem merge_congr {returns returns' : Option Text}
    (h : returns.map returnsOf = returns'.map returnsOf) (s : Signature) (args : Text) :
    s.merge args returns = s.merge args returns' := by
  rw [merge, h, merge]

end Signature

namespace Call

variable {f : Text}

theorem isReturnChar_iff {c : Char} :
    isReturnChar c = true ↔ Text.isWordChar c = true ∨ c = ',' ∨ c = ' ' := by
  simp only [isReturnChar, Bool.or_eq_true, beq_iff_eq, or_assoc]

/-- The only blank that may stand in a return list is the space. -/
theorem eq_space_of_isReturnChar {c : Char} (hreturn : isReturnChar c = true)
    (hblank : Text.isBlank c = true) : c = ' ' := by
  rcases isReturnChar_iff.1 hreturn with hword | rfl | rfl
  · rw [isBlank_of_isWordChar hword] at hblank
    cases hblank
  · exact absurd hblank (by decide)
  · rfl

/-! ## What a call looks like -/

/-- What may follow the arguments of a call: nothing, or an arrow and a return list. -/
inductive Declares : Text → Option Text → Prop
  | nothing : Declares [] none
  | arrow {blanks blanks' list : Text} (hblanks : ∀ c ∈ blanks, Text.isBlank c = true)
      (hblanks' : ∀ c ∈ blanks', Text.isBlank c = true) (hne : list ≠ [])
      (hlist : ∀ c ∈ list, Text.isWordChar c = true ∨ c = ',' ∨ c = ' ') :
      Declares (blanks ++ ['-', '>'] ++ blanks' ++ list) (some list)

/-- Whether a piece of code is a call of `f`: the name, blanks, and arguments in parentheses, where
the closing one is the last of the piece. -/
def Shows (f piece args : Text) (returns : Option Text) : Prop :=
  ∃ blanks tail, (∀ c ∈ blanks, Text.isBlank c = true) ∧ ')' ∉ tail ∧ Declares tail returns ∧
    piece = f ++ blanks ++ '(' :: (args ++ ')' :: tail)

theorem declares_of_returnsOfArrow? {blanks list : Text} {returns : Option Text}
    (hblanks : ∀ c ∈ blanks, Text.isBlank c = true) (h : returnsOfArrow? list = some returns) :
    Declares (blanks ++ ['-', '>'] ++ list) returns := by
  unfold returnsOfArrow? at h
  split at h
  · next hnil =>
    -- all is blank after the arrow, and the last blank is taken for the list
    split at h
    · next hlast =>
      cases h
      obtain ⟨blanks', rfl⟩ := List.getLast?_eq_some_iff.1 hlast
      have hall := List.dropWhile_eq_nil_iff.1 hnil
      rw [← List.append_assoc]
      exact .arrow hblanks (fun c hc => hall c (List.mem_append_left _ hc))
        (List.cons_ne_nil _ _) (by simp)
    · cases h
  · next hne =>
    split at h
    · next hall =>
      cases h
      have htake : ∀ c ∈ list.takeWhile Text.isBlank, Text.isBlank c = true :=
        fun c hc => List.mem_takeWhile_imp hc
      have harrow := Declares.arrow hblanks htake hne
        (fun c hc => isReturnChar_iff.1 (List.all_eq_true.1 hall c hc))
      rwa [List.append_assoc, List.takeWhile_append_dropWhile] at harrow
    · cases h

theorem declares_of_returnsOfTail? {tail : Text} {returns : Option Text}
    (h : returnsOfTail? tail = some returns) : Declares tail returns := by
  by_cases hnil : tail = []
  · subst hnil
    cases h
    exact .nothing
  · rw [returnsOfTail?_of_ne_nil hnil] at h
    obtain ⟨list, harrow, hlist⟩ := Option.bind_eq_some_iff.1 h
    have htail : tail = tail.takeWhile Text.isBlank ++ ['-', '>'] ++ list := by
      have hdrop := Text.after?_eq_some.1 harrow
      rw [List.append_assoc]
      conv_lhs => rw [← List.takeWhile_append_dropWhile (p := Text.isBlank) (l := tail), hdrop]
      rfl
    rw [htail]
    exact declares_of_returnsOfArrow? (fun c hc => List.mem_takeWhile_imp hc) hlist

/-- A list is read up to blanks before it, which name nothing. -/
theorem returnsOfArrow?_append {blanks list : Text} (hblanks : ∀ c ∈ blanks, Text.isBlank c = true)
    (hne : list ≠ []) (hlist : ∀ c ∈ list, isReturnChar c = true) :
    ∃ list', returnsOfArrow? (blanks ++ list) = some (some list') ∧
      Signature.returnsOf list' = Signature.returnsOf list := by
  rw [returnsOfArrow?, List.dropWhile_append_of_pos hblanks]
  split
  · next hnil =>
    have hall := List.dropWhile_eq_nil_iff.1 hnil
    have hspace : (blanks ++ list).getLast? = some ' ' := by
      have hmem := List.getLast_mem hne
      rw [List.getLast?_append_of_ne_nil _ hne, List.getLast?_eq_some_getLast hne,
        eq_space_of_isReturnChar (hlist _ hmem) (hall _ hmem)]
    rw [if_pos hspace]
    exact ⟨[' '], rfl, by rw [Signature.returnsOf_of_blank hall]; rfl⟩
  · have hall : (list.dropWhile Text.isBlank).all isReturnChar = true :=
      List.all_eq_true.2 fun c hc => hlist c ((List.dropWhile_sublist _).subset hc)
    rw [if_pos hall]
    refine ⟨_, rfl, ?_⟩
    conv_rhs => rw [← List.takeWhile_append_dropWhile (p := Text.isBlank) (l := list)]
    rw [Signature.returnsOf_append_of_blank fun c hc => List.mem_takeWhile_imp hc]

/-- What follows the arguments is read, up to blanks before the return list. -/
theorem exists_returnsOfTail? {tail : Text} {returns : Option Text} (h : Declares tail returns) :
    ∃ returns', returnsOfTail? tail = some returns' ∧
      returns'.map Signature.returnsOf = returns.map Signature.returnsOf := by
  cases h with
  | nothing => exact ⟨none, rfl, rfl⟩
  | @arrow blanks blanks' list hblanks hblanks' hne hlist =>
    obtain ⟨list', hread, hnames⟩ :=
      returnsOfArrow?_append hblanks' hne fun c hc => isReturnChar_iff.2 (hlist c hc)
    refine ⟨some list', ?_, congrArg some hnames⟩
    have hdrop : (blanks ++ ['-', '>'] ++ blanks' ++ list).dropWhile Text.isBlank =
        ['-', '>'] ++ (blanks' ++ list) := by
      rw [List.append_assoc, List.append_assoc, List.dropWhile_append_of_pos hblanks]
      rfl
    have harrow : Text.after? "->" (['-', '>'] ++ (blanks' ++ list)) = some (blanks' ++ list) :=
      Text.after?_append ['-', '>'] _
    rw [returnsOfTail?_of_ne_nil (by simp), hdrop, harrow, Option.bind_some, hread]

/-! ## One piece -/

/-- A call that a piece shows is read, up to blanks before its return list. -/
theorem exists_after? {piece args : Text} {returns : Option Text} (hpiece : tick ∉ piece)
    (h : Shows f piece args returns) (rest : Text) :
    ∃ call, after? f (piece ++ tick :: rest) = some (call, rest) ∧
      ∀ s : Signature, s.merge call.args call.returns = s.merge args returns := by
  obtain ⟨blanks, tail, hblanks, hlast, hdeclares, rfl⟩ := h
  obtain ⟨returns', hreturns, hnames⟩ := exists_returnsOfTail? hdeclares
  have hcode : ∀ c ∈ args ++ ')' :: tail, decide (c ≠ tick) = true := by
    intro c hc
    refine decide_eq_true fun e => hpiece ?_
    rw [← e]
    exact List.mem_append_right _ (List.mem_cons_of_mem _ hc)
  have hname : Text.after? f (f ++ blanks ++ '(' :: (args ++ ')' :: tail) ++ tick :: rest) =
      some (blanks ++ '(' :: (args ++ ')' :: tail ++ tick :: rest)) := by
    rw [List.append_assoc, List.append_assoc]
    exact Text.after?_append f _
  have hparen : Text.after? "(" ((blanks ++ '(' :: (args ++ ')' :: tail ++ tick :: rest)).dropWhile
      Text.isBlank) = some (args ++ ')' :: tail ++ tick :: rest) := by
    rw [List.dropWhile_append_of_pos hblanks]
    exact Text.after?_append ['('] _
  have htake : (tick :: rest).takeWhile (fun c => decide (c ≠ tick)) = [] := by simp
  have hdrop : (tick :: rest).dropWhile (fun c => decide (c ≠ tick)) = tick :: rest := by simp
  unfold after?
  simp only [hname, hparen, List.dropWhile_append_of_pos hcode, List.takeWhile_append_of_pos hcode,
    htake, hdrop, List.append_nil, Text.splitAtLast?_append hlast, hreturns]
  exact ⟨_, rfl, fun s => Signature.merge_congr hnames s args⟩

/-- What is read as a call is shown by the piece up to the next backtick. -/
theorem shows_of_after? {piece rest rest' : Text} {call : Call} (hf : tick ∉ f)
    (hpiece : tick ∉ piece) (h : after? f (piece ++ tick :: rest) = some (call, rest')) :
    rest' = rest ∧ Shows f piece call.args call.returns := by
  obtain ⟨t₁, t₂, tail, d, hname, hparen, hrest, hargs, hreturns⟩ := after?_eq_some h
  obtain rfl := eq_tick_of_dropWhile hrest
  obtain ⟨hcode, hlast⟩ := Text.splitAtLast?_eq_some_iff.1 hargs
  obtain ⟨blanks, hblanks, ht₁⟩ : ∃ blanks, (∀ c ∈ blanks, Text.isBlank c = true) ∧
      t₁ = blanks ++ '(' :: t₂ := by
    refine ⟨t₁.takeWhile Text.isBlank, fun c hc => List.mem_takeWhile_imp hc, ?_⟩
    conv_lhs => rw [← List.takeWhile_append_dropWhile (p := Text.isBlank) (l := t₁),
      Text.after?_eq_some.1 hparen]
    rfl
  -- the text is cut in two ways at its first backtick
  have ht₂ : t₂ = call.args ++ ')' :: tail ++ tick :: rest' := by
    rw [← hcode, ← hrest, List.takeWhile_append_dropWhile]
  have hcut : piece ++ tick :: rest =
      (f ++ blanks ++ '(' :: (call.args ++ ')' :: tail)) ++ tick :: rest' := by
    rw [Text.after?_eq_some.1 hname, ht₁, ht₂]
    simp
  have hargs : tick ∉ call.args ++ ')' :: tail := by
    rw [← hcode]
    intro hmem
    simpa using List.mem_takeWhile_imp hmem
  have hwhole : tick ∉ f ++ blanks ++ '(' :: (call.args ++ ')' :: tail) := by
    intro hmem
    rcases List.mem_append.1 hmem with hmem | hmem
    · rcases List.mem_append.1 hmem with hmem | hmem
      · exact hf hmem
      · exact absurd (hblanks _ hmem) (by decide)
    · rcases List.mem_cons.1 hmem with he | hmem
      · exact absurd he (by decide)
      · exact hargs hmem
  obtain ⟨hpiece, hrest⟩ := Text.append_cons_inj hpiece hwhole hcut
  exact ⟨hrest.symm, _, tail, hblanks, hlast, declares_of_returnsOfTail? hreturns, hpiece⟩

/-- A call needs a backtick at its end. -/
theorem after?_of_not_mem {t : Text} (h : tick ∉ t) : after? f t = none := by
  rw [Option.eq_none_iff_forall_not_mem]
  rintro ⟨call, rest⟩ hafter
  obtain ⟨t₁, t₂, _, d, hname, hparen, hrest, -, -⟩ := after?_eq_some hafter
  obtain rfl := eq_tick_of_dropWhile hrest
  have ht₂ : tick ∈ t₂ := (List.dropWhile_sublist _).subset (hrest ▸ List.mem_cons_self ..)
  have ht₁ : tick ∈ t₁ := (List.dropWhile_sublist Text.isBlank).subset
    (Text.after?_eq_some.1 hparen ▸ List.mem_append_right _ ht₂)
  exact h (Text.after?_eq_some.1 hname ▸ List.mem_append_right _ ht₁)

/-! ## All pieces -/

/-- Going through the pieces of a text after its first backtick, from one signature to another. A
piece that shows a call and is not the last is merged, and the piece behind it stands outside the
code. -/
inductive Walk (f : Text) : Signature → List Text → Signature → Prop
  | done {s : Signature} : Walk f s [] s
  | last {s : Signature} {p : Text} : Walk f s [p] s
  | call {s s' : Signature} {p q : Text} {ps : List Text} {args : Text} {returns : Option Text}
      (h : Shows f p args returns) (hwalk : Walk f (s.merge args returns) ps s') :
      Walk f s (p :: q :: ps) s'
  | other {s s' : Signature} {p q : Text} {ps : List Text}
      (h : ¬ ∃ args returns, Shows f p args returns) (hwalk : Walk f s (q :: ps) s') :
      Walk f s (p :: q :: ps) s'

def ticked (ps : List Text) : Text := ps.flatMap (tick :: ·)

theorem ticked_cons (p : Text) (ps : List Text) : ticked (p :: ps) = tick :: (p ++ ticked ps) := rfl

section
variable {p q : Text} {ps : List Text}

theorem scan_ticked_last (hp : tick ∉ p) : scan f (ticked [p]) = [] := by
  rw [ticked_cons, scan_tick_of_none]
  · exact scan_of_not_mem (by simpa [ticked] using hp)
  · exact after?_of_not_mem (by simpa [ticked] using hp)

/-- A call is found, and the piece behind it is passed over. -/
theorem scan_ticked_call (ps : List Text) {args : Text} {returns : Option Text} (hp : tick ∉ p)
    (hq : tick ∉ q) (h : Shows f p args returns) : ∃ call, scan f (ticked (p :: q :: ps)) =
      call :: scan f (ticked ps) ∧
      ∀ s : Signature, s.merge call.args call.returns = s.merge args returns := by
  obtain ⟨call, hafter, hmerge⟩ := exists_after? hp h (q ++ ticked ps)
  refine ⟨call, ?_, hmerge⟩
  rw [ticked_cons, ticked_cons, scan_tick hafter, scan_append_of_not_mem hq]

/-- A piece that shows no call is passed over. -/
theorem scan_ticked_other (hf : tick ∉ f) (hp : tick ∉ p)
    (h : ¬ ∃ args returns, Shows f p args returns) :
    scan f (ticked (p :: q :: ps)) = scan f (ticked (q :: ps)) := by
  have hnone : after? f (p ++ ticked (q :: ps)) = none := by
    rw [Option.eq_none_iff_forall_not_mem]
    rintro ⟨call, rest⟩ hafter
    exact h ⟨_, _, (shows_of_after? hf hp hafter).2⟩
  rw [ticked_cons, scan_tick_of_none hnone, scan_append_of_not_mem hp]

end

/-- Walking ends where the calls that are found lead. -/
theorem Walk.eq_mergeAll (hf : tick ∉ f) {s s' : Signature} {ps : List Text}
    (h : Walk f s ps s') (hps : ∀ p ∈ ps, tick ∉ p) : s' = s.mergeAll (scan f (ticked ps)) := by
  induction h with
  | done => rw [ticked, List.flatMap_nil, scan]; rfl
  | last => rw [scan_ticked_last (hps _ (List.mem_cons_self ..))]; rfl
  | @call s s' p q ps args returns h hwalk ih =>
    rw [List.forall_mem_cons, List.forall_mem_cons] at hps
    obtain ⟨hp, hq, hps⟩ := hps
    obtain ⟨call, hscan, hmerge⟩ := scan_ticked_call ps hp hq h
    rw [ih hps, hscan, ← hmerge]
    rfl
  | other h hwalk ih =>
    rw [ih fun p hp => hps p (List.mem_cons_of_mem _ hp),
      scan_ticked_other hf (hps _ (List.mem_cons_self ..)) h]

/-- The walk can always be made. -/
theorem walk_mergeAll (hf : tick ∉ f) (s : Signature) {ps : List Text}
    (hps : ∀ p ∈ ps, tick ∉ p) : Walk f s ps (s.mergeAll (scan f (ticked ps))) := by
  induction ps using List.twoStepInduction generalizing s with
  | nil => rw [ticked, List.flatMap_nil, scan]; exact .done
  | singleton p => rw [scan_ticked_last (hps p (List.mem_cons_self ..))]; exact .last
  | cons_cons p q ps ih ih' =>
    rw [List.forall_mem_cons, List.forall_mem_cons] at hps
    obtain ⟨hp, hq, hps⟩ := hps
    by_cases h : ∃ args returns, Shows f p args returns
    · obtain ⟨args, returns, h⟩ := h
      obtain ⟨call, hscan, hmerge⟩ := scan_ticked_call ps hp hq h
      rw [hscan]
      refine .call h ?_
      rw [← hmerge]
      exact ih _ hps
    · rw [scan_ticked_other hf hp h]
      exact .other h (ih' q s (List.forall_mem_cons.2 ⟨hq, hps⟩))

/-- A piece shows calls of one function only: the names have no parenthesis, and blanks at their
ends are not told from those before the arguments. -/
theorem Shows.trimEnd_eq {g piece args args' : Text} {returns returns' : Option Text}
    (hf : '(' ∉ f) (hg : '(' ∉ g) (h : Shows f piece args returns)
    (h' : Shows g piece args' returns') : f.trimEnd = g.trimEnd := by
  obtain ⟨blanks, tail, hblanks, -, -, rfl⟩ := h
  obtain ⟨blanks', tail', hblanks', -, -, hcut⟩ := h'
  have hparen : ∀ {name blanks : Text}, '(' ∉ name → (∀ c ∈ blanks, Text.isBlank c = true) →
      '(' ∉ name ++ blanks := by
    intro name blanks hname hblanks hmem
    rcases List.mem_append.1 hmem with hmem | hmem
    · exact hname hmem
    · exact absurd (hblanks _ hmem) (by decide)
  have hnames : f ++ blanks = g ++ blanks' :=
    (Text.append_cons_inj (hparen hf hblanks) (hparen hg hblanks') hcut).1
  calc f.trimEnd = (f ++ blanks).trimEnd := (Text.trimEndBy_append hblanks f).symm
    _ = (g ++ blanks').trimEnd := by rw [hnames]
    _ = g.trimEnd := Text.trimEndBy_append hblanks' g

/-- The walk ends with what the calls of the text show. -/
theorem walk_iff_eq_ofText (hf : tick ∉ f) (t : Text) {s : Signature} :
    Walk f Signature.empty (t.splitOn tick).tail s ↔ s = Signature.ofText f t := by
  obtain ⟨p, ps, hcut, ht, hfree⟩ := Text.exists_splitOn_eq tick t
  rw [List.forall_mem_cons] at hfree
  have hscan : scan f t = scan f (ticked ps) := by
    conv_lhs => rw [ht]
    exact scan_append_of_not_mem hfree.1 _
  rw [hcut, List.tail_cons, Signature.ofText, hscan]
  constructor
  · intro hwalk
    exact hwalk.eq_mergeAll hf hfree.2
  · rintro rfl
    exact walk_mergeAll hf _ hfree.2

/-- **The calls of a text.** If the pattern of the calls compiles, a signature is read off the text,
and it is where the walk through the pieces between the backticks ends, the only place where it can
end. If the pattern is refused, that is the fault. A call of another function never counts, however
its name starts or ends. -/
theorem walk_iff [PatternCompiler] (hf : tick ∉ f) (t : Text) :
    (PatternCompiler.refusal? f = none → ∃ s, Signature.extract f t = .ok s ∧
      ∀ s', Walk f Signature.empty (t.splitOn tick).tail s' ↔ s' = s) ∧
    (∀ message, PatternCompiler.refusal? f = some message →
      Signature.extract f t = .error (.malformed .callPattern message)) ∧
    ∀ g piece args returns, '(' ∉ f → '(' ∉ g → g.trimEnd ≠ f.trimEnd →
      Shows g piece args returns → ¬ ∃ args' returns', Shows f piece args' returns' := by
  refine ⟨fun hcompiles => ?_, fun message hrefused => ?_, ?_⟩
  · exact ⟨_, Signature.extract_eq_ok_iff.2 ⟨hcompiles, rfl⟩, fun _ => walk_iff_eq_ofText hf t⟩
  · exact Signature.extract_eq_error_iff.2 ⟨message, hrefused, rfl⟩
  · rintro g piece args returns hf' hg hne h ⟨args', returns', h'⟩
    exact hne (h.trimEnd_eq hg hf' h')

/-- A page with a call of another function and two calls, one of them with a blank before its
arguments and two after its arrow. -/
def circlePage : Text := "\x60circb(q)\x60 \x60circ (x, y)\x60\x60circ(x, y, r) ->  ok\x60"

def circleSignature : Signature := ⟨[⟨"x", none⟩, ⟨"y", none⟩, ⟨"r", none⟩], ["ok"]⟩

theorem walk_circlePage : tick ∉ ("circ" : Text) ∧ PatternCompiler.refusal? "circ" = none ∧
    Signature.extract "circ" circlePage = .ok circleSignature ∧
    Walk "circ" Signature.empty (circlePage.splitOn tick).tail circleSignature ∧
    ¬ ∃ args returns, Shows "circ" "circb(q)" args returns := by
  have hf : tick ∉ ("circ" : Text) := by decide
  have hcompiles : PatternCompiler.refusal? "circ" = none := by decide
  have hextract : Signature.extract "circ" circlePage = .ok circleSignature := by decide +kernel
  obtain ⟨hwalk, -, hother⟩ := walk_iff hf circlePage
  obtain ⟨s, hs, hends⟩ := hwalk hcompiles
  obtain rfl := Except.ok.inj (hs.symm.trans hextract)
  have hshows : Shows "circb" "circb(q)" "q" none :=
    ⟨[], [], List.forall_mem_nil _, List.not_mem_nil, .nothing, rfl⟩
  exact ⟨hf, hcompiles, hextract, (hends _).2 rfl,
    hother "circb" "circb(q)" "q" none (by decide) (by decide) (by decide) hshows⟩

end Call
end WikiStubs
