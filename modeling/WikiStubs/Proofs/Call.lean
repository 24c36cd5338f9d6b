import WikiStubs.Proofs.Argument

/-!
# Calls that are written to be read

A declared function is written as a call, with an arrow before its return values. The call is read
back as it was declared (`Declaration.ofText_code`), whatever text without a backtick stands around
it: the scan finds it and nothing else, its arguments end at its last closing parenthesis
(`Call.after?_written`), and what follows them is the arrow (`Declaration.returnsOfTail?_tail`).
-/
namespace WikiStubs

/-! ## Calls -/

namespace Call

theorem scan_cons_of_ne {f : Text} {c : Char} (hc : c ≠ tick) (t : Text) :
    scan f (c :: t) = scan f t := by
  rw [scan, if_neg hc]

theorem scan_append_of_not_mem {f s : Text} (h : tick ∉ s) (t : Text) :
    scan f (s ++ t) = scan f t := by
  induction s with
  | nil => rfl
  | cons c s ih =>
    rw [List.mem_cons, not_or] at h
    rw [List.cons_append, scan_cons_of_ne (Ne.symm h.1), ih h.2]

theorem scan_of_not_mem {f s : Text} (h : tick ∉ s) : scan f s = [] := by
  rw [← List.append_nil s, scan_append_of_not_mem h, scan]

/-- What stands where a call is found: the name, its arguments up to the last closing parenthesis
before the next backtick, and after that what is read as its return values. -/
theorem after?_eq_some {f t rest : Text} {call : Call} (h : after? f t = some (call, rest)) :
    ∃ t₁ t₂ tail d, Text.after? f t = some t₁ ∧
      Text.after? "(" (t₁.dropWhile Text.isBlank) = some t₂ ∧
      t₂.dropWhile (fun c => decide (c ≠ tick)) = d :: rest ∧
      Text.splitAtLast? ')' (t₂.takeWhile fun c => decide (c ≠ tick)) = some (call.args, tail) ∧
      returnsOfTail? tail = some call.returns := by
  unfold after? at h
  split at h
  · cases h
  · next t₁ hname =>
    split at h
    · cases h
    · next t₂ hparen =>
      split at h
      · cases h
      · next d rest' hrest =>
        split at h
        · cases h
        · next args tail hargs =>
          split at h
          · cases h
          · next returns hreturns =>
            cases h
            exact ⟨t₁, t₂, tail, d, hname, hparen, hrest, hargs, hreturns⟩

/-- The code of a call ends at a backtick. -/
theorem eq_tick_of_dropWhile {t rest : Text} {d : Char}
    (h : t.dropWhile (fun c => decide (c ≠ tick)) = d :: rest) : d = tick := by
  have hhead := List.head?_dropWhile_not (fun c => decide (c ≠ tick)) t
  rw [h] at hhead
  simpa using hhead

theorem scan_tick {f t rest : Text} {call : Call} (h : after? f t = some (call, rest)) :
    scan f (tick :: t) = call :: scan f rest := by
  rw [scan, if_pos rfl]
  split
  · next h' => cases h.symm.trans h'; rfl
  · next h' => cases h.symm.trans h'

theorem scan_tick_of_none {f t : Text} (h : after? f t = none) :
    scan f (tick :: t) = scan f t := by
  rw [scan, if_pos rfl]
  split
  · next h' => cases h.symm.trans h'
  · rfl

/-- The arguments of a call, and what follows it, stand in the text. -/
theorem mem_of_after? {f t rest : Text} {call : Call} (h : after? f t = some (call, rest)) :
    (∀ c ∈ call.args, c ∈ t) ∧ ∀ c ∈ rest, c ∈ t := by
  obtain ⟨t₁, t₂, tail, d, hname, hparen, hrest, hargs, -⟩ := after?_eq_some h
  have hsub : ∀ c ∈ t₂, c ∈ t := fun c hc => by
    rw [Text.after?_eq_some.1 hname]
    refine List.mem_append_right _ ((List.dropWhile_sublist Text.isBlank).subset ?_)
    rw [Text.after?_eq_some.1 hparen]
    exact List.mem_append_right _ hc
  constructor
  · intro c hc
    have hcode : c ∈ t₂.takeWhile (fun c => decide (c ≠ tick)) := by
      rw [(Text.splitAtLast?_eq_some_iff.1 hargs).1]
      exact List.mem_append_left _ hc
    exact hsub c ((List.takeWhile_sublist _).subset hcode)
  · intro c hc
    have hcode : c ∈ t₂.dropWhile (fun c => decide (c ≠ tick)) := by
      rw [hrest]
      exact List.mem_cons_of_mem _ hc
    exact hsub c ((List.dropWhile_sublist _).subset hcode)

/-- A call is found where one is read, in what is left of the text. -/
theorem exists_after?_of_mem_scan {f t : Text} {call : Call} (h : call ∈ scan f t) :
    ∃ u rest, after? f u = some (call, rest) ∧ ∀ c ∈ u, c ∈ t := by
  fun_induction scan f t with
  | case1 => cases h
  | case2 t other rest hafter ih =>
    rcases List.mem_cons.1 h with rfl | h
    · exact ⟨t, rest, hafter, fun c hc => List.mem_cons_of_mem _ hc⟩
    · obtain ⟨u, rest', hread, hsub⟩ := ih h
      exact ⟨u, rest', hread, fun c hc =>
        List.mem_cons_of_mem _ ((mem_of_after? hafter).2 c (hsub c hc))⟩
  | case3 t hafter ih =>
    obtain ⟨u, rest, hread, hsub⟩ := ih h
    exact ⟨u, rest, hread, fun c hc => List.mem_cons_of_mem _ (hsub c hc)⟩
  | case4 d t hd ih =>
    obtain ⟨u, rest, hread, hsub⟩ := ih h
    exact ⟨u, rest, hread, fun c hc => List.mem_cons_of_mem _ (hsub c hc)⟩

theorem mem_of_mem_args {f t : Text} {call : Call} (h : call ∈ scan f t) :
    ∀ c ∈ call.args, c ∈ t := by
  obtain ⟨u, rest, hread, hsub⟩ := exists_after?_of_mem_scan h
  exact fun c hc => hsub c ((mem_of_after? hread).1 c hc)

/-- What follows an arrow, read as a return list. -/
def returnsOfArrow? (list : Text) : Option (Option Text) :=
  match list.dropWhile Text.isBlank with
  | [] => if list.getLast? = some ' ' then some (some [' ']) else none
  | names => if names.all isReturnChar then some (some names) else none

theorem returnsOfTail?_of_ne_nil {t : Text} (h : t ≠ []) :
    returnsOfTail? t = (Text.after? "->" (t.dropWhile Text.isBlank)).bind returnsOfArrow? := by
  rw [returnsOfTail?]
  · cases Text.after? "->" (t.dropWhile Text.isBlank) <;> rfl
  · exact h

/-- The code of a call, written without blanks before the arguments. -/
theorem after?_written {f args tail : Text} {returns : Option Text} (hargs : tick ∉ args)
    (htick : tick ∉ tail) (hlast : ')' ∉ tail) (hreturns : returnsOfTail? tail = some returns)
    (rest : Text) :
    after? f (f ++ ['('] ++ args ++ [')'] ++ tail ++ tick :: rest) =
      some (⟨tick :: (f ++ ['('] ++ args ++ [')'] ++ tail ++ [tick]), args, returns⟩, rest) := by
  have hcode : ∀ c ∈ args ++ ')' :: tail, decide (c ≠ tick) = true := by
    intro c hc
    refine decide_eq_true ?_
    rcases List.mem_append.1 hc with hc | hc
    · intro e
      subst e
      exact hargs hc
    · rcases List.mem_cons.1 hc with rfl | hc
      · decide
      · intro e
        subst e
        exact htick hc
  have hname : Text.after? f (f ++ ['('] ++ args ++ [')'] ++ tail ++ tick :: rest) =
      some ('(' :: (args ++ ')' :: tail ++ tick :: rest)) := by
    simpa using Text.after?_append f ('(' :: (args ++ ')' :: tail ++ tick :: rest))
  have hparen : Text.after? "(" (('(' :: (args ++ ')' :: tail ++ tick :: rest)).dropWhile
      Text.isBlank) = some (args ++ ')' :: tail ++ tick :: rest) := Text.after?_append ['('] _
  have htake : ∀ code : Text, (code ++ tick :: rest).take
      ((code ++ tick :: rest).length - rest.length) = code ++ [tick] := fun code => by
    rw [List.append_cons, List.length_append, Nat.add_sub_cancel, List.take_left' rfl]
  have htick : (tick :: rest).takeWhile (fun c => decide (c ≠ tick)) = [] := by simp
  have hrest : (tick :: rest).dropWhile (fun c => decide (c ≠ tick)) = tick :: rest := by simp
  unfold after?
  simp only [hname, hparen, htake, List.dropWhile_append_of_pos hcode,
    List.takeWhile_append_of_pos hcode, htick, hrest, List.append_nil,
    Text.splitAtLast?_append hlast, hreturns]

end Call

namespace Signature

/-- A call in a text without other code is the only one. -/
theorem ofText_of_after? {f t rest pre : Text} {call : Call} (hpre : Call.tick ∉ pre)
    (hrest : Call.tick ∉ rest) (h : Call.after? f t = some (call, rest)) :
    ofText f (pre ++ Call.tick :: t) = empty.merge call.args call.returns := by
  rw [ofText, Call.scan_append_of_not_mem hpre, Call.scan_tick h, Call.scan_of_not_mem hrest]
  rfl

/-- The first call that is merged gives all parameters and return values. -/
theorem merge_empty (args : Text) (returns : Option Text) : empty.merge args returns =
    ⟨Parameter.ofArgs args, (returns.map returnsOf).getD []⟩ := by
  rw [merge, empty, if_pos rfl, extend, List.length_nil, List.drop_zero, List.nil_append]

end Signature

/-! ## Declarations -/

/-- A function with its parameters and return values. -/
structure Declaration where
  name : Text
  params : List Argument
  returns : List Text

namespace Declaration

/-- The arrow and the return values, if there are any. -/
def tail (d : Declaration) : Text :=
  if d.returns = [] then [] else [' ', '-', '>', ' '] ++ List.intercalate [',', ' '] d.returns

/-- The call as a page shows it, without its backticks. -/
def code (d : Declaration) : Text :=
  d.name ++ ['('] ++ List.intercalate [',', ' '] (d.params.map (·.token)) ++ [')'] ++ d.tail

def signature (d : Declaration) : Signature := ⟨d.params.map (·.parameter), d.returns⟩

/-- All names are identifiers, and no default has anything that ends it. -/
structure Valid (d : Declaration) : Prop where
  name : IsIdentifier d.name
  params : ∀ a ∈ d.params, a.Valid
  returns : ∀ r ∈ d.returns, IsIdentifier r

variable {d : Declaration}

theorem returnsOfTail?_tail (h : d.Valid) : Call.returnsOfTail? d.tail =
    some (if d.returns = [] then none else some (List.intercalate [',', ' '] d.returns)) := by
  unfold tail
  have hreturns := h.returns
  cases hrs : d.returns with
  | nil => rfl
  | cons r rs =>
    rw [hrs] at hreturns
    have hr := hreturns r (List.mem_cons_self ..)
    obtain ⟨c, t, hc⟩ := List.exists_cons_of_ne_nil hr.1
    obtain ⟨u, hu⟩ : ∃ u, List.intercalate [',', ' '] (r :: rs) = c :: u := by
      cases rs with
      | nil => exact ⟨t, by rw [List.intercalate_singleton, hc]⟩
      | cons q qs => exact ⟨_, by rw [List.intercalate_cons_cons, hc]; rfl⟩
    have hblank : Text.isBlank c = false := hr.isBlank_eq_false c (hc ▸ List.mem_cons_self ..)
    have hall : (c :: u).all Call.isReturnChar = true := by
      rw [← hu, List.all_eq_true]
      intro x hx
      rcases Text.mem_intercalate hx with hx | ⟨q, hq, hxq⟩
      · rcases List.mem_pair.1 hx with rfl | rfl
        · decide +kernel
        · decide +kernel
      · simp [Call.isReturnChar, isWordChar_of_isIdentifierChar ((hreturns q hq).2 x hxq)]
    have harrow : Text.after? "->" (([' ', '-', '>', ' '] ++ c :: u).dropWhile Text.isBlank) =
        some (' ' :: c :: u) := Text.after?_append ['-', '>'] _
    have hdrop : (' ' :: c :: u).dropWhile Text.isBlank = c :: u := by
      rw [List.dropWhile_cons_of_pos (by decide), List.dropWhile_cons_of_neg (by simp [hblank])]
    rw [if_neg (List.cons_ne_nil r rs), if_neg (List.cons_ne_nil r rs), hu]
    unfold Call.returnsOfTail?
    split
    · next he => cases he
    · simp only [harrow, hdrop, hall, if_true]

theorem not_mem_tail (h : d.Valid) {c : Char} (hc : isIdentifierChar c = false)
    (hmarks : c ∉ [' ', '-', '>', ',']) : c ∉ d.tail := by
  simp only [List.mem_cons, List.not_mem_nil, or_false, not_or] at hmarks
  obtain ⟨h1, h2, h3, h4⟩ := hmarks
  unfold tail
  split
  · simp
  · intro hmem
    rcases List.mem_append.1 hmem with hmem | hmem
    · simp [h1, h2, h3] at hmem
    · rcases Text.mem_intercalate hmem with he | ⟨r, hr, hcr⟩
      · exact (List.mem_pair.1 he).elim h4 h1
      · exact (h.returns r hr).not_mem hc hcr

theorem not_mem_args (h : d.Valid) {c : Char} (hc : Argument.isValueChar c = false)
    (hmarks : c ∉ [',', ' ', '[', ']']) :
    c ∉ List.intercalate [',', ' '] (d.params.map (·.token)) := by
  simp only [List.mem_cons, List.not_mem_nil, or_false, not_or] at hmarks
  obtain ⟨h1, h2, h3, h4⟩ := hmarks
  intro hmem
  rcases Text.mem_intercalate hmem with he | ⟨t, ht, hct⟩
  · exact (List.mem_pair.1 he).elim h1 h2
  · obtain ⟨a, ha, rfl⟩ := List.mem_map.1 ht
    rcases Argument.isValueChar_of_mem_token (h.params a ha) hct with hv | he | he
    · rw [hc] at hv; cases hv
    · exact h3 he
    · exact h4 he

/-- A call that is written into a text without other code is read back as it was declared. -/
theorem ofText_code (h : d.Valid) {pre post : Text} (hpre : Call.tick ∉ pre)
    (hpost : Call.tick ∉ post) :
    Signature.ofText d.name (pre ++ Call.tick :: (d.code ++ Call.tick :: post)) = d.signature := by
  have hcall := Call.after?_written (f := d.name)
    (not_mem_args h (by decide) (by decide)) (not_mem_tail h (by decide) (by decide))
    (not_mem_tail h (by decide) (by decide)) (returnsOfTail?_tail h) post
  have hreturns : ((if d.returns = [] then none else
      some (List.intercalate [',', ' '] d.returns)).map Signature.returnsOf).getD [] =
      d.returns := by
    split
    · next he => rw [he]; rfl
    · rw [Option.map_some, Signature.returnsOf_names h.returns, Option.getD_some]
  rw [code, Signature.ofText_of_after? hpre hpost hcall, Signature.merge_empty, hreturns,
    Parameter.ofArgs_tokens h.params, signature]

end Declaration
end WikiStubs
