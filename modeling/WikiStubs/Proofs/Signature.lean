import WikiStubs.Proofs.Argument
import WikiStubs.Record

/-!
# Where the variables of a signature come from

A parameter has its name and its default from its token (`Parameter.exists_spelling`). Merging a
call adds nothing but parameters that its arguments spell and return values that its list spells,
so every variable of a merged signature was there before or comes from one of the calls
(`Signature.mem_params_mergeAll`, `Signature.mem_returns_mergeAll`).

Names are read as words that are joined, so no name of a variable has a blank in it, whether the
signature is read off a page or corrected (`Section.isBlank_of_mem_names`).
-/
namespace WikiStubs

/-! ## Parameters -/

namespace Parameter

theorem ofSpelling?_eq_some {name : Text} {default : Option Text} {p : Parameter}
    (h : ofSpelling? name default = some p) :
    p = ⟨Text.joinWords (unbracket name), default⟩ ∧ p.name ≠ [] := by
  unfold ofSpelling? at h
  split at h
  · cases h
  · next hne =>
    cases h
    exact ⟨rfl, hne⟩

/-- What a token gives a parameter: the spelling of a name before the first equals sign, and a
default, if there is one, that is `nil` or stands behind this sign. -/
theorem exists_spelling {token : Text} {p : Parameter} (h : ofToken? token = some p) :
    ∃ name default, ofSpelling? name default = some p ∧ (∀ c ∈ name, c ∈ token ∧ c ≠ '=') ∧
      ∀ d ∈ default, d = nilDefault ∨ ∃ value, d = unbracket value ∧ ∀ c ∈ value, c ∈ token := by
  by_cases hequals : '=' ∈ token
  · obtain ⟨name, value, rfl, hfirst⟩ := List.eq_append_cons_of_mem hequals
    rw [ofToken?_of_value hfirst] at h
    refine ⟨name, some (unbracket value), h, fun c hc => ⟨?_, ?_⟩, fun d hd => Or.inr ?_⟩
    · exact List.mem_append_left _ hc
    · exact ne_of_mem_of_not_mem hc hfirst
    · obtain rfl := Option.some.inj hd
      exact ⟨value, rfl, fun c hc => List.mem_append_right _ (List.mem_cons_of_mem _ hc)⟩
  · by_cases hnil : token.trim = []
    · rw [ofToken?, hnil] at h
      cases h
    · rw [ofToken?_of_no_value hequals hnil] at h
      refine ⟨token, _, h, fun c hc => ⟨hc, ne_of_mem_of_not_mem hc hequals⟩, fun d hd => ?_⟩
      split at hd
      · exact Or.inl (Option.some.inj hd).symm
      · cases hd

theorem isBlank_of_mem_name {token : Text} {p : Parameter} (h : ofToken? token = some p) {c : Char}
    (hc : c ∈ p.name) : Text.isBlank c = false := by
  obtain ⟨name, default, hspelling, -, -⟩ := exists_spelling h
  rw [(ofSpelling?_eq_some hspelling).1] at hc
  exact Text.isBlank_of_mem_joinWords hc

/-- A default is `nil` or stands in the token. -/
theorem mem_of_mem_default {token d : Text} {p : Parameter} (h : ofToken? token = some p)
    (hd : p.default = some d) {c : Char} (hc : c ∈ d) : c ∈ nilDefault ∨ c ∈ token := by
  obtain ⟨name, default, hspelling, -, hdefault⟩ := exists_spelling h
  rw [(ofSpelling?_eq_some hspelling).1] at hd
  rcases hdefault d hd with rfl | ⟨value, rfl, hvalue⟩
  · exact Or.inl hc
  · exact Or.inr (hvalue c (Text.mem_of_mem_trimBy hc))

end Parameter

namespace Signature

/-! ## Merging -/

variable {s : Signature} {args : Text} {returns : Option Text} {calls : List Call}

theorem mem_params_merge {p : Parameter} (h : p ∈ (s.merge args returns).params) :
    p ∈ s.params ∨ p ∈ Parameter.ofArgs args :=
  (List.mem_append.1 h).imp id List.mem_of_mem_drop

theorem mem_returns_merge {v : Text} (h : v ∈ (s.merge args returns).returns) :
    v ∈ s.returns ∨ ∃ list, returns = some list ∧ v ∈ returnsOf list := by
  unfold merge at h
  by_cases hs : s.returns = []
  · rw [if_pos hs] at h
    cases returns with
    | none => cases h
    | some list => exact Or.inr ⟨list, rfl, h⟩
  · rw [if_neg hs] at h
    exact Or.inl h

theorem mem_params_mergeAll {p : Parameter} (h : p ∈ (s.mergeAll calls).params) :
    p ∈ s.params ∨ ∃ call ∈ calls, p ∈ Parameter.ofArgs call.args := by
  induction calls generalizing s with
  | nil => exact Or.inl h
  | cons call calls ih =>
    rcases ih h with h | ⟨other, hother, hp⟩
    · exact (mem_params_merge h).imp id fun hp => ⟨call, List.mem_cons_self .., hp⟩
    · exact Or.inr ⟨other, List.mem_cons_of_mem _ hother, hp⟩

theorem mem_returns_mergeAll {v : Text} (h : v ∈ (s.mergeAll calls).returns) :
    v ∈ s.returns ∨ ∃ call ∈ calls, ∃ list, call.returns = some list ∧ v ∈ returnsOf list := by
  induction calls generalizing s with
  | nil => exact Or.inl h
  | cons call calls ih =>
    rcases ih h with h | ⟨other, hother, hv⟩
    · exact (mem_returns_merge h).imp id fun hv => ⟨call, List.mem_cons_self .., hv⟩
    · exact Or.inr ⟨other, List.mem_cons_of_mem _ hother, hv⟩

/-! ## Names -/

theorem mem_names_of_mem_params {p : Parameter} (h : p ∈ s.params) : p.name ∈ s.names :=
  List.mem_append_left _ (List.mem_map_of_mem h)

theorem mem_names_of_mem_returns {v : Text} (h : v ∈ s.returns) : v ∈ s.names :=
  List.mem_append_right _ h

theorem isBlank_of_mem_returnsOf {list v : Text} (hv : v ∈ returnsOf list) {c : Char} (hc : c ∈ v) :
    Text.isBlank c = false := by
  obtain ⟨t, -, rfl⟩ := List.mem_map.1 (List.mem_filter.1 hv).1
  exact Text.isBlank_of_mem_joinWords hc

theorem isBlank_of_mem_names_ofText {f t v : Text} (hv : v ∈ (ofText f t).names) {c : Char}
    (hc : c ∈ v) : Text.isBlank c = false := by
  rcases List.mem_append.1 hv with hv | hv
  · obtain ⟨p, hp, rfl⟩ := List.mem_map.1 hv
    rcases mem_params_mergeAll hp with hp | ⟨call, -, hp⟩
    · cases hp
    · obtain ⟨token, -, htoken⟩ := List.mem_filterMap.1 hp
      exact Parameter.isBlank_of_mem_name htoken hc
  · rcases mem_returns_mergeAll hv with hv | ⟨call, -, list, -, hv⟩
    · cases hv
    · exact isBlank_of_mem_returnsOf hv hc

end Signature

theorem Corrections.isBlank_of_mem_names {function : Text} {s : Signature}
    (h : signatureFor? function = some s) {v : Text} (hv : v ∈ s.names) {c : Char} (hc : c ∈ v) :
    Text.isBlank c = false := by
  have htable : ∀ e ∈ signatures, ∀ v ∈ e.2.names, v.all (!Text.isBlank ·) = true := by decide
  obtain ⟨e, hfind, rfl⟩ := Option.map_eq_some_iff.1 h
  have hv := htable e (List.mem_of_find?_eq_some hfind) v hv
  simpa using List.all_eq_true.1 hv c hc

/-- No name of a variable has a blank, hence none has a line break. -/
theorem Section.isBlank_of_mem_names [PatternCompiler] {function : Text} {s : Section}
    {signature : Signature} (h : s.signature function = .ok signature) {v : Text}
    (hv : v ∈ signature.names) {c : Char} (hc : c ∈ v) : Text.isBlank c = false := by
  rcases signature_eq_ok_iff.1 h with hfix | ⟨-, -, rfl⟩
  · exact Corrections.isBlank_of_mem_names hfix hv hc
  · exact Signature.isBlank_of_mem_names_ofText hv hc

end WikiStubs
