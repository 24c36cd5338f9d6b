import Mathlib.Data.List.Induction
import WikiStubs.Proofs.Argument
import WikiStubs.Proofs.Signature

/-!
# What many calls merge into

One call adds the parameters that lie beyond those known, so what many calls merge into can be
read off the calls without merging them (`Signature.mergeAll_closed_form`): there are as many
parameters as the longest call has, and each comes from the first call that is long enough; the
return values are those of the first call that declares any. It follows that calls which have been
merged add nothing when they are merged again.

The length of a call counts the arguments that have a name (`Call.arity`). An argument of brackets
and blanks alone has none (`Parameter.ofToken?_isSome_iff`): it is passed over and takes no place.

`Signature.extend_eq_foldl` takes the parameters of a call one at a time instead, and adds each
only at the place that it has in the call.
-/
namespace WikiStubs

/-! ## Arguments that have a name -/

namespace Parameter

/-- Whether an argument has a name: something besides brackets and blanks before its first equals
sign. -/
def isNamed (token : Text) : Bool := (token.takeWhile (· ≠ '=')).any (!isBracketing ·)

theorem isNamed_iff {token : Text} : isNamed token = true ↔
    ∃ c ∈ token.takeWhile (· ≠ '='), isBracketing c = false := by
  simp only [isNamed, List.any_eq_true, Bool.not_eq_true']

theorem ofSpelling?_isSome_iff {name : Text} {default : Option Text} :
    (ofSpelling? name default).isSome = true ↔ ∃ c ∈ name, isBracketing c = false := by
  have hsome : (ofSpelling? name default).isSome = true ↔
      Text.joinWords (unbracket name) ≠ [] := by
    unfold ofSpelling?
    split
    · next hnil => simp [hnil]
    · next hne => exact ⟨fun _ => hne, fun _ => rfl⟩
  rw [hsome]
  constructor
  · intro h
    by_contra hall
    have hall : ∀ c ∈ name, isBracketing c = true := by simpa using hall
    have hnil : unbracket name = [] := by
      rw [unbracket, Text.trimBy, List.dropWhile_eq_nil_iff.2 hall]
      rfl
    exact h (by rw [hnil]; rfl)
  · rintro ⟨c, hc, hbracketing⟩ hnil
    have hblank := Text.joinWords_eq_nil_iff.1 hnil c (Text.mem_trimBy hc hbracketing)
    rw [isBracketing_of_isBlank hblank] at hbracketing
    cases hbracketing

/-- Up to a first equals sign. -/
theorem takeWhile_value {name : Text} (h : '=' ∉ name) (value : Text) :
    (name ++ '=' :: value).takeWhile (fun c => decide (c ≠ '=')) = name := by
  have hname : ∀ c ∈ name, decide (c ≠ '=') = true := fun c hc =>
    decide_eq_true fun e => h (e ▸ hc)
  rw [List.takeWhile_append_of_pos hname]
  simp

theorem takeWhile_plain {t : Text} (h : '=' ∉ t) :
    t.takeWhile (fun c => decide (c ≠ '=')) = t := by
  rw [List.takeWhile_eq_self_iff]
  exact fun c hc => decide_eq_true fun e => h (e ▸ hc)

/-- An argument is read as a parameter exactly if it has a name. -/
theorem ofToken?_isSome_iff {token : Text} :
    (ofToken? token).isSome = true ↔ isNamed token = true := by
  rw [isNamed_iff]
  by_cases h : '=' ∈ token
  · obtain ⟨name, value, rfl, hname⟩ := List.eq_append_cons_of_mem h
    rw [ofToken?_of_value hname, ofSpelling?_isSome_iff, takeWhile_value hname]
  · rw [takeWhile_plain h]
    by_cases hnil : token.trim = []
    · rw [ofToken?, hnil]
      constructor
      · intro hsome
        cases hsome
      · rintro ⟨c, hc, hbracketing⟩
        have hblank : Text.isBlank c = false := by
          rw [Bool.eq_false_iff]
          intro hblank
          rw [isBracketing_of_isBlank hblank] at hbracketing
          cases hbracketing
        have hmem : c ∈ token.trim := Text.mem_trimBy hc hblank
        rw [hnil] at hmem
        cases hmem
    · rw [ofToken?_of_no_value h hnil, ofSpelling?_isSome_iff]

end Parameter

/-! ## One call -/

namespace Call

/-- The number of arguments of a call that have a name. -/
def arity (c : Call) : Nat := (c.args.splitOn ',').countP Parameter.isNamed

def returnNames (c : Call) : List Text := (c.returns.map Signature.returnsOf).getD []

theorem length_ofArgs (c : Call) : (Parameter.ofArgs c.args).length = c.arity := by
  rw [Parameter.ofArgs, List.length_filterMap_eq_countP, arity]
  refine List.countP_congr fun t _ => ?_
  exact Parameter.ofToken?_isSome_iff

end Call

namespace Signature

variable {s : Signature} {c : Call} {calls : List Call}

/-- Taking the parameters of a call one at a time, each is added at the place that it has in the
call, if that is the next one. -/
theorem extend_eq_foldl (known new : List Parameter) :
    extend known new = new.zipIdx.foldl
      (fun params p => if p.2 = params.length then params ++ [p.1] else params) known := by
  induction new using List.reverseRecOn with
  | nil => simp [extend]
  | append_singleton new p ih =>
    rw [List.zipIdx_append, List.foldl_append, ← ih]
    simp only [List.zipIdx_singleton, List.foldl_cons, List.foldl_nil, Nat.zero_add]
    -- the parameter is next exactly if all before it are among those known
    have hlength : (extend known new).length = max known.length new.length := by
      simp only [extend, List.length_append, List.length_drop]
      omega
    rw [hlength]
    by_cases h : known.length ≤ new.length
    · rw [if_pos (by omega), extend, extend, List.drop_append_of_le_length h, List.append_assoc]
    · rw [if_neg (by omega), extend, extend, List.drop_eq_nil_of_le (by simp; omega),
        List.drop_eq_nil_of_le (by omega)]

theorem length_merge : (s.merge c.args c.returns).params.length = max s.params.length c.arity := by
  rw [← c.length_ofArgs]
  simp only [merge, extend, List.length_append, List.length_drop]
  omega

theorem getElem?_merge {i : Nat} (h : s.params.length ≤ i) :
    (s.merge c.args c.returns).params[i]? = (Parameter.ofArgs c.args)[i]? := by
  show (extend s.params (Parameter.ofArgs c.args))[i]? = _
  rw [extend, List.getElem?_append_right h, List.getElem?_drop, Nat.add_sub_cancel' h]

theorem returns_merge : (s.merge c.args c.returns).returns =
    if s.returns = [] then c.returnNames else s.returns := rfl

/-- A call that is not too long and has no return values to declare changes nothing. -/
theorem merge_eq_self (hparams : c.arity ≤ s.params.length)
    (hreturns : s.returns = [] → c.returnNames = []) : s.merge c.args c.returns = s := by
  have hp : (s.merge c.args c.returns).params = s.params := by
    show extend s.params (Parameter.ofArgs c.args) = s.params
    rw [extend, List.drop_eq_nil_of_le (by rw [c.length_ofArgs]; exact hparams), List.append_nil]
  have hr : (s.merge c.args c.returns).returns = s.returns := by
    rw [returns_merge]
    split
    · next hnil => rw [hreturns hnil, hnil]
    · rfl
  exact congrArg₂ Signature.mk hp hr

/-! ## Many calls -/

theorem mergeAll_cons (s : Signature) (c : Call) (calls : List Call) :
    s.mergeAll (c :: calls) = (s.merge c.args c.returns).mergeAll calls := rfl

theorem params_prefix_mergeAll (s : Signature) (calls : List Call) :
    s.params <+: (s.mergeAll calls).params := by
  induction calls generalizing s with
  | nil => exact List.prefix_rfl
  | cons c calls ih => exact (List.prefix_append ..).trans (ih (s.merge c.args c.returns))

theorem length_mergeAll (s : Signature) (calls : List Call) :
    (s.mergeAll calls).params.length = (calls.map Call.arity).foldl max s.params.length := by
  induction calls generalizing s with
  | nil => rfl
  | cons c calls ih => rw [mergeAll_cons, ih, length_merge, List.map_cons, List.foldl_cons]

/-- A place beyond those of the start belongs to the first call that is long enough. -/
theorem getElem?_mergeAll {i : Nat} (h : s.params.length ≤ i) : (s.mergeAll calls).params[i]? =
    (calls.find? (fun c => i < c.arity)).bind fun c => (Parameter.ofArgs c.args)[i]? := by
  induction calls generalizing s with
  | nil => exact List.getElem?_eq_none h
  | cons c calls ih =>
    rw [mergeAll_cons]
    by_cases hi : i < c.arity
    · -- the call fills the place, and what is merged later leaves it
      rw [List.find?_cons_of_pos (by simpa using hi), Option.bind_some, ← getElem?_merge h]
      have hlength : i < (s.merge c.args c.returns).params.length := by rw [length_merge]; omega
      obtain ⟨added, hadded⟩ := params_prefix_mergeAll (s.merge c.args c.returns) calls
      rw [← hadded, List.getElem?_append_left hlength]
    · rw [List.find?_cons_of_neg (by simpa using hi)]
      exact ih (by rw [length_merge]; omega)

theorem returns_mergeAll (s : Signature) (calls : List Call) : (s.mergeAll calls).returns =
    ((s.returns :: calls.map Call.returnNames).find? (· ≠ [])).getD [] := by
  induction calls generalizing s with
  | nil => by_cases h : s.returns = [] <;> simp [mergeAll, h]
  | cons c calls ih =>
    rw [mergeAll_cons, ih, returns_merge]
    by_cases h : s.returns = []
    · rw [if_pos h, h, List.map_cons]
      rfl
    · rw [if_neg h, List.find?_cons_of_pos (by simpa using h),
        List.find?_cons_of_pos (by simpa using h)]

/-- A call that has been merged is not too long. -/
theorem arity_le_of_mem (h : c ∈ calls) : c.arity ≤ (s.mergeAll calls).params.length := by
  induction calls generalizing s with
  | nil => cases h
  | cons d calls ih =>
    rcases List.mem_cons.1 h with rfl | h
    · have hlength := (params_prefix_mergeAll (s.merge c.args c.returns) calls).length_le
      rw [length_merge] at hlength
      rw [mergeAll_cons]
      omega
    · exact ih h

/-- A call that has been merged declares nothing that is missing. -/
theorem returnNames_of_mem (h : c ∈ calls) (hnil : (s.mergeAll calls).returns = []) :
    c.returnNames = [] := by
  by_contra hne
  have hmem : c.returnNames ∈ s.returns :: calls.map Call.returnNames :=
    List.mem_cons_of_mem _ (List.mem_map_of_mem h)
  obtain ⟨names, hfind⟩ : ∃ names,
      (s.returns :: calls.map Call.returnNames).find? (· ≠ []) = some names := by
    rw [← Option.isSome_iff_exists, List.find?_isSome]
    exact ⟨_, hmem, by simpa using hne⟩
  have hnames : names ≠ [] := by simpa using List.find?_some hfind
  rw [returns_mergeAll, hfind] at hnil
  exact hnames hnil

/-- Calls that have been merged change nothing. -/
theorem mergeAll_eq_self {again : List Call}
    (hparams : ∀ c ∈ again, c.arity ≤ s.params.length)
    (hreturns : ∀ c ∈ again, s.returns = [] → c.returnNames = []) : s.mergeAll again = s := by
  induction again with
  | nil => rfl
  | cons c again ih =>
    rw [mergeAll_cons, merge_eq_self (hparams c (List.mem_cons_self ..))
      (hreturns c (List.mem_cons_self ..))]
    exact ih (fun d hd => hparams d (List.mem_cons_of_mem _ hd))
      fun d hd => hreturns d (List.mem_cons_of_mem _ hd)

/-- **Merging in closed form.** What calls merge into starts with the parameters known before, has
as many parameters as the longest of the calls, and takes each further one from the first call that
has more parameters than come before it. The return values are the first that are known or
declared. So calls that have been merged may be merged again, as often and in whichever order, and
nothing changes. -/
theorem mergeAll_closed_form (s : Signature) (calls : List Call) :
    s.params <+: (s.mergeAll calls).params ∧
    (s.mergeAll calls).params.length = (calls.map Call.arity).foldl max s.params.length ∧
    (∀ i, s.params.length ≤ i → (s.mergeAll calls).params[i]? =
      (calls.find? (fun c => i < c.arity)).bind fun c => (Parameter.ofArgs c.args)[i]?) ∧
    (s.mergeAll calls).returns =
      ((s.returns :: calls.map Call.returnNames).find? (· ≠ [])).getD [] ∧
    ∀ again : List Call, (∀ c ∈ again, ∃ d ∈ calls, d.args = c.args ∧ d.returns = c.returns) →
      (s.mergeAll calls).mergeAll again = s.mergeAll calls := by
  refine ⟨params_prefix_mergeAll s calls, length_mergeAll s calls, fun i h => getElem?_mergeAll h,
    returns_mergeAll s calls, fun again hagain => mergeAll_eq_self ?_ ?_⟩
  · intro c hc
    obtain ⟨d, hd, hargs, -⟩ := hagain c hc
    have harity : c.arity = d.arity := by rw [Call.arity, Call.arity, hargs]
    rw [harity]
    exact arity_le_of_mem hd
  · intro c hc hnil
    obtain ⟨d, hd, -, hreturns⟩ := hagain c hc
    have hnames : c.returnNames = d.returnNames := by
      rw [Call.returnNames, Call.returnNames, hreturns]
    rw [hnames]
    exact returnNames_of_mem hd hnil

/-- Two calls of a page: the first has an argument without a name. -/
def spriteCalls : List Call :=
  [⟨"\x60spr(id, [])\x60", "id, []", none⟩,
    ⟨"\x60spr(n, x, [scale=1]) -> ok\x60", "n, x, [scale=1]", some "ok"⟩]

theorem mergeAll_spriteCalls :
    (empty.mergeAll spriteCalls).params[1]? = some ⟨"x", none⟩ ∧
      (empty.mergeAll spriteCalls).mergeAll (spriteCalls.reverse ++ spriteCalls) =
        empty.mergeAll spriteCalls := by
  obtain ⟨-, -, hplace, -, hagain⟩ := mergeAll_closed_form empty spriteCalls
  have hsecond : (spriteCalls.find? (fun c => 1 < c.arity)).bind
      (fun c => (Parameter.ofArgs c.args)[1]?) = some ⟨"x", none⟩ := by decide +kernel
  have hmem : ∀ c ∈ spriteCalls.reverse ++ spriteCalls, c ∈ spriteCalls := by simp
  exact ⟨(hplace 1 (by decide)).trans hsecond, hagain _ fun c hc => ⟨c, hmem c hc, rfl, rfl⟩⟩

end Signature
end WikiStubs
