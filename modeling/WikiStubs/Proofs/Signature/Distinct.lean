import Mathlib.Data.List.Nodup
import WikiStubs.Proofs.Signature.ClosedForm

/-!
# Names that are merged twice

A call adds its parameters beyond the places that are filled, and nobody looks at their names. So
calls that have distinct names each may merge into a signature that has a name twice: `f(a)` and
`f(b, a)` merge into `a, a`.

Every place is filled by the first call that reaches it (`Call.Fills`), so a name comes twice
exactly if two calls that fill places have it at two of these (`Call.Clash`). Hence the merged names
are distinct exactly if the calls do not clash (`Signature.merged_distinct_iff`), and they are so
whenever all calls have their common names at the same places (`Call.Aligned`).
-/
namespace WikiStubs

namespace Call

def paramNames (c : Call) : List Text := (Parameter.ofArgs c.args).map (·.name)

theorem length_paramNames (c : Call) : c.paramNames.length = c.arity := by
  rw [paramNames, List.length_map, c.length_ofArgs]

/-- Of some calls, `c` stands right behind `before`, and it is the first that reaches place `i`.
Places are counted from zero. -/
structure Fills (calls before : List Call) (c : Call) (i : Nat) : Prop where
  stands : before ++ [c] <+: calls
  reaches : i < c.arity
  first : ∀ d ∈ before, d.arity ≤ i

/-- A call fills a place and has there the name that an earlier call has at an earlier place, which
that call fills. -/
def Clash (calls : List Call) : Prop :=
  ∃ before c i before' c' i' name, Fills calls before c i ∧ Fills calls before' c' i' ∧
    before ++ [c] <+: before' ∧ i < i' ∧
    c.paramNames[i]? = some name ∧ c'.paramNames[i']? = some name

/-- Every name has one place in all calls that have it. -/
def Aligned (calls : List Call) : Prop :=
  ∀ c ∈ calls, ∀ d ∈ calls, ∀ (i j : Nat) (name : Text),
    c.paramNames[i]? = some name → d.paramNames[j]? = some name → i = j

variable {calls before before' : List Call} {c c' : Call} {i i' : Nat}

theorem Fills.mem (h : Fills calls before c i) : c ∈ calls :=
  h.stands.subset (List.mem_append_right _ (List.mem_singleton_self c))

/-- Later places are filled by the same call or by later ones. -/
theorem Fills.earlier (h : Fills calls before c i) (h' : Fills calls before' c' i')
    (hlt : i < i') : (before = before' ∧ c = c') ∨ before ++ [c] <+: before' := by
  rcases List.prefix_or_prefix_of_prefix h.stands h'.stands with hpre | hpre
  · rcases List.prefix_concat_iff.1 hpre with heq | hpre
    · obtain ⟨hbefore, hc⟩ := List.append_inj' heq rfl
      exact Or.inl ⟨hbefore, List.cons.inj hc |>.1⟩
    · exact Or.inr hpre
  · rcases List.prefix_concat_iff.1 hpre with heq | hpre
    · obtain ⟨hbefore, hc⟩ := List.append_inj' heq rfl
      exact Or.inl ⟨hbefore.symm, (List.cons.inj hc).1.symm⟩
    · -- the call behind `before'` would reach place `i`, too
      have hmem : c' ∈ before := hpre.subset (List.mem_append_right _ (List.mem_singleton_self c'))
      have hfirst := h.first c' hmem
      have hreaches := h'.reaches
      omega

theorem Aligned.not_clash (h : Aligned calls) : ¬ Clash calls := by
  rintro ⟨before, c, i, before', c', i', name, hc, hc', -, hlt, hname, hname'⟩
  have hplace := h c hc.mem c' hc'.mem i i' name hname hname'
  omega

end Call

namespace Signature

open Call

variable {calls : List Call}

/-- The name at a place is that of the call which fills it. -/
theorem getElem?_names_mergeAll {i : Nat} {name : Text} :
    ((empty.mergeAll calls).params.map (·.name))[i]? = some name ↔
      ∃ before c, Fills calls before c i ∧ c.paramNames[i]? = some name := by
  rw [List.getElem?_map, getElem?_mergeAll (Nat.zero_le i), Option.map_bind]
  constructor
  · intro h
    obtain ⟨c, hfind, hname⟩ := Option.bind_eq_some_iff.1 h
    obtain ⟨hreaches, before, after, hcalls, hfirst⟩ := List.find?_eq_some_iff_append.1 hfind
    refine ⟨before, c, ⟨⟨after, by rw [hcalls]; simp⟩, by simpa using hreaches, ?_⟩, ?_⟩
    · intro d hd
      simpa using hfirst d hd
    · rw [paramNames, List.getElem?_map]
      exact hname
  · rintro ⟨before, c, ⟨⟨after, hcalls⟩, hreaches, hfirst⟩, hname⟩
    refine Option.bind_eq_some_iff.2 ⟨c, List.find?_eq_some_iff_append.2 ⟨by simpa using hreaches,
      before, after, by rw [← hcalls]; simp, fun d hd => by simpa using hfirst d hd⟩, ?_⟩
    rw [paramNames, List.getElem?_map] at hname
    exact hname

theorem nodup_names_mergeAll_iff (h : ∀ c ∈ calls, c.paramNames.Nodup) :
    ((empty.mergeAll calls).params.map (·.name)).Nodup ↔ ¬ Clash calls := by
  rw [List.nodup_iff_getElem?_ne_getElem?]
  constructor
  · rintro hne ⟨before, c, i, before', c', i', name, hc, hc', -, hlt, hname, hname'⟩
    have hi := getElem?_names_mergeAll.2 ⟨before, c, hc, hname⟩
    have hi' := getElem?_names_mergeAll.2 ⟨before', c', hc', hname'⟩
    exact hne i i' hlt (List.getElem?_eq_some_iff.1 hi').1 (hi.trans hi'.symm)
  · intro hno i i' hlt hi' heq
    obtain ⟨name, hname⟩ : ∃ name, ((empty.mergeAll calls).params.map (·.name))[i']? = some name :=
      ⟨_, List.getElem?_eq_getElem hi'⟩
    obtain ⟨before, c, hc, hcname⟩ := getElem?_names_mergeAll.1 (heq.trans hname)
    obtain ⟨before', c', hc', hcname'⟩ := getElem?_names_mergeAll.1 hname
    rcases hc.earlier hc' hlt with ⟨rfl, rfl⟩ | hbefore
    · -- one call fills both places, and its own names are distinct
      have hi : i' < c.paramNames.length := by rw [c.length_paramNames]; exact hc'.reaches
      exact List.nodup_iff_getElem?_ne_getElem?.1 (h c hc.mem) i i' hlt hi
        (hcname.trans hcname'.symm)
    · exact hno ⟨before, c, i, before', c', i', name, hc, hc', hbefore, hlt, hcname, hcname'⟩

/-- **Distinct names.** Where each call of a page has distinct names, the merged names are distinct
exactly if no call fills a place with a name that an earlier call has put at an earlier place. They
are distinct in particular if the calls have their common names at the same places. -/
theorem merged_distinct_iff (f t : Text) (h : ∀ c ∈ scan f t, c.paramNames.Nodup) :
    (((ofText f t).params.map (·.name)).Nodup ↔ ¬ Clash (scan f t)) ∧
      (Aligned (scan f t) → ((ofText f t).params.map (·.name)).Nodup) := by
  have hiff : ((ofText f t).params.map (·.name)).Nodup ↔ ¬ Clash (scan f t) :=
    nodup_names_mergeAll_iff h
  exact ⟨hiff, fun haligned => hiff.2 haligned.not_clash⟩

/-- A page on which a later call has the names in another order. -/
def reorderedPage : Text := "\x60f(a, b)\x60 and \x60f(b, a, c)\x60"

/-- A page on which a later call has a known name at a new place. -/
def shiftedPage : Text := "\x60f(a)\x60 \x60f(b, a)\x60"

/-- Calls that have distinct names each merge into a name that comes twice. -/
theorem merged_twice : (∀ c ∈ scan "f" shiftedPage, c.paramNames.Nodup) ∧
    (ofText "f" shiftedPage).params.map (·.name) = [("a" : Text), ("a" : Text)] ∧
    ¬ ((ofText "f" shiftedPage).params.map (·.name)).Nodup := by
  decide +kernel

theorem merged_distinct_reordered : (∀ c ∈ scan "f" reorderedPage, c.paramNames.Nodup) ∧
    ¬ Clash (scan "f" reorderedPage) ∧ Clash (scan "f" shiftedPage) := by
  have hreordered : ∀ c ∈ scan "f" reorderedPage, c.paramNames.Nodup := by decide +kernel
  have hshifted : ∀ c ∈ scan "f" shiftedPage, c.paramNames.Nodup := by decide +kernel
  have htwice : ¬ ((ofText "f" shiftedPage).params.map (·.name)).Nodup := by decide +kernel
  have honce : ((ofText "f" reorderedPage).params.map (·.name)).Nodup := by decide +kernel
  refine ⟨hreordered, (merged_distinct_iff "f" reorderedPage hreordered).1.1 honce, ?_⟩
  by_contra hno
  exact htwice ((merged_distinct_iff "f" shiftedPage hshifted).1.2 hno)

end Signature
end WikiStubs
