import Mathlib.Data.List.Dedup
import Mathlib.Data.List.Induction
import Mathlib.Data.List.Perm.Basic
import Mathlib.Data.List.Sort
import WikiStubs.Section

/-!
# Sections of one name

Among the sections of a list `Section.keepLast` keeps one of each name: a later one takes the
place of an earlier one. The names that are left are distinct (`nodup_names_keepLast`), and what
is left and what is dropped are together the sections of the list (`perm_keepLast`). Sections of
distinct names are all kept (`keepLast_of_nodup`).

A name stands for the last section that has it (`find?_keepLast`), but at the place of the first
one (`names_keepLast`). So what is left need not stand in the order of the page: it does exactly
when the names occur first in the order in which they occur last (`inDocumentOrder_keepLast_iff`).
-/
namespace WikiStubs.Section

/-! ## One section -/

theorem names_put (s : Section) (ss : List Section) :
    (put s ss).map (·.name) =
      if s.name ∈ ss.map (·.name) then ss.map (·.name) else ss.map (·.name) ++ [s.name] := by
  induction ss with
  | nil => simp [put]
  | cons u us ih =>
    unfold put
    by_cases hu : u.name = s.name
    · simp [hu]
    · simp only [if_neg hu, List.map_cons, ih, List.mem_cons, Ne.symm hu, false_or]
      split <;> simp

theorem put_of_new {s : Section} {ss : List Section} (h : s.name ∉ ss.map (·.name)) :
    put s ss = ss ++ [s] := by
  induction ss with
  | nil => rfl
  | cons u us ih =>
    rw [List.map_cons, List.mem_cons, not_or] at h
    rw [put, if_neg (Ne.symm h.1), ih h.2, List.cons_append]

/-- The section whose place is taken is dropped. -/
theorem perm_put (s : Section) (ss : List Section) :
    ∃ dropped, (s :: ss).Perm (put s ss ++ dropped) := by
  induction ss with
  | nil => exact ⟨[], .refl _⟩
  | cons u us ih =>
    unfold put
    by_cases hu : u.name = s.name
    · rw [if_pos hu]
      refine ⟨[u], .cons s ?_⟩
      exact (List.perm_append_singleton u us).symm
    · rw [if_neg hu]
      obtain ⟨dropped, h⟩ := ih
      exact ⟨dropped, (List.Perm.swap u s us).trans (h.cons u)⟩

/-! ## All sections -/

@[simp] theorem keepLast_nil : keepLast [] = [] := rfl

theorem keepLast_concat (ss : List Section) (s : Section) :
    keepLast (ss ++ [s]) = put s (keepLast ss) := by
  simp [keepLast]

theorem nodup_names_keepLast (ss : List Section) : ((keepLast ss).map (·.name)).Nodup := by
  induction ss using List.reverseRecOn with
  | nil => simp
  | append_singleton ss s ih =>
    rw [keepLast_concat, names_put]
    split
    · exact ih
    · next hnew =>
      rw [List.nodup_append]
      refine ⟨ih, by simp, fun name hname other hother => ?_⟩
      rw [List.mem_singleton.1 hother]
      exact fun e => hnew (e ▸ hname)

/-- What is left and what is dropped are together all sections. -/
theorem perm_keepLast (ss : List Section) : ∃ dropped, ss.Perm (keepLast ss ++ dropped) := by
  induction ss using List.reverseRecOn with
  | nil => exact ⟨[], .refl _⟩
  | append_singleton ss s ih =>
    obtain ⟨before, hbefore⟩ := ih
    obtain ⟨taken, htaken⟩ := perm_put s (keepLast ss)
    refine ⟨taken ++ before, ?_⟩
    rw [keepLast_concat, ← List.append_assoc]
    exact (List.perm_append_singleton s ss).trans
      ((hbefore.cons s).trans (htaken.append_right before))

theorem mem_keepLast {u : Section} {ss : List Section} (h : u ∈ keepLast ss) : u ∈ ss := by
  obtain ⟨dropped, hperm⟩ := perm_keepLast ss
  exact hperm.mem_iff.2 (List.mem_append_left _ h)

/-- Sections of distinct names are all kept. -/
theorem keepLast_of_nodup {ss : List Section} (h : (ss.map (·.name)).Nodup) :
    keepLast ss = ss := by
  induction ss using List.reverseRecOn with
  | nil => rfl
  | append_singleton ss s ih =>
    rw [List.map_append, List.nodup_append] at h
    obtain ⟨hss, -, hnew⟩ := h
    rw [keepLast_concat, ih hss, put_of_new]
    intro hmem
    exact hnew s.name hmem s.name (by simp) rfl

/-! ## Names and look-ups -/

theorem eraseDups_concat (names : List Text) (name : Text) :
    (names ++ [name]).eraseDups =
      if name ∈ names then names.eraseDups else names.eraseDups ++ [name] := by
  rw [List.eraseDups_append]
  split
  · next h => simp [List.removeAll, h]
  · next h => simp [List.removeAll, h, List.eraseDups_cons]

/-- The names that are left, in the order in which they occur first. -/
theorem names_keepLast (ss : List Section) :
    (keepLast ss).map (·.name) = (ss.map (·.name)).eraseDups := by
  induction ss using List.reverseRecOn with
  | nil => rfl
  | append_singleton ss s ih =>
    have hmem : s.name ∈ (ss.map (·.name)).eraseDups ↔ s.name ∈ ss.map (·.name) :=
      List.mem_eraseDups
    simp only [keepLast_concat, names_put, List.map_append, List.map_singleton, eraseDups_concat,
      ih, hmem]

theorem find?_put_of_ne {v : Section} {name : Text} (h : v.name ≠ name) (ss : List Section) :
    (put v ss).find? (·.name = name) = ss.find? (·.name = name) := by
  induction ss with
  | nil => simp [put, h]
  | cons u us ih =>
    unfold put
    by_cases hu : u.name = v.name
    · have hu' : u.name ≠ name := fun e => h (hu.symm.trans e)
      simp [hu, h]
    · rw [if_neg hu, List.find?_cons, List.find?_cons, ih]

theorem find?_put_self (v : Section) (ss : List Section) :
    (put v ss).find? (·.name = v.name) = some v := by
  induction ss with
  | nil => simp [put]
  | cons u us ih =>
    unfold put
    by_cases hu : u.name = v.name
    · simp [hu]
    · simp [hu, ih]

/-- A name stands for the last section that has it. -/
theorem find?_keepLast (ss : List Section) (name : Text) :
    (keepLast ss).find? (·.name = name) = (ss.filter (·.name = name)).getLast? := by
  induction ss using List.reverseRecOn with
  | nil => rfl
  | append_singleton ss s ih =>
    rw [keepLast_concat, List.filter_append]
    by_cases h : s.name = name
    · subst h
      simp [find?_put_self]
    · simp [find?_put_of_ne h, ih, h]

/-- Among sections of distinct names each is found by its name. -/
theorem find?_of_mem {u : Section} {ss : List Section} (h : (ss.map (·.name)).Nodup)
    (hu : u ∈ ss) : ss.find? (·.name = u.name) = some u := by
  induction ss with
  | nil => cases hu
  | cons v vs ih =>
    obtain ⟨hv, hvs⟩ := List.nodup_cons.1 h
    rcases List.mem_cons.1 hu with rfl | hu
    · simp
    · have hne : v.name ≠ u.name := fun e => hv (List.mem_map.2 ⟨u, hu, e.symm⟩)
      rw [List.find?_cons_of_neg (by simpa using hne)]
      exact ih hvs hu

/-! ## Order -/

/-- The sections that no later one replaces, in their order. -/
def unreplaced : List Section → List Section
  | [] => []
  | s :: ss => if s.name ∈ ss.map (·.name) then unreplaced ss else s :: unreplaced ss

theorem unreplaced_sublist (ss : List Section) : (unreplaced ss).Sublist ss := by
  induction ss with
  | nil => exact .slnil
  | cons s ss ih =>
    unfold unreplaced
    split
    · exact ih.cons s
    · exact ih.cons_cons s

/-- Their names are in the order in which they occur last. -/
theorem names_unreplaced (ss : List Section) :
    (unreplaced ss).map (·.name) = (ss.map (·.name)).dedup := by
  induction ss with
  | nil => rfl
  | cons s ss ih =>
    rw [unreplaced, List.map_cons]
    split
    · next h => rw [List.dedup_cons_of_mem h, ih]
    · next h => rw [List.dedup_cons_of_notMem h, List.map_cons, ih]

theorem find?_unreplaced (ss : List Section) (name : Text) :
    (unreplaced ss).find? (·.name = name) = (ss.filter (·.name = name)).getLast? := by
  induction ss with
  | nil => rfl
  | cons s ss ih =>
    rw [unreplaced, List.filter_cons]
    by_cases hs : s.name = name
    · subst hs
      split
      · next h =>
        obtain ⟨u, hu, he⟩ := List.mem_map.1 h
        have hne : ss.filter (·.name = s.name) ≠ [] :=
          List.ne_nil_of_mem (List.mem_filter.2 ⟨hu, decide_eq_true he⟩)
        rw [ih, if_pos (decide_eq_true rfl), List.getLast?_cons_of_ne_nil hne]
      · next h =>
        have hnil : ss.filter (·.name = s.name) = [] :=
          List.filter_eq_nil_iff.2 fun u hu he =>
            h (List.mem_map.2 ⟨u, hu, of_decide_eq_true he⟩)
        simp [hnil]
    · split
      · simp [hs, ih]
      · simp [hs, ih]

/-- What is left are the sections that no later one replaces, perhaps in another order. -/
theorem keepLast_perm_unreplaced (ss : List Section) : (keepLast ss).Perm (unreplaced ss) := by
  have hkept := nodup_names_keepLast ss
  have hlast : ((unreplaced ss).map (·.name)).Nodup := names_unreplaced ss ▸ List.nodup_dedup _
  refine (List.perm_ext_iff_of_nodup hkept.of_map hlast.of_map).2 fun u =>
    ⟨fun hu => ?_, fun hu => ?_⟩
  · have hfind := find?_of_mem hkept hu
    rw [find?_keepLast, ← find?_unreplaced] at hfind
    exact List.mem_of_find?_eq_some hfind
  · have hfind := find?_of_mem hlast hu
    rw [find?_unreplaced, ← find?_keepLast] at hfind
    exact List.mem_of_find?_eq_some hfind

/-- What is left stands in its order exactly when the names occur first in the order in which they
occur last. -/
theorem keepLast_eq_unreplaced_iff (ss : List Section) : keepLast ss = unreplaced ss ↔
    (ss.map (·.name)).eraseDups = (ss.map (·.name)).dedup := by
  rw [← names_keepLast, ← names_unreplaced]
  refine ⟨fun h => h ▸ rfl, fun h => ?_⟩
  have hlength : (keepLast ss).length = (unreplaced ss).length := by
    simpa using congrArg List.length h
  refine List.ext_getElem hlength fun i hi hi' => ?_
  have hname : (keepLast ss)[i].name = (unreplaced ss)[i].name := by
    have hget := List.getElem_of_eq h (by simpa using hi)
    simpa using hget
  exact List.inj_on_of_nodup_map (nodup_names_keepLast ss) (List.getElem_mem hi)
    ((keepLast_perm_unreplaced ss).mem_iff.2 (List.getElem_mem hi')) hname

/-- Each section starts where the ones before it have stopped, or behind that. -/
def InDocumentOrder (ss : List Section) : Prop :=
  ss.Pairwise fun s u => s.span.stop ≤ u.span.start

theorem inDocumentOrder_keepLast_iff {ss : List Section} (h : InDocumentOrder ss)
    (hspan : ∀ s ∈ ss, s.span.start < s.span.stop) : InDocumentOrder (keepLast ss) ↔
      (ss.map (·.name)).eraseDups = (ss.map (·.name)).dedup := by
  rw [← keepLast_eq_unreplaced_iff]
  have horder : InDocumentOrder (unreplaced ss) := h.sublist (unreplaced_sublist ss)
  refine ⟨fun hkept => ?_, fun he => he ▸ horder⟩
  refine (keepLast_perm_unreplaced ss).eq_of_pairwise (fun s u hs hu hsu hus => ?_) hkept horder
  have := hspan s (mem_keepLast hs)
  have := hspan u ((unreplaced_sublist ss).subset hu)
  omega

end WikiStubs.Section
