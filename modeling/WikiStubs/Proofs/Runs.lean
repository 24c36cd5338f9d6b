import Mathlib.Data.List.Forall2
import Mathlib.Tactic.Basic

/-!
# Work that may fail

A list is worked through in order: every part succeeds (`mapM_eq_ok_iff`), or the first part that
fails decides with what fault (`mapM_eq_error_iff`). What is wrong with a list is so told by the
first thing in it that is wrong (`forall_or_first`).

Work that keeps a state besides is run part by part: what the first part does from a state decides
what is left to run, and work that succeeds has succeeded in its first part.
-/
namespace WikiStubs

/-! ## Lists -/

/-- Everything in a list is good, or there is a first thing in it that is not. -/
theorem forall_or_first {α : Type} (p : α → Prop) [DecidablePred p] (xs : List α) :
    (∀ x ∈ xs, p x) ∨
      ∃ before x after, xs = before ++ x :: after ∧ (∀ y ∈ before, p y) ∧ ¬ p x := by
  cases hfirst : xs.find? (fun x => decide (¬ p x)) with
  | none =>
    left
    intro x hx
    simpa using List.find?_eq_none.1 hfirst x hx
  | some x =>
    right
    obtain ⟨hx, before, after, hcut, hbefore⟩ := List.find?_eq_some_iff_append.1 hfirst
    refine ⟨before, x, after, hcut, fun y hy => ?_, of_decide_eq_true hx⟩
    simpa using hbefore y hy

section
variable {ε α β : Type} {f : α → Except ε β}

theorem mapM_eq_ok_iff {xs : List α} {ys : List β} :
    xs.mapM f = .ok ys ↔ List.Forall₂ (fun x y => f x = .ok y) xs ys := by
  induction xs generalizing ys with
  | nil =>
    rw [List.mapM_nil, List.forall₂_nil_left_iff]
    exact ⟨fun h => (Except.ok.inj h).symm, fun h => h ▸ rfl⟩
  | cons x xs ih =>
    rw [List.mapM_cons, List.forall₂_cons_left_iff]
    constructor
    · intro h
      cases hx : f x with
      | error e => rw [hx] at h; cases h
      | ok y =>
        rw [hx] at h
        cases hxs : xs.mapM f with
        | error e => rw [hxs] at h; cases h
        | ok zs => rw [hxs] at h; cases h; exact ⟨y, zs, rfl, ih.1 hxs, rfl⟩
    · intro h
      obtain ⟨y, zs, hx, hxs, rfl⟩ := h
      rw [hx, ih.2 hxs]
      rfl

theorem exists_mapM_eq_ok_iff {xs : List α} :
    (∃ ys, xs.mapM f = .ok ys) ↔ ∀ x ∈ xs, ∃ y, f x = .ok y := by
  simp only [mapM_eq_ok_iff]
  induction xs with
  | nil => exact ⟨fun _ => List.forall_mem_nil _, fun _ => ⟨[], .nil⟩⟩
  | cons x xs ih =>
    rw [List.forall_mem_cons, ← ih]
    constructor
    · intro h
      obtain ⟨ys, hall⟩ := h
      cases hall with
      | cons hx hxs => exact ⟨⟨_, hx⟩, _, hxs⟩
    · intro h
      obtain ⟨⟨y, hx⟩, ys, hxs⟩ := h
      exact ⟨y :: ys, .cons hx hxs⟩

theorem mapM_eq_error_iff {xs : List α} {e : ε} :
    xs.mapM f = .error e ↔ ∃ before x after, xs = before ++ x :: after ∧
      (∀ y ∈ before, ∃ b, f y = .ok b) ∧ f x = .error e := by
  constructor
  · intro h
    induction xs with
    | nil => cases h
    | cons x xs ih =>
      rw [List.mapM_cons] at h
      cases hx : f x with
      | error e' =>
        rw [hx] at h
        cases h
        exact ⟨[], x, xs, rfl, List.forall_mem_nil _, hx⟩
      | ok y =>
        rw [hx] at h
        cases hxs : xs.mapM f with
        | ok ys => rw [hxs] at h; cases h
        | error e' =>
          rw [hxs] at h
          cases h
          obtain ⟨before, x', after, rfl, hbefore, hx'⟩ := ih hxs
          exact ⟨x :: before, x', after, rfl, List.forall_mem_cons.2 ⟨⟨y, hx⟩, hbefore⟩, hx'⟩
  · intro h
    obtain ⟨before, x, after, rfl, hbefore, hx⟩ := h
    induction before with
    | nil =>
      rw [List.nil_append, List.mapM_cons, hx]
      rfl
    | cons y before ih =>
      rw [List.forall_mem_cons] at hbefore
      obtain ⟨⟨b, hb⟩, hbefore⟩ := hbefore
      rw [List.cons_append, List.mapM_cons, hb, ih hbefore]
      rfl

end

/-! ## States -/

variable {σ ε α β : Type} {x : ExceptT ε (StateM σ) α} {s s' : σ}

theorem run_bind_ok {a : α} (h : x.run.run s = (.ok a, s')) (f : α → ExceptT ε (StateM σ) β) :
    (x >>= f).run.run s = (f a).run.run s' := by
  rw [ExceptT.run_bind, StateT.run_bind, h]
  rfl

theorem run_bind_error {e : ε} (h : x.run.run s = (.error e, s'))
    (f : α → ExceptT ε (StateM σ) β) : (x >>= f).run.run s = (.error e, s') := by
  rw [ExceptT.run_bind, StateT.run_bind, h]
  rfl

theorem run_lift {y : StateM σ α} {a : α} (h : y.run s = (a, s')) :
    (liftM y : ExceptT ε (StateM σ) α).run.run s = (.ok a, s') := by
  change (ExceptT.lift y).run.run s = _
  rw [ExceptT.run_lift, StateT.run_map, h]
  rfl

/-- Work that succeeds has succeeded in its first part. -/
theorem run_bind_eq_ok {f : α → ExceptT ε (StateM σ) β} {b : β}
    (h : (x >>= f).run.run s = (.ok b, s')) :
    ∃ a mid, x.run.run s = (.ok a, mid) ∧ (f a).run.run mid = (.ok b, s') := by
  rw [ExceptT.run_bind, StateT.run_bind] at h
  rcases hx : x.run.run s with ⟨_ | a, mid⟩
  · rw [hx] at h
    cases h
  · rw [hx] at h
    exact ⟨a, mid, rfl, h⟩

end WikiStubs
