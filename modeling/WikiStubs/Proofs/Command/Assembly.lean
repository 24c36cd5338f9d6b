import WikiStubs.Command.Run
import WikiStubs.Proofs.Resolve.Outcome

/-!
# Assembling lists of functions

A list of functions is assembled one after the other. A function without a record is left out when
the run is to keep going, and else ends the list. `AssemblesAll` lists the ways this can go over
plain pages, with what is noted; every source that serves the pages goes the same way
(`Run.run_assembleAll`).

* `AssemblesAll.eq_records`: without failure the records are those of the functions that have one,
  in order.
* `AssemblesAll.isOk_iff`: it fails when a function has no record, unless the run keeps going.
* `AssemblesAll.stopped_at`: on failure the fault is that of the first function without a record,
  and no page has been asked for on behalf of a later one.
-/
namespace WikiStubs

variable [PatternCompiler] {pages : Text → Except Fault Text} {keepGoing : Bool} {f : Text}
  {fs : List Text}

/-! ## Single functions -/

/-- The record of a function over the pages, or why it has none. -/
def assembled (pages : Text → Except Fault Text) (f : Text) : Except Fault Record :=
  (Noting.fromStart (assemble (.ofPages pages) f).run).1

/-- The pages that are asked for on behalf of a function. -/
def pagesFor (pages : Text → Except Fault Text) (f : Text) : List Text :=
  Event.pagesRead (Noting.fromStart (assemble (.ofPages pages) f).run).2

/-- The records of the functions that have one, in order. -/
def records (pages : Text → Except Fault Text) (fs : List Text) : List Record :=
  fs.filterMap fun f => (assembled pages f).toOption

theorem Assembles.assembled_eq {events : List Event} {result : Except Fault Record}
    (h : Assembles pages f events result) : assembled pages f = result := by
  rw [assembled, h.fromStart_eq]

theorem Assembles.pagesFor_eq {events : List Event} {result : Except Fault Record}
    (h : Assembles pages f events result) : pagesFor pages f = Event.pagesRead events := by
  rw [pagesFor, h.fromStart_eq]

theorem exists_hasRecord_iff : (∃ r, HasRecord pages f r) ↔ (assembled pages f).isOk = true := by
  change (∃ r, assembled pages f = .ok r) ↔ _
  cases assembled pages f <;> simp [Except.isOk, Except.toBool]

theorem toOption_assembled {r : Record} :
    (assembled pages f).toOption = some r ↔ HasRecord pages f r := by
  rw [HasRecord, ← assembled]
  cases assembled pages f <;> simp [Except.toOption]

theorem records_cons_of_ok {r : Record} (h : assembled pages f = .ok r) :
    records pages (f :: fs) = r :: records pages fs :=
  List.filterMap_cons_some (by rw [h]; rfl)

theorem records_cons_of_error {fault : Fault} (h : assembled pages f = .error fault) :
    records pages (f :: fs) = records pages fs :=
  List.filterMap_cons_none (by rw [h]; rfl)

theorem mem_records_iff {r : Record} :
    r ∈ records pages fs ↔ ∃ f ∈ fs, HasRecord pages f r := by
  rw [records, List.mem_filterMap]
  simp only [toOption_assembled]

/-- The records hang on the functions that have one, and on nothing else of the pages. -/
theorem records_congr {pages' : Text → Except Fault Text}
    (h : ∀ f r, HasRecord pages f r ↔ HasRecord pages' f r) (fs : List Text) :
    records pages fs = records pages' fs := by
  refine congrArg (fs.filterMap ·) (funext fun f => Option.ext fun r => ?_)
  rw [toOption_assembled, toOption_assembled, h]

/-! ## Lists of functions -/

/-- What is noted while functions are assembled in order, and how that ends. -/
inductive AssemblesAll (pages : Text → Except Fault Text) (keepGoing : Bool) :
    List Text → List Event → Except Failure (List Record) → Prop where
  | nil : AssemblesAll pages keepGoing [] [] (.ok [])
  /-- The function has a record. -/
  | assembled {f : Text} {fs : List Text} {events rest : List Event} {r : Record}
      {result : Except Failure (List Record)} (first : Assembles pages f events (.ok r))
      (others : AssemblesAll pages keepGoing fs rest result) :
      AssemblesAll pages keepGoing (f :: fs) (events ++ rest) (result.map (r :: ·))
  /-- The function has no record and is left out. -/
  | skipped {f : Text} {fs : List Text} {events rest : List Event} {fault : Fault}
      {result : Except Failure (List Record)} (keeps : keepGoing = true)
      (first : Assembles pages f events (.error fault))
      (others : AssemblesAll pages keepGoing fs rest result) :
      AssemblesAll pages keepGoing (f :: fs) (events ++ .skipped f fault :: rest) result
  /-- The function has no record and ends the list. -/
  | stopped {f : Text} {fs : List Text} {events : List Event} {fault : Fault}
      (stops : keepGoing = false) (first : Assembles pages f events (.error fault)) :
      AssemblesAll pages keepGoing (f :: fs) events (.error (.assembling f fault))

theorem exists_assemblesAll (pages : Text → Except Fault Text) (keepGoing : Bool)
    (fs : List Text) : ∃ events result, AssemblesAll pages keepGoing fs events result := by
  induction fs with
  | nil => exact ⟨_, _, .nil⟩
  | cons f fs ih =>
    obtain ⟨rest, result, others⟩ := ih
    obtain ⟨events, one, first⟩ := exists_assembles pages f
    cases one with
    | ok r => exact ⟨_, _, .assembled first others⟩
    | error fault =>
      cases hkeeps : keepGoing with
      | true => exact ⟨_, _, .skipped rfl first (hkeeps ▸ others)⟩
      | false => exact ⟨_, _, .stopped rfl first⟩

/-- On whatever state a source keeps, a list goes the way it has over the pages. -/
theorem Run.run_assembleAll {σ : Type} {src : PageSource (StateM σ)} {Inv : σ → Prop}
    {step : σ → Event → σ} (h : Serves src pages Inv step) {events : List Event}
    {result : Except Failure (List Record)} (ha : AssemblesAll pages keepGoing fs events result)
    {s : σ} (hs : Inv s) :
    (assembleAll src keepGoing fs).run.run s = (result, events.foldl step s) := by
  induction ha generalizing s with
  | nil => rfl
  | @assembled f fs events rest r result first others ih =>
    have hrest := ih (h.keeps_all events hs)
    rw [assembleAll, run_bind_ok (run_lift (run_assemble h hs first)), List.foldl_append]
    cases result with
    | ok rs =>
      dsimp only
      rw [run_bind_ok hrest]
      rfl
    | error failure =>
      dsimp only
      rw [run_bind_error hrest]
      rfl
  | @skipped f fs events rest fault result keeps first others ih =>
    have hs' := h.keeps_all events hs
    rw [assembleAll, run_bind_ok (run_lift (run_assemble h hs first)), List.foldl_append]
    simp only [keeps, if_true]
    rw [run_bind_ok (run_lift (h.note _ _ hs'))]
    exact keeps ▸ ih (h.keeps _ _ hs')
  | stopped stops first =>
    rw [assembleAll, run_bind_ok (run_lift (run_assemble h hs first))]
    simp only [stops]
    rfl

/-! ## How a list ends -/

/-- Of the functions, those before this one have records and this one has none. -/
structure FirstWithout (pages : Text → Except Fault Text) (functions before : List Text)
    (f : Text) (fault : Fault) : Prop where
  listed : before ++ [f] <+: functions
  before : ∀ g ∈ before, ∃ r, HasRecord pages g r
  fault : assembled pages f = .error fault

namespace AssemblesAll

variable {events : List Event} {result : Except Failure (List Record)}

theorem fromStart_eq (h : AssemblesAll pages keepGoing fs events result) :
    Noting.fromStart (Run.assembleAll (.ofPages pages) keepGoing fs).run = (result, events) := by
  rw [Noting.fromStart, Run.run_assembleAll (serves_ofPages pages) h trivial, foldl_note,
    List.nil_append]

/-- What a list gives is what its functions give, one after the other. -/
theorem eq_records {rs : List Record} (h : AssemblesAll pages keepGoing fs events (.ok rs)) :
    rs = records pages fs := by
  generalize hresult : Except.ok rs = result at h
  induction h generalizing rs with
  | nil => cases hresult; rfl
  | @assembled f fs _ _ r result first _ ih =>
    cases result with
    | error failure => cases hresult
    | ok rs' =>
      cases hresult
      rw [records_cons_of_ok first.assembled_eq, ih rfl]
  | skipped _ first _ ih =>
    rw [records_cons_of_error first.assembled_eq]
    exact ih hresult
  | stopped => cases hresult

theorem isOk_iff (h : AssemblesAll pages keepGoing fs events result) :
    result.isOk = true ↔ keepGoing = true ∨ ∀ f ∈ fs, ∃ r, HasRecord pages f r := by
  induction h with
  | nil => simp [Except.isOk, Except.toBool]
  | @assembled f fs _ _ r result first _ ih =>
    have hf : ∃ r, HasRecord pages f r := ⟨r, first.assembled_eq⟩
    have hmap : (result.map (r :: ·)).isOk = result.isOk := by cases result <;> rfl
    rw [hmap, ih, List.forall_mem_cons, and_iff_right hf]
  | skipped keeps _ _ ih => simp [ih, keeps]
  | @stopped f fs _ fault stops first =>
    have hf : ¬ ∃ r, HasRecord pages f r := by
      rw [exists_hasRecord_iff, first.assembled_eq]
      exact Bool.false_ne_true
    rw [List.forall_mem_cons, stops]
    simp [hf, Except.isOk, Except.toBool]

/-- Without failure pages are asked for on behalf of every function in turn. -/
theorem pagesRead_of_ok {rs : List Record}
    (h : AssemblesAll pages keepGoing fs events (.ok rs)) :
    Event.pagesRead events = fs.flatMap (pagesFor pages) := by
  generalize hresult : Except.ok rs = result at h
  induction h generalizing rs with
  | nil => rfl
  | @assembled f fs _ _ r result first _ ih =>
    cases result with
    | error failure => cases hresult
    | ok rs' =>
      rw [pagesRead_append, ih rfl, List.flatMap_cons, first.pagesFor_eq]
  | @skipped f fs events rest fault result _ first _ ih =>
    have hskip : Event.pagesRead (.skipped f fault :: rest) = Event.pagesRead rest := rfl
    rw [pagesRead_append, hskip, ih hresult, List.flatMap_cons, first.pagesFor_eq]
  | stopped => cases hresult

/-- A list that fails has come to its first function without a record, and no further. -/
theorem stopped_at {failure : Failure}
    (h : AssemblesAll pages keepGoing fs events (.error failure)) :
    keepGoing = false ∧ ∃ before f fault, FirstWithout pages fs before f fault ∧
      failure = .assembling f fault ∧
      Event.pagesRead events = (before ++ [f]).flatMap (pagesFor pages) := by
  generalize hresult : Except.error failure = result at h
  induction h with
  | nil => cases hresult
  | @assembled g fs _ _ r result first _ ih =>
    cases result with
    | ok rs => cases hresult
    | error e =>
      cases hresult
      obtain ⟨hstop, before, f, fault, hfirst, hfailure, hasked⟩ := ih rfl
      refine ⟨hstop, g :: before, f, fault, ⟨?_, ?_, hfirst.fault⟩, hfailure, ?_⟩
      · exact List.cons_prefix_cons.2 ⟨rfl, hfirst.listed⟩
      · exact List.forall_mem_cons.2 ⟨⟨r, first.assembled_eq⟩, hfirst.before⟩
      · rw [pagesRead_append, hasked, List.cons_append, List.flatMap_cons, first.pagesFor_eq]
  | skipped keeps _ others =>
    have hok := others.isOk_iff.2 (Or.inl keeps)
    rw [← hresult] at hok
    cases hok
  | @stopped f fs events fault stops first =>
    cases hresult
    refine ⟨stops, [], f, fault, ⟨List.prefix_append [f] fs, nofun, first.assembled_eq⟩, rfl, ?_⟩
    rw [List.nil_append, List.flatMap_cons, List.flatMap_nil, List.append_nil, first.pagesFor_eq]

end AssemblesAll

end WikiStubs
