import WikiStubs.Proofs.Redirect
import WikiStubs.Proofs.Resolve
import WikiStubs.Proofs.Runs

/-!
# How the resolution of a function ends

A run asks for the page of the function, perhaps for the page that this forwards to, and settles
on a section. `Resolves` lists the six ways this can go, with what is noted on each, from the pages
alone: whether they are files or a plain function, and how notes are kept, makes no difference
(`run_resolve`), as long as reading a page changes nothing that a page depends on (`Serves`).

* `unsettled_iff`: a page with a heading is settled; a second reading without the first
  character always finds a section again.
* `exists_resolves`, `Resolves.fromStart_eq`: there is one way for every function.
* `resolution`: which pages are asked for, when it fails and with which fault.
-/
namespace WikiStubs

/-! ## Settling -/

/-- The section that a page settles on: its first one, after a second reading without the first
character if there are several. -/
def settled? (t : Text) : Option Section :=
  match Section.ofPage t with
  | [] => none
  | [s] => some s
  | _ => (Section.ofPage (t.drop 1)).head?

/-- What is noted when a page is settled for a function. -/
def settleNotes (function t : Text) : List Event :=
  match Section.ofPage t with
  | [] | [_] => []
  | ss => [.releveled function ss.length]

theorem settled?_eq_none_iff {t : Text} : settled? t = none ↔ Section.ofPage t = [] := by
  rcases hpage : Section.ofPage t with _ | ⟨first, _ | ⟨second, ss⟩⟩
  · simp [settled?, hpage]
  · simp [settled?, hpage]
  · obtain ⟨s, ss', hs, -⟩ := reread hpage
    simp only [settled?, hpage, hs, List.head?_cons, reduceCtorEq]

/-- The page has a heading, of any level. -/
def HasHeading (t : Text) : Prop := ∃ l ∈ t.rawLines, IsHeadingFrom 1 l

/-- A page without headings settles on nothing, any other on a section: the second reading never
loses all sections. -/
theorem unsettled_iff {t : Text} : settled? t = none ↔ ¬ HasHeading t := by
  rw [settled?_eq_none_iff, Section.ofPage_eq_nil_iff, HasHeading]
  push Not
  rfl

theorem exists_settled {t : Text} (h : HasHeading t) : ∃ s, settled? t = some s :=
  Option.ne_none_iff_exists'.1 fun hnone => unsettled_iff.1 hnone h

/-! ## Sources over a state -/

/-- The source serves the pages, in states with the invariant: reading changes nothing, and a note
changes the state by a step that keeps the invariant. -/
structure Serves {σ : Type} (src : PageSource (StateM σ)) (pages : Text → Except Fault Text)
    (Inv : σ → Prop) (step : σ → Event → σ) : Prop where
  read : ∀ page s, Inv s → (src.read page).run s = (pages page, s)
  note : ∀ e s, Inv s → (src.note e).run s = ((), step s e)
  keeps : ∀ e s, Inv s → Inv (step s e)

theorem serves_ofPages (pages : Text → Except Fault Text) :
    Serves (PageSource.ofPages pages) pages (fun _ => True) (fun s e => s ++ [e]) where
  read _ _ _ := rfl
  note _ _ _ := rfl
  keeps _ _ _ := trivial

namespace Serves

variable {σ : Type} {src : PageSource (StateM σ)} {pages : Text → Except Fault Text}
  {Inv : σ → Prop} {step : σ → Event → σ} {s : σ}

theorem keeps_all (h : Serves src pages Inv step) (es : List Event) (hs : Inv s) :
    Inv (es.foldl step s) := by
  induction es generalizing s with
  | nil => exact hs
  | cons e es ih => exact ih (h.keeps e s hs)

theorem run_noteAll (h : Serves src pages Inv step) (es : List Event) (hs : Inv s) :
    (src.noteAll es).run s = ((), es.foldl step s) := by
  induction es generalizing s with
  | nil => rfl
  | cons e es ih =>
    rw [PageSource.noteAll, StateT.run_bind, h.note e s hs]
    exact ih (h.keeps e s hs)

theorem run_fetch (h : Serves src pages Inv step) (page : Text) (hs : Inv s) :
    (src.fetch page).run.run s = (pages page, step s (.reading page)) := by
  rw [PageSource.fetch, run_bind_ok (run_lift (h.note (.reading page) s hs))]
  exact h.read page _ (h.keeps _ _ hs)

/-- Settling notes what is to be noted and gives the section, or the fault that names the
function. -/
theorem run_settle (h : Serves src pages Inv step) (function t : Text) (hs : Inv s) :
    (settle src function t).run.run s =
      ((settled? t).elim (.error (.unresolved function)) .ok,
        (settleNotes function t).foldl step s) := by
  rcases hpage : Section.ofPage t with _ | ⟨first, _ | ⟨second, ss⟩⟩
  · simp only [settle, settled?, settleNotes, hpage]
    rfl
  · simp only [settle, settled?, settleNotes, hpage]
    rfl
  · simp only [settle, settled?, settleNotes, hpage]
    rw [run_bind_ok (run_lift (h.note _ s hs))]
    cases Section.ofPage (t.drop 1) <;> rfl

end Serves

/-! ## The ways a resolution can go -/

/-- What is noted while a function is resolved over pages, and what it resolves to. -/
inductive Resolves (pages : Text → Except Fault Text) (function : Text) :
    List Event → Except Fault Section → Prop where
  /-- The page of the function cannot be had. -/
  | unfetched {e : Fault} (page : pages function = .error e) :
      Resolves pages function [.reading function] (.error e)
  /-- The page of the function has a heading. -/
  | found {t : Text} {s : Section} (page : pages function = .ok t) (settled : settled? t = some s) :
      Resolves pages function (.reading function :: settleNotes function t) (.ok s)
  /-- The page of the function has no heading and forwards to no other page. -/
  | deadEnd {t : Text} (page : pages function = .ok t) (unsettled : settled? t = none)
      (target : Redirect.target? t = none) :
      Resolves pages function [.reading function] (.error (.unresolved function))
  /-- The page that the function forwards to cannot be had. -/
  | lost {t target : Text} {e : Fault} (page : pages function = .ok t)
      (unsettled : settled? t = none) (forwards : Redirect.target? t = some target)
      (second : pages target = .error e) :
      Resolves pages function
        [.reading function, .redirected function target, .reading target] (.error e)
  /-- The page that the function forwards to has a heading. -/
  | forwarded {t target u : Text} {s : Section} (page : pages function = .ok t)
      (unsettled : settled? t = none) (forwards : Redirect.target? t = some target)
      (second : pages target = .ok u) (settled : settled? u = some s) :
      Resolves pages function
        (.reading function :: .redirected function target :: .reading target ::
          settleNotes function u) (.ok s)
  /-- The page that the function forwards to has no heading. -/
  | bare {t target u : Text} (page : pages function = .ok t)
      (unsettled : settled? t = none) (forwards : Redirect.target? t = some target)
      (second : pages target = .ok u) (bare : settled? u = none) :
      Resolves pages function
        [.reading function, .redirected function target, .reading target]
        (.error (.unresolved function))

section
variable {pages : Text → Except Fault Text} {function : Text}

theorem settleNotes_of_none {t : Text} (h : settled? t = none) :
    settleNotes function t = [] := by
  rw [settleNotes, settled?_eq_none_iff.1 h]

theorem exists_resolves (pages : Text → Except Fault Text) (function : Text) :
    ∃ events result, Resolves pages function events result := by
  cases page : pages function with
  | error e => exact ⟨_, _, .unfetched page⟩
  | ok t =>
    cases settled : settled? t with
    | some s => exact ⟨_, _, .found page settled⟩
    | none =>
      cases forwards : Redirect.target? t with
      | none => exact ⟨_, _, .deadEnd page settled forwards⟩
      | some target =>
        cases second : pages target with
        | error e => exact ⟨_, _, .lost page settled forwards second⟩
        | ok u =>
          cases last : settled? u with
          | some s => exact ⟨_, _, .forwarded page settled forwards second last⟩
          | none => exact ⟨_, _, .bare page settled forwards second last⟩

section
variable {σ : Type} {src : PageSource (StateM σ)} {Inv : σ → Prop} {step : σ → Event → σ}
  {state : σ} {t : Text}

/-- A page with a heading is the text that is read in the end. -/
theorem run_finalPage_of_settled (h : Serves src pages Inv step) (hs : Inv state) {s : Section}
    (page : pages function = .ok t) (settled : settled? t = some s) :
    (finalPage src function).run.run state = (.ok t, step state (.reading function)) := by
  have hfetch := h.run_fetch function hs
  rw [page] at hfetch
  rw [finalPage, run_bind_ok hfetch]
  rcases hpage : Section.ofPage t with _ | ⟨first, ss⟩
  · rw [settled?_eq_none_iff.2 hpage] at settled
    cases settled
  · rfl

/-- Of a page without headings the one that it forwards to is read in the end. -/
theorem run_finalPage_of_forwards (h : Serves src pages Inv step) (hs : Inv state) {target : Text}
    (page : pages function = .ok t) (unsettled : settled? t = none)
    (forwards : Redirect.target? t = some target) :
    (finalPage src function).run.run state = (pages target,
      [.reading function, .redirected function target, .reading target].foldl step state) := by
  have hs1 := h.keeps (.reading function) state hs
  have hs2 := h.keeps (.redirected function target) _ hs1
  have hfetch := h.run_fetch function hs
  rw [page] at hfetch
  rw [finalPage, run_bind_ok hfetch]
  simp only [settled?_eq_none_iff.1 unsettled, forwards]
  rw [run_bind_ok (run_lift (h.note _ _ hs1)), h.run_fetch target hs2]
  rfl

/-- On whatever state a source keeps, a resolution goes the way it has over the pages. -/
theorem run_resolve (h : Serves src pages Inv step) (hs : Inv state) {events : List Event}
    {result : Except Fault Section} (hr : Resolves pages function events result) :
    (resolve src function).run.run state = (result, events.foldl step state) := by
  have hfetch := h.run_fetch function hs
  cases hr with
  | unfetched page =>
    rw [page] at hfetch
    exact run_bind_error hfetch _
  | @found t s page settled =>
    rw [resolve_eq, run_bind_ok (run_finalPage_of_settled h hs page settled),
      h.run_settle function t (h.keeps _ _ hs), settled]
    rfl
  | deadEnd page unsettled target =>
    rw [page] at hfetch
    rw [resolve, run_bind_ok hfetch]
    simp only [settled?_eq_none_iff.1 unsettled, target]
    rfl
  | lost page unsettled forwards second =>
    have hfinal := run_finalPage_of_forwards h hs page unsettled forwards
    rw [second] at hfinal
    rw [resolve_eq, run_bind_error hfinal]
  | @forwarded t target u s page unsettled forwards second settled =>
    have hfinal := run_finalPage_of_forwards h hs page unsettled forwards
    rw [second] at hfinal
    rw [resolve_eq, run_bind_ok hfinal, h.run_settle function u (h.keeps_all _ hs), settled]
    rfl
  | @bare t target u page unsettled forwards second bare =>
    have hfinal := run_finalPage_of_forwards h hs page unsettled forwards
    rw [second] at hfinal
    rw [resolve_eq, run_bind_ok hfinal, h.run_settle function u (h.keeps_all _ hs), bare,
      settleNotes_of_none bare]
    rfl

/-! ## Records -/

/-- What is noted while the record of a function is put together, and how that ends. -/
inductive Assembles [PatternCompiler] (pages : Text → Except Fault Text) (function : Text) :
    List Event → Except Fault Record → Prop where
  | unresolved {events : List Event} {e : Fault}
      (resolved : Resolves pages function events (.error e)) :
      Assembles pages function events (.error e)
  | resolved {events : List Event} {s : Section}
      (resolved : Resolves pages function events (.ok s)) :
      Assembles pages function (events ++ Record.notes function s) (Record.ofSection function s)

theorem exists_assembles [PatternCompiler] (pages : Text → Except Fault Text) (function : Text) :
    ∃ events result, Assembles pages function events result := by
  obtain ⟨events, result, h⟩ := exists_resolves pages function
  cases result with
  | error e => exact ⟨_, _, .unresolved h⟩
  | ok s => exact ⟨_, _, .resolved h⟩

theorem run_assemble [PatternCompiler] (h : Serves src pages Inv step) (hs : Inv state)
    {events : List Event} {result : Except Fault Record}
    (ha : Assembles pages function events result) :
    (assemble src function).run.run state = (result, events.foldl step state) := by
  cases ha with
  | unresolved hr =>
    have hrun := run_resolve h hs hr
    rw [assemble, run_bind_error hrun]
  | @resolved events s hr =>
    rw [assemble, run_bind_ok (run_resolve h hs hr),
      run_bind_ok (run_lift (h.run_noteAll _ (h.keeps_all events hs))), List.foldl_append]
    cases Record.ofSection function s <;> rfl

end
/-! ## Pages asked for -/

theorem foldl_note (events notes : List Event) :
    events.foldl (fun s e => s ++ [e]) notes = notes ++ events := by
  induction events generalizing notes with
  | nil => rw [List.foldl_nil, List.append_nil]
  | cons e events ih =>
    rw [List.foldl_cons, ih, List.append_assoc, List.singleton_append]

/-- Over pages that a function gives, there is one way. -/
theorem Resolves.fromStart_eq {events : List Event} {result : Except Fault Section}
    (h : Resolves pages function events result) :
    Noting.fromStart (resolve (.ofPages pages) function).run = (result, events) := by
  rw [Noting.fromStart, run_resolve (serves_ofPages pages) trivial h, foldl_note, List.nil_append]

/-- The page that a function asks for after its own: the one that its page forwards to, if it has
no heading. -/
def forward? (pages : Text → Except Fault Text) (function : Text) : Option Text :=
  match pages function with
  | .error _ => none
  | .ok t => if settled? t = none then Redirect.target? t else none

theorem forward?_eq_some_iff {target : Text} : forward? pages function = some target ↔
    ∃ t, pages function = .ok t ∧ ¬ HasHeading t ∧ Redirect.Forwards t target := by
  unfold forward?
  cases pages function with
  | error e => simp
  | ok t =>
    simp only [Except.ok.injEq, exists_eq_left', ← unsettled_iff, ← Redirect.target?_eq_some_iff]
    split <;> simp_all

theorem forward?_isSome_iff : (forward? pages function).isSome ↔
    ∃ t, pages function = .ok t ∧ ¬ HasHeading t ∧ ∃ l ∈ Redirect.lines t, Redirect.Shaped l := by
  unfold forward?
  cases pages function with
  | error e => simp
  | ok t =>
    simp only [Except.ok.injEq, exists_eq_left', ← unsettled_iff, ← Redirect.target?_isSome_iff]
    split <;> simp_all

theorem forward?_of_settled {t : Text} {s : Section} (page : pages function = .ok t)
    (settled : settled? t = some s) : forward? pages function = none := by
  simp [forward?, page, settled]

theorem forward?_of_unsettled {t : Text} (page : pages function = .ok t)
    (unsettled : settled? t = none) : forward? pages function = Redirect.target? t := by
  simp [forward?, page, unsettled]

theorem pagesRead_settleNotes (function t : Text) :
    Event.pagesRead (settleNotes function t) = [] := by
  unfold settleNotes
  split <;> rfl

/-- The page of the function is asked for, then the one that it forwards to, and no other. -/
theorem Resolves.pagesRead_eq {events : List Event} {result : Except Fault Section}
    (h : Resolves pages function events result) :
    Event.pagesRead events = function :: (forward? pages function).toList := by
  cases h with
  | unfetched page => rw [forward?, page]; rfl
  | @found t s page settled =>
    rw [forward?_of_settled page settled]
    exact congrArg (function :: ·) (pagesRead_settleNotes function t)
  | deadEnd page unsettled target => rw [forward?_of_unsettled page unsettled, target]; rfl
  | lost page unsettled forwards second => rw [forward?_of_unsettled page unsettled, forwards]; rfl
  | @forwarded t target u s page unsettled forwards second settled =>
    rw [forward?_of_unsettled page unsettled, forwards]
    exact congrArg (function :: target :: ·) (pagesRead_settleNotes function u)
  | bare page unsettled forwards second bare =>
    rw [forward?_of_unsettled page unsettled, forwards]; rfl

theorem pagesRead_append (es es' : List Event) :
    Event.pagesRead (es ++ es') = Event.pagesRead es ++ Event.pagesRead es' :=
  List.filterMap_append

theorem pagesRead_signatureNotes [PatternCompiler] (function : Text) (s : Section) :
    Event.pagesRead (Record.signatureNotes function s) = [] := by
  unfold Record.signatureNotes
  split
  · rfl
  · split
    · rfl
    · rw [Event.pagesRead, List.filterMap_map]
      exact List.filterMap_eq_nil_iff.2 fun _ _ => rfl

theorem pagesRead_typeNotes (descriptions : TextMap Text) (types : TextMap VarType) :
    Event.pagesRead (Record.typeNotes descriptions types) = [] := by
  refine List.filterMap_eq_nil_iff.2 fun e he => ?_
  obtain ⟨⟨name, description⟩, -, he⟩ := List.mem_filterMap.1 he
  obtain ⟨-, he⟩ := Option.ite_none_right_eq_some.1 he
  cases he
  rfl

/-- Nothing is read while a section is made into a record. -/
theorem pagesRead_notes [PatternCompiler] (function : Text) (s : Section) :
    Event.pagesRead (Record.notes function s) = [] := by
  have hdescription : Event.pagesRead (Record.descriptionNotes s) = [] := by
    unfold Record.descriptionNotes
    split <;> rfl
  rw [Record.notes, pagesRead_append, pagesRead_signatureNotes, List.nil_append]
  split
  · rfl
  · rw [pagesRead_append, pagesRead_typeNotes, hdescription, List.nil_append]

theorem Assembles.pagesRead_eq [PatternCompiler] {events : List Event}
    {result : Except Fault Record} (h : Assembles pages function events result) :
    Event.pagesRead events = function :: (forward? pages function).toList := by
  cases h with
  | unresolved hr => exact hr.pagesRead_eq
  | resolved hr =>
    rw [pagesRead_append, hr.pagesRead_eq, pagesRead_notes, List.append_nil]

theorem Assembles.fromStart_eq [PatternCompiler] {events : List Event}
    {result : Except Fault Record} (h : Assembles pages function events result) :
    Noting.fromStart (assemble (.ofPages pages) function).run = (result, events) := by
  rw [Noting.fromStart, run_assemble (serves_ofPages pages) trivial h, foldl_note, List.nil_append]

/-! ## Records over more pages -/

/-- The function has the record over the pages. -/
def HasRecord [PatternCompiler] (pages : Text → Except Fault Text) (function : Text)
    (r : Record) : Prop :=
  (Noting.fromStart (assemble (.ofPages pages) function).run).1 = .ok r

theorem hasRecord_iff [PatternCompiler] {r : Record} :
    HasRecord pages function r ↔ ∃ events, Assembles pages function events (.ok r) := by
  constructor
  · intro h
    obtain ⟨events, result, ha⟩ := exists_assembles pages function
    rw [HasRecord, ha.fromStart_eq] at h
    exact ⟨events, h ▸ ha⟩
  · rintro ⟨events, ha⟩
    rw [HasRecord, ha.fromStart_eq]

variable {pages' : Text → Except Fault Text}

theorem Resolves.mono (h : ∀ p t, pages p = .ok t → pages' p = .ok t) {events : List Event}
    {s : Section} (hr : Resolves pages function events (.ok s)) :
    Resolves pages' function events (.ok s) := by
  cases hr with
  | found page settled => exact .found (h _ _ page) settled
  | forwarded page unsettled forwards second settled =>
    exact .forwarded (h _ _ page) unsettled forwards (h _ _ second) settled

/-- More pages leave the records that there are. -/
theorem HasRecord.mono [PatternCompiler] (h : ∀ p t, pages p = .ok t → pages' p = .ok t)
    {r : Record} (hr : HasRecord pages function r) : HasRecord pages' function r := by
  obtain ⟨events, ha⟩ := hasRecord_iff.1 hr
  generalize hresult : Except.ok r = result at ha
  cases ha with
  | unresolved hr => cases hresult
  | resolved hr =>
    have ha' := Assembles.resolved (hr.mono h)
    rw [← hresult] at ha'
    exact hasRecord_iff.2 ⟨_, ha'⟩

/-! ## Faults -/

/-- Why a function resolves to nothing, and the fault that says so. -/
inductive Unresolvable (pages : Text → Except Fault Text) (function : Text) : Fault → Prop where
  /-- The page of the function cannot be had, for this reason. -/
  | page {e : Fault} (page : pages function = .error e) : Unresolvable pages function e
  /-- The page that the function forwards to cannot be had, for this reason. -/
  | target {t target : Text} {e : Fault} (page : pages function = .ok t) (bare : ¬ HasHeading t)
      (forwards : Redirect.Forwards t target) (second : pages target = .error e) :
      Unresolvable pages function e
  /-- The page of the function has neither a heading nor a line that forwards. -/
  | deadEnd {t : Text} (page : pages function = .ok t) (bare : ¬ HasHeading t)
      (plain : ∀ l ∈ Redirect.lines t, ¬ Redirect.Shaped l) :
      Unresolvable pages function (.unresolved function)
  /-- The page that the function forwards to has no heading, either. -/
  | bare {t target u : Text} (page : pages function = .ok t) (bare : ¬ HasHeading t)
      (forwards : Redirect.Forwards t target) (second : pages target = .ok u)
      (bareTarget : ¬ HasHeading u) : Unresolvable pages function (.unresolved function)

theorem unresolvable_iff {e : Fault} :
    Unresolvable pages function e ↔ ∃ events, Resolves pages function events (.error e) := by
  constructor
  · intro h
    cases h with
    | page page => exact ⟨_, .unfetched page⟩
    | target page bare forwards second =>
      exact ⟨_, .lost page (unsettled_iff.2 bare) (Redirect.target?_eq_some_iff.2 forwards) second⟩
    | deadEnd page bare plain =>
      exact ⟨_, .deadEnd page (unsettled_iff.2 bare) (Redirect.target?_eq_none_iff.2 plain)⟩
    | bare page bare forwards second bareTarget =>
      exact ⟨_, .bare page (unsettled_iff.2 bare) (Redirect.target?_eq_some_iff.2 forwards) second
        (unsettled_iff.2 bareTarget)⟩
  · rintro ⟨events, h⟩
    cases h with
    | unfetched page => exact .page page
    | deadEnd page unsettled target =>
      exact .deadEnd page (unsettled_iff.1 unsettled) (Redirect.target?_eq_none_iff.1 target)
    | lost page unsettled forwards second =>
      exact .target page (unsettled_iff.1 unsettled) (Redirect.target?_eq_some_iff.1 forwards)
        second
    | bare page unsettled forwards second bare =>
      exact .bare page (unsettled_iff.1 unsettled) (Redirect.target?_eq_some_iff.1 forwards) second
        (unsettled_iff.1 bare)

/-- How a function is resolved: the pages that are asked for, in order, and the result. -/
structure Resolution (pages : Text → Except Fault Text) (function : Text) (asked : List Text)
    (result : Except Fault Section) : Prop where
  first : asked.head? = some function
  atMostTwo : asked.length ≤ 2
  /-- Another page is asked for exactly when the page of the function has no heading and a line
  that forwards. -/
  another : asked.length = 2 ↔ ∃ t, pages function = .ok t ∧ ¬ HasHeading t ∧
    ∃ l ∈ Redirect.lines t, Redirect.Shaped l
  /-- The other page is the one that the first such line forwards to. -/
  second : ∀ target, asked = [function, target] ↔
    ∃ t, pages function = .ok t ∧ ¬ HasHeading t ∧ Redirect.Forwards t target
  fails : ∀ e, result = .error e ↔ Unresolvable pages function e
  /-- A page with a heading is enough. -/
  resolves : ∀ t, pages function = .ok t → HasHeading t → ∃ s, result = .ok s
  /-- A function that forwards to a page with a heading resolves as the name of that page does. -/
  forwarded : ∀ t target u, pages function = .ok t → ¬ HasHeading t →
    Redirect.Forwards t target → pages target = .ok u → HasHeading u →
    ∃ s, result = .ok s ∧
      (Noting.fromStart (resolve (.ofPages pages) target).run).1 = .ok s

/-- **Resolution.** At most two pages are asked for; which, and how that ends, follows from what
the pages say. -/
theorem resolution (pages : Text → Except Fault Text) (function : Text) :
    Resolution pages function
      (Event.pagesRead (Noting.fromStart (resolve (.ofPages pages) function).run).2)
      (Noting.fromStart (resolve (.ofPages pages) function).run).1 := by
  obtain ⟨events, result, h⟩ := exists_resolves pages function
  have hresult : ∀ {events' result'}, Resolves pages function events' result' →
      result = result' := fun h' =>
    congrArg Prod.fst (h.fromStart_eq.symm.trans h'.fromStart_eq)
  rw [h.fromStart_eq, h.pagesRead_eq]
  exact {
    first := rfl
    atMostTwo := by cases forward? pages function <;> simp
    another := by
      rw [← forward?_isSome_iff]
      cases forward? pages function <;> simp
    second := fun target => by
      rw [← forward?_eq_some_iff]
      cases forward? pages function <;> simp
    fails := fun e => by
      rw [unresolvable_iff]
      exact ⟨fun he => ⟨events, he ▸ h⟩, fun ⟨events', h'⟩ => hresult h'⟩
    resolves := fun t page heading => by
      obtain ⟨s, settled⟩ := exists_settled heading
      exact ⟨s, hresult (.found page settled)⟩
    forwarded := fun t target u page bare forwards second heading => by
      obtain ⟨s, settled⟩ := exists_settled heading
      refine ⟨s, hresult (.forwarded page (unsettled_iff.2 bare)
        (Redirect.target?_eq_some_iff.2 forwards) second settled), ?_⟩
      rw [(Resolves.found second settled).fromStart_eq] }

end
end WikiStubs
