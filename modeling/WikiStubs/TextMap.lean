import WikiStubs.Text.Basic

/-!
# Maps from text

A finite map whose keys are texts, kept in ascending order of their characters, each key once.
Equal maps have equal entries, so the order in which a map was filled does not show.

* `Text.precedes` is the order of the code points, which is that of the UTF-8 bytes too: a strict
  total order (`precedes_trans`, `precedes_irrefl`, `precedes_total`).
* `get?_insert`: a look-up after an insertion.
* `keys_map`, `get?_map`: keys and look-ups after all values are changed.
-/
namespace WikiStubs

/-! ## The order of texts -/

namespace Text

/-- Whether the first text comes strictly before the second. -/
def precedes : Text → Text → Bool
  | _, [] => false
  | [], _ :: _ => true
  | a :: s, b :: t => a.toNat < b.toNat || (a.toNat == b.toNat && precedes s t)

theorem precedes_irrefl (s : Text) : precedes s s = false := by
  induction s with
  | nil => rfl
  | cons a s ih => simp [precedes, ih]

theorem precedes_trans {s t u : Text} (h : precedes s t) (h' : precedes t u) : precedes s u := by
  induction s generalizing t u with
  | nil =>
    cases u with
    | nil => cases t <;> simp [precedes] at h'
    | cons c u => rfl
  | cons a s ih =>
    cases t with
    | nil => simp [precedes] at h
    | cons b t =>
      cases u with
      | nil => simp [precedes] at h'
      | cons c u =>
        simp only [precedes, Bool.or_eq_true, decide_eq_true_eq, Bool.and_eq_true, beq_iff_eq]
          at h h' ⊢
        rcases h with h | ⟨h, hs⟩ <;> rcases h' with h' | ⟨h', ht⟩
        · exact Or.inl (by omega)
        · exact Or.inl (by omega)
        · exact Or.inl (by omega)
        · exact Or.inr ⟨by omega, ih hs ht⟩

theorem precedes_total {s t : Text} (h : precedes s t = false) (hne : s ≠ t) : precedes t s := by
  induction s generalizing t with
  | nil => cases t <;> simp_all [precedes]
  | cons a s ih =>
    cases t with
    | nil => rfl
    | cons b t =>
      simp only [precedes, Bool.or_eq_false_iff, decide_eq_false_iff_not, Bool.and_eq_false_iff,
        beq_eq_false_iff_ne] at h
      simp only [precedes, Bool.or_eq_true, decide_eq_true_eq, Bool.and_eq_true, beq_iff_eq]
      by_cases hab : a.toNat = b.toNat
      · have hc : a = b := Char.toNat_inj.1 hab
        refine Or.inr ⟨hab.symm, ih (h.2.resolve_left fun hn => hn hab) fun hst => hne ?_⟩
        rw [hc, hst]
      · exact Or.inl (by omega)

end Text

/-! ## Maps -/

/-- A map from texts to `α`, as its entries in ascending order of the keys. -/
structure TextMap (α : Type) where
  entries : List (Text × α)
  ascending : entries.Pairwise fun x y => x.1.precedes y.1

namespace TextMap

variable {α β : Type}

theorem ext {m n : TextMap α} (h : m.entries = n.entries) : m = n := by
  cases m; cases n; cases h; rfl

instance [DecidableEq α] : DecidableEq (TextMap α) := fun m n =>
  if h : m.entries = n.entries then isTrue (ext h) else isFalse fun e => h (e ▸ rfl)

def empty : TextMap α := ⟨[], List.Pairwise.nil⟩

def keys (m : TextMap α) : List Text := m.entries.map (·.1)

def lookup (k : Text) : List (Text × α) → Option α
  | [] => none
  | (k', v) :: es => if k' = k then some v else lookup k es

def get? (m : TextMap α) (k : Text) : Option α := lookup k m.entries

def contains (m : TextMap α) (k : Text) : Bool := (m.get? k).isSome

/-- Puts an entry at its place among ascending entries; an entry of the same key gives way. -/
def place (k : Text) (v : α) : List (Text × α) → List (Text × α)
  | [] => [(k, v)]
  | (k', v') :: es =>
    if k.precedes k' then (k, v) :: (k', v') :: es
    else if k = k' then (k, v) :: es
    else (k', v') :: place k v es

theorem mem_place {k : Text} {v : α} {es : List (Text × α)} {e : Text × α}
    (h : e ∈ place k v es) : e = (k, v) ∨ e ∈ es := by
  induction es with
  | nil => simpa [place] using h
  | cons d es ih =>
    simp only [place] at h
    split at h
    · exact List.mem_cons.1 h
    · split at h
      · rcases List.mem_cons.1 h with h | h
        · exact Or.inl h
        · exact Or.inr (List.mem_cons_of_mem _ h)
      · rcases List.mem_cons.1 h with h | h
        · exact Or.inr (h ▸ List.mem_cons_self ..)
        · exact (ih h).imp id (List.mem_cons_of_mem _)

theorem pairwise_place (k : Text) (v : α) {es : List (Text × α)}
    (h : es.Pairwise fun x y => x.1.precedes y.1) :
    (place k v es).Pairwise fun x y => x.1.precedes y.1 := by
  induction es with
  | nil => simp [place]
  | cons d es ih =>
    obtain ⟨h1, h2⟩ := List.pairwise_cons.1 h
    simp only [place]
    split
    · next hlt =>
      refine List.pairwise_cons.2 ⟨fun e he => ?_, h⟩
      rcases List.mem_cons.1 he with rfl | he
      · exact hlt
      · exact Text.precedes_trans hlt (h1 e he)
    · next hge =>
      split
      · next heq => exact List.pairwise_cons.2 ⟨fun e he => heq ▸ h1 e he, h2⟩
      · next hne =>
        refine List.pairwise_cons.2 ⟨fun e he => ?_, ih h2⟩
        rcases mem_place he with rfl | he
        · exact Text.precedes_total (Bool.eq_false_iff.2 hge) hne
        · exact h1 e he

def insert (m : TextMap α) (k : Text) (v : α) : TextMap α :=
  ⟨place k v m.entries, pairwise_place k v m.ascending⟩

/-- Sets the value of each key in turn, so that the last value of a key counts. -/
def insertAll (m : TextMap α) (kvs : List (Text × α)) : TextMap α :=
  kvs.foldl (fun m kv => m.insert kv.1 kv.2) m

/-- The map with the given entries; of a repeated key the last counts. -/
def ofList (kvs : List (Text × α)) : TextMap α := empty.insertAll kvs

def map (f : Text → α → β) (m : TextMap α) : TextMap β :=
  ⟨m.entries.map fun e => (e.1, f e.1 e.2), List.pairwise_map.2 m.ascending⟩

@[simp] theorem keys_map (f : Text → α → β) (m : TextMap α) : (m.map f).keys = m.keys := by
  simp [keys, map, Function.comp_def]

theorem lookup_place (k : Text) (v : α) (es : List (Text × α)) (j : Text)
    (h : es.Pairwise fun x y => x.1.precedes y.1) :
    lookup j (place k v es) = if k = j then some v else lookup j es := by
  induction es with
  | nil => simp [place, lookup]
  | cons d es ih =>
    obtain ⟨h1, h2⟩ := List.pairwise_cons.1 h
    simp only [place]
    split
    · simp [lookup]
    · split
      · next heq => simp only [lookup, heq]; split <;> rfl
      · next hne =>
        simp only [lookup, ih h2]
        by_cases hd : d.1 = j
        · subst hd; simp [hne]
        · simp [hd]

theorem get?_insert (m : TextMap α) (k : Text) (v : α) (j : Text) :
    (m.insert k v).get? j = if k = j then some v else m.get? j :=
  lookup_place k v m.entries j m.ascending

theorem get?_map (f : Text → α → β) (m : TextMap α) (k : Text) :
    (m.map f).get? k = (m.get? k).map (f k) := by
  simp only [get?, map]
  induction m.entries with
  | nil => rfl
  | cons d es ih =>
    simp only [List.map_cons, lookup, ih]
    split
    · next h => subst h; rfl
    · rfl

end TextMap
end WikiStubs
