import WikiStubs.Proofs.Record.Outcome
import WikiStubs.Proofs.Signature

/-!
# What of a record stands on one line

A record holds four kinds of text. Names of variables have no blanks at all
(`Record.isBlank_of_mem_names`). Descriptions of variables come from a bullet, which is read up to
a line feed, or from the extra variables, so they have no line feed
(`Record.lineFeed_not_mem_description`); nothing takes a carriage return out of them. Defaults are
read off calls, which may go over several lines, and the description of the function may have any
number of lines.
-/
namespace WikiStubs

/-! ## Bullets -/

namespace Bullet

theorem lineFeed_not_mem_descriptionOf? {t d : Text} (h : descriptionOf? t = some d) :
    '\n' ∉ d := by
  unfold descriptionOf? at h
  split at h
  · split at h
    · cases h
      exact List.not_mem_nil
    · cases h
  · cases h
    intro hmem
    simpa using List.mem_takeWhile_imp hmem

theorem lineFeed_not_mem_tail? {t d : Text} (h : tail? t = some d) : '\n' ∉ d := by
  unfold tail? at h
  split at h
  · cases h
  · split at h
    · cases h
    · exact lineFeed_not_mem_descriptionOf? h

theorem lineFeed_not_mem_split? {t names d : Text} (h : split? t = some (names, d)) : '\n' ∉ d := by
  induction t generalizing names with
  | nil => cases h
  | cons c t ih =>
    rw [split?] at h
    split at h
    · cases h
    · split at h
      · next hs =>
        cases h
        exact ih hs
      · obtain ⟨d', hd, he⟩ := Option.map_eq_some_iff.1 h
        cases he
        exact lineFeed_not_mem_tail? hd

theorem lineFeed_not_mem_description {line : Text} {b : Bullet} (h : ofLine? line = some b) :
    '\n' ∉ b.description := by
  obtain ⟨⟨names, d⟩, hsplit, rfl⟩ := Option.map_eq_some_iff.1 h
  obtain ⟨t, -, hsplit⟩ := Option.bind_eq_some_iff.1 hsplit
  intro hmem
  rcases Link.mem_rewrite hmem with he | hmem
  · cases he
  · exact lineFeed_not_mem_split? hsplit (Text.mem_of_mem_trimEndBy hmem)

end Bullet

/-! ## Records -/

theorem Corrections.lineFeed_not_mem_extrasFor {name v d : Text} (h : (v, d) ∈ extrasFor name) :
    '\n' ∉ d := by
  have htable : ∀ e ∈ extraVariables, '\n' ∉ e.text := by decide +kernel
  obtain ⟨e, he, heq⟩ := List.mem_map.1 h
  cases heq
  exact htable e (List.mem_filter.1 he).1

theorem Section.lineFeed_not_mem_described {s : Section} {v d : Text}
    (h : s.described.get? v = some d) : '\n' ∉ d := by
  rcases TextMap.mem_of_get?_insertAll h with hextra | hbullet
  · exact Corrections.lineFeed_not_mem_extrasFor hextra
  · have hmem := TextMap.mem_of_get?_ofList hbullet
    simp only [List.mem_flatMap, List.mem_filterMap, List.mem_map] at hmem
    obtain ⟨b, ⟨line, -, hb⟩, n, -, heq⟩ := hmem
    cases heq
    exact Bullet.lineFeed_not_mem_description hb

namespace Record

variable [PatternCompiler] {function : Text} {s : Section} {r : Record}

theorem isBlank_of_mem_names (h : ofSection function s = .ok r) {v : Text}
    (hv : v ∈ r.signature.names) {c : Char} (hc : c ∈ v) : Text.isBlank c = false := by
  obtain ⟨_, hsignature, -, d, -, rfl⟩ := eq_of_ofSection h
  exact Section.isBlank_of_mem_names hsignature hv hc

theorem lineFeed_not_mem_description (h : ofSection function s = .ok r) {v d : Text}
    (hd : r.descriptions.get? v = some d) : '\n' ∉ d := by
  obtain ⟨_, -, -, _, -, rfl⟩ := eq_of_ofSection h
  exact Section.lineFeed_not_mem_described hd

end Record
end WikiStubs
