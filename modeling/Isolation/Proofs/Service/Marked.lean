import Isolation.Proofs.Text.Separated
import Isolation.Proofs.Text.Utf8
import Isolation.Service.Key

/-!
# The first marker in a name

A resource name asks for the service that follows its first marker. No marker begins within what
stands in front of the first one, so there is one way to cut a name there, and it is found in the
characters as well as in their bytes (`Isolation.Service.key_follows_first_marker`).
-/

namespace Isolation.Service

/-- Whether a name is a text without a marker, then a marker, then a key. -/
structure MarkedAt (name before key : String) : Prop where
  spelled : name = before ++ marker ++ key
  unmarked : ¬ marker.toList <:+: before.toList

variable {name before key : String}

/-- The marker starts with a character of ASCII that does not come again in it. -/
theorem exists_marker : ∃ rest, marker.toList = 'M' :: rest ∧ 'M' ∉ rest :=
  ⟨marker.toList.tail, by decide, by decide⟩

private theorem toList_spelled : (before ++ marker ++ key).toList =
    before.toList ++ marker.toList ++ key.toList := by
  rw [String.toList_append, String.toList_append]

/-- A name is cut at its first marker, and nowhere else. -/
theorem cutFirst_marker_iff :
    Text.cutFirst marker.toList name.toList = some (before.toList, key.toList) ↔
      MarkedAt name before key := by
  obtain ⟨rest, shape, once⟩ := exists_marker
  constructor
  · intro cut
    refine ⟨?_, Text.notInfix_of_cutFirst (shape ▸ List.cons_ne_nil _ _) cut⟩
    rw [← String.toList_inj, toList_spelled]
    exact Text.eq_append_of_cutFirst cut
  · rintro ⟨rfl, unmarked⟩
    rw [toList_spelled]
    rw [shape] at unmarked ⊢
    exact Text.cutFirst_append once unmarked key.toList

/-- A name with a marker has a first one. -/
theorem exists_markedAt_iff :
    (∃ before key, MarkedAt name before key) ↔ marker.toList <:+: name.toList := by
  constructor
  · rintro ⟨before, key, rfl, -⟩
    exact ⟨before.toList, key.toList, toList_spelled.symm⟩
  · intro marked
    cases cut : Text.cutFirst marker.toList name.toList with
    | none => exact absurd marked (Text.cutFirst_eq_none_iff.mp cut)
    | some pair =>
      refine ⟨.ofList pair.1, .ofList pair.2, cutFirst_marker_iff.mp ?_⟩
      rw [String.toList_ofList, String.toList_ofList, cut]

/-- A name with one marker in front asks for the interface that follows the marker. -/
theorem interfaceOf?_marked {before : String} (unmarked : ¬ marker.toList <:+: before.toList)
    (interfaceName : String) :
    interfaceOf? (before ++ marker ++ interfaceName) =
      if interfaceName = "" then none else some interfaceName := by
  have marked : MarkedAt (before ++ marker ++ interfaceName) before interfaceName :=
    ⟨rfl, unmarked⟩
  rw [interfaceOf?, cutFirst_marker_iff.mpr marked]
  by_cases empty : interfaceName = ""
  · rw [if_pos empty, empty]
    rfl
  · rw [if_neg empty]
    cases spelled : interfaceName.toList with
    | nil => exact absurd (String.toList_inj.mp spelled) empty
    | cons c rest => simp only [← spelled, String.ofList_toList]

private theorem interfaceOf?_unmarked (unmarked : ¬ marker.toList <:+: name.toList) :
    interfaceOf? name = none := by
  rw [interfaceOf?, Text.cutFirst_eq_none_iff.mpr unmarked]

namespace MarkedAt

/-- What a marked name asks for. -/
theorem asks (marked : MarkedAt name before key) :
    interfaceOf? name = if key = "" then none else some key := by
  rw [marked.spelled]
  exact interfaceOf?_marked marked.unmarked key

/-- There is one first marker. -/
theorem unique {other rest : String} (marked : MarkedAt name before key)
    (again : MarkedAt name other rest) : before = other ∧ key = rest := by
  have cut := cutFirst_marker_iff.mpr marked
  rw [cutFirst_marker_iff.mpr again] at cut
  obtain ⟨front, back⟩ := Prod.mk.inj (Option.some.inj cut)
  exact ⟨String.toList_inj.mp front.symm, String.toList_inj.mp back.symm⟩

/-- No marker begins within what stands in front of the first one. -/
theorem isPrefix {earlier later : String} (marked : MarkedAt name before key)
    (occurs : name = earlier ++ marker ++ later) : before.toList <+: earlier.toList := by
  have shape : name.toList = earlier.toList ++ marker.toList ++ later.toList := by
    rw [occurs, toList_spelled]
  exact Text.prefix_of_cutFirst (cutFirst_marker_iff.mpr marked) shape

end MarkedAt

/-- What a name asks for stands behind its first marker. -/
theorem interfaceOf?_eq_some_iff :
    interfaceOf? name = some key ↔ key ≠ "" ∧ ∃ before, MarkedAt name before key := by
  constructor
  · intro asked
    by_cases marked : marker.toList <:+: name.toList
    · obtain ⟨before, rest, cut⟩ := exists_markedAt_iff.mpr marked
      rw [cut.asks] at asked
      by_cases empty : rest = ""
      · rw [if_pos empty] at asked
        cases asked
      · rw [if_neg empty] at asked
        obtain rfl := Option.some.inj asked
        exact ⟨empty, before, cut⟩
    · rw [interfaceOf?_unmarked marked] at asked
      cases asked
  · rintro ⟨nonempty, before, cut⟩
    rw [cut.asks, if_neg nonempty]

/-- A name asks for nothing when it has no marker or ends with its first one. -/
theorem interfaceOf?_eq_none_iff :
    interfaceOf? name = none ↔
      ¬ marker.toList <:+: name.toList ∨ ∃ before, MarkedAt name before "" := by
  constructor
  · intro silent
    by_cases marked : marker.toList <:+: name.toList
    · obtain ⟨before, rest, cut⟩ := exists_markedAt_iff.mpr marked
      rw [cut.asks] at silent
      by_cases empty : rest = ""
      · exact .inr ⟨before, empty ▸ cut⟩
      · rw [if_neg empty] at silent
        cases silent
    · exact .inl marked
  · rintro (unmarked | ⟨before, cut⟩)
    · exact interfaceOf?_unmarked unmarked
    · rw [cut.asks, if_pos rfl]

/-- The bytes of a marker stand in the bytes of a name only where the name has a marker. -/
theorem exists_marker_of_bytes {front back : Bytes}
    (shape : Utf8.ofString name = front ++ Utf8.ofString marker ++ back) :
    ∃ earlier later, name = earlier ++ marker ++ later ∧ Utf8.ofString earlier = front ∧
      Utf8.ofString later = back := by
  obtain ⟨rest, spelled, -⟩ := exists_marker
  rw [Utf8.ofString, Utf8.ofString, spelled] at shape
  obtain ⟨earlier, later, whole, rfl, rfl⟩ := Utf8.exists_of_encode_eq (by decide) shape
  refine ⟨.ofList earlier, .ofList later, ?_, ?_, ?_⟩
  · rw [← String.toList_inj, toList_spelled, String.toList_ofList, String.toList_ofList, spelled,
      whole]
  · rw [Utf8.ofString, String.toList_ofList]
  · rw [Utf8.ofString, String.toList_ofList]

/-- **A name asks for the service that follows its first marker.** The key is what a text without a
marker and a marker leave of the name, unless nothing is left; there is one such cut at the most. A
name asks for nothing exactly when it has no marker or ends with its first one. No marker begins in
front of the cut, and in the bytes of a name it stands between characters. -/
theorem key_follows_first_marker (name : String) :
    (∀ key, interfaceOf? name = some key ↔ key ≠ "" ∧ ∃ before, MarkedAt name before key) ∧
      (∀ before key other rest, MarkedAt name before key → MarkedAt name other rest →
        before = other ∧ key = rest) ∧
      (interfaceOf? name = none ↔
        ¬ marker.toList <:+: name.toList ∨ ∃ before, MarkedAt name before "") ∧
      (∀ before key earlier later, MarkedAt name before key →
        name = earlier ++ marker ++ later → before.toList <+: earlier.toList) ∧
      ∀ front back, Utf8.ofString name = front ++ Utf8.ofString marker ++ back →
        ∃ earlier later, name = earlier ++ marker ++ later ∧ Utf8.ofString earlier = front ∧
          Utf8.ofString later = back := by
  refine ⟨fun key => interfaceOf?_eq_some_iff, ?_, interfaceOf?_eq_none_iff, ?_, ?_⟩
  · intro before key other rest marked again
    exact marked.unique again
  · intro before key earlier later marked occurs
    exact marked.isPrefix occurs
  · intro front back shape
    exact exists_marker_of_bytes shape

/-- A marker within the key stays there. -/
example : interfaceOf? "META-INF/META-INF/services/a/META-INF/services/b" =
    some "a/META-INF/services/b" := by
  decide

end Isolation.Service
