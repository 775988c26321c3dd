import Isolation.Text.Split

/-!
# Separated texts

A text is its parts with a separator between them. What maps each element to a text maps the parts
and the separator; splitting at more separators splits each part; and the last cut takes off the
last part. The first cut is at the first occurrence of a pattern, and a pattern that does not start
again within itself is found where it was put.
-/

namespace Isolation.Text

variable {α β : Type}

/-- Joined parts are written by writing the parts and the separator. -/
theorem intercalate_flatMap (separator : List α) (parts : List (List α)) (write : α → List β) :
    (separator.intercalate parts).flatMap write =
      (separator.flatMap write).intercalate (parts.map (·.flatMap write)) := by
  induction parts with
  | nil => rfl
  | cons part parts ih =>
    cases parts with
    | nil => simp
    | cons next parts =>
      rw [List.intercalate_cons_cons, List.flatMap_append, List.flatMap_append, ih]
      exact List.intercalate_cons_cons.symm

/-- Joined parts are changed by changing the parts and the separator. -/
theorem intercalate_map (separator : List α) (parts : List (List α)) (change : α → β) :
    (separator.intercalate parts).map change =
      (separator.map change).intercalate (parts.map (·.map change)) := by
  induction parts with
  | nil => rfl
  | cons part parts ih =>
    cases parts with
    | nil => simp
    | cons next parts =>
      rw [List.intercalate_cons_cons, List.map_append, List.map_append, ih]
      exact List.intercalate_cons_cons.symm

/-- Two runs of parts are joined by one more separator. -/
theorem intercalate_append (separator : List α) {parts more : List (List α)} (nonempty : parts ≠ [])
    (nonemptyMore : more ≠ []) :
    separator.intercalate (parts ++ more) =
      separator.intercalate parts ++ separator ++ separator.intercalate more := by
  induction parts with
  | nil => exact absurd rfl nonempty
  | cons part parts ih =>
    cases parts with
    | nil => simp [List.intercalate_cons_of_ne_nil nonemptyMore]
    | cons next parts =>
      rw [List.cons_append, List.cons_append, List.intercalate_cons_cons, ← List.cons_append,
        ih (List.cons_ne_nil next parts), List.intercalate_cons_cons]
      simp

private theorem intercalate_concat (separator : List α) {parts : List (List α)}
    (nonempty : parts ≠ []) (last : List α) :
    separator.intercalate (parts ++ [last]) = separator.intercalate parts ++ separator ++ last := by
  rw [intercalate_append separator nonempty (List.cons_ne_nil last []), List.intercalate_singleton]

/-- A text at the end belongs to the last part. -/
theorem intercalate_concat_append (separator : List α) (parts : List (List α))
    (last more : List α) :
    separator.intercalate (parts ++ [last]) ++ more =
      separator.intercalate (parts ++ [last ++ more]) := by
  by_cases empty : parts = []
  · rw [empty, List.nil_append, List.nil_append, List.intercalate_singleton,
      List.intercalate_singleton]
  · rw [intercalate_concat _ empty, intercalate_concat _ empty, List.append_assoc]

private theorem mem_intercalate {separator : List α} {parts : List (List α)} {part : List α}
    {element : α} (member : part ∈ parts) (inside : element ∈ part) :
    element ∈ separator.intercalate parts := by
  induction parts with
  | nil => exact absurd member List.not_mem_nil
  | cons first parts ih =>
    cases parts with
    | nil =>
      rw [List.intercalate_singleton, ← List.mem_singleton.mp member]
      exact inside
    | cons next parts =>
      rw [List.intercalate_cons_cons]
      rcases List.mem_cons.mp member with rfl | later
      · exact List.mem_append_left _ (List.mem_append_left _ inside)
      · exact List.mem_append_right _ (ih later)

/-- Splitting at the separator, and at more, splits each part. -/
theorem splitOnP_intercalate {separator : α} {separates : α → Bool}
    (isSeparator : separates separator = true) {parts : List (List α)} (nonempty : parts ≠ []) :
    ([separator].intercalate parts).splitOnP separates =
      parts.flatMap (·.splitOnP separates) := by
  induction parts with
  | nil => exact absurd rfl nonempty
  | cons part parts ih =>
    cases parts with
    | nil => simp
    | cons next parts =>
      rw [List.intercalate_cons_cons, List.append_assoc, List.singleton_append,
        List.splitOnP_append_cons _ _ isSeparator, ih (List.cons_ne_nil next parts)]
      exact List.flatMap_cons.symm

/-- Parts that each follow a separator, but the first, are found again by splitting. -/
theorem splitOnP_append_flatMap {separator : α} {separates : α → Bool}
    (isSeparator : separates separator = true) {parts : List (List α)} {first : List α}
    (plain : ∀ part ∈ first :: parts, ∀ element ∈ part, separates element = false) :
    (first ++ parts.flatMap (separator :: ·)).splitOnP separates = first :: parts := by
  induction parts generalizing first with
  | nil =>
    rw [List.flatMap_nil, List.append_nil]
    exact List.splitOnP_eq_singleton (plain first List.mem_cons_self)
  | cons part parts ih =>
    rw [List.flatMap_cons, List.cons_append, List.splitOnP_append_cons_of_forall_mem
      (plain first List.mem_cons_self) separator isSeparator,
      ih fun other member => plain other (List.mem_cons_of_mem first member)]

variable [DecidableEq α]

/-- No part of a text holds the separator at which it was split. -/
theorem notMem_of_mem_splitOn {separator : α} {text part : List α}
    (member : part ∈ text.splitOn separator) : separator ∉ part := by
  induction text generalizing part with
  | nil =>
    rw [List.splitOn_nil] at member
    rw [List.mem_singleton.mp member]
    exact List.not_mem_nil
  | cons head rest ih =>
    rw [List.splitOn_cons_eq_if_modifyHead] at member
    by_cases same : (head == separator) = true
    · rw [if_pos same] at member
      rcases List.mem_cons.mp member with rfl | inside
      · exact List.not_mem_nil
      · exact ih inside
    · rw [if_neg same] at member
      cases parts : rest.splitOn separator with
      | nil => exact absurd parts (List.splitOn_ne_nil separator rest)
      | cons first others =>
        rw [parts] at member ih
        rcases List.mem_cons.mp member with rfl | inside
        · intro here
          rcases List.mem_cons.mp here with rfl | within
          · exact same (beq_self_eq_true _)
          · exact ih List.mem_cons_self within
        · exact ih (List.mem_cons_of_mem first inside)

/-- What stands in a part stands in the whole. -/
theorem mem_of_mem_splitOn {separator element : α} {text part : List α}
    (member : part ∈ text.splitOn separator) (inside : element ∈ part) : element ∈ text := by
  have joined : element ∈ [separator].intercalate (text.splitOn separator) :=
    mem_intercalate member inside
  rw [List.intercalate_splitOn] at joined
  exact joined

/-- What follows the last cut holds no further separator. -/
theorem notMem_of_cutLast {separator : α} {text before after : List α}
    (found : cutLast separator text = some (before, after)) : separator ∉ after := by
  induction text generalizing before with
  | nil => simp [cutLast] at found
  | cons head rest ih =>
    simp only [cutLast] at found
    split at found
    · rename_i inner tail hit
      obtain ⟨-, rfl⟩ : head :: inner = before ∧ tail = after := by simpa using found
      exact ih hit
    · rename_i miss
      split at found
      · obtain ⟨-, rfl⟩ : [] = before ∧ rest = after := by simpa using found
        exact cutLast_eq_none_iff.mp miss
      · simp at found

/-- The last cut is at the last separator. -/
theorem cutLast_append_cons {separator : α} (before : List α) {after : List α}
    (absent : separator ∉ after) :
    cutLast separator (before ++ separator :: after) = some (before, after) := by
  induction before with
  | nil =>
    rw [List.nil_append, cutLast, cutLast_eq_none_iff.mpr absent]
    exact if_pos rfl
  | cons head before ih =>
    rw [List.cons_append, cutLast, ih]

/-- What precedes the last part of a text: the parts before it, with separators between them. -/
theorem cutLast_intercalate {separator : α} (parts : List (List α)) {last : List α}
    (absent : separator ∉ last) :
    ((cutLast separator ([separator].intercalate (parts ++ [last]))).map (·.1)).getD [] =
      [separator].intercalate parts := by
  by_cases empty : parts = []
  · rw [empty, List.nil_append, List.intercalate_singleton, cutLast_eq_none_iff.mpr absent]
    rfl
  · rw [intercalate_concat _ empty, List.append_assoc, List.singleton_append,
      cutLast_append_cons _ absent]
    rfl

/-- What precedes the first occurrence of a pattern does not hold the pattern. -/
theorem notInfix_of_cutFirst {pattern text before after : List α} (nonempty : pattern ≠ [])
    (found : cutFirst pattern text = some (before, after)) : ¬ pattern <:+: before := by
  induction text generalizing before with
  | nil =>
    obtain ⟨empty, -⟩ : pattern = [] ∧ _ := by simpa [cutFirst] using found
    exact absurd empty nonempty
  | cons head rest ih =>
    simp only [cutFirst] at found
    split at found
    · obtain ⟨rfl, -⟩ := Prod.mk.inj (Option.some.inj found)
      rw [List.infix_nil]
      exact nonempty
    · rename_i apart
      obtain ⟨⟨inner, tail⟩, hit, shape⟩ := Option.map_eq_some_iff.mp found
      obtain ⟨rfl, rfl⟩ := Prod.mk.inj shape
      rw [List.infix_cons_iff, not_or]
      refine ⟨fun starts => ?_, ih hit⟩
      -- A pattern that starts in front of the cut would have been found there.
      obtain ⟨more, onward⟩ := starts.trans
        (List.prefix_append (head :: inner) (pattern ++ tail))
      have shape := eq_append_of_cutFirst hit
      rw [List.append_assoc] at shape
      rw [List.cons_append, ← shape] at onward
      rw [isPrefixOf?_eq_some_iff.mpr onward.symm] at apart
      cases apart

/-- The first occurrence of a pattern comes before any other, or is the same. -/
theorem prefix_of_cutFirst {pattern text before after earlier later : List α}
    (found : cutFirst pattern text = some (before, after))
    (occurs : text = earlier ++ pattern ++ later) : before <+: earlier := by
  induction text generalizing before earlier with
  | nil =>
    obtain ⟨-, rfl, -⟩ : pattern = [] ∧ [] = before ∧ [] = after := by
      simpa [cutFirst] using found
    exact List.nil_prefix
  | cons head rest ih =>
    simp only [cutFirst] at found
    split at found
    · obtain ⟨rfl, -⟩ := Prod.mk.inj (Option.some.inj found)
      exact List.nil_prefix
    · rename_i apart
      obtain ⟨⟨inner, tail⟩, hit, shape⟩ := Option.map_eq_some_iff.mp found
      obtain ⟨rfl, rfl⟩ := Prod.mk.inj shape
      cases earlier with
      | nil =>
        rw [List.nil_append] at occurs
        rw [isPrefixOf?_eq_some_iff.mpr occurs] at apart
        cases apart
      | cons first earlier =>
        obtain ⟨rfl, onward⟩ := List.cons.inj occurs
        exact List.cons_prefix_cons.mpr ⟨rfl, ih hit onward⟩

/-- A pattern whose first mark does not come again in it is found where it is put, unless it stood
further in front. -/
theorem cutFirst_append {first : α} {rest : List α} (once : first ∉ rest) {before : List α}
    (absent : ¬ (first :: rest) <:+: before) (after : List α) :
    cutFirst (first :: rest) (before ++ (first :: rest) ++ after) = some (before, after) := by
  induction before with
  | nil =>
    have starts : (first :: rest).isPrefixOf? (first :: rest ++ after) = some after :=
      isPrefixOf?_eq_some_iff.mpr rfl
    rw [List.nil_append, List.cons_append, cutFirst]
    rw [List.cons_append] at starts
    rw [starts]
  | cons head before ih =>
    have further : ¬ (first :: rest) <:+: before := fun inside =>
      absent (inside.trans (List.suffix_cons head before).isInfix)
    have apart :
        (first :: rest).isPrefixOf? (head :: (before ++ first :: rest ++ after)) = none := by
      rw [Option.eq_none_iff_forall_ne_some]
      intro tail found
      have shape := isPrefixOf?_eq_some_iff.mp found
      rw [List.append_assoc, ← List.cons_append] at shape
      rcases List.append_eq_append_iff.mp shape with ⟨more, pattern, onward⟩ | ⟨more, inside, -⟩
      · -- The pattern starts in front of where it is put and reaches into it.
        cases more with
        | nil =>
          rw [List.append_nil] at pattern
          exact absent (pattern ▸ List.infix_refl _)
        | cons mark more =>
          obtain ⟨-, restShape⟩ := List.cons.inj pattern
          obtain ⟨rfl, -⟩ := List.cons.inj onward
          rw [restShape] at once
          exact once (List.mem_append_right before List.mem_cons_self)
      · exact absent (inside ▸ (List.prefix_append _ more).isInfix)
    rw [List.cons_append, List.cons_append, cutFirst, apart, ih further]
    rfl

end Isolation.Text
