/-!
# Cutting texts

A text is cut at the first occurrence of a pattern or at the last occurrence of a separator. Both
cuts lose nothing but the pattern or the separator itself, and they fail only when it is absent.
-/

namespace Isolation.Text

variable {α : Type} [DecidableEq α]

/-- What precedes and what follows the last occurrence of `separator`. -/
def cutLast (separator : α) : List α → Option (List α × List α)
  | [] => none
  | head :: rest =>
    match cutLast separator rest with
    | some (before, after) => some (head :: before, after)
    | none => if head = separator then some ([], rest) else none

/-- What precedes and what follows the first occurrence of `pattern`. -/
def cutFirst (pattern : List α) : List α → Option (List α × List α)
  | [] => if pattern = [] then some ([], []) else none
  | head :: rest =>
    match pattern.isPrefixOf? (head :: rest) with
    | some after => some ([], after)
    | none => (cutFirst pattern rest).map fun (before, after) => (head :: before, after)

/-- The text without one leading `mark`, if it starts with one. -/
def dropOne (mark : α) : List α → List α
  | [] => []
  | head :: rest => if head = mark then rest else head :: rest

/-- A text is cut at a separator into what stands before and after it. -/
theorem eq_append_of_cutLast {separator : α} {text before after : List α}
    (found : cutLast separator text = some (before, after)) :
    text = before ++ separator :: after := by
  induction text generalizing before with
  | nil => simp [cutLast] at found
  | cons head rest ih =>
    simp only [cutLast] at found
    split at found
    · rename_i inner tail hit
      obtain ⟨rfl, rfl⟩ : head :: inner = before ∧ tail = after := by simpa using found
      simp [ih hit]
    · split at found
      · rename_i same
        obtain ⟨rfl, rfl⟩ : [] = before ∧ rest = after := by simpa using found
        simp [same]
      · simp at found

/-- A text is not cut if it has no separator. -/
theorem cutLast_eq_none_iff {separator : α} {text : List α} :
    cutLast separator text = none ↔ separator ∉ text := by
  induction text with
  | nil => simp [cutLast]
  | cons head rest ih =>
    simp only [cutLast, List.mem_cons, not_or]
    split
    · rename_i before after hit
      have absent : ¬ (separator ∉ rest) := by rw [← ih, hit]; simp
      simp [absent]
    · rename_i miss
      have absent := ih.mp miss
      split
      · rename_i same
        simp [same]
      · rename_i differs
        simp [absent, Ne.symm differs]

/-- What is left after a pattern is what stands after it in the text. -/
theorem isPrefixOf?_eq_some_iff {pattern text after : List α} :
    pattern.isPrefixOf? text = some after ↔ text = pattern ++ after := by
  induction pattern generalizing text with
  | nil =>
    change some text = some after ↔ text = after
    simp
  | cons first pattern ih =>
    cases text with
    | nil =>
      change none = some after ↔ [] = first :: pattern ++ after
      simp
    | cons head rest =>
      change (if first == head then pattern.isPrefixOf? rest else none) = some after ↔
        head :: rest = first :: pattern ++ after
      by_cases same : first = head
      · simp [same, ih]
      · simp [same, Ne.symm same]

/-- A text is cut at a pattern into what stands before and after it. -/
theorem eq_append_of_cutFirst {pattern text before after : List α}
    (found : cutFirst pattern text = some (before, after)) :
    text = before ++ pattern ++ after := by
  induction text generalizing before with
  | nil =>
    obtain ⟨rfl, rfl, rfl⟩ : pattern = [] ∧ [] = before ∧ [] = after := by
      simpa [cutFirst] using found
    rfl
  | cons head rest ih =>
    simp only [cutFirst] at found
    split at found
    · rename_i tail hit
      obtain ⟨rfl, rfl⟩ : [] = before ∧ tail = after := by simpa using found
      exact isPrefixOf?_eq_some_iff.mp hit
    · obtain ⟨⟨inner, tail⟩, hit, shape⟩ := Option.map_eq_some_iff.mp found
      obtain ⟨rfl, rfl⟩ : head :: inner = before ∧ tail = after := by simpa using shape
      simp [ih hit]

/-- A text is not cut if the pattern is nowhere in it. -/
theorem cutFirst_eq_none_iff {pattern text : List α} :
    cutFirst pattern text = none ↔ ¬ pattern <:+: text := by
  induction text with
  | nil => simp [cutFirst]
  | cons head rest ih =>
    simp only [cutFirst, List.infix_cons_iff, not_or]
    split
    · rename_i after hit
      have starts : pattern <+: head :: rest := ⟨after, (isPrefixOf?_eq_some_iff.mp hit).symm⟩
      simp [starts]
    · rename_i miss
      have apart : ¬ pattern <+: head :: rest := by
        rintro ⟨after, shape⟩
        simp [isPrefixOf?_eq_some_iff.mpr shape.symm] at miss
      simp [apart, ih]

end Isolation.Text
