/-!
# What attempts come to

An attempt that is made step by step comes to something only if each of its steps does
(`Isolation.exists_of_bind_eq_ok`, `Isolation.exists_of_foldlM_append_eq_ok`).
-/

namespace Isolation

variable {ε α β : Type}

/-- What two steps come to, if they come to something. -/
theorem exists_of_bind_eq_ok {first : Except ε α} {second : α → Except ε β} {result : β}
    (succeeds : (first >>= second) = .ok result) :
    ∃ value, first = .ok value ∧ second value = .ok result := by
  cases first with
  | error error => cases succeeds
  | ok value => exact ⟨value, rfl, succeeds⟩

/-- What steps along a list come to, if they come to something. -/
theorem exists_of_foldlM_append_eq_ok {step : β → α → Except ε β} {first second : List α}
    {start result : β} (succeeds : (first ++ second).foldlM step start = .ok result) :
    ∃ middle, first.foldlM step start = .ok middle ∧ second.foldlM step middle = .ok result := by
  rw [List.foldlM_append] at succeeds
  exact exists_of_bind_eq_ok succeeds

/-- What steps along a list come to, if they come to something, with the last step set apart. -/
theorem exists_of_foldlM_concat_eq_ok {step : β → α → Except ε β} {first : List α} {last : α}
    {start result : β} (succeeds : (first ++ [last]).foldlM step start = .ok result) :
    ∃ middle, first.foldlM step start = .ok middle ∧ step middle last = .ok result := by
  obtain ⟨middle, before, final⟩ := exists_of_foldlM_append_eq_ok succeeds
  rw [List.foldlM_cons] at final
  exact ⟨middle, before, (bind_pure _).symm.trans final⟩

/-- What an attempt comes to whose result is changed, if it comes to something. -/
theorem exists_of_map_eq_ok {attempt : Except ε α} {change : α → β} {result : β}
    (succeeds : attempt.map change = .ok result) :
    ∃ value, attempt = .ok value ∧ change value = result := by
  cases attempt with
  | error error => cases succeeds
  | ok value => exact ⟨value, rfl, Except.ok.inj succeeds⟩

/-- A change of the error does not change what an attempt comes to. -/
theorem eq_ok_of_mapError {δ : Type} {attempt : Except ε α} {change : ε → δ} {value : α}
    (mapped : attempt.mapError change = .ok value) : attempt = .ok value := by
  cases attempt with
  | error error => cases mapped
  | ok other =>
    obtain rfl := Except.ok.inj mapped
    rfl

/-- What an attempt that does not fail comes to. -/
theorem eq_ok_of_isSome {attempt : Except ε α} (succeeds : attempt.toOption.isSome = true)
    (other : α) : attempt = .ok (attempt.toOption.getD other) := by
  cases attempt with
  | error error => cases succeeds
  | ok value => rfl

end Isolation
