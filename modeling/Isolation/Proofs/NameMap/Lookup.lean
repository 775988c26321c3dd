import Isolation.NameMap
import Mathlib.Data.List.Basic

/-!
# Looking up names

A name is bound to what stands beside it among the bindings (`Isolation.NameMap.find?_eq_some_iff`).
A name that is bound is found, and no other name changes (`Isolation.NameMap.find?_insert`). A map
that was made from a list has the last binding of each name (`Isolation.NameMap.find?_ofList`).
-/

namespace Isolation.NameMap

variable {β : Type}

/-- A binding in front answers for its own name. -/
theorem lookup_cons (name : String) (value : β) (entries : List (String × β)) (other : String) :
    ((name, value) :: entries).lookup other =
      if other = name then some value else entries.lookup other := by
  by_cases same : other = name
  · rw [if_pos same, same, List.lookup_cons_self]
  · have apart : (other == name) = false := beq_eq_false_iff_ne.mpr same
    rw [if_neg same, List.lookup_cons, apart]

private theorem lookup_bind (name : String) (value : β) (entries : List (String × β))
    (other : String) :
    (bind name value entries).lookup other =
      if other = name then some value else entries.lookup other := by
  induction entries with
  | nil => exact lookup_cons name value [] other
  | cons head rest ih =>
    obtain ⟨first, kept⟩ := head
    unfold bind
    by_cases below : name < first
    · rw [if_pos below, lookup_cons]
    · rw [if_neg below]
      by_cases same : name = first
      · subst same
        rw [if_pos rfl, lookup_cons, lookup_cons]
        by_cases here : other = name
        · rw [if_pos here, if_pos here]
        · rw [if_neg here, if_neg here, if_neg here]
      · rw [if_neg same, lookup_cons, lookup_cons, ih]
        by_cases here : other = first
        · have apart : other ≠ name := fun named => same (named.symm.trans here)
          rw [if_pos here, if_neg apart, if_pos here]
        · rw [if_neg here, if_neg here]

/-- A name that is bound is found, and no other name changes. -/
theorem find?_insert (map : NameMap β) (name : String) (value : β) (other : String) :
    (map.insert name value).find? other = if other = name then some value else map.find? other :=
  lookup_bind name value map.entries other

private theorem find?_foldl_insert (bindings : List (String × β)) (map : NameMap β)
    (name : String) :
    (bindings.foldl (fun map binding => map.insert binding.1 binding.2) map).find? name =
      (bindings.reverse.lookup name).or (map.find? name) := by
  induction bindings generalizing map with
  | nil => rfl
  | cons binding rest ih =>
    obtain ⟨first, value⟩ := binding
    rw [List.foldl_cons, ih, find?_insert, List.reverse_cons, List.lookup_append, Option.or_assoc,
      lookup_cons]
    by_cases here : name = first
    · rw [if_pos here, if_pos here, Option.some_or]
    · rw [if_neg here, if_neg here]
      rfl

/-- The last binding of a name counts. -/
theorem find?_ofList (bindings : List (String × β)) (name : String) :
    (ofList bindings).find? name = bindings.reverse.lookup name :=
  (find?_foldl_insert bindings empty name).trans (Option.or_none ..)

/-- A name is bound to what stands beside it among the bindings. -/
theorem find?_eq_some_iff {map : NameMap β} {name : String} {value : β} :
    map.find? name = some value ↔ (name, value) ∈ map.entries := by
  obtain ⟨entries, increasing⟩ := map
  induction entries with
  | nil => exact iff_of_false (fun found => nomatch found) List.not_mem_nil
  | cons head rest ih =>
    obtain ⟨first, kept⟩ := head
    obtain ⟨above, sorted⟩ := List.pairwise_cons.mp increasing
    change ((first, kept) :: rest).lookup name = some value ↔ _
    rw [lookup_cons, List.mem_cons, Prod.mk.injEq]
    by_cases here : name = first
    · have later : (name, value) ∉ rest := fun member =>
        String.lt_irrefl first (here ▸ above _ member)
      rw [if_pos here, Option.some.injEq, or_iff_left later, and_iff_right here, eq_comm]
    · rw [if_neg here, or_iff_right fun same => here same.1]
      exact ih sorted

private theorem bind_of_forall_lt {name : String} {entries : List (String × β)}
    (above : ∀ entry ∈ entries, entry.1 < name) (value : β) :
    bind name value entries = entries ++ [(name, value)] := by
  induction entries with
  | nil => rfl
  | cons head rest ih =>
    obtain ⟨first, kept⟩ := head
    have larger : first < name := above _ List.mem_cons_self
    have apart : name ≠ first := fun same => String.lt_irrefl _ (same ▸ larger)
    rw [bind, if_neg (String.lt_asymm larger), if_neg apart,
      ih fun entry member => above entry (List.mem_cons_of_mem _ member)]
    rfl

/-- Bindings given in increasing order, above those of a map, come after them. -/
theorem entries_foldl_insert {bindings : List (String × β)} {map : NameMap β}
    (sorted : Increasing (map.entries ++ bindings)) :
    (bindings.foldl (fun map binding => map.insert binding.1 binding.2) map).entries =
      map.entries ++ bindings := by
  induction bindings generalizing map with
  | nil => exact (List.append_nil _).symm
  | cons binding rest ih =>
    have above : ∀ entry ∈ map.entries, entry.1 < binding.1 := fun entry member =>
      (List.pairwise_append.mp sorted).2.2 entry member binding List.mem_cons_self
    have added : (map.insert binding.1 binding.2).entries = map.entries ++ [binding] :=
      bind_of_forall_lt above binding.2
    rw [List.append_cons, ← added] at sorted
    rw [List.foldl_cons, ih sorted, added, ← List.append_cons]

/-- A map is the map of its own bindings. -/
theorem ofList_entries (map : NameMap β) : ofList map.entries = map := by
  have same : (ofList map.entries).entries = map.entries :=
    @entries_foldl_insert β map.entries empty map.increasing
  cases map
  cases made : ofList _
  rw [made] at same
  cases same
  rfl

end Isolation.NameMap
