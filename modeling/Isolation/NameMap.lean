/-!
# Finite maps and sets of names

Bindings stand in strictly increasing order of their names, so a map has one form: maps with the
same bindings are equal, whatever the order in which they were given.
-/

namespace Isolation

namespace NameMap

variable {β : Type}

/-- Binds `name` in an increasing list, replacing an earlier binding of the same name. -/
def bind (name : String) (value : β) : List (String × β) → List (String × β)
  | [] => [(name, value)]
  | (other, kept) :: rest =>
    if name < other then (name, value) :: (other, kept) :: rest
    else if name = other then (name, value) :: rest
    else (other, kept) :: bind name value rest

/-- Names stand in strictly increasing order. -/
def Increasing (entries : List (String × β)) : Prop :=
  entries.Pairwise fun left right => left.1 < right.1

private theorem mem_bind {name : String} {value : β} {entry : String × β}
    {entries : List (String × β)} (member : entry ∈ bind name value entries) :
    entry = (name, value) ∨ entry ∈ entries := by
  induction entries with
  | nil => simpa [bind] using member
  | cons head rest ih =>
    obtain ⟨other, kept⟩ := head
    simp only [bind] at member
    split at member
    · simpa using member
    · split at member
      · rcases List.mem_cons.mp member with here | there
        · exact .inl here
        · exact .inr (List.mem_cons_of_mem _ there)
      · rcases List.mem_cons.mp member with here | there
        · exact .inr (here ▸ List.mem_cons_self)
        · exact (ih there).imp id (List.mem_cons_of_mem _)

private theorem Increasing.bind {name : String} {value : β} {entries : List (String × β)}
    (sorted : Increasing entries) : Increasing (bind name value entries) := by
  induction entries with
  | nil => simp [NameMap.bind, Increasing]
  | cons head rest ih =>
    obtain ⟨other, kept⟩ := head
    have ⟨first, tail⟩ := List.pairwise_cons.mp sorted
    simp only [NameMap.bind]
    split
    · rename_i below
      refine List.pairwise_cons.mpr ⟨fun entry member => ?_, sorted⟩
      rcases List.mem_cons.mp member with rfl | there
      · exact below
      · exact String.lt_trans below (first entry there)
    · split
      · rename_i same
        exact List.pairwise_cons.mpr ⟨fun entry member => same ▸ first entry member, tail⟩
      · rename_i notBelow differs
        refine List.pairwise_cons.mpr ⟨fun entry member => ?_, ih tail⟩
        rcases mem_bind member with rfl | there
        · exact Std.lt_of_le_of_ne (Std.not_lt.mp notBelow) (Ne.symm differs)
        · exact first entry there

end NameMap

/-- A finite map from names, with its bindings in increasing order. -/
structure NameMap (β : Type) where
  entries : List (String × β)
  increasing : NameMap.Increasing entries

namespace NameMap

variable {β : Type}

instance [DecidableEq β] : DecidableEq (NameMap β) := fun left right =>
  decidable_of_iff (left.entries = right.entries) (by cases left; cases right; simp)

/-- The map without bindings. -/
def empty : NameMap β := ⟨[], .nil⟩

instance : Inhabited (NameMap β) := ⟨empty⟩

/-- Binds `name`, replacing an earlier binding. -/
def insert (map : NameMap β) (name : String) (value : β) : NameMap β :=
  ⟨bind name value map.entries, map.increasing.bind⟩

/-- The map of a list of bindings; of two bindings of one name the later counts. -/
def ofList (bindings : List (String × β)) : NameMap β :=
  bindings.foldl (fun map (name, value) => map.insert name value) empty

/-- What `name` is bound to. -/
def find? (map : NameMap β) (name : String) : Option β :=
  map.entries.lookup name

end NameMap

/-- A finite set of names, listed in increasing order. -/
structure NameSet where
  names : List String
  increasing : names.Pairwise (· < ·)

namespace NameSet

/-- Adds a name to an increasing list that may hold it already. -/
def add (name : String) : List String → List String
  | [] => [name]
  | other :: rest =>
    if name < other then name :: other :: rest
    else if name = other then other :: rest
    else other :: add name rest

private theorem mem_add {name other : String} {names : List String} :
    other ∈ add name names ↔ other = name ∨ other ∈ names := by
  induction names with
  | nil => simp [add]
  | cons head rest ih =>
    simp only [add]
    split
    · simp
    · split
      · rename_i same
        subst same
        simp
      · simp [ih, or_left_comm]

private theorem pairwise_add {name : String} {names : List String}
    (sorted : names.Pairwise (· < ·)) : (add name names).Pairwise (· < ·) := by
  induction names with
  | nil => simp [add]
  | cons head rest ih =>
    have ⟨first, tail⟩ := List.pairwise_cons.mp sorted
    simp only [add]
    split
    · rename_i below
      refine List.pairwise_cons.mpr ⟨fun other member => ?_, sorted⟩
      rcases List.mem_cons.mp member with rfl | there
      · exact below
      · exact String.lt_trans below (first other there)
    · split
      · exact sorted
      · rename_i notBelow differs
        refine List.pairwise_cons.mpr ⟨fun other member => ?_, ih tail⟩
        rcases mem_add.mp member with rfl | there
        · exact Std.lt_of_le_of_ne (Std.not_lt.mp notBelow) (Ne.symm differs)
        · exact first other there

instance : DecidableEq NameSet := fun left right =>
  decidable_of_iff (left.names = right.names) (by cases left; cases right; simp)

/-- The set without names. -/
def empty : NameSet := ⟨[], .nil⟩

instance : Inhabited NameSet := ⟨empty⟩

/-- The set with one more name. -/
def insert (set : NameSet) (name : String) : NameSet :=
  ⟨add name set.names, pairwise_add set.increasing⟩

/-- The set of the names in a list. -/
def ofList (names : List String) : NameSet :=
  names.foldl insert empty

instance : Membership String NameSet := ⟨fun set name => name ∈ set.names⟩

instance (set : NameSet) (name : String) : Decidable (name ∈ set) :=
  inferInstanceAs (Decidable (name ∈ set.names))

/-- Whether a name belongs to the set. -/
def contains (set : NameSet) (name : String) : Bool :=
  decide (name ∈ set)

private theorem mem_insert {set : NameSet} {name other : String} :
    other ∈ set.insert name ↔ other = name ∨ other ∈ set :=
  mem_add

/-- A set made from a list has the names of the list. -/
theorem mem_ofList {names : List String} {name : String} :
    name ∈ ofList names ↔ name ∈ names := by
  suffices general : ∀ set : NameSet, name ∈ names.foldl insert set ↔ name ∈ names ∨ name ∈ set by
    have absent : name ∉ empty := List.not_mem_nil
    exact (general empty).trans (or_iff_left absent)
  induction names with
  | nil => simp
  | cons head rest ih =>
    intro set
    simp only [List.foldl_cons, ih, mem_insert, List.mem_cons]
    grind

end NameSet

end Isolation
