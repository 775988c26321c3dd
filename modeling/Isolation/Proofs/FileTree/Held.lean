import Isolation.Proofs.FileTree.Write

/-!
# Files held open

A file that is held open can be read whatever is removed (`Isolation.FileTree.contentOf_erase`), and
once it was removed nothing that is written changes it, for a new file at its place is another file
(`Isolation.FileTree.contentOf_write_erase`).
-/

namespace Isolation.FileTree

/-- Whether a file was opened when no more files had been removed from its place than by now. -/
def Hold.Taken (file : Hold) (tree : FileTree) : Prop :=
  file.earlier ≤ (tree.removedFrom file.location).length

variable {tree : FileTree} {location place : Location} {content : Bytes} {file : Hold}

/-- A file that has just been opened has the content that stands there. -/
theorem contentOf_hold (stands : tree.node? location = some (.file content)) :
    tree.contentOf (tree.hold location) = some content := by
  have kept : (tree.removedFrom location)[(tree.removedFrom location).length]? = none :=
    List.getElem?_eq_none (Nat.le_refl _)
  simp only [contentOf, hold, kept, stands]

/-- A file that was removed has the content that it had. -/
theorem contentOf_of_removed (gone : (tree.removedFrom file.location)[file.earlier]? = some content) :
    tree.contentOf file = some content := by
  unfold contentOf
  rw [gone]

/-- A file that is held open and has not been removed since stands where it was opened. -/
theorem contentOf_eq_some_iff (present : (tree.removedFrom file.location)[file.earlier]? = none) :
    tree.contentOf file = some content ↔ tree.node? file.location = some (.file content) := by
  unfold contentOf
  rw [present]
  cases tree.node? file.location with
  | none => exact ⟨nofun, nofun⟩
  | some node =>
    cases node with
    | directory => exact ⟨nofun, nofun⟩
    | file other => simp

private theorem kept_of_absent {nodes : List (Location × Node)} (absent : place ∉ nodes.map (·.1))
    (content : Bytes) (member : (place, .file content) ∈ nodes) :
    location.isPrefixOf place = false :=
  absurd (List.mem_map.mpr ⟨_, member, rfl⟩) absent

private theorem filter_removals {nodes : List (Location × Node)}
    (kept : ∀ content, (place, .file content) ∈ nodes → location.isPrefixOf place = false) :
    (nodes.filterMap (removal? location)).filter (·.1 = place) = [] := by
  refine List.filter_eq_nil_iff.mpr fun removed member => ?_
  obtain ⟨⟨there, node⟩, inside, removal⟩ := List.mem_filterMap.mp member
  cases node with
  | directory => cases removal
  | file content =>
    rw [removal?] at removal
    split at removal
    · rename_i above
      obtain rfl := Option.some.inj removal
      rw [decide_eq_true_eq]
      rintro rfl
      exact Bool.false_ne_true ((kept content inside).symm.trans above)
    · cases removal

/-- What has been removed from a place stays in the list when more is removed. -/
theorem exists_removedFrom_erase (tree : FileTree) (location place : Location) :
    ∃ more, (tree.erase location).removedFrom place = tree.removedFrom place ++ more := by
  unfold removedFrom
  rw [erase, List.filter_append, List.map_append]
  exact ⟨_, rfl⟩

/-- A file is removed with everything above it. -/
theorem removedFrom_erase_of_isPrefixOf (stands : tree.node? place = some (.file content))
    (above : location.isPrefixOf place = true) :
    (tree.erase location).removedFrom place = tree.removedFrom place ++ [content] := by
  have below : place ≠ [] := by
    rintro rfl
    cases stands
  obtain ⟨before, after, shape⟩ := List.append_of_mem ((node?_eq_some_iff below).mp stands)
  have distinct := tree.distinct
  rw [shape, List.map_append, List.map_cons] at distinct
  obtain ⟨-, unique, apart⟩ := List.nodup_append.mp distinct
  have earlier : place ∉ before.map (·.1) :=
    fun member => apart place member place List.mem_cons_self rfl
  have later : place ∉ after.map (·.1) := (List.nodup_cons.mp unique).1
  have removal : removal? location (place, .file content) = some (place, content) := if_pos above
  unfold removedFrom
  rw [erase, List.filter_append, List.map_append, shape, List.filterMap_append,
    List.filter_append, filter_removals (kept_of_absent earlier), List.nil_append,
    List.filterMap_cons_some removal, List.filter_cons, filter_removals (kept_of_absent later)]
  simp only [decide_true, if_true, List.map_cons, List.map_nil]

/-- Nothing is removed from a place that is not under what is removed. -/
theorem removedFrom_erase_of_aside (tree : FileTree) (aside : location.isPrefixOf place = false) :
    (tree.erase location).removedFrom place = tree.removedFrom place := by
  unfold removedFrom
  rw [erase, List.filter_append, filter_removals fun _ _ => aside, List.append_nil]

/-- What does not stand under a location that is removed is left. -/
theorem node?_erase {node : Node} (stands : tree.node? place = some node)
    (aside : location.isPrefixOf place = false) : (tree.erase location).node? place = some node := by
  by_cases atRoot : place = []
  · rw [atRoot] at stands ⊢
    exact stands
  · rw [node?_eq_some_iff atRoot] at stands ⊢
    exact List.mem_filter.mpr ⟨stands, by rw [aside]; rfl⟩

/-- A file that is held open and removed is among the files that have been removed, with the
content that it had. -/
theorem getElem?_removedFrom_erase (taken : file.Taken tree)
    (held : tree.contentOf file = some content)
    (above : location.isPrefixOf file.location = true) :
    ((tree.erase location).removedFrom file.location)[file.earlier]? = some content := by
  cases gone : (tree.removedFrom file.location)[file.earlier]? with
  | some old =>
    obtain rfl := Option.some.inj ((contentOf_of_removed gone).symm.trans held)
    obtain ⟨more, longer⟩ := exists_removedFrom_erase tree location file.location
    rw [longer, List.getElem?_append_left (List.getElem?_eq_some_iff.mp gone).1]
    exact gone
  | none =>
    have first : file.earlier = (tree.removedFrom file.location).length :=
      Nat.le_antisymm taken (List.getElem?_eq_none_iff.mp gone)
    rw [removedFrom_erase_of_isPrefixOf ((contentOf_eq_some_iff gone).mp held) above, first]
    exact List.getElem?_concat_length

/-- A file that is held open can be read whatever is removed. -/
theorem contentOf_erase (taken : file.Taken tree) (held : tree.contentOf file = some content)
    (location : Location) : (tree.erase location).contentOf file = some content := by
  cases above : location.isPrefixOf file.location with
  | true => exact contentOf_of_removed (getElem?_removedFrom_erase taken held above)
  | false =>
    have same := removedFrom_erase_of_aside tree above
    cases gone : (tree.removedFrom file.location)[file.earlier]? with
    | some old =>
      obtain rfl := Option.some.inj ((contentOf_of_removed gone).symm.trans held)
      exact contentOf_of_removed (same ▸ gone)
    | none =>
      exact (contentOf_eq_some_iff (same ▸ gone)).mpr
        (node?_erase ((contentOf_eq_some_iff gone).mp held) above)

/-- Nothing is removed by writing. -/
theorem removed_write {path : Path} {written : Bytes} {after : FileTree}
    (writes : tree.write path written = .ok after) : after.removed = tree.removed := by
  obtain ⟨parent, name, -, ⟨old, -, rfl⟩ | inserted⟩ := exists_of_write_eq_ok writes
  · rfl
  · exact (insert_eq_ok inserted).2.2.2

/-- **A file that is held open outlasts its place**: it can be read after it was removed, and what
is written from then on, to a new file at its place too, does not change it. -/
theorem contentOf_write_erase (taken : file.Taken tree)
    (held : tree.contentOf file = some content)
    (above : location.isPrefixOf file.location = true) {path : Path} {written : Bytes}
    {after : FileTree} (writes : (tree.erase location).write path written = .ok after) :
    after.contentOf file = some content := by
  refine contentOf_of_removed ?_
  rw [removedFrom, removed_write writes]
  exact getElem?_removedFrom_erase taken held above

end Isolation.FileTree
