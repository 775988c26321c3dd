import Isolation.Proofs.NameMap.Lookup
import Isolation.Proofs.Text.Separated
import Isolation.SearchRules

/-!
# The nearest package decides

Search rules are scanned for the longest package that covers a class. The same order is found on a
walk up from the package of the class, which cuts the text at its last dot until it comes to a
package with an order (`Isolation.SearchRules.nearest_package_decides`): both come to a binding that
covers the package and is no shorter than any other that does, and there is only one.
-/

namespace Isolation.SearchRules

open Text

/-- The order of the first package that has one, on the way up from a package. -/
def nearest? (rules : SearchRules) (package : List Char) : Option SearchOrder :=
  match rules.packages.find? (.ofList package) with
  | some order => some order
  | none =>
    match _cut : cutLast '.' package with
    | some (above, _) => rules.nearest? above
    | none => none
termination_by package.length
decreasing_by
  rw [eq_append_of_cutLast _cut, List.length_append]
  exact Nat.lt_add_of_pos_right (Nat.succ_pos _)

/-- The order for a class when the bindings are scanned as they are listed. -/
def orderFrom (rules : SearchRules) (scanned : List (String × SearchOrder)) (className : String) :
    SearchOrder :=
  let package := ClassName.packageChars className.toList
  let covering := scanned.filter fun (ancestor, _) => covers ancestor.toList package
  ((covering.foldl preferLonger none).map (·.2)).getD rules.standard

variable {ancestor package above after : List Char}

/-- A package covers itself, and what goes on with a dot after it. -/
theorem covers_iff : covers ancestor package = true ↔
    ancestor = package ∨ ancestor ++ ['.'] <+: package := by
  unfold covers
  split
  · rename_i whole
    have same := isPrefixOf?_eq_some_iff.mp whole
    rw [List.append_nil] at same
    exact iff_of_true rfl (.inl same.symm)
  · rename_i next rest starts
    have shape := isPrefixOf?_eq_some_iff.mp starts
    have differs : ancestor ≠ package := by
      rintro rfl
      exact List.cons_ne_nil next rest (List.self_eq_append_right.mp shape)
    rw [or_iff_right differs, beq_iff_eq, shape, List.prefix_append_right_inj]
    simp [eq_comm]
  · rename_i apart
    have noPrefix : ¬ ancestor <+: package := by
      rintro ⟨rest, shape⟩
      rw [isPrefixOf?_eq_some_iff.mpr shape.symm] at apart
      cases apart
    refine iff_of_false Bool.false_ne_true ?_
    rintro (rfl | starts)
    · exact noPrefix (List.prefix_refl ancestor)
    · exact noPrefix ((List.prefix_append ancestor ['.']).trans starts)

private theorem covers_self (package : List Char) : covers package package = true :=
  covers_iff.mpr (.inl rfl)

private theorem isPrefix_of_covers (covered : covers ancestor package = true) :
    ancestor <+: package := by
  rcases covers_iff.mp covered with rfl | starts
  · exact List.prefix_refl ancestor
  · exact (List.prefix_append ancestor ['.']).trans starts

/-- What covers a package without being it covers the package above it, and the other way round. -/
theorem covers_above_iff (cut : cutLast '.' package = some (above, after)) :
    covers ancestor above = true ↔ covers ancestor package = true ∧ ancestor ≠ package := by
  have shape := eq_append_of_cutLast cut
  have dotless := notMem_of_cutLast cut
  constructor
  · intro covered
    have starts := isPrefix_of_covers covered
    refine ⟨covers_iff.mpr (.inr ?_), ?_⟩
    · rcases covers_iff.mp covered with rfl | inside
      · exact ⟨after, by rw [shape, List.append_assoc, List.singleton_append]⟩
      · exact inside.trans (shape ▸ List.prefix_append above _)
    · rintro rfl
      have short := starts.length_le
      rw [shape, List.length_append, List.length_cons] at short
      omega
  · rintro ⟨covered, differs⟩
    obtain ⟨rest, same⟩ := (covers_iff.mp covered).resolve_left differs
    rw [shape, List.append_assoc, List.singleton_append] at same
    -- The dot after the ancestor is the last one, or stands before it.
    rcases List.append_eq_append_iff.mp same with
      ⟨more, longer, onward⟩ | ⟨more, longer, onward⟩
    · cases more with
      | nil => exact covers_iff.mpr (.inl (by rw [longer, List.append_nil]))
      | cons mark more =>
        obtain ⟨rfl, -⟩ := List.cons.inj onward
        exact covers_iff.mpr (.inr ⟨more, by rw [longer, List.append_assoc]; rfl⟩)
    · cases more with
      | nil => exact covers_iff.mpr (.inl (by rw [longer, List.append_nil]))
      | cons mark more =>
        obtain ⟨-, inside⟩ := List.cons.inj onward
        exact absurd (inside ▸ List.mem_append_right more List.mem_cons_self) dotless

/-- Without a dot, a package is covered by itself alone. -/
theorem eq_of_covers (uncut : cutLast '.' package = none)
    (covered : covers ancestor package = true) : ancestor = package := by
  refine (covers_iff.mp covered).resolve_right fun starts => ?_
  refine cutLast_eq_none_iff.mp uncut (starts.subset ?_)
  exact List.mem_append_right ancestor (List.mem_singleton_self '.')

private theorem exists_eq_append {first second : String} (starts : first.toList <+: second.toList) :
    ∃ rest, second = first ++ rest := by
  obtain ⟨rest, shape⟩ := starts
  refine ⟨.ofList rest, String.toList_inj.mp ?_⟩
  rw [← shape, String.toList_append, String.toList_ofList]

private theorem utf8ByteSize_le_of_isPrefix {first second : String}
    (starts : first.toList <+: second.toList) : first.utf8ByteSize ≤ second.utf8ByteSize := by
  obtain ⟨rest, rfl⟩ := exists_eq_append starts
  rw [String.utf8ByteSize_append]
  exact Nat.le_add_right _ _

/-- Of texts that start one text, those with as many bytes are the same. -/
theorem eq_of_utf8ByteSize_eq {first second : String} (starts : first.toList <+: package)
    (startsToo : second.toList <+: package) (same : first.utf8ByteSize = second.utf8ByteSize) :
    first = second := by
  have equal : ∀ {short long : String}, short.toList <+: long.toList →
      short.utf8ByteSize = long.utf8ByteSize → short = long := by
    intro short long starts same
    obtain ⟨rest, rfl⟩ := exists_eq_append starts
    rw [String.utf8ByteSize_append, Nat.left_eq_add, String.utf8ByteSize_eq_zero_iff] at same
    rw [same, String.append_empty]
  rcases List.prefix_or_prefix_of_prefix starts startsToo with below | above
  · exact equal below same
  · exact (equal above same.symm).symm

/-- Whether a binding covers a package, and no other that does is longer. -/
structure Decides (bindings : List (String × SearchOrder)) (package : List Char)
    (binding : String × SearchOrder) : Prop where
  bound : binding ∈ bindings
  covering : covers binding.1.toList package = true
  longest : ∀ other ∈ bindings, covers other.1.toList package = true →
    other.1.utf8ByteSize ≤ binding.1.utf8ByteSize

/-- It does not matter how bindings are listed. -/
theorem Decides.of_perm {bindings scanned : List (String × SearchOrder)}
    {binding : String × SearchOrder} (decides : Decides scanned package binding)
    (same : scanned.Perm bindings) : Decides bindings package binding where
  bound := same.mem_iff.mp decides.bound
  covering := decides.covering
  longest other member := decides.longest other (same.mem_iff.mpr member)

/-- Where names are bound once, one order at most is decided on. -/
theorem Decides.order_eq {map : NameMap SearchOrder} {first second : String × SearchOrder}
    (decides : Decides map.entries package first)
    (decidesToo : Decides map.entries package second) : first.2 = second.2 := by
  have names : first.1 = second.1 := by
    apply eq_of_utf8ByteSize_eq (isPrefix_of_covers decides.covering)
      (isPrefix_of_covers decidesToo.covering)
    exact Nat.le_antisymm (decidesToo.longest first decides.bound decides.covering)
      (decides.longest second decidesToo.bound decidesToo.covering)
  have found := NameMap.find?_eq_some_iff.mpr decides.bound
  have foundToo := NameMap.find?_eq_some_iff.mpr decidesToo.bound
  rw [names, foundToo] at found
  exact (Option.some.inj found).symm

section Walk

variable {rules : SearchRules}

private theorem nearest?_of_bound {order : SearchOrder}
    (bound : rules.packages.find? (.ofList package) = some order) :
    rules.nearest? package = some order := by
  rw [nearest?, bound]

private theorem nearest?_of_cut (unbound : rules.packages.find? (.ofList package) = none)
    (cut : cutLast '.' package = some (above, after)) :
    rules.nearest? package = rules.nearest? above := by
  rw [nearest?, unbound]
  dsimp only
  split
  · rename_i other rest found
    obtain ⟨rfl, -⟩ := Prod.mk.inj (Option.some.inj (cut.symm.trans found))
    rfl
  · rename_i uncut
    cases cut.symm.trans uncut

private theorem nearest?_of_uncut (unbound : rules.packages.find? (.ofList package) = none)
    (uncut : cutLast '.' package = none) : rules.nearest? package = none := by
  rw [nearest?, unbound]
  dsimp only
  split
  · rename_i other rest found
    cases found.symm.trans uncut
  · rfl

/-- A binding of another package that covers this one is not its own. -/
theorem ne_of_unbound (unbound : rules.packages.find? (.ofList package) = none)
    {binding : String × SearchOrder} (member : binding ∈ rules.packages.entries) :
    binding.1.toList ≠ package := by
  rintro rfl
  rw [String.ofList_toList, NameMap.find?_eq_some_iff.mpr member] at unbound
  cases unbound

/-- **The walk up ends at the binding that decides**, if any binding covers the package. -/
theorem nearest?_eq (rules : SearchRules) (package : List Char) :
    (∃ binding, Decides rules.packages.entries package binding ∧
        rules.nearest? package = some binding.2) ∨
      (∀ binding ∈ rules.packages.entries, covers binding.1.toList package = false) ∧
        rules.nearest? package = none := by
  induction package using nearest?.induct rules with
  | case1 package order bound =>
    refine .inl ⟨(.ofList package, order), ⟨NameMap.find?_eq_some_iff.mp bound, ?_, ?_⟩,
      nearest?_of_bound bound⟩
    · rw [String.toList_ofList]
      exact covers_self package
    · intro other member covered
      apply utf8ByteSize_le_of_isPrefix
      rw [String.toList_ofList]
      exact isPrefix_of_covers covered
  | case2 package unbound above after cut ih =>
    rw [nearest?_of_cut unbound cut]
    have covers_iff_above : ∀ binding ∈ rules.packages.entries,
        (covers binding.1.toList above = true ↔ covers binding.1.toList package = true) :=
      fun binding member => (covers_above_iff cut).trans
        (and_iff_left (ne_of_unbound unbound member))
    refine ih.imp ?_ ?_
    · rintro ⟨binding, ⟨bound, covering, longest⟩, found⟩
      refine ⟨binding, ⟨bound, (covers_iff_above binding bound).mp covering, ?_⟩, found⟩
      intro other member covered
      exact longest other member ((covers_iff_above other member).mpr covered)
    · rintro ⟨none, missed⟩
      refine ⟨fun binding member => Bool.eq_false_iff.mpr fun covered => ?_, missed⟩
      exact Bool.eq_false_iff.mp (none binding member)
        ((covers_iff_above binding member).mpr covered)
  | case3 package unbound uncut =>
    refine .inr ⟨fun binding member => Bool.eq_false_iff.mpr fun covered => ?_,
      nearest?_of_uncut unbound uncut⟩
    exact ne_of_unbound unbound member (eq_of_covers uncut covered)

end Walk

section Scan

/-- What is kept of two bindings is one of them, and no shorter than either. -/
theorem preferLonger_some (best found : String × SearchOrder) :
    ∃ kept, preferLonger (some best) found = some kept ∧ (kept = best ∨ kept = found) ∧
      best.1.utf8ByteSize ≤ kept.1.utf8ByteSize ∧ found.1.utf8ByteSize ≤ kept.1.utf8ByteSize := by
  by_cases shorter : found.1.utf8ByteSize ≤ best.1.utf8ByteSize
  · exact ⟨best, if_pos shorter, .inl rfl, Nat.le_refl _, shorter⟩
  · exact ⟨found, if_neg shorter, .inr rfl, Nat.le_of_not_le shorter, Nat.le_refl _⟩

/-- A scan keeps a binding that it has seen, no shorter than any other. -/
theorem foldl_preferLonger (best : String × SearchOrder)
    (bindings : List (String × SearchOrder)) :
    ∃ kept ∈ best :: bindings, bindings.foldl preferLonger (some best) = some kept ∧
      ∀ other ∈ best :: bindings, other.1.utf8ByteSize ≤ kept.1.utf8ByteSize := by
  induction bindings generalizing best with
  | nil =>
    refine ⟨best, List.mem_cons_self, rfl, fun other member => ?_⟩
    exact List.mem_singleton.mp member ▸ Nat.le_refl _
  | cons found bindings ih =>
    obtain ⟨next, step, among, bestLe, foundLe⟩ := preferLonger_some best found
    obtain ⟨kept, member, scanned, longest⟩ := ih next
    have nextLe := longest next List.mem_cons_self
    refine ⟨kept, ?_, by rw [List.foldl_cons, step, scanned], fun other inside => ?_⟩
    · rcases List.mem_cons.mp member with rfl | later
      · rcases among with rfl | rfl
        · exact List.mem_cons_self
        · exact List.mem_cons_of_mem best List.mem_cons_self
      · exact List.mem_cons_of_mem best (List.mem_cons_of_mem found later)
    · rcases List.mem_cons.mp inside with rfl | rest
      · exact Nat.le_trans bestLe nextLe
      · rcases List.mem_cons.mp rest with rfl | later
        · exact Nat.le_trans foundLe nextLe
        · exact longest other (List.mem_cons_of_mem next later)

/-- **A scan ends at the binding that decides**, if any binding covers the package. -/
theorem orderFrom_eq (rules : SearchRules) (scanned : List (String × SearchOrder))
    (className : String) :
    (∃ binding, Decides scanned (ClassName.packageChars className.toList) binding ∧
        rules.orderFrom scanned className = binding.2) ∨
      (∀ binding ∈ scanned,
          covers binding.1.toList (ClassName.packageChars className.toList) = false) ∧
        rules.orderFrom scanned className = rules.standard := by
  unfold orderFrom
  generalize ClassName.packageChars className.toList = package
  cases covering : scanned.filter fun binding => covers binding.1.toList package with
  | nil =>
    refine .inr ⟨fun binding member => Bool.eq_false_iff.mpr ?_, ?_⟩
    · exact List.filter_eq_nil_iff.mp covering binding member
    · simp only [covering]
      rfl
  | cons first rest =>
    obtain ⟨kept, member, folded, longest⟩ := foldl_preferLonger first rest
    rw [← covering] at member longest
    obtain ⟨bound, covered⟩ := List.mem_filter.mp member
    refine .inl ⟨kept, ⟨bound, covered, fun other inside coveredToo => ?_⟩, ?_⟩
    · exact longest other (List.mem_filter.mpr ⟨inside, coveredToo⟩)
    · simp only [covering, List.foldl_cons]
      change ((rest.foldl preferLonger (some first)).map _).getD _ = _
      rw [folded]
      rfl

end Scan

/-- **The nearest package with an order decides.** However the bindings are scanned, the order in
which a class is searched for is the one that the walk up from its package comes to, and the
standard one if the walk comes to none. A package covers itself and what goes on with a dot after
it, so no other binding counts. -/
theorem nearest_package_decides (rules : SearchRules) (className : String) :
    rules.orderFor className =
        (rules.nearest? (ClassName.packageChars className.toList)).getD rules.standard ∧
      (∀ scanned : List (String × SearchOrder), scanned.Perm rules.packages.entries →
        rules.orderFrom scanned className = rules.orderFor className) ∧
      ∀ ancestor package, covers ancestor package = true ↔
        ancestor = package ∨ ancestor ++ ['.'] <+: package := by
  have decided : ∀ scanned : List (String × SearchOrder), scanned.Perm rules.packages.entries →
      rules.orderFrom scanned className =
        (rules.nearest? (ClassName.packageChars className.toList)).getD rules.standard := by
    intro scanned same
    rcases orderFrom_eq rules scanned className with
      ⟨binding, decidesScanned, found⟩ | ⟨none, found⟩
    · have decides := decidesScanned.of_perm same
      rcases rules.nearest?_eq (ClassName.packageChars className.toList) with
        ⟨other, decidesToo, walked⟩ | ⟨noneToo, -⟩
      · rw [found, walked, Option.getD_some, decides.order_eq decidesToo]
      · exact absurd decides.covering (Bool.eq_false_iff.mp (noneToo binding decides.bound))
    · rcases rules.nearest?_eq (ClassName.packageChars className.toList) with
        ⟨other, ⟨bound, covering, -⟩, -⟩ | ⟨-, walked⟩
      · exact absurd covering (Bool.eq_false_iff.mp (none other (same.mem_iff.mpr bound)))
      · rw [found, walked, Option.getD_none]
  exact ⟨decided _ (.refl _), fun scanned same => (decided scanned same).trans
    (decided _ (.refl _)).symm, fun _ _ => covers_iff⟩

end Isolation.SearchRules
