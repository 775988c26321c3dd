import Isolation.Proofs.Exports.Rules
import Mathlib.Data.List.Sort

/-!
# Exports as sets of items

Exports do not depend on the order of what they are made from, nor on repetitions
(`Isolation.Exports.ofLists_congr`). Since each rule asks for a single member, the union of two
exports admits what one of them admits. So a comma joins two lists to their union
(`Isolation.Exports.lists_are_unions`).
-/

namespace Isolation

/-- A set is what its members are. -/
theorem NameSet.ext {left right : NameSet} (same : ∀ name, name ∈ left ↔ name ∈ right) :
    left = right := by
  have names : left.names = right.names := left.increasing.eq_of_mem_iff right.increasing same
  cases left
  cases right
  cases names
  rfl

namespace Exports

open Text ClassName

/-- Exports do not depend on order and repetitions. -/
theorem ofLists_congr {packages otherPackages resources otherResources : List String}
    (samePackages : ∀ package, package ∈ packages ↔ package ∈ otherPackages)
    (sameResources : ∀ resource, resource ∈ resources ↔ resource ∈ otherResources) :
    ofLists packages resources = ofLists otherPackages otherResources := by
  have packagesEq : NameSet.ofList packages = NameSet.ofList otherPackages :=
    NameSet.ext fun package => by
      rw [NameSet.mem_ofList, NameSet.mem_ofList, samePackages]
  have resourcesEq : NameSet.ofList (resources.map fun name => .ofList (relativeName name.toList)) =
      NameSet.ofList (otherResources.map fun name => .ofList (relativeName name.toList)) :=
    NameSet.ext fun resource => by
      simp only [NameSet.mem_ofList, List.mem_map, sameResources]
  rw [ofLists, packagesEq, resourcesEq, ofLists]

/-- Whether exports have what two others have, and nothing else. -/
structure IsUnion (joined first second : Exports) : Prop where
  packages : ∀ package,
    package ∈ joined.packages ↔ package ∈ first.packages ∨ package ∈ second.packages
  resources : ∀ resource,
    resource ∈ joined.resources ↔ resource ∈ first.resources ∨ resource ∈ second.resources

namespace IsUnion

variable {joined first second : Exports} (union : IsUnion joined first second)

include union

private theorem admitsClass (name : String) :
    joined.admitsClass name = true ↔
      first.admitsClass name = true ∨ second.admitsClass name = true := by
  rw [admitsClass_iff, admitsClass_iff, admitsClass_iff, union.packages]

private theorem underListedDirectory (name : List Char) :
    joined.underListedDirectory name = true ↔
      first.underListedDirectory name = true ∨ second.underListedDirectory name = true := by
  simp only [underListedDirectory_iff, union.resources, or_and_right, exists_or]

private theorem inExportedPackage (name : List Char) :
    joined.inExportedPackage name = true ↔
      first.inExportedPackage name = true ∨ second.inExportedPackage name = true := by
  simp only [inExportedPackage_iff, union.packages, and_or_left, exists_or]

private theorem admitsResource (name : String) :
    joined.admitsResource name = true ↔
      first.admitsResource name = true ∨ second.admitsResource name = true := by
  rw [admitsResource_iff, admitsResource_iff, admitsResource_iff, AdmitsRelative,
    contains_resources_iff, union.resources, union.underListedDirectory, union.inExportedPackage,
    AdmitsRelative, AdmitsRelative, contains_resources_iff, contains_resources_iff]
  tauto

end IsUnion

private theorem isUnion_ofLists (packages morePackages resources moreResources : List String) :
    IsUnion (ofLists (packages ++ morePackages) (resources ++ moreResources))
      (ofLists packages resources) (ofLists morePackages moreResources) where
  packages package := by
    simp only [ofLists, NameSet.mem_ofList, List.mem_append]
  resources resource := by
    simp only [ofLists, NameSet.mem_ofList, List.map_append, List.mem_append]

/-- A comma joins two lists. -/
theorem listItems_append (list more : String) :
    listItems (list ++ "," ++ more) = listItems list ++ listItems more := by
  have comma : ",".toList = [','] := by decide
  simp only [listItems, String.toList_append, comma, List.append_assoc, List.singleton_append,
    List.splitOn_append_cons_self, List.map_append, List.filter_append]

/-- Whether a text is an item of a list: what stands between commas, without the blank characters
around it, and not empty. -/
def IsItem (list item : String) : Prop :=
  item ≠ "" ∧ ∃ part ∈ list.toList.splitOn ',', trim (.ofList part) = item

private theorem mem_listItems {list item : String} : item ∈ listItems list ↔ IsItem list item := by
  constructor
  · intro member
    obtain ⟨trimmed, kept, rfl⟩ := List.mem_map.mp member
    obtain ⟨made, nonempty⟩ := List.mem_filter.mp kept
    obtain ⟨part, between, rfl⟩ := List.mem_map.mp made
    refine ⟨fun empty => of_decide_eq_true nonempty ?_, part, between, ?_⟩
    · exact String.ofList_injective empty
    · rw [trim, String.toList_ofList]
  · rintro ⟨nonempty, part, between, rfl⟩
    rw [trim, String.toList_ofList] at nonempty ⊢
    refine List.mem_map_of_mem (List.mem_filter.mpr ⟨List.mem_map_of_mem between, ?_⟩)
    exact decide_eq_true fun empty => nonempty (congrArg String.ofList empty)

/-- **A comma makes unions, and order and repetitions do not count.** Exports whose lists are joined
by commas admit a class or a resource exactly when one of the two exports does. Exports given by
two texts are those that are made from their items, in any order and with any repetitions. -/
theorem lists_are_unions (packages morePackages resources moreResources : String) :
    (∀ name, (ofTexts (packages ++ "," ++ morePackages)
        (resources ++ "," ++ moreResources)).admitsClass name = true ↔
          (ofTexts packages resources).admitsClass name = true ∨
            (ofTexts morePackages moreResources).admitsClass name = true) ∧
      (∀ name, (ofTexts (packages ++ "," ++ morePackages)
        (resources ++ "," ++ moreResources)).admitsResource name = true ↔
          (ofTexts packages resources).admitsResource name = true ∨
            (ofTexts morePackages moreResources).admitsResource name = true) ∧
      ∀ packageItems resourceItems : List String,
        (∀ item, item ∈ packageItems ↔ IsItem packages item) →
          (∀ item, item ∈ resourceItems ↔ IsItem resources item) →
            ofTexts packages resources = ofLists packageItems resourceItems := by
  have union : IsUnion
      (ofTexts (packages ++ "," ++ morePackages) (resources ++ "," ++ moreResources))
      (ofTexts packages resources) (ofTexts morePackages moreResources) := by
    rw [ofTexts, listItems_append, listItems_append]
    exact isUnion_ofLists _ _ _ _
  refine ⟨union.admitsClass, union.admitsResource, fun packageItems resourceItems same sameToo =>
    ofLists_congr (fun item => ?_) fun item => ?_⟩
  · rw [mem_listItems, same]
  · rw [mem_listItems, sameToo]

/-- Items in another order, one of them twice. -/
theorem spacedLists_are_their_items :
    ofTexts " com.x , org.api,, " "cfg/app.xml, " =
      ofLists ["org.api", "com.x", "org.api"] ["cfg/app.xml"] := by
  obtain ⟨-, -, made⟩ := lists_are_unions " com.x , org.api,, " "" "cfg/app.xml, " ""
  have packages : listItems " com.x , org.api,, " = ["com.x", "org.api"] := by decide
  have resources : listItems "cfg/app.xml, " = ["cfg/app.xml"] := by decide
  refine made _ _ (fun item => ?_) fun item => ?_
  · rw [← mem_listItems, packages]
    simp only [List.mem_cons, List.not_mem_nil, or_false]
    tauto
  · rw [← mem_listItems, resources]

end Exports

end Isolation
