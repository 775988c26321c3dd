import Isolation.Proofs.FileTree.Made
import Isolation.Proofs.Service.Located
import Isolation.Proofs.Url.FileText

/-!
# Publishing stays where it belongs

Publishing services changes nothing but the directory that they are published in, the directories
above it that are missing, and the descriptors with the directories on the way to them, also if it
fails. If it does not fail, there is one binding for each service, all of them have locators of
their own, and each descriptor holds the implementation of its service, whatever stood there before
(`Isolation.Service.publish_confined`).
-/

namespace Isolation

namespace Url

variable {names others : List Bytes}

/-- Names are told apart by the text of their URL. -/
theorem eq_of_chars_ofNames (nonempty : names ≠ []) (othersNonempty : others ≠ [])
    (same : (ofNames names).chars = (ofNames others).chars) : names = others := by
  rw [chars_ofNames, chars_ofNames] at same
  have segments := congrArg (writtenSegments true) (List.append_cancel_left same)
  rw [writtenSegments_pathText nonempty, writtenSegments_pathText othersNonempty] at segments
  have decoded := congrArg (List.map decodeBytes) segments
  have back : ∀ names : List Bytes, (fileSegments names).map decodeBytes = names := by
    intro names
    rw [fileSegments, List.map_map]
    exact (List.map_congr_left fun name _ => decodeBytes_encodeBytes rfl name).trans
      (List.map_id names)
  rwa [back, back] at decoded

end Url

/-- Locations are told apart by the text of their locators. -/
theorem Locator.eq_of_text {location other : Location} (proper : location.Proper)
    (properOther : other.Proper) (below : location ≠ []) (belowOther : other ≠ [])
    {first second : Locator} (made : ofFile? (Location.path location) = some first)
    (madeOther : ofFile? (Location.path other) = some second) (same : first.text = second.text) :
    location = other := by
  have spelled : ∀ {place : Location} {locator : Locator}, place.Proper → place ≠ [] →
      ofFile? (Location.path place) = some locator → locator = ⟨Url.ofNames place⟩ := by
    intro place locator proper below made
    rw [ofFile?, Url.ofFilePath?_eq (Path.isAbsolute_path place) (Path.downward_path proper),
      Path.steps_path proper, Url.namesOf, if_neg below] at made
    exact (Option.some.inj made).symm
  rw [spelled proper below made, spelled properOther belowOther madeOther] at same
  exact Url.eq_of_chars_ofNames below belowOther (String.ofList_injective same)

namespace Service

variable {files between after : FileTree} {path : Path} {place : Location} {service : Declaration}

/-- Whether a descriptor is written at a place where its path leads. -/
structure Writes (files after : FileTree) (path : Path) (service : Declaration)
    (place : Location) : Prop where
  noDirectory : files.node? place ≠ some .directory
  written : after.node? place = some (.file (descriptorContent service))
  leads : after.resolve path = .ok place

/-- Whether a descriptor is written at a place, or a directory made there for it. -/
def Alters (files after : FileTree) (path : Path) (service : Declaration)
    (place : Location) : Prop :=
  files.Makes after path place ∨ Writes files after path service place

namespace Alters

/-- What was altered is altered for good where nothing changes after it. -/
theorem later (alters : Alters files between path service place)
    (extended : between.Extends after) (same : after.node? place = between.node? place) :
    Alters files after path service place := by
  rcases alters with makes | ⟨noDirectory, written, leads⟩
  · exact .inl (makes.later extended)
  · exact .inr ⟨noDirectory, same.trans written, extended.resolve leads⟩

/-- What is altered now was altered as well if it is compared with what there was before. -/
theorem earlier (extended : files.Extends between)
    (alters : Alters between after path service place) : Alters files after path service place := by
  rcases alters with makes | ⟨noDirectory, written, leads⟩
  · exact .inl (makes.earlier extended)
  · exact .inr ⟨fun stood => noDirectory (extended.directories place stood), written, leads⟩

end Alters

section Write

variable {base : Location} {position : Nat}

private theorem makesOnly_ensureParent (files : FileTree) (path : Path) :
    FileTree.MakesOnly path files (ensureParent files path).1 := by
  unfold ensureParent
  cases isParent : path.parent? with
  | none => exact .refl path files
  | some parent =>
    obtain ⟨extended, same_or_makes⟩ := FileTree.makesOnly_ensureDirectory files parent
    exact ⟨extended, fun place => (same_or_makes place).imp id fun makes => makes.below isParent⟩

/-- Writing a descriptor changes nothing else, also if it fails. -/
theorem same_or_alters_writeDescriptor (proper : base.Proper)
    {result : Except AssemblyError Binding} (written :
      writeDescriptor files (descriptorPath (Location.path base) position service) service =
        (after, result)) (place : Location) :
    after.node? place = files.node? place ∨
      Alters files after (descriptorPath (Location.path base) position service) service place := by
  rw [descriptorPath_eq proper] at written ⊢
  have properPlace := proper_descriptorLocation proper position service
  have below : descriptorLocation base position service ≠ [] :=
    List.append_ne_nil_of_right_ne_nil base (List.cons_ne_nil _ _)
  generalize descriptorLocation base position service = location at written properPlace below ⊢
  obtain ⟨extended, same_or_makes⟩ := makesOnly_ensureParent files (Location.path location)
  unfold writeDescriptor at written
  split at written
  · rename_i made
    obtain ⟨rfl, -⟩ := Prod.mk.inj written
    rw [made] at same_or_makes
    exact (same_or_makes place).imp id .inl
  · rename_i ready made
    rw [made] at same_or_makes extended
    split at written
    · obtain ⟨rfl, -⟩ := Prod.mk.inj written
      exact (same_or_makes place).imp id .inl
    · rename_i stored kept
      obtain ⟨rfl, -⟩ := Prod.mk.inj written
      by_cases here : place = location
      · subst here
        have stands := FileTree.node?_write properPlace below kept
        refine .inr (.inr ⟨fun directory => ?_, stands, FileTree.resolve_path stands⟩)
        exact FileTree.node?_ne_directory_of_write properPlace below kept
          (extended.directories place directory)
      · rw [FileTree.node?_write_of_ne properPlace below kept here]
        exact (same_or_makes place).imp id fun makes =>
          .inl (makes.later (FileTree.extends_write kept))

/-- Writing descriptors changes nothing but them and the directories on the way to them, also if it
fails. -/
theorem same_or_alters_writeDescriptors (proper : base.Proper) {services : List Declaration}
    {result : Except AssemblyError (List Binding)}
    (written : writeDescriptors files (Location.path base) position services = (after, result))
    (place : Location) :
    after.node? place = files.node? place ∨ ∃ k service, services[k]? = some service ∧
      Alters files after (descriptorPath (Location.path base) (position + k) service) service
        place := by
  induction services generalizing files position result with
  | nil =>
    obtain ⟨rfl, -⟩ := Prod.mk.inj written
    exact .inl rfl
  | cons service services ih =>
    have extendedFirst :=
      extends_writeDescriptor files (descriptorPath (Location.path base) position service) service
    rcases writeDescriptors_cons_cases written with
      ⟨error, first, -⟩ | ⟨between, binding, others, first, later, -⟩
    · exact (same_or_alters_writeDescriptor proper first place).imp id fun alters =>
        ⟨0, service, rfl, alters⟩
    · rw [first] at extendedFirst
      have extendedLater :=
        extends_writeDescriptors between (Location.path base) (position + 1) services
      rw [later] at extendedLater
      rcases ih later with same | ⟨k, other, declared, alters⟩
      · rcases same_or_alters_writeDescriptor proper first place with sameFirst | alters
        · exact .inl (same.trans sameFirst)
        · exact .inr ⟨0, service, rfl, alters.later extendedLater same⟩
      · refine .inr ⟨k + 1, other, declared, ?_⟩
        rw [Nat.add_assoc, Nat.add_comm 1 k] at alters
        exact alters.earlier extendedFirst

private theorem length_of_writeDescriptors {root : Path} {services : List Declaration}
    {bindings : List Binding}
    (written : writeDescriptors files root position services = (after, .ok bindings)) :
    bindings.length = services.length := by
  induction services generalizing files position bindings with
  | nil =>
    obtain ⟨-, same⟩ := Prod.mk.inj written
    rw [← Except.ok.inj same]
    rfl
  | cons service services ih =>
    obtain ⟨between, binding, others, -, later, rfl⟩ := writeDescriptors_cons_eq_ok written
    rw [List.length_cons, List.length_cons, ih later]

/-- Published bindings are told apart by the texts of their locators. -/
theorem nodup_texts (proper : base.Proper) {bindings : List Binding}
    (published : ∀ (k : Nat) (binding : Binding), bindings[k]? = some binding →
      ∃ service, Published after base k service binding) :
    (bindings.map (·.locator.text)).Nodup := by
  rw [List.Nodup, List.pairwise_map, List.pairwise_iff_getElem]
  intro k l first second less same
  obtain ⟨service, there⟩ := published k _ (List.getElem?_eq_getElem first)
  obtain ⟨other, otherThere⟩ := published l _ (List.getElem?_eq_getElem second)
  have below : ∀ position service, descriptorLocation base position service ≠ [] :=
    fun _ _ => List.append_ne_nil_of_right_ne_nil base (List.cons_ne_nil _ _)
  have equal := eq_of_descriptorLocation (Locator.eq_of_text
    (proper_descriptorLocation proper k service) (proper_descriptorLocation proper l other)
    (below k service) (below l other) there.located otherThere.located same)
  omega

end Write

/-- **Publishing services stays where it belongs.** Whatever publishing changes, also if it fails,
is a directory made on the way to the one that the services are published in, or the descriptor of a
service, below the position of the service, or a directory made on the way to it. If publishing does
not fail, every service has a binding, at its position and to the locator of its descriptor, all the
locators differ, and every descriptor holds the implementation of its own service. -/
theorem publish_confined {directory : Path} {services : List Declaration}
    {result : Except AssemblyError (List Binding)}
    (published : publish files directory services = (after, result)) :
    (∀ place, after.node? place ≠ files.node? place →
      files.Makes after directory place ∨
        ∃ root position service, after.canonical directory = .ok root ∧
          services[position]? = some service ∧
          (files.Makes after (descriptorPath root position service) place ∨
            Writes files after (descriptorPath root position service) service place)) ∧
      ∀ bindings, result = .ok bindings →
        ∃ root, after.canonical directory = .ok root ∧ bindings.length = services.length ∧
          (∀ position service, services[position]? = some service →
            ∃ binding, bindings[position]? = some binding ∧
              binding.interfaceName = service.interfaceName ∧
              Locator.ofFile? (descriptorPath root position service) = some binding.locator ∧
              after.read (descriptorPath root position service) =
                .ok (Utf8.ofString (service.implementation ++ "\n"))) ∧
          (bindings.map (·.locator.text)).Nodup := by
  obtain ⟨extended, same_or_makes⟩ := FileTree.makesOnly_ensureDirectory files directory
  rcases publish_cases published with ⟨error, rfl, rfl⟩ | ⟨base, proper, followed, written⟩
  · refine ⟨fun place changed => .inl ?_, fun bindings succeeds => (nomatch succeeds)⟩
    exact (same_or_makes place).resolve_left changed
  · have onward := extends_writeDescriptors (files.ensureDirectory directory).1
      (Location.path base) 0 services
    rw [written] at onward
    have found := onward.canonical followed
    refine ⟨fun place changed => ?_, fun bindings succeeds => ?_⟩
    · rcases same_or_alters_writeDescriptors proper written place with
        same | ⟨k, service, declared, alters⟩
      · rw [same] at changed
        exact .inl (((same_or_makes place).resolve_left changed).later onward)
      · rw [Nat.zero_add] at alters
        exact .inr ⟨_, k, service, found, declared, alters.earlier extended⟩
    · subst succeeds
      have length := length_of_writeDescriptors written
      obtain ⟨all, -, -⟩ := published_of_writeDescriptors proper written
      simp only [Nat.zero_add] at all
      have differ : (bindings.map (·.locator.text)).Nodup := by
        apply nodup_texts proper
        intro k binding bound
        obtain ⟨service, -, there⟩ := all k binding bound
        exact ⟨service, there⟩
      refine ⟨_, found, length, fun position service declared => ?_, differ⟩
      obtain ⟨inside, rfl⟩ := List.getElem?_eq_some_iff.mp declared
      have bound : bindings[position]? = some bindings[position] :=
        List.getElem?_eq_getElem (length ▸ inside)
      obtain ⟨other, declaredThere, there⟩ := all position _ bound
      obtain rfl := Option.some.inj (declared.symm.trans declaredThere)
      rw [descriptorPath_eq proper]
      exact ⟨_, bound, there.bound, there.located, FileTree.read_path there.written⟩

/-- Files of an earlier run, which left a descriptor at the second position. -/
def earlierFiles : FileTree :=
  let made := (FileTree.empty.ensureDirectory (.ofString "/s/1/META-INF/services")).1
  let stale := made.write (.ofString "/s/1/META-INF/services/Depot") (Utf8.ofString "West\n")
  (stale.toOption).getD .empty

/-- Two services of one interface. -/
def twoDepots : List Declaration :=
  [⟨"Depot", "North", by decide, by decide, by decide⟩,
    ⟨"Depot", "South", by decide, by decide, by decide⟩]

/-- Two services of one interface are published over an earlier run, below a path that leads up: the
old descriptor is replaced, and the new ones do not overwrite each other. -/
theorem twoDepots_published :
    ∃ after first second,
      publish earlierFiles (.ofString "/s/../s") twoDepots = (after, .ok [first, second]) ∧
      first.locator.text ≠ second.locator.text ∧
      after.read (.ofString "/s/0/META-INF/services/Depot") = .ok (Utf8.ofString "North\n") ∧
      after.read (.ofString "/s/1/META-INF/services/Depot") = .ok (Utf8.ofString "South\n") := by
  have succeeds :
      (publish earlierFiles (.ofString "/s/../s") twoDepots).2.toOption.isSome = true := by
    decide +kernel
  have leads : ((publish earlierFiles (.ofString "/s/../s") twoDepots).1.canonical
      (.ofString "/s/../s")).toOption = some (.ofString "/s") := by
    decide +kernel
  generalize published : publish earlierFiles (.ofString "/s/../s") twoDepots = attempt
    at succeeds leads
  obtain ⟨after, error | bindings⟩ := attempt
  · cases succeeds
  · obtain ⟨-, success⟩ := publish_confined published
    obtain ⟨root, followed, length, descriptors, differ⟩ := success bindings rfl
    simp only at leads
    rw [followed] at leads
    obtain rfl := Option.some.inj leads
    obtain ⟨first, second, rfl⟩ := List.length_eq_two.mp length
    obtain ⟨-, -, -, -, readFirst⟩ := descriptors 0 _ rfl
    obtain ⟨-, -, -, -, readSecond⟩ := descriptors 1 _ rfl
    refine ⟨after, first, second, rfl, ?_, readFirst, readSecond⟩
    exact fun same => (List.nodup_cons.mp differ).1 (List.mem_singleton.mpr same)

end Service

end Isolation
