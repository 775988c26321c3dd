import Isolation.Proofs.Assembly.ReadBack
import Isolation.Proofs.ClassName.FilePackage
import Isolation.Proofs.Loader.Source
import Isolation.Proofs.NameMap.Lookup

/-!
# Archives as tables

What is on a classpath of archives can be registered in tables beforehand: every entry as a
resource, and every class file as a class, unless an earlier archive has a class of that name. The
tables then have the same classes, under names without slashes, and the same resources, as the
classpath (`Isolation.Source.agree_registered`): names of classes and names of their files stand for
each other (`Isolation.Listing.className?_eq_some_iff`), and the first registration of a class
counts as the first archive that has it does.
-/

namespace Isolation

open Classpath ClassName

/-- An archive of a classpath, and the names of its entries in some order. -/
structure Listing where
  path : Path
  content : OpenArchive
  names : List String
  complete : names.Perm content.fileNames.names

namespace Listing

/-- The archive. -/
def element (listing : Listing) : Element :=
  .archive listing.path listing.content

/-- The class that an entry holds by its name: what stands before the suffix of class files, with
dots for slashes, unless there is a dot in it already. -/
def className? (entry : String) : Option String :=
  if '.' ∈ entry.toList.take (entry.toList.length - fileSuffix.length) then none
  else ofClassFile? entry

/-- What is registered for a class: the bytes and the locator of its entry. -/
def record? (listing : Listing) (entry : String) : Option ClassRecord := do
  let bytes ← (listing.content.read entry).toOption
  let origin ← listing.element.locator? entry
  return ⟨origin, bytes⟩

/-- The classes of an archive. -/
def classes (listing : Listing) : List (String × ClassRecord) :=
  listing.names.filterMap fun entry =>
    (className? entry).bind fun name => (listing.record? entry).map (name, ·)

/-- The resources of an archive. -/
def resources (listing : Listing) : List (String × Locator) :=
  listing.names.filterMap fun entry => (listing.element.locator? entry).map (entry, ·)

/-- Registers a class, unless there is one of that name. -/
def register (registered : List (String × ClassRecord)) (candidate : String × ClassRecord) :
    List (String × ClassRecord) :=
  if candidate.1 ∈ registered.map Prod.fst then registered else registered ++ [candidate]

/-- Whether an archive can be read throughout, has no entry whose name starts with a slash, and has
under every name of a class file what starts as a class file does. -/
structure Sound (listing : Listing) : Prop where
  undamaged : listing.content.Undamaged
  relative : ∀ entry ∈ listing.names, entry.toList.head? ≠ some '/'
  marked : ∀ entry ∈ listing.names, fileSuffix <:+ entry.toList → ∀ bytes,
    listing.content.read entry = .ok bytes → ClassFile.magic <+: bytes

section Names

/-- What stands before the suffix of class files is found by counting. -/
theorem take_append_fileSuffix (stem : List Char) :
    (stem ++ fileSuffix).take ((stem ++ fileSuffix).length - fileSuffix.length) = stem := by
  rw [List.length_append, Nat.add_sub_cancel, List.take_left]

/-- **Class names without slashes and names of class files stand for each other.** -/
theorem className?_eq_some_iff {entry name : String} :
    className? entry = some name ↔ '/' ∉ name.toList ∧ entry = classFile name := by
  unfold className? ofClassFile?
  constructor
  · intro found
    split at found
    · cases found
    · rename_i dotless
      simp only at found
      split at found
      · rename_i ends
        obtain ⟨stem, shape⟩ := List.isSuffixOf_iff_suffix.mp ends
        obtain rfl := Option.some.inj found
        rw [← shape, take_append_fileSuffix] at dotless ⊢
        rw [String.toList_ofList]
        refine ⟨slash_notMem_slashesToDots stem, ?_⟩
        have kept : dotsToSlashes stem = stem := map_eq_self_of_notMem dotless
        rw [classFile, String.toList_ofList, dotsToSlashes_slashesToDots, kept, shape,
          String.ofList_toList]
      · cases found
  · rintro ⟨slashless, rfl⟩
    rw [classFile, String.toList_ofList, take_append_fileSuffix,
      if_neg (dot_notMem_dotsToSlashes name.toList)]
    simp only
    rw [if_pos (List.isSuffixOf_iff_suffix.mpr (List.suffix_append _ _)), take_append_fileSuffix,
      slashesToDots_dotsToSlashes slashless, String.ofList_toList]

end Names

section Classes

variable {listing : Listing} {name : String}

/-- An archive registers a class if it has the file of the class. -/
theorem lookup_classes (listing : Listing) (slashless : '/' ∉ name.toList) :
    listing.classes.lookup name =
      if classFile name ∈ listing.names then listing.record? (classFile name) else none := by
  unfold classes
  -- Over the entries: only the file of the class registers the class.
  induction listing.names with
  | nil => rfl
  | cons entry names ih =>
    by_cases here : classFile name = entry
    · subst here
      have named : className? (classFile name) = some name :=
        className?_eq_some_iff.mpr ⟨slashless, rfl⟩
      rw [if_pos List.mem_cons_self, List.filterMap_cons, named, Option.bind_some]
      cases found : listing.record? (classFile name) with
      | none =>
        simp only [Option.map_none]
        rw [ih, found, ite_self]
      | some record => simp only [Option.map_some, List.lookup_cons_self]
    · have later : classFile name ∈ entry :: names ↔ classFile name ∈ names :=
        List.mem_cons.trans (or_iff_right here)
      simp only [later]
      rw [← ih, List.filterMap_cons]
      cases named : className? entry with
      | none => rfl
      | some other =>
        have apart : name ≠ other := by
          rintro rfl
          exact here (className?_eq_some_iff.mp named).2.symm
        rw [Option.bind_some]
        cases listing.record? entry with
        | none => rfl
        | some record =>
          simp only [Option.map_some]
          rw [NameMap.lookup_cons, if_neg apart]

private theorem lookup_register (registered : List (String × ClassRecord))
    (candidate : String × ClassRecord) (name : String) :
    (register registered candidate).reverse.lookup name =
      (registered.reverse.lookup name).or ([candidate].lookup name) := by
  obtain ⟨other, record⟩ := candidate
  have absent_iff : registered.reverse.lookup other = none ↔
      other ∉ registered.map Prod.fst := by
    rw [List.lookup_eq_none_iff]
    constructor
    · intro apart member
      obtain ⟨entry, inside, rfl⟩ := List.mem_map.mp member
      exact bne_iff_ne.mp (apart entry (List.mem_reverse.mpr inside)) rfl
    · intro absent entry inside
      exact bne_iff_ne.mpr fun same =>
        absent (List.mem_map.mpr ⟨entry, List.mem_reverse.mp inside, same.symm⟩)
  rw [NameMap.lookup_cons]
  unfold register
  by_cases taken : other ∈ registered.map Prod.fst
  · rw [if_pos taken]
    by_cases here : name = other
    · subst here
      cases found : registered.reverse.lookup name with
      | none => exact absurd taken (absent_iff.mp found)
      | some earlier => rfl
    · rw [if_neg here]
      exact (Option.or_none ..).symm
  · rw [if_neg taken, List.reverse_append, List.reverse_singleton, List.singleton_append,
      NameMap.lookup_cons]
    by_cases here : name = other
    · subst here
      rw [if_pos rfl, if_pos rfl, absent_iff.mpr taken, Option.none_or]
    · rw [if_neg here, if_neg here]
      exact (Option.or_none ..).symm

/-- The first registration of a class counts. -/
theorem lookup_foldl_register (candidates registered : List (String × ClassRecord))
    (name : String) :
    (candidates.foldl register registered).reverse.lookup name =
      (registered.reverse.lookup name).or (candidates.lookup name) := by
  induction candidates generalizing registered with
  | nil => exact (Option.or_none ..).symm
  | cons candidate candidates ih =>
    rw [List.foldl_cons, ih, lookup_register, Option.or_assoc, ← List.lookup_append]
    rfl

end Classes

end Listing

namespace Source

/-- A name without a slash in front is its own key. -/
theorem resourceKey_eq_self {name : String} (relative : name.toList.head? ≠ some '/') :
    resourceKey name = name := by
  rw [resourceKey]
  cases spelled : name.toList with
  | nil =>
    rw [← String.toList_inj, spelled]
    rfl
  | cons c rest =>
    have other : c ≠ '/' := by
      rintro rfl
      rw [spelled] at relative
      exact relative rfl
    rw [Text.dropOne, if_neg other, ← spelled, String.ofList_toList]

section Tables

variable (classes : List (String × ClassRecord)) (resources : List (String × Locator))

/-- The locators that are registered under one name add up. -/
theorem find?_foldl_insert (map : NameMap (List Locator)) (key : String) :
    ((resources.foldl
        (fun map (name, locator) =>
          let key := resourceKey name
          map.insert key ((map.find? key).getD [] ++ [locator])) map).find? key).getD [] =
      (map.find? key).getD [] ++ (resources.filter (resourceKey ·.1 == key)).map (·.2) := by
  induction resources generalizing map with
  | nil => exact (List.append_nil _).symm
  | cons resource resources ih =>
    obtain ⟨name, locator⟩ := resource
    rw [List.foldl_cons, ih, NameMap.find?_insert, List.filter_cons]
    by_cases here : key = resourceKey name
    · subst here
      simp only [↓reduceIte, Option.getD_some, beq_self_eq_true, List.map_cons, List.append_assoc,
        List.singleton_append]
    · have apart : (resourceKey name == key) = false := beq_eq_false_iff_ne.mpr (Ne.symm here)
      simp only [if_neg here, apart, Bool.false_eq_true, ↓reduceIte]

private theorem findResources_ofTables (files : FileTree) (name : String) :
    (ofTables classes resources).findResources files name =
      (resources.filter (resourceKey ·.1 == resourceKey name)).map (·.2) :=
  (find?_foldl_insert resources .empty (resourceKey name)).trans (List.nil_append _)

private theorem findClass_ofTables (files : FileTree) (name artifact : String) :
    (ofTables classes resources).findClass files name artifact =
      match classes.reverse.lookup name with
      | some record => .ok record
      | none => .error (.classNotFound name artifact) := by
  have found := NameMap.find?_ofList classes name
  cases kept : classes.reverse.lookup name with
  | none =>
    rw [kept] at found
    simp only [ofTables, findClass, found]
  | some record =>
    rw [kept] at found
    simp only [ofTables, findClass, found]

end Tables

end Source

namespace Listing

/-- An archive registers a resource under the name of its entry. -/
theorem map_filter_resources {listing : Listing} (sound : listing.Sound) (key : String) :
    (listing.resources.filter (Source.resourceKey ·.1 == key)).map (·.2) =
      if key ∈ listing.names then (listing.element.locator? key).toList else [] := by
  have distinct : listing.names.Nodup := by
    apply listing.complete.nodup_iff.mpr
    refine listing.content.fileNames.increasing.imp ?_
    intro first second below same
    exact String.lt_irrefl second (same ▸ below)
  have relative := sound.relative
  unfold resources
  -- No name comes twice, so an archive adds at most one locator.
  generalize listing.names = names at distinct relative
  induction names with
  | nil => rfl
  | cons entry names ih =>
    obtain ⟨absent, apart⟩ := List.nodup_cons.mp distinct
    have onward := ih apart fun other member => relative other (List.mem_cons_of_mem entry member)
    have ownKey := Source.resourceKey_eq_self (relative entry List.mem_cons_self)
    by_cases here : key = entry
    · subst here
      rw [if_neg absent] at onward
      rw [if_pos List.mem_cons_self, List.filterMap_cons]
      cases listing.element.locator? key with
      | none => exact onward
      | some locator =>
        simp only [Option.map_some, List.filter_cons, ownKey, beq_self_eq_true, ↓reduceIte,
          List.map_cons, onward, Option.toList_some]
    · have later : key ∈ entry :: names ↔ key ∈ names := List.mem_cons.trans (or_iff_right here)
      simp only [later]
      rw [← onward, List.filterMap_cons]
      cases listing.element.locator? entry with
      | none => rfl
      | some locator =>
        have other : (entry == key) = false := beq_eq_false_iff_ne.mpr (Ne.symm here)
        simp only [Option.map_some, List.filter_cons, ownKey, other, Bool.false_eq_true,
          ↓reduceIte]

/-- The file of a class in an archive can be registered, and is read from the archive as long as
that does not change. -/
theorem Sound.exists_record {listing : Listing} (sound : listing.Sound) {before files : FileTree}
    (opened : listing.element.Opened before) (intact : listing.element.Intact files)
    {name : String} (has : classFile name ∈ listing.names) :
    ∃ bytes origin, listing.element.read files (classFile name) = .ok bytes ∧
      ClassFile.magic.isPrefixOf bytes = true ∧
      listing.element.locator? (classFile name) = some origin ∧
      listing.record? (classFile name) = some ⟨origin, bytes⟩ := by
  have contained : listing.content.fileNames.contains (classFile name) = true :=
    decide_eq_true (listing.complete.mem_iff.mp has)
  obtain ⟨bytes, readable⟩ := sound.undamaged (classFile name) contained
  obtain ⟨origin, place⟩ := opened.exists_locator (classFile name)
  have same : listing.element.read files (classFile name) = listing.content.read (classFile name) :=
    congrArg (Zip.Archive.read · _) intact.reread_eq
  have ends : fileSuffix <:+ (classFile name).toList := by
    rw [classFile, String.toList_ofList]
    exact List.suffix_append _ _
  refine ⟨bytes, origin, same.trans readable, ?_, place, ?_⟩
  · exact List.isPrefixOf_iff_prefix.mpr (sound.marked _ has ends bytes readable)
  · rw [record?, readable, place]
    rfl

end Listing

namespace Source

/-- What is registered of archives, in their order. -/
def registered (listings : List Listing) : Source :=
  .ofTables ((listings.flatMap Listing.classes).foldl Listing.register [])
    (listings.flatMap Listing.resources)

/-- Whether two sources have the same classes, under names without slashes, and the same resources,
as the files are. -/
structure Agree (left right : Source) (files : FileTree) : Prop where
  classes : ∀ name artifact, '/' ∉ name.toList →
    right.findClass files name artifact = left.findClass files name artifact
  first : ∀ name, right.findResource? files name = left.findResource? files name
  all : ∀ name, right.findResources files name = left.findResources files name

section Registered

variable {listings : List Listing} {name : String}

private theorem contains_element (files : FileTree) (listing : Listing) (key : String) :
    listing.element.contains files key = true ↔ key ∈ listing.names := by
  rw [listing.complete.mem_iff]
  exact decide_eq_true_iff

/-- The resources that are registered are those of the classpath. -/
theorem findResources_registered (sound : ∀ listing ∈ listings, listing.Sound) (files : FileTree)
    (name : String) :
    (registered listings).findResources files name =
      (classpath (listings.map Listing.element)).findResources files name := by
  rw [registered, findResources_ofTables]
  unfold findResources
  simp only
  induction listings with
  | nil => rfl
  | cons listing listings ih =>
    rw [List.flatMap_cons, List.filter_append, List.map_append,
      ih fun other member => sound other (List.mem_cons_of_mem listing member),
      Listing.map_filter_resources (sound listing List.mem_cons_self), List.map_cons,
      List.filter_cons]
    by_cases has : resourceKey name ∈ listing.names
    · rw [if_pos has, if_pos ((contains_element files listing _).mpr has), List.filterMap_cons]
      cases listing.element.locator? (resourceKey name) <;> rfl
    · rw [if_neg has, if_neg fun contained => has ((contains_element files listing _).mp contained)]
      rfl

/-- The class that is registered under a name is that of the first archive which has its file. -/
theorem lookup_flatMap_classes (files : FileTree) (listings : List Listing)
    (slashless : '/' ∉ name.toList)
    (recorded : ∀ listing ∈ listings, classFile name ∈ listing.names →
      (listing.record? (classFile name)).isSome = true) :
    (elementWith? files (listings.map Listing.element) (classFile name) = none ∧
        (listings.flatMap Listing.classes).lookup name = none) ∨
      ∃ listing ∈ listings, classFile name ∈ listing.names ∧
        elementWith? files (listings.map Listing.element) (classFile name) =
          some listing.element ∧
        (listings.flatMap Listing.classes).lookup name = listing.record? (classFile name) := by
  induction listings with
  | nil => exact .inl ⟨rfl, rfl⟩
  | cons listing listings ih =>
    rw [List.map_cons, List.flatMap_cons, List.lookup_append,
      listing.lookup_classes slashless]
    by_cases has : classFile name ∈ listing.names
    -- This archive decides, for what it registers comes before all that later ones register.
    · have hit := (contains_element files listing (classFile name)).mpr has
      obtain ⟨record, found⟩ :=
        Option.isSome_iff_exists.mp (recorded listing List.mem_cons_self has)
      refine .inr ⟨listing, List.mem_cons_self, has, List.find?_cons_of_pos hit, ?_⟩
      rw [if_pos has, found, Option.some_or]
    · have skip : elementWith? files (listing.element :: listings.map Listing.element)
          (classFile name) = elementWith? files (listings.map Listing.element) (classFile name) :=
        List.find?_cons_of_neg fun contained =>
          has ((contains_element files listing _).mp contained)
      rw [if_neg has, Option.none_or, skip]
      rcases ih fun other member => recorded other (List.mem_cons_of_mem listing member) with
        nowhere | ⟨other, member, first⟩
      · exact .inl nowhere
      · exact .inr ⟨other, List.mem_cons_of_mem listing member, first⟩

/-- **What is registered of archives agrees with a classpath of them**, as long as the archives do
not change. -/
theorem agree_registered {before files : FileTree} {paths : List Path}
    (opened : openClasspath before paths = .ok (listings.map Listing.element))
    (sound : ∀ listing ∈ listings, listing.Sound)
    (intact : ∀ listing ∈ listings, listing.element.Intact files) :
    (classpath (listings.map Listing.element)).Agree (registered listings) files where
  classes := by
    intro name artifact slashless
    have recorded : ∀ listing ∈ listings, classFile name ∈ listing.names →
        ∃ bytes origin, listing.element.read files (classFile name) = .ok bytes ∧
          ClassFile.magic.isPrefixOf bytes = true ∧
          listing.element.locator? (classFile name) = some origin ∧
          listing.record? (classFile name) = some ⟨origin, bytes⟩ := by
      intro listing member
      exact (sound listing member).exists_record
        (Element.opened_of_openClasspath opened _ (List.mem_map_of_mem member))
        (intact listing member)
    have kept : ∀ listing ∈ listings, classFile name ∈ listing.names →
        (listing.record? (classFile name)).isSome = true := by
      intro listing member has
      obtain ⟨bytes, origin, -, -, -, found⟩ := recorded listing member has
      rw [found]
      rfl
    rw [registered, findClass_ofTables, Listing.lookup_foldl_register, List.reverse_nil,
      List.lookup_nil, Option.none_or]
    change _ = classOnPath files (listings.map Listing.element) name artifact
    rcases lookup_flatMap_classes files listings slashless kept with
      ⟨nowhere, unlisted⟩ | ⟨listing, member, has, first, listed⟩
    · rw [unlisted]
      unfold classOnPath
      simp only [nowhere]
      rfl
    · obtain ⟨bytes, origin, readable, marked, place, found⟩ := recorded listing member has
      rw [listed, found, classOnPath_eq_ok first readable marked place]
  first := by
    intro name
    have opens : (classpath (listings.map Listing.element)).Opened := ⟨before, paths, opened⟩
    rw [findResource?_eq_head? opens, ← findResources_registered sound]
    rfl
  all := findResources_registered sound files

end Registered

end Source

end Isolation
