import Isolation.Proofs.Loader.MirrorRun

/-!
# A loader of archives and a loader of tables

Whatever a loader of archives works out when it is asked can be put in tables beforehand. As long as
the archives do not change, the loader of these tables answers every sequence of operations as the
loader of the archives does, runs the same listeners and hands out one object where the other does
(`Isolation.Backing.archives_mirrored`).
-/

namespace Isolation

/-- Two loaders that are new have seen the same: nothing. -/
theorem State.mirrors_self {first second : Loader} {state : State}
    (unusedFirst : state.Unused first.id) (unusedSecond : state.Unused second.id) :
    State.Mirrors first second state state where
  classes :=
    { serial := rfl
      own := by
        intro name
        unfold State.defined?
        rw [unusedFirst.defines, unusedSecond.defines]
        rfl
      others := fun _ _ _ _ => rfl
      foreign := fun id _ _ name object kept => unusedFirst.definer id name object kept }
  listeners :=
    { waiting := by
        rw [unusedFirst.waits, unusedSecond.waits]
        exact .nil
      disposed := fun _ => rfl }

/-- The loader that has in tables what is registered of archives, and is like another one in
everything else but its number. -/
def Backing.tabulated (own : Backing) (id : LoaderId) (listings : List Listing) : Backing :=
  { own with id := id, source := .registered listings }

/-- **A loader of archives cannot be told from a loader of tables.** Take a loader of archives that
are sound, and one like it, with a number and tables of its own, in which everything in the archives
has been registered. If both are new in some state, then each of them, asked the same from that
state on while the archives do not change, gives the same answers at every step but for its number,
runs the same listeners, and hands out the same object again where the other does. -/
theorem Backing.archives_mirrored {own : Backing} {listings : List Listing} {before : FileTree}
    {paths : List Path} (onPath : own.source = .classpath (listings.map Listing.element))
    (opened : openClasspath before paths = .ok (listings.map Listing.element))
    (sound : ∀ listing ∈ listings, listing.Sound) {id : LoaderId} {parent : Option Loader}
    (apart : ∀ above ∈ parent, ∀ owner ∈ above.owners, owner.id ≠ own.id ∧ owner.id ≠ id)
    {state : State} (unused : state.Unused own.id) (unusedToo : state.Unused id)
    {history otherHistory : List (FileTree × Operation)}
    (intact : ∀ moment ∈ history, ∀ listing ∈ listings, listing.element.Intact moment.1)
    (mirrored : List.Forall₂
      (fun moment otherMoment => otherMoment.1 = moment.1 ∧
        Operation.Mirrors (own.under parent) ((own.tabulated id listings).under parent) moment.2
          otherMoment.2)
      history otherHistory) :
    let answers := (own.under parent).answers state history
    let otherAnswers := ((own.tabulated id listings).under parent).answers state otherHistory
    otherAnswers = answers.map (Answer.renumber own.id id) ∧
      otherAnswers.map (·.object?.map (·.serial)) = answers.map (·.object?.map (·.serial)) := by
  intro answers otherAnswers
  have agree : ∀ moment ∈ history, own.Agrees (own.tabulated id listings) moment.1 :=
    fun moment member =>
      { artifact := rfl
        identity := rfl
        rules := rfl
        source := onPath ▸ Source.agree_registered opened sound (intact moment member) }
  have mirrors : State.Mirrors (own.under parent) ((own.tabulated id listings).under parent) state
      state := by
    apply State.mirrors_self
    · rw [Loader.id_under]
      exact unused
    · rw [Loader.id_under]
      exact unusedToo
  have same : otherAnswers = answers.map (Answer.renumber own.id id) :=
    Loader.answers_mirrored apart mirrors agree mirrored
  refine ⟨same, ?_⟩
  rw [same, List.map_map]
  apply List.map_congr_left
  intro answer member
  rw [Function.comp_apply, object?_renumber, Option.map_map]
  rfl

/-- An archive with these entries, opened at a path from which nothing has been removed. -/
def openedAt (path : Path) (entries : List (String × Bytes)) : Classpath.OpenArchive :=
  ⟨((Zip.openArchive (Zip.writeArchive entries)).toOption).getD default,
    FileTree.empty.hold path.steps⟩

/-- An archive with a class and a text. -/
def firstListing : Listing where
  path := .ofString "/x.jar"
  content := openedAt (.ofString "/x.jar") [("A.class", ClassFile.magic), ("a.txt", [0x61])]
  names := ["a.txt", "A.class"]
  complete := by decide +kernel

/-- An archive with another class of that name, one in a package, and a text. -/
def secondListing : Listing where
  path := .ofString "/y.jar"
  content := openedAt (.ofString "/y.jar") [("A.class", ClassFile.magic ++ [1]),
    ("p/B.class", ClassFile.magic ++ [2]), ("a.txt", [0x62])]
  names := ["p/B.class", "a.txt", "A.class"]
  complete := by decide +kernel

/-- Files of which two are these archives. -/
def twoArchives : FileTree :=
  let files := do
    let first ← FileTree.empty.write (.ofString "/x.jar") firstListing.content.bytes
    first.write (.ofString "/y.jar") secondListing.content.bytes
  files.toOption.getD .empty

/-- A loader of these archives. -/
def archiveLoader : Backing where
  id := ⟨1⟩
  artifact := "app"
  identity := ⟨"app", none⟩
  rules := {}
  source := .classpath ([firstListing, secondListing].map Listing.element)

private theorem openClasspath_twoArchives :
    openClasspath twoArchives [.ofString "/x.jar", .ofString "/y.jar"] =
      .ok ([firstListing, secondListing].map Listing.element) := by
  have opens : (openClasspath twoArchives [.ofString "/x.jar", .ofString "/y.jar"]).toOption =
      some ([firstListing, secondListing].map Listing.element) := by
    decide +kernel
  have found := eq_ok_of_isSome (by rw [opens]; rfl) []
  exact found.trans (by rw [opens]; rfl)

/-- An archive is sound if all of its entries are read, and found to be. -/
theorem Listing.sound_of_read {listing : Listing}
    (undamaged : ∀ entry ∈ listing.names, (listing.content.read entry).toOption.any (fun bytes =>
      !ClassName.fileSuffix.isSuffixOf entry.toList || ClassFile.magic.isPrefixOf bytes) = true)
    (relative : ∀ entry ∈ listing.names, entry.toList.head? ≠ some '/') : listing.Sound where
  undamaged := by
    intro entry has
    obtain ⟨bytes, stored, -⟩ := (Option.any_eq_true ..).mp
      (undamaged entry (listing.complete.mem_iff.mpr (of_decide_eq_true has)))
    exact ⟨_, eq_ok_of_isSome (Option.isSome_of_eq_some stored) []⟩
  relative := relative
  marked := by
    intro entry member ends bytes readable
    obtain ⟨found, stored, checked⟩ := (Option.any_eq_true ..).mp (undamaged entry member)
    rw [readable] at stored
    obtain rfl := Option.some.inj stored
    rw [List.isSuffixOf_iff_suffix.mpr ends] at checked
    exact List.isPrefixOf_iff_prefix.mp checked

/-- Lookups of classes of the loader and of its parent, of resources under two names, and two
disposals, of which the first runs a listener that registers another one through the loader. -/
def session (through : Loader) : List (FileTree × Operation) :=
  [.act (.loadClass "A"), .act (.loadClass "a.C"), .act (.findOwnClass "p.B"),
    .act (.getResources "/a.txt"), .findLocalResource "a.txt",
    .act (.listen (.renewing "bye" through)), .act (.loadClass "A"), .act .dispose,
    .act (.loadClass "A"), .act .dispose].map (twoArchives, ·)

/-- The two loaders hand out objects in the same pattern: a class that is loaded again is the same
object, until the loader is disposed. -/
theorem archiveLoader_mirrored :
    let archives := archiveLoader.under (some (.root Graph.oneClass))
    let tables := (archiveLoader.tabulated ⟨2⟩ [firstListing, secondListing]).under
      (some (.root Graph.oneClass))
    tables.answers {} (session tables) =
        (archives.answers {} (session archives)).map (Answer.renumber ⟨1⟩ ⟨2⟩) ∧
      (tables.answers {} (session tables)).map (·.object?.map (·.serial)) =
        [some 0, some 1, some 2, none, none, none, some 0, none, some 3, none] := by
  intro archives tables
  have sound : ∀ listing ∈ [firstListing, secondListing], listing.Sound := by
    intro listing member
    rcases List.mem_cons.mp member with rfl | last
    · exact Listing.sound_of_read (by decide +kernel) (by decide +kernel)
    · rw [List.mem_singleton.mp last]
      exact Listing.sound_of_read (by decide +kernel) (by decide +kernel)
  have apart : ∀ above ∈ some (Loader.root Graph.oneClass), ∀ owner ∈ above.owners,
      owner.id ≠ archiveLoader.id ∧ owner.id ≠ ⟨2⟩ := by
    intro above here owner member
    obtain rfl := Option.some.inj here
    rw [List.mem_singleton.mp member]
    decide
  have unused : ∀ id, State.Unused {} id := fun id => ⟨rfl, rfl, fun _ _ _ kept => nomatch kept⟩
  have mirrored : List.Forall₂
      (fun moment otherMoment => otherMoment.1 = moment.1 ∧
        Operation.Mirrors archives tables moment.2 otherMoment.2)
      (session archives) (session tables) :=
    .cons ⟨rfl, .loadClass (by decide)⟩ <| .cons ⟨rfl, .loadClass (by decide)⟩ <|
      .cons ⟨rfl, .findOwnClass (by decide)⟩ <| .cons ⟨rfl, .getResources _⟩ <|
      .cons ⟨rfl, .findLocalResource _⟩ <| .cons ⟨rfl, .listen (.renewing _ .replaced)⟩ <|
      .cons ⟨rfl, .loadClass (by decide)⟩ <| .cons ⟨rfl, .dispose⟩ <|
      .cons ⟨rfl, .loadClass (by decide)⟩ <| .cons ⟨rfl, .dispose⟩ .nil
  have intact : ∀ moment ∈ session archives, ∀ listing ∈ [firstListing, secondListing],
      listing.element.Intact moment.1 := by
    intro moment member listing among
    obtain ⟨operation, -, rfl⟩ := List.mem_map.mp member
    exact (Classpath.Element.opened_of_openClasspath openClasspath_twoArchives _
      (List.mem_map_of_mem among)).intact
  obtain ⟨same, serials⟩ := Backing.archives_mirrored rfl openClasspath_twoArchives sound apart
    (unused archiveLoader.id) (unused ⟨2⟩) intact mirrored
  refine ⟨same, serials.trans ?_⟩
  decide +kernel

end Isolation
