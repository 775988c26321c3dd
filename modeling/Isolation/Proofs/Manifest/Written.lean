import Isolation.Manifest.Document
import Isolation.Proofs.Json.Written
import Isolation.Proofs.Text.Utf8

/-!
# Manifests are read back as they were written

A service that may be declared, search rules and a manifest are read back from their documents, with
every field, every list in its order and every binding of a package
(`Isolation.Service.Declaration.reads_toJson`, `Isolation.SearchRules.reads_toJson`,
`Isolation.Manifest.readAll_toJson?`).
-/

namespace Isolation

open Json

private theorem Path.display_ofString (text : String) : (ofString text).display = text := by
  rw [display, Utf8.toStringLossy, ofString, Utf8.ofString, Utf8.decodeLossy_encode,
    String.ofList_toList]

private theorem Path.toString?_ofString (text : String) :
    (ofString text).toString? = some text := by
  have decoded : Utf8.decode? (Utf8.encode text.toList) = some text.toList := by
    rw [Utf8.decode?, Utf8.decodeEach_encode, List.mapM_map]
    exact List.mapM_pure.trans (congrArg some (List.map_id _))
  change (Utf8.decode? (Utf8.encode text.toList)).map String.ofList = some text
  rw [decoded, Option.map_some, String.ofList_toList]

private theorem Path.mapM_toString? (texts : List String) :
    (texts.map ofString).mapM toString? = some texts := by
  have back : toString? ∘ ofString = some := funext toString?_ofString
  rw [List.mapM_map, back]
  exact List.mapM_pure.trans (congrArg some (List.map_id texts))

namespace Service.Declaration

/-- A declared service may be declared again. -/
theorem make_declared (service : Declaration) :
    make service.interfaceName service.implementation = .ok service := by
  rw [make, dif_neg service.named, dif_pos service.plain, dif_neg service.implemented]

private theorem reads_toJson (service : Declaration) : Reads read service service.toJson := by
  have fills : Fills fields
      [("service_interface", .string service.interfaceName),
        ("service_implementation", .string service.implementation)]
      {} ⟨some service.interfaceName, some service.implementation⟩ :=
    .next rfl rfl (.field (reads_string _ _)) <|
    .next rfl rfl (.field (reads_string _ _)) <| .done _
  intro rest
  have made := service.make_declared
  rw [read, toJson, fills.reads rfl]
  simp only [bind, Except.bind, Option.getD_some, made]
  rfl

end Service.Declaration

namespace SearchRules

private theorem ofName?_name (order : SearchOrder) :
    SearchOrder.ofName? order.name = some order := by
  cases order <;> rfl

private theorem reads_order (order : SearchOrder) : Reads readOrder order (.string order.name) :=
  reads_variant (ofName?_name order) _

/-- The orders of packages as a document. -/
def packagesJson (packages : NameMap SearchOrder) : Json :=
  .object (packages.entries.map fun binding => (binding.1, .string binding.2.name))

private theorem reads_packages (packages : NameMap SearchOrder) :
    Reads (readMap readOrder) packages (packagesJson packages) :=
  .map (List.forall₂_map_right_iff.mpr
    (List.forall₂_same.mpr fun binding _ => ⟨rfl, reads_order binding.2⟩))

private theorem toJson_eq (rules : SearchRules) :
    rules.toJson = .object
      [("default", .string rules.standard.name), ("packages", packagesJson rules.packages)] :=
  rfl

private theorem reads_toJson (rules : SearchRules) : Reads read rules rules.toJson := by
  have fills : Fills fields
      [("default", .string rules.standard.name), ("packages", packagesJson rules.packages)]
      {} ⟨some rules.standard, some rules.packages⟩ :=
    .next rfl rfl (.field (reads_order _)) <|
    .next rfl rfl (.field (reads_packages _)) <| .done _
  intro rest
  rw [read, toJson_eq, fills.reads rfl]
  rfl

end SearchRules

namespace Manifest

private theorem reads_texts (texts : List String) :
    Reads (readList (readString "a string")) texts (textsJson texts) :=
  .list_map fun text _ => reads_string _ text

private theorem reads_classpath (texts : List String) :
    Reads (readList readPath) (texts.map Path.ofString) (textsJson texts) :=
  .list (List.forall₂_map_left_iff.mpr
    (List.forall₂_map_right_iff.mpr (List.forall₂_same.mpr fun text _ => reads_path text)))

private theorem reads_services (services : List Service.Declaration) :
    Reads (readList Service.Declaration.read) services (.array (services.map (·.toJson))) :=
  .list_map fun service _ => service.reads_toJson

/-- The member that gives the version, if there is one. -/
theorem fills_version (version : Option String) (draft : Draft) :
    Fills fields (version.map fun version => ("version", Json.string version)).toList
      { draft with version := none } { draft with version := version.map some } := by
  cases version with
  | none => exact .done _
  | some version => exact .next rfl rfl (.field (.optional (reads_string _ _) nofun)) (.done _)

/-- The member that gives the setting for reports, if there is one. -/
theorem fills_verbose (verbose : Option Bool) (draft : Draft) :
    Fills fields (verbose.map fun verbose => ("verbose_classloading", Json.boolean verbose)).toList
      { draft with verbose := none } { draft with verbose := verbose.map some } := by
  cases verbose with
  | none => exact .done _
  | some verbose => exact .next rfl rfl (.field (.optional (reads_boolean _) nofun)) (.done _)

/-- The draft that holds all of a manifest; what a manifest may leave out is given where it has
it. -/
def Draft.ofManifest (manifest : Manifest) : Draft where
  artifact := some manifest.artifact
  name := some manifest.name
  version := manifest.version.map some
  classpath := some manifest.classpath
  packages := some manifest.packages
  resources := some manifest.resources
  services := some manifest.services
  rules := some manifest.rules
  verbose := manifest.verbose.map some

private theorem Draft.manifest_ofManifest (manifest : Manifest) :
    (Draft.ofManifest manifest).manifest = manifest := by
  obtain ⟨artifact, name, version, classpath, packages, resources, services, rules, verbose⟩ :=
    manifest
  cases version <;> cases verbose <;> rfl

/-- A manifest whose paths are texts is a document that is read as the manifest. -/
theorem reads_toJson? {manifest : Manifest} {texts : List String}
    (written : manifest.classpath = texts.map Path.ofString) :
    ∃ document, manifest.toJson? = some document ∧ Reads read manifest document := by
  have given : manifest.classpath.mapM Path.toString? = some texts := by
    rw [written, Path.mapM_toString?]
  have classpath : Reads (readList readPath) manifest.classpath (textsJson texts) :=
    written ▸ reads_classpath texts
  have identity : Fills fields
      [("artifact_id", .string manifest.artifact), ("name", .string manifest.name)] {}
      { artifact := some manifest.artifact, name := some manifest.name } :=
    .next rfl rfl (.field (reads_string _ _)) <|
    .next rfl rfl (.field (reads_string _ _)) <| .done _
  have contents : Fills fields
      [("classpath", textsJson texts), ("exported_packages", textsJson manifest.packages),
        ("exported_resources", textsJson manifest.resources),
        ("exported_services", .array (manifest.services.map (·.toJson))),
        ("lookup_policy", manifest.rules.toJson)]
      { artifact := some manifest.artifact, name := some manifest.name,
        version := manifest.version.map some }
      { Draft.ofManifest manifest with verbose := none } :=
    .next rfl rfl (.field classpath) <|
    .next rfl rfl (.field (reads_texts _)) <|
    .next rfl rfl (.field (reads_texts _)) <|
    .next rfl rfl (.field (reads_services _)) <|
    .next rfl rfl (.field manifest.rules.reads_toJson) <| .done _
  have fills := ((identity.append (fills_version manifest.version
    { artifact := some manifest.artifact, name := some manifest.name })).append contents).append
    (fills_verbose manifest.verbose (Draft.ofManifest manifest))
  refine ⟨_, by rw [toJson?, given]; rfl, fun rest => ?_⟩
  rw [read, fills.reads rfl]
  exact congrArg (fun manifest => Except.ok (manifest, rest)) (Draft.manifest_ofManifest _)

/-- **A manifest that was written is read back as it was.** -/
theorem readAll_toJson? {manifest : Manifest}
    (unicode : ∀ path ∈ manifest.classpath, ∃ text, path = Path.ofString text) :
    ∃ document, manifest.toJson? = some document ∧
      readAll read document.compact = .ok manifest := by
  have shown : ∀ path ∈ manifest.classpath, Path.ofString path.display = path := by
    intro path member
    obtain ⟨text, rfl⟩ := unicode path member
    rw [Path.display_ofString]
  have written : manifest.classpath = (manifest.classpath.map Path.display).map Path.ofString := by
    rw [List.map_map]
    exact ((List.map_congr_left shown).trans (List.map_id _)).symm
  obtain ⟨document, given, reads⟩ := reads_toJson? written
  exact ⟨document, given, reads.readAll⟩

/-- A manifest with controls, quotes and characters of every length, and without a version. -/
def oddManifest : Manifest where
  artifact := "app\x00\x1f"
  name := "\"loja\" \\ 𝄞"
  classpath := [.ofString "läden/𝄞.jar", .ofString ""]
  packages := ["\t", "org.exemplo"]
  services := [⟨"org.exemplo.Loja", "é\x7f", by decide, by decide, by decide⟩]
  rules := ⟨.childOnly, .ofList [("z", .childFirst), ("a\n", .parentFirst)]⟩
  verbose := some false

/-- A manifest with quotes, controls and characters beyond ASCII can be written, and is read back. -/
theorem oddManifest_comes_back :
    (∀ path ∈ oddManifest.classpath, ∃ text, path = Path.ofString text) ∧
      ∃ document, oddManifest.toJson? = some document ∧
        readAll read document.compact = .ok oddManifest := by
  have unicode : ∀ path ∈ oddManifest.classpath, ∃ text, path = Path.ofString text := by
    intro path member
    rcases List.mem_pair.mp member with rfl | rfl
    · exact ⟨_, rfl⟩
    · exact ⟨_, rfl⟩
  exact ⟨unicode, readAll_toJson? unicode⟩

end Manifest

end Isolation
