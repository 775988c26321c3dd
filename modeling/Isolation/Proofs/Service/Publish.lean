import Isolation.Proofs.Classpath.Opened
import Isolation.Proofs.FileTree.Write
import Isolation.Service.Descriptors

/-!
# Published descriptors

The descriptors of services stand at locations of their own
(`Isolation.Service.eq_of_descriptorLocation`), so that none overwrites another: once all are
written, each of them holds the implementation of its service, and its binding has the locator of it
(`Isolation.Service.published_of_publish`). Nothing but the file system can fail the writing
(`Isolation.Service.eq_file_of_publish`).
-/

namespace Isolation

namespace Utf8

/-- The bytes of a text without slashes make a step of a path, unless the text is empty or of dots.
-/
theorem proper_ofString {text : String} (nonempty : text ≠ "") (noDot : text ≠ ".")
    (notUp : text ≠ "..") (noSlash : '/' ∉ text.toList) : FileName.Proper (ofString text) := by
  have differs : ∀ other : String, text ≠ other → ofString text ≠ ofString other := by
    intro other apart same
    exact apart (String.toList_inj.mp (encode_injective same))
  exact ⟨differs "" nonempty, differs "." noDot, differs ".." notUp, slash_notMem_encode noSlash⟩

end Utf8

/-- A name is a relative path. -/
theorem FileName.Proper.isAbsolute {name : FileName} (proper : FileName.Proper name) :
    (Path.mk name).isAbsolute = false := by
  obtain ⟨nonempty, -, -, noSlash⟩ := proper
  obtain ⟨head, rest, rfl⟩ := List.exists_cons_of_ne_nil nonempty
  rw [Path.isAbsolute, List.head?_cons, beq_eq_false_iff_ne]
  intro same
  exact noSlash (List.mem_cons.mpr (.inl (Option.some.inj same).symm))

namespace Service

/-- The names of the directory that descriptors are kept in. -/
def markerNames : Location :=
  [Utf8.ofString "META-INF", Utf8.ofString "services"]

/-- The location of the descriptor of the service at a position. -/
def descriptorLocation (base : Location) (position : Nat) (service : Declaration) : Location :=
  base ++ (Utf8.ofString (toString position) :: markerNames ++
    [Utf8.ofString service.interfaceName])

/-- A position is the name of a directory. -/
theorem proper_position (position : Nat) :
    FileName.Proper (Utf8.ofString (toString position)) := by
  have digits : (toString position).toList = Nat.toDigits 10 position := Nat.toList_repr
  have isDigit : ∀ c ∈ (toString position).toList, c.isDigit = true := by
    intro c member
    rw [digits] at member
    exact Nat.isDigit_of_mem_toDigits (by decide) (by decide) member
  have noDot : '.' ∉ (toString position).toList :=
    fun member => absurd (isDigit _ member) (by decide)
  refine Utf8.proper_ofString ?_ ?_ ?_ fun member => absurd (isDigit _ member) (by decide)
  · intro empty
    rw [empty] at digits
    exact Nat.toDigits_ne_nil digits.symm
  · intro same
    rw [same] at noDot
    exact noDot (by decide)
  · intro same
    rw [same] at noDot
    exact noDot (by decide)

/-- Positions are told apart by their names. -/
theorem eq_of_ofString_toString {position other : Nat}
    (same : Utf8.ofString (toString position) = Utf8.ofString (toString other)) :
    position = other := by
  have digits : Nat.toDigits 10 position = Nat.toDigits 10 other := by
    rw [← Nat.toList_repr, ← Nat.toList_repr]
    exact Utf8.encode_injective same
  rw [← Nat.ofDigitChars_ten_toDigits (n := position), digits, Nat.ofDigitChars_ten_toDigits]

/-- An interface is the name of a file. -/
theorem Declaration.proper (service : Declaration) :
    FileName.Proper (Utf8.ofString service.interfaceName) := by
  have plain := service.plain
  simp only [isFileName, Bool.and_eq_true, Bool.not_eq_true', bne_iff_ne] at plain
  obtain ⟨⟨noSeparator, noDot⟩, notUp⟩ := plain
  apply Utf8.proper_ofString service.named noDot notUp
  intro slash
  have separates : service.interfaceName.toList.any (fun c => c == '/' || c == '\\') = true :=
    List.any_eq_true.mpr ⟨'/', slash, rfl⟩
  rw [separates] at noSeparator
  cases noSeparator

private theorem proper_markerNames : Location.Proper markerNames := by
  intro name member
  rcases List.mem_cons.mp member with rfl | later
  · exact Utf8.proper_ofString (by decide) (by decide) (by decide) (by decide)
  · rw [List.mem_singleton.mp later]
    exact Utf8.proper_ofString (by decide) (by decide) (by decide) (by decide)

/-- The location of a descriptor is proper if the directory for descriptors has a proper one. -/
theorem proper_descriptorLocation {base : Location} (proper : base.Proper) (position : Nat)
    (service : Declaration) : (descriptorLocation base position service).Proper := by
  apply proper.append
  intro name member
  rcases List.mem_append.mp member with directory | file
  · rcases List.mem_cons.mp directory with rfl | inMarker
    · exact proper_position position
    · exact proper_markerNames name inMarker
  · rw [List.mem_singleton.mp file]
    exact service.proper

/-- Descriptors at two positions stand at two locations. -/
theorem eq_of_descriptorLocation {base : Location} {position other : Nat}
    {service otherService : Declaration}
    (same : descriptorLocation base position service =
      descriptorLocation base other otherService) : position = other := by
  have names := List.append_cancel_left same
  exact eq_of_ofString_toString (List.cons.inj names).1

/-- The path of a descriptor is that of its location. -/
theorem descriptorPath_eq {base : Location} (proper : base.Proper) (position : Nat)
    (service : Declaration) :
    descriptorPath (Location.path base) position service =
      Location.path (descriptorLocation base position service) := by
  have properNumber := proper_position position
  have properBelow : Location.Proper (base ++ [Utf8.ofString (toString position)]) :=
    proper.append fun name member => List.mem_singleton.mp member ▸ properNumber
  have below : (Location.path base).child (toString position) =
      Location.path (base ++ [Utf8.ofString (toString position)]) := by
    rw [Path.child, Path.ofString, Path.join_path proper properNumber.isAbsolute,
      Path.path_concat _ _ (List.cons_ne_nil _ _), List.flatMap_singleton]
  have markerBytes : Utf8.ofString marker =
      Utf8.ofString "META-INF" ++ Path.slash :: Utf8.ofString "services" ++ [Path.slash] := by
    decide
  have relativeMarker : (Path.ofString marker).isAbsolute = false := by decide
  have relative : (Path.ofString service.interfaceName).isAbsolute = false :=
    service.proper.isAbsolute
  have directory : ((Location.path base).child (toString position)).child marker =
      ⟨(base ++ [Utf8.ofString (toString position)]).flatMap (Path.slash :: ·) ++
        markerNames.flatMap (Path.slash :: ·) ++ [Path.slash]⟩ := by
    rw [below, Path.child, Path.join_path properBelow relativeMarker, Path.ofString, markerBytes,
      markerNames]
    simp
  rw [descriptorPath, directory, Path.child, Path.join,
    if_neg (by rw [relative]; exact Bool.false_ne_true), if_pos (.inr List.getLast?_concat),
    descriptorLocation,
    Path.path_concat _ _ (List.append_ne_nil_of_left_ne_nil (List.cons_ne_nil _ _) _),
    Path.ofString]
  simp

/-- Whether a binding has the locator of a descriptor that stands at its location and holds the
implementation of the service. -/
structure Published (files : FileTree) (base : Location) (position : Nat) (service : Declaration)
    (binding : Binding) : Prop where
  bound : binding.interfaceName = service.interfaceName
  located : Locator.ofFile? (Location.path (descriptorLocation base position service)) =
    some binding.locator
  written : files.node? (descriptorLocation base position service) =
    some (.file (descriptorContent service))

section Publish

variable {files after : FileTree} {base : Location} {position : Nat} {service : Declaration}

/-- How a list of descriptors is written: the first one fails, or the others are written after
it. -/
theorem writeDescriptors_cons_cases {root : Path} {services : List Declaration}
    {result : Except AssemblyError (List Binding)}
    (written : writeDescriptors files root position (service :: services) = (after, result)) :
    (∃ error, writeDescriptor files (descriptorPath root position service) service =
        (after, .error error) ∧ result = .error error) ∨
      ∃ between binding others,
        writeDescriptor files (descriptorPath root position service) service =
          (between, .ok binding) ∧
        writeDescriptors between root (position + 1) services = (after, others) ∧
        result = others.map (binding :: ·) := by
  unfold writeDescriptors at written
  split at written
  · rename_i error first
    obtain ⟨rfl, rfl⟩ := Prod.mk.inj written
    exact .inl ⟨error, first, rfl⟩
  · rename_i between binding first
    split at written
    · rename_i error later
      obtain ⟨rfl, rfl⟩ := Prod.mk.inj written
      exact .inr ⟨between, binding, .error error, first, later, rfl⟩
    · rename_i others later
      obtain ⟨rfl, rfl⟩ := Prod.mk.inj written
      exact .inr ⟨between, binding, .ok others, first, later, rfl⟩

/-- How a list of descriptors is written, if nothing fails. -/
theorem writeDescriptors_cons_eq_ok {root : Path} {services : List Declaration}
    {bindings : List Binding}
    (written : writeDescriptors files root position (service :: services) =
      (after, .ok bindings)) :
    ∃ between binding others,
      writeDescriptor files (descriptorPath root position service) service =
        (between, .ok binding) ∧
      writeDescriptors between root (position + 1) services = (after, .ok others) ∧
      bindings = binding :: others := by
  rcases writeDescriptors_cons_cases written with
    ⟨error, -, failed⟩ | ⟨between, binding, error | others, first, later, joined⟩
  · cases failed
  · cases joined
  · exact ⟨between, binding, others, first, later, Except.ok.inj joined⟩

/-- How services are published: the directory cannot be made or found, or the descriptors are
written below it. -/
theorem publish_cases {directory : Path} {services : List Declaration}
    {result : Except AssemblyError (List Binding)}
    (published : publish files directory services = (after, result)) :
    (∃ error, result = .error (.file error) ∧ after = (files.ensureDirectory directory).1) ∨
      ∃ base : Location, base.Proper ∧
        (files.ensureDirectory directory).1.canonical directory = .ok (Location.path base) ∧
        writeDescriptors (files.ensureDirectory directory).1 (Location.path base) 0 services =
          (after, result) := by
  unfold publish at published
  split at published
  · rename_i error made
    obtain ⟨rfl, rfl⟩ := Prod.mk.inj published
    exact .inl ⟨error, rfl, by rw [made]⟩
  · rename_i ready made
    rw [made]
    split at published
    · rename_i error lost
      obtain ⟨rfl, rfl⟩ := Prod.mk.inj published
      exact .inl ⟨error, rfl, rfl⟩
    · rename_i root followed
      obtain ⟨base, node, rfl, stands⟩ := FileTree.canonical_eq_ok followed
      exact .inr ⟨base, FileTree.proper_of_node? stands, followed, published⟩

private theorem grows_ensureParent (files : FileTree) (path : Path) :
    files.Grows (ensureParent files path).1 := by
  unfold ensureParent
  cases path.parent? with
  | none => exact .refl files
  | some parent => exact FileTree.grows_ensureDirectory files parent

private theorem bindDescriptor_eq_ok {path : Path} {binding : Binding}
    (bound : bindDescriptor path service = .ok binding) :
    Locator.ofFile? path = some binding.locator ∧
      binding.interfaceName = service.interfaceName := by
  unfold bindDescriptor at bound
  cases located : Locator.ofFile? path with
  | none =>
    rw [located] at bound
    cases bound
  | some locator =>
    rw [located] at bound
    simp only [Binding.make, dif_neg service.named] at bound
    rw [← Except.ok.inj bound]
    exact ⟨rfl, rfl⟩

/-- The path of a location has a locator, so an interface can be bound to it. -/
theorem exists_bindDescriptor (location : Location) (service : Declaration) :
    ∃ binding, bindDescriptor (Location.path location) service = .ok binding := by
  have absolute := Path.isAbsolute_path location
  unfold bindDescriptor
  simp only [Locator.ofFile?, Url.ofFilePath?, if_pos absolute, Option.map_some, Binding.make,
    dif_neg service.named]
  exact ⟨_, rfl⟩

/-- One descriptor that is written stands where its binding says, and all else where it stood. -/
theorem published_of_writeDescriptor (proper : base.Proper) {binding : Binding}
    (written :
      writeDescriptor files (descriptorPath (Location.path base) position service) service =
        (after, .ok binding)) :
    Published after base position service binding ∧ files.KeepsDirectories after ∧
      ∀ place node, place ≠ descriptorLocation base position service →
        files.node? place = some node → after.node? place = some node := by
  rw [descriptorPath_eq proper] at written
  have grown := grows_ensureParent files (Location.path (descriptorLocation base position service))
  unfold writeDescriptor at written
  split at written
  · exact nomatch (Prod.mk.inj written).2
  · rename_i ready made
    rw [made] at grown
    split at written
    · exact nomatch (Prod.mk.inj written).2
    · rename_i stored kept
      obtain ⟨rfl, bound⟩ := Prod.mk.inj written
      obtain ⟨located, named⟩ := bindDescriptor_eq_ok bound
      have properPlace := proper_descriptorLocation proper position service
      have below : descriptorLocation base position service ≠ [] :=
        List.append_ne_nil_of_right_ne_nil base (List.cons_ne_nil _ _)
      refine ⟨⟨named, located, FileTree.node?_write properPlace below kept⟩, ?_, ?_⟩
      · intro place directory
        exact FileTree.keepsDirectories_write properPlace below kept place
          (grown place _ directory)
      · intro place node elsewhere stands
        rw [FileTree.node?_write_of_ne properPlace below kept elsewhere]
        exact grown place node stands

/-- Written descriptors stand where their bindings say, and everything that stood at no descriptor's
location stands there still. -/
theorem published_of_writeDescriptors (proper : base.Proper) {services : List Declaration}
    {bindings : List Binding}
    (written : writeDescriptors files (Location.path base) position services =
      (after, .ok bindings)) :
    (∀ (k : Nat) (binding : Binding), bindings[k]? = some binding → ∃ service,
        services[k]? = some service ∧ Published after base (position + k) service binding) ∧
      files.KeepsDirectories after ∧
      ∀ place node, files.node? place = some node →
        (∀ k service, position ≤ k → place ≠ descriptorLocation base k service) →
        after.node? place = some node := by
  induction services generalizing files position bindings with
  | nil =>
    obtain ⟨rfl, same⟩ := Prod.mk.inj written
    obtain rfl := Except.ok.inj same
    exact ⟨fun k binding found => (nomatch found), fun place directory => directory,
      fun place node stands _ => stands⟩
  | cons service services ih =>
    obtain ⟨between, binding, others, first, later, rfl⟩ := writeDescriptors_cons_eq_ok written
    obtain ⟨published, directories, grown⟩ := published_of_writeDescriptor proper first
    obtain ⟨publishedLater, directoriesLater, kept⟩ := ih later
    refine ⟨?_, fun place directory => directoriesLater place (directories place directory), ?_⟩
    · intro k other found
      cases k with
      | zero =>
        obtain rfl := Option.some.inj found
        refine ⟨service, rfl, published.bound, published.located, ?_⟩
        apply kept _ _ published.written
        intro k otherService larger same
        have equal := eq_of_descriptorLocation same
        omega
      | succ k =>
        obtain ⟨service, declared, publishedThere⟩ := publishedLater k other found
        refine ⟨service, declared, ?_⟩
        rw [← Nat.add_assoc, Nat.add_right_comm]
        exact publishedThere
    · intro place node stands apart
      have grew := grown place node (apart position service (Nat.le_refl _)) stands
      refine kept place node grew ?_
      exact fun k other larger => apart k other (Nat.le_of_succ_le larger)

/-- **Once all services are published, every binding leads to its own descriptor**, and no directory
is replaced. -/
theorem published_of_publish {directory : Path} {services : List Declaration}
    {bindings : List Binding}
    (published : publish files directory services = (after, .ok bindings)) :
    files.KeepsDirectories after ∧ ∃ base : Location, base.Proper ∧
      ∀ (k : Nat) (binding : Binding), bindings[k]? = some binding → ∃ service,
        services[k]? = some service ∧ Published after base k service binding := by
  have grown := FileTree.grows_ensureDirectory files directory
  rcases publish_cases published with ⟨error, failed, -⟩ | ⟨base, proper, -, written⟩
  · cases failed
  · obtain ⟨all, directories, -⟩ := published_of_writeDescriptors proper written
    refine ⟨fun place directory => directories place (grown place _ directory), base, proper, ?_⟩
    intro k binding found
    obtain ⟨service, declared, publishedThere⟩ := all k binding found
    rw [Nat.zero_add] at publishedThere
    exact ⟨service, declared, publishedThere⟩

section Failure

variable {error : AssemblyError}

/-- Only the file system can fail the writing of a descriptor. -/
theorem eq_file_of_writeDescriptor (proper : base.Proper)
    (failed :
      writeDescriptor files (descriptorPath (Location.path base) position service) service =
        (after, .error error)) : ∃ reason, error = .file reason := by
  rw [descriptorPath_eq proper] at failed
  unfold writeDescriptor at failed
  split at failed
  · exact ⟨_, (Except.error.inj (Prod.mk.inj failed).2).symm⟩
  · split at failed
    · exact ⟨_, (Except.error.inj (Prod.mk.inj failed).2).symm⟩
    · obtain ⟨binding, bound⟩ :=
        exists_bindDescriptor (descriptorLocation base position service) service
      rw [bound] at failed
      exact nomatch (Prod.mk.inj failed).2

private theorem eq_file_of_writeDescriptors (proper : base.Proper) {services : List Declaration}
    (failed : writeDescriptors files (Location.path base) position services =
      (after, .error error)) : ∃ reason, error = .file reason := by
  induction services generalizing files position with
  | nil => exact nomatch (Prod.mk.inj failed).2
  | cons service services ih =>
    rcases writeDescriptors_cons_cases failed with
      ⟨other, first, same⟩ | ⟨between, binding, other | others, first, later, joined⟩
    · obtain rfl := Except.error.inj same
      exact eq_file_of_writeDescriptor proper first
    · obtain rfl := Except.error.inj joined
      exact ih later
    · cases joined

/-- **Only the file system can fail the publishing of services**: every descriptor has a locator,
and every interface can be bound. -/
theorem eq_file_of_publish {directory : Path} {services : List Declaration}
    (failed : publish files directory services = (after, .error error)) :
    ∃ reason, error = .file reason := by
  rcases publish_cases failed with ⟨reason, same, -⟩ | ⟨base, proper, -, written⟩
  · exact ⟨reason, Except.error.inj same⟩
  · exact eq_file_of_writeDescriptors proper written

end Failure

end Publish

end Service

end Isolation
