import Isolation.Proofs.Assembly.ReadBack
import Isolation.Proofs.Loader.ResourceIsolation
import Isolation.Proofs.Service.Located

/-!
# The services of an assembled artifact

An assembled artifact answers for its services before anything is exported or searched: a name that
asks for the interface of a service is answered with the descriptors of that interface, the one at
the first position first. A name that asks for no service of the artifact is answered as if the
artifact had none (`Isolation.Assembly.services_answered`).
-/

namespace Isolation

namespace Wrapper

/-- A wrapper with the same exports, and no services. -/
def withoutServices (wrapper : Wrapper) : Wrapper :=
  { wrapper with services := {} }

variable {wrapper : Wrapper} {name : String}

/-- A name that asks for no bound interface is answered as if no interface were bound. -/
theorem serviceLocators_withoutServices
    (unbound : ∀ interfaceName, Service.interfaceOf? name = some interfaceName →
      wrapper.services.all interfaceName = []) (artifact : String) :
    wrapper.serviceLocators artifact name =
      wrapper.withoutServices.serviceLocators artifact name := by
  unfold serviceLocators
  cases asked : Service.interfaceOf? name with
  | none => rfl
  | some interfaceName =>
    simp only [unbound interfaceName asked]
    rfl

private theorem serviceLocator?_withoutServices
    (unbound : ∀ interfaceName, Service.interfaceOf? name = some interfaceName →
      wrapper.services.all interfaceName = []) (artifact : String) :
    wrapper.serviceLocator? artifact name =
      wrapper.withoutServices.serviceLocator? artifact name := by
  unfold serviceLocator?
  cases asked : Service.interfaceOf? name with
  | none => rfl
  | some interfaceName =>
    have none' : wrapper.services.first? interfaceName = none := by
      rw [Service.Table.first?_eq_head?, unbound interfaceName asked]
      rfl
    simp only [none']
    rfl

end Wrapper

namespace Loader

variable {files : FileTree} {wrapper : Wrapper} {name interfaceName : String}

/-- A wrapper answers for a service that it has, whatever it exports and whatever is behind it. -/
theorem answers_of_bound (asked : Service.interfaceOf? name = some interfaceName) {first : Locator}
    {others : List Locator} (bound : wrapper.services.all interfaceName = first :: others)
    (inner : Loader) :
    ((filtering wrapper inner).getResources files name).answer = .ok (first :: others) ∧
      ((filtering wrapper inner).getResource? files name).answer = some first := by
  have all : (wrapper.serviceLocators inner.artifact name).answer = first :: others := by
    rw [Wrapper.answer_serviceLocators, asked]
    exact bound
  constructor
  · rw [answer_getResources_filtering, all]
    exact if_neg (List.cons_ne_nil first others)
  · rw [answer_getResource?_filtering, Wrapper.serviceLocator?_eq_head?, all]
    rfl

/-- A wrapper that is asked for no service of its own answers as one without services. -/
theorem answers_of_unbound
    (unbound : ∀ interfaceName, Service.interfaceOf? name = some interfaceName →
      wrapper.services.all interfaceName = []) (inner : Loader) :
    (filtering wrapper inner).getResources files name =
        (filtering wrapper.withoutServices inner).getResources files name ∧
      (filtering wrapper inner).getResource? files name =
        (filtering wrapper.withoutServices inner).getResource? files name := by
  constructor
  · simp only [getResources, Wrapper.serviceLocators_withoutServices unbound inner.artifact]
    rfl
  · simp only [getResource?, Wrapper.serviceLocator?_withoutServices unbound inner.artifact]
    rfl

end Loader

namespace Assembly

variable {manifest : Manifest} {files after : FileTree} {usual : Verbosity} {id free : LoaderId}
  {directory : Path} {assembly : Assembly}

/-- **An assembled artifact answers for its services.** -/
theorem services_answered
    (assembled : manifest.assemble files usual id directory = ⟨after, free, .ok assembly⟩)
    {before : String} (unmarked : ¬ Service.marker.toList <:+: before.toList)
    (interfaceName : String) :
    let name := before ++ Service.marker ++ interfaceName
    (∃ root, after.canonical directory = .ok root ∧
        ((∃ service ∈ manifest.services, service.interfaceName = interfaceName) →
          ∃ first others,
            (first :: others).map some =
              (manifest.services.findIdxs (·.interfaceName == interfaceName)).map (fun k =>
                Locator.ofFile?
                  (root.child (toString k ++ "/" ++ Service.marker ++ interfaceName))) ∧
            ∀ later, (assembly.loader.getResources later name).answer = .ok (first :: others) ∧
              (assembly.loader.getResource? later name).answer = some first)) ∧
      ((∀ service ∈ manifest.services, service.interfaceName ≠ interfaceName) →
        let bare := Loader.filtering assembly.wrapper.withoutServices (.root assembly.backing)
        ∀ later, assembly.loader.getResources later name = bare.getResources later name ∧
          assembly.loader.getResource? later name = bare.getResource? later name) := by
  intro name
  obtain ⟨elements, bindings, -, published, rfl⟩ := Manifest.assemble_eq_ok assembled
  obtain ⟨root, followed, located⟩ := Service.all_of_publish published
  have asked := Service.interfaceOf?_marked unmarked interfaceName
  refine ⟨⟨root, followed, ?_⟩, ?_⟩
  · rintro ⟨service, declared, rfl⟩
    rw [if_neg service.named] at asked
    have positions := located service.interfaceName
    cases bound : (Service.Table.mk bindings).all service.interfaceName with
    | nil =>
      rw [bound] at positions
      have nowhere := List.findIdxs_eq_nil_iff.mp (List.map_eq_nil_iff.mp positions.symm)
      exact absurd (nowhere service declared) (by rw [beq_self_eq_true]; exact nofun)
    | cons first others =>
      rw [bound] at positions
      exact ⟨first, others, positions, fun later => Loader.answers_of_bound asked bound _⟩
  · intro undeclared bare later
    refine Loader.answers_of_unbound ?_ _
    intro other askedFor
    have nowhere : manifest.services.findIdxs (·.interfaceName == interfaceName) = [] :=
      List.findIdxs_eq_nil_iff.mpr fun service declared =>
        beq_eq_false_iff_ne.mpr (undeclared service declared)
    have positions := located interfaceName
    rw [nowhere, List.map_nil, List.map_eq_nil_iff] at positions
    rw [asked] at askedFor
    split at askedFor
    · cases askedFor
    · obtain rfl := Option.some.inj askedFor
      exact positions

/-- An artifact with two services of one interface, and one of another between them. -/
def threeServices : Manifest where
  artifact := "app"
  name := "app"
  classpath := [.ofString "/d"]
  services := [⟨"Store", "Disk", by decide, by decide, by decide⟩,
    ⟨"Clock", "Wall", by decide, by decide, by decide⟩,
    ⟨"Store", "Ram", by decide, by decide, by decide⟩]

/-- The services of one interface are answered from the first and the third position, also behind a
part of a name that is nearly the marker; an interface that no service has is left to the classpath.
-/
theorem threeServices_are_answered :
    ∃ after free assembly first third,
      threeServices.assemble Loader.publicFiles ⟨false⟩ ⟨0⟩ (.ofString "/d/../services") =
        ⟨after, free, .ok assembly⟩ ∧
      Locator.ofFile? (.ofString "/services/0/META-INF/services/Store") = some first ∧
      Locator.ofFile? (.ofString "/services/2/META-INF/services/Store") = some third ∧
      (∀ later, let stores := "META-INF/" ++ Service.marker ++ "Store"
        (assembly.loader.getResources later stores).answer = .ok [first, third] ∧
          (assembly.loader.getResource? later stores).answer = some first) ∧
      ∀ later, let codecs := "META-INF/" ++ Service.marker ++ "Codec"
        assembly.loader.getResources later codecs =
          (Loader.filtering assembly.wrapper.withoutServices (.root assembly.backing)).getResources
            later codecs := by
  have succeeds : (threeServices.assemble Loader.publicFiles ⟨false⟩ ⟨0⟩
      (.ofString "/d/../services")).result.toOption.isSome = true := by
    decide +kernel
  have leads : ((threeServices.assemble Loader.publicFiles ⟨false⟩ ⟨0⟩
      (.ofString "/d/../services")).files.canonical (.ofString "/d/../services")).toOption =
        some (.ofString "/services") := by
    decide +kernel
  generalize assembled : threeServices.assemble Loader.publicFiles ⟨false⟩ ⟨0⟩
    (.ofString "/d/../services") = attempt at succeeds leads
  obtain ⟨after, free, error | assembly⟩ := attempt
  · cases succeeds
  · have unmarked : ¬ Service.marker.toList <:+: "META-INF/".toList := by
      decide +kernel
    obtain ⟨⟨root, followed, bound⟩, -⟩ := services_answered assembled unmarked "Store"
    obtain ⟨-, unbound⟩ := services_answered assembled unmarked "Codec"
    simp only at leads
    rw [followed] at leads
    obtain rfl := Option.some.inj leads
    have asked : threeServices.services.findIdxs (·.interfaceName == "Store") = [0, 2] := by
      decide +kernel
    have place : ∀ k ∈ [0, 2], (Path.ofString "/services").child
        (toString k ++ "/" ++ Service.marker ++ "Store") =
          .ofString ("/services/" ++ toString k ++ "/META-INF/services/Store") := by
      decide +kernel
    obtain ⟨first, others, positions, answers⟩ := bound ⟨_, List.mem_cons_self, rfl⟩
    rw [asked, List.map_congr_left fun k member => congrArg Locator.ofFile? (place k member)]
      at positions
    obtain ⟨firstAt, othersAt⟩ := List.cons.inj positions
    obtain ⟨third, rest, rfl, thirdAt, none'⟩ := List.map_eq_cons_iff.mp othersAt
    obtain rfl := List.map_eq_nil_iff.mp none'
    refine ⟨after, free, assembly, first, third, rfl, firstAt.symm, thirdAt.symm, answers, ?_⟩
    intro later
    exact (unbound (by decide) later).1

end Assembly

end Isolation
