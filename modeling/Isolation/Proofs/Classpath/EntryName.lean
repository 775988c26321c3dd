import Isolation.Classpath.Element
import Isolation.Proofs.Path.Steps
import Isolation.Proofs.Text.Separated
import Isolation.Proofs.Text.Utf8

/-!
# Names of entries as paths

A name that stays inside its element is a relative path that never leads upwards
(`Isolation.Classpath.downward_of_isRelativeName`). Its steps are the bytes of those of its segments
that are neither empty nor a dot (`Isolation.Path.steps_ofString`).
-/

namespace Isolation

open Text

namespace Utf8

/-- Encoded texts are the same only if the texts are. -/
theorem encode_injective {text other : List Char} (same : encode text = encode other) :
    text = other := by
  rw [← decodeLossy_encode text, same, decodeLossy_encode]

private theorem toNat_slash : Path.slash.toNat = '/'.toNat := rfl

/-- A slash in an encoded text is the encoding of a slash. -/
theorem slash_notMem_encode {text : List Char} (absent : '/' ∉ text) :
    Path.slash ∉ encode text := by
  intro member
  obtain ⟨c, inside, here⟩ := List.mem_flatMap.mp member
  have number := toNat_eq_of_mem_utf8EncodeChar here (by decide)
  obtain rfl : c = '/' := Char.toNat_inj.mp (number.trans toNat_slash)
  exact absent inside

/-- Splitting an encoded text at slashes is splitting the text. -/
theorem splitOn_encode (text : List Char) :
    (encode text).splitOn Path.slash = (text.splitOn '/').map encode := by
  have joined : encode text = [Path.slash].intercalate ((text.splitOn '/').map encode) := by
    have write := intercalate_flatMap ['/'] (text.splitOn '/') String.utf8EncodeChar
    rw [List.intercalate_splitOn] at write
    exact write
  rw [joined]
  refine List.splitOn_intercalate Path.slash ?_ ?_
  · intro bytes member
    obtain ⟨part, inside, rfl⟩ := List.mem_map.mp member
    exact slash_notMem_encode (notMem_of_mem_splitOn inside)
  · intro empty
    exact List.splitOn_ne_nil '/' text (List.map_eq_nil_iff.mp empty)

end Utf8

namespace Path

/-- The parts of a path that is written as a text are the segments of the text. -/
theorem parts_ofString (name : String) :
    (ofString name).parts = (name.toList.splitOn '/').map Utf8.encode :=
  Utf8.splitOn_encode name.toList

/-- Whether a segment of a name leads on: it is neither empty nor a dot. -/
def leadsOn (segment : List Char) : Bool :=
  segment ≠ [] && segment ≠ ['.']

/-- A part of a path leads on if the segment that writes it does. -/
theorem leads_encode (segment : List Char) : leads (Utf8.encode segment) = leadsOn segment := by
  have empty : Utf8.encode segment = [] ↔ segment = [] :=
    ⟨fun same => @Utf8.encode_injective segment [] same, fun same => by rw [same]; rfl⟩
  have here : Utf8.encode segment = [dot] ↔ segment = ['.'] :=
    ⟨fun same => @Utf8.encode_injective segment ['.'] same, fun same => by rw [same]; rfl⟩
  simp only [leads, leadsOn, ne_eq, empty, here]

/-- The steps of a name are its segments that lead on. -/
theorem steps_ofString (name : String) :
    (ofString name).steps = ((name.toList.splitOn '/').filter leadsOn).map Utf8.encode := by
  rw [steps, parts_ofString, List.filter_map]
  congr 2
  funext segment
  exact leads_encode segment

end Path

namespace Classpath

private theorem splitOnP_congr {separates other : Char → Bool} {text : List Char}
    (same : ∀ c ∈ text, separates c = other c) :
    text.splitOnP separates = text.splitOnP other := by
  induction text with
  | nil => rfl
  | cons c text ih =>
    rw [List.splitOnP_cons_eq_if_modifyHead, List.splitOnP_cons_eq_if_modifyHead,
      same c List.mem_cons_self, ih fun d member => same d (List.mem_cons_of_mem c member)]

/-- The segments of a name, whichever separator is used: those between slashes, split again. -/
theorem splitOnP_separators (text : List Char) :
    text.splitOnP (fun c => c == '/' || c == '\\') =
      (text.splitOn '/').flatMap (·.splitOn '\\') := by
  have joined := @splitOnP_intercalate Char '/' (fun c => c == '/' || c == '\\') rfl _
    (List.splitOn_ne_nil '/' text)
  rw [List.intercalate_splitOn] at joined
  rw [joined, List.flatMap_def, List.flatMap_def]
  refine congrArg List.flatten (List.map_congr_left fun segment member => ?_)
  apply splitOnP_congr
  intro c inside
  have noSlash : (c == '/') = false := by
    refine beq_eq_false_iff_ne.mpr ?_
    rintro rfl
    exact notMem_of_mem_splitOn member inside
  rw [noSlash, Bool.false_or]

/-- A name is relative if it is not empty, does not start with a slash, and has no step upwards,
whichever separator is used. -/
theorem isRelativeName_iff {name : String} :
    isRelativeName name = true ↔
      name.toList ≠ [] ∧ name.toList.head? ≠ some '/' ∧
        ['.', '.'] ∉ (name.toList.splitOn '/').flatMap (·.splitOn '\\') := by
  rw [← splitOnP_separators]
  simp [isRelativeName, and_assoc]

/-- A name that stays inside its element is a relative path. -/
theorem isAbsolute_of_isRelativeName {name : String} (relative : isRelativeName name = true) :
    (Path.ofString name).isAbsolute = false := by
  obtain ⟨nonempty, noSlash, -⟩ := isRelativeName_iff.mp relative
  cases shape : name.toList with
  | nil => exact absurd shape nonempty
  | cons c rest =>
    obtain ⟨lead, tail, written, -⟩ := Utf8.step_utf8EncodeChar c []
    have bytes : (Path.ofString name).bytes = lead :: (tail ++ Utf8.encode rest) := by
      change Utf8.encode name.toList = _
      rw [shape, Utf8.encode_cons, written, List.cons_append]
    rw [Path.isAbsolute, bytes, List.head?_cons, beq_eq_false_iff_ne]
    intro absolute
    have here : Path.slash ∈ String.utf8EncodeChar c := by
      rw [written, Option.some.inj absolute]
      exact List.mem_cons_self
    have number := Utf8.toNat_eq_of_mem_utf8EncodeChar here (by decide)
    obtain rfl : c = '/' := Char.toNat_inj.mp (number.trans Utf8.toNat_slash)
    exact noSlash (by rw [shape, List.head?_cons])

/-- A name that stays inside its element never leads upwards. -/
theorem downward_of_isRelativeName {name : String} (relative : isRelativeName name = true) :
    (Path.ofString name).Downward := by
  obtain ⟨-, -, inside⟩ := isRelativeName_iff.mp relative
  intro up
  rw [Path.parts_ofString] at up
  obtain ⟨segment, member, written⟩ := List.mem_map.mp up
  obtain rfl : segment = ['.', '.'] := @Utf8.encode_injective segment ['.', '.'] written
  exact inside (List.mem_flatMap.mpr ⟨_, member, by decide⟩)

namespace Element

/-- Encoded names joined to the name of an entry are the texts joined. -/
theorem entryName_map_encode (segments : List (List Char)) :
    entryName (segments.map Utf8.encode) = .ofList (['/'].intercalate segments) := by
  have decoded : (segments.map Utf8.encode).map Utf8.decodeLossy = segments := by
    rw [List.map_map]
    have same : Utf8.decodeLossy ∘ Utf8.encode = id := funext Utf8.decodeLossy_encode
    rw [same, List.map_id]
  rw [entryName, decoded]

end Element

end Classpath

end Isolation
