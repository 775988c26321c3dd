import Isolation.Proofs.Text.Separated
import Isolation.Proofs.Url.FilePath

/-!
# Reading the URLs of files

The text of a `file` URL is read back name by name. Names that are steps of a path come back as they
are, except that a bar after a drive letter at the start becomes a colon
(`Isolation.Url.parse_chars_ofNames`); whatever the names are, no more come back than were written
(`Isolation.Url.exists_parse_chars_ofNames`).
-/

namespace Isolation.Url

/-- Whether a character stands for itself within a segment of a `file` URL. -/
def isSegmentChar (c : Char) : Bool :=
  c.toNat < 0x80 && !escapedInPath c && !separates true c

private theorem isSegmentChar_iff {c : Char} :
    isSegmentChar c = true ↔
      c.toNat < 0x80 ∧ escapedInPath c = false ∧ separates true c = false := by
  simp [isSegmentChar, and_assoc]

/-- A name is written with the characters of segments alone. -/
theorem isSegmentChar_of_mem {name : Bytes} {c : Char}
    (member : c ∈ encodeBytes escapedInFileName name) : isSegmentChar c = true := by
  obtain ⟨ascii, plain | escape⟩ := of_mem_encodeBytes member
  · simp only [escapedInFileName, List.contains_cons, List.contains_nil, Bool.or_false,
      Bool.or_eq_false_iff] at plain
    obtain ⟨notEscaped, noSlash, -, noBackslash⟩ := plain
    refine isSegmentChar_iff.mpr ⟨ascii, notEscaped, ?_⟩
    rw [separates, noSlash, noBackslash]
    rfl
  · have plain : escapeChars.all isSegmentChar = true := by decide
    exact List.all_eq_true.mp plain c escape

private theorem endsPath_of_isSegmentChar {c : Char} (plain : isSegmentChar c = true) :
    endsPath c = false := by
  apply Bool.eq_false_iff.mpr
  intro ends
  simp only [endsPath, Bool.or_eq_true, beq_iff_eq] at ends
  rcases ends with rfl | rfl <;> exact absurd plain (by decide)

/-- A character is no control if it lies from 32 up and is not 127. -/
theorem isControl_eq_false_iff {c : Char} :
    isControl c = false ↔ 0x20 ≤ c.toNat ∧ c.toNat ≠ 0x7F := by
  simp [isControl]

private theorem visible_of_isSegmentChar {c : Char} (plain : isSegmentChar c = true) :
    0x20 < c.toNat ∧ c.toNat < 0x7F := by
  obtain ⟨ascii, notEscaped, -⟩ := isSegmentChar_iff.mp plain
  have noSpace : c.toNat ≠ 0x20 := by
    intro space
    obtain rfl : c = ' ' := Char.toNat_inj.mp space
    exact absurd notEscaped (by decide)
  have noControl : isControl c = false := by
    rw [escapedInPath, escapedInFragment, Bool.or_assoc] at notEscaped
    exact (Bool.or_eq_false_iff.mp notEscaped).1
  obtain ⟨large, noDelete⟩ := isControl_eq_false_iff.mp noControl
  omega

section Text

variable {names : List Bytes}

/-- The path of the URL of a file as it is written. -/
def pathText (names : List Bytes) : List Char :=
  (fileSegments names).flatMap ('/' :: ·)

/-- What the text of every `file` URL starts with. -/
def fileStart : List Char :=
  "file://".toList

/-- The text of a file's locator is the start of all of them and the names. -/
theorem chars_ofNames (names : List Bytes) :
    (ofNames names).chars = fileStart ++ pathText names := by
  change fileStart ++ (pathText names ++ [] ++ []) = _
  rw [List.append_nil, List.append_nil]

private theorem eq_slash_or_of_mem_pathText {c : Char} (member : c ∈ pathText names) :
    c = '/' ∨ isSegmentChar c = true := by
  obtain ⟨segment, inside, here⟩ := List.mem_flatMap.mp member
  obtain ⟨name, -, rfl⟩ := List.mem_map.mp inside
  exact (List.mem_cons.mp here).imp id isSegmentChar_of_mem

/-- No written name has a character that ends the path of a locator. -/
theorem endsPath_of_mem_pathText {c : Char} (member : c ∈ pathText names) : endsPath c = false := by
  rcases eq_slash_or_of_mem_pathText member with rfl | plain
  · rfl
  · exact endsPath_of_isSegmentChar plain

/-- The text of a file's locator has visible ASCII characters alone. -/
theorem visible_of_mem_chars {c : Char} (member : c ∈ (ofNames names).chars) :
    0x20 < c.toNat ∧ c.toNat < 0x7F := by
  rw [chars_ofNames] at member
  rcases List.mem_append.mp member with start | inPath
  · have visible : fileStart.all (fun c => 0x20 < c.toNat && c.toNat < 0x7F) = true := by decide
    simpa using List.all_eq_true.mp visible c start
  · rcases eq_slash_or_of_mem_pathText inPath with rfl | plain
    · decide
    · exact visible_of_isSegmentChar plain

/-- Nothing is dropped from a text that has nothing to drop. -/
theorem dropWhile_eq_self {drop : Char → Bool} {text : List Char}
    (kept : ∀ c ∈ text, drop c = false) : text.dropWhile drop = text := by
  cases text with
  | nil => rfl
  | cons c text => exact List.dropWhile_cons_of_neg (by rw [kept c List.mem_cons_self]; decide)

/-- A text without blanks and controls is read as it is. -/
theorem relevantChars_eq_self {text : List Char} (visible : ∀ c ∈ text, 0x20 < c.toNat) :
    relevantChars text = text := by
  have kept : ∀ c ∈ text, decide (c.toNat ≤ 0x20) = false :=
    fun c member => decide_eq_false (Nat.not_le.mpr (visible c member))
  have keptBack : ∀ c ∈ text.reverse, decide (c.toNat ≤ 0x20) = false :=
    fun c member => kept c (List.mem_reverse.mp member)
  rw [relevantChars, Text.trimBoth, dropWhile_eq_self kept, dropWhile_eq_self keptBack,
    List.reverse_reverse]
  apply List.filter_eq_self.mpr
  intro c member
  have large := visible c member
  simp only [List.contains_cons, List.contains_nil, Bool.or_false, Bool.not_eq_true',
    Bool.or_eq_false_iff, beq_eq_false_iff_ne]
  refine ⟨?_, ?_, ?_⟩ <;> rintro rfl <;> simp at large

/-- A text without question and number signs adds to the path of what follows it. -/
theorem ofChars_append {text : List Char} (plain : ∀ c ∈ text, endsPath c = false)
    (more : List Char) :
    Tail.ofChars (text ++ more) =
      ⟨text ++ (Tail.ofChars more).path, (Tail.ofChars more).query,
        (Tail.ofChars more).fragment⟩ := by
  have kept : ∀ c ∈ text, (!endsPath c) = true := fun c member => by rw [plain c member]; rfl
  unfold Tail.ofChars
  rw [List.takeWhile_append_of_pos kept, List.dropWhile_append_of_pos kept]
  cases more.dropWhile (!endsPath ·) with
  | nil => rfl
  | cons mark rest =>
    by_cases question : mark = '?'
    · subst question
      simp only
      cases rest.dropWhile (· ≠ '#') with
      | nil => rfl
      | cons mark fragment => rfl
    · simp only

/-- A text without question and number signs is all path. -/
theorem ofChars_eq {text : List Char} (plain : ∀ c ∈ text, endsPath c = false) :
    Tail.ofChars text = ⟨text, none, none⟩ := by
  have whole := ofChars_append plain []
  have nothing : Tail.ofChars [] = ⟨[], none, none⟩ := rfl
  rw [nothing, List.append_nil] at whole
  exact whole

/-- The segments of a path are found again where it was written. -/
theorem writtenSegments_pathText (nonempty : names ≠ []) :
    writtenSegments true (pathText names) = fileSegments names := by
  have plain : ∀ segment ∈ fileSegments names, ∀ c ∈ segment, separates true c = false := by
    intro segment member c inside
    obtain ⟨name, -, rfl⟩ := List.mem_map.mp member
    exact (isSegmentChar_iff.mp (isSegmentChar_of_mem inside)).2.2
  cases names with
  | nil => exact absurd rfl nonempty
  | cons name names => exact Text.splitOnP_append_flatMap rfl plain

/-- The text of a `file` URL is read as a path. -/
theorem parse_fileStart (nonempty : names ≠ []) :
    parse (ofNames names).chars = .ok (fileUrl none (pathText names)) := by
  obtain ⟨name, others, rfl⟩ := List.exists_cons_of_ne_nil nonempty
  rw [parse, relevantChars_eq_self fun c member => (visible_of_mem_chars member).1, chars_ofNames]
  rfl

end Text

section Segments

variable {name : Bytes}

/-- A segment that a name was written as is found in no other name. -/
theorem eq_decodeBytes {segment : List Char}
    (written : encodeBytes escapedInFileName name = segment) : name = decodeBytes segment := by
  rw [← written, decodeBytes_encodeBytes rfl]

private theorem not_isDotDot (notUp : name ≠ [Path.dot, Path.dot]) :
    isDotDot (encodeBytes escapedInFileName name) = false := by
  have spelled : ∀ spelling ∈ ["..", ".%2e", ".%2E", "%2e.", "%2E.", "%2e%2e", "%2e%2E",
      "%2E%2e", "%2E%2E"], decodeBytes spelling.toList = [Path.dot, Path.dot] := by decide
  refine Bool.eq_false_iff.mpr fun up => notUp ?_
  have member := List.contains_iff_mem.mp up
  have bytes := spelled _ member
  rw [String.toList_ofList, decodeBytes_encodeBytes rfl] at bytes
  exact bytes

private theorem not_isDot (notHere : name ≠ [Path.dot]) :
    isDot (encodeBytes escapedInFileName name) = false := by
  have spelled : ∀ spelling ∈ [".", "%2e", "%2E"], decodeBytes spelling.toList = [Path.dot] := by
    decide
  refine Bool.eq_false_iff.mpr fun here => notHere ?_
  have bytes := spelled _ (List.contains_iff_mem.mp here)
  rw [String.toList_ofList, decodeBytes_encodeBytes rfl] at bytes
  exact bytes

private theorem fileSegments_append (names more : List Bytes) :
    fileSegments (names ++ more) = fileSegments names ++ fileSegments more :=
  List.map_append

/-- A segment that was written for a name is not escaped again. -/
theorem encodeText_segment (name : Bytes) :
    encodeText escapedInPath (encodeBytes escapedInFileName name) =
      encodeBytes escapedInFileName name := by
  apply encodeText_eq_self
  intro c member
  obtain ⟨ascii, notEscaped, -⟩ := isSegmentChar_iff.mp (isSegmentChar_of_mem member)
  exact ⟨ascii, notEscaped⟩

/-- Whether a name is a drive letter with a bar after it. -/
def isBarredDrive : Bytes → Bool
  | [letter, 0x7C] => (Char.ofNat letter.toNat).isAlpha
  | _ => false

/-- A name with a colon for the bar after a drive letter. -/
def withColon (name : Bytes) : Bytes :=
  if isBarredDrive name = true then name.take 1 ++ [0x3A] else name

private theorem toNat_lt_of_isAlpha {c : Char} (alpha : c.isAlpha = true) : c.toNat < 0x80 := by
  rcases Bool.or_eq_true_iff.mp alpha with upper | lower
  · obtain ⟨-, atMost⟩ := of_decide_eq_true upper
    exact Nat.lt_of_le_of_lt (UInt32.le_iff_toNat_le.mp atMost) (by decide)
  · have atMost := of_decide_eq_true (Bool.and_eq_true_iff.mp lower).2
    exact Nat.lt_of_le_of_lt (UInt32.le_iff_toNat_le.mp atMost) (by decide)

/-- The letter of a drive is written as itself. -/
theorem encodeByte_of_isAlpha {letter : UInt8}
    (alpha : (Char.ofNat letter.toNat).isAlpha = true) :
    encodeByte escapedInFileName letter = [Char.ofNat letter.toNat] := by
  have letters : ∀ n < 256, (Char.ofNat n).isAlpha = true →
      encodeByte escapedInFileName (UInt8.ofNat n) = [Char.ofNat n] := by decide +kernel
  have found := letters letter.toNat letter.toNat_lt alpha
  rw [UInt8.ofNat_toNat] at found
  exact found

private theorem encodeBytes_drive {letter : UInt8}
    (alpha : (Char.ofNat letter.toNat).isAlpha = true) (mark : UInt8) :
    encodeBytes escapedInFileName [letter, mark] =
      Char.ofNat letter.toNat :: encodeByte escapedInFileName mark := by
  rw [encodeBytes_cons, encodeByte_of_isAlpha alpha]
  exact congrArg (Char.ofNat letter.toNat :: ·) (List.append_nil _)

/-- A drive with a bar is a letter and a bar. -/
theorem isBarredDrive_iff :
    isBarredDrive name = true ↔
      ∃ letter, name = [letter, 0x7C] ∧ (Char.ofNat letter.toNat).isAlpha = true := by
  constructor
  · intro barred
    unfold isBarredDrive at barred
    split at barred
    · exact ⟨_, rfl, barred⟩
    · cases barred
  · rintro ⟨letter, rfl, alpha⟩
    exact alpha

/-- The name of a drive letter as a segment has the letter and the mark as its bytes. -/
theorem eq_pair_of_isDriveLetter
    (drive : isDriveLetter (encodeBytes escapedInFileName name) = true) :
    ∃ letter mark, name = [letter, mark] ∧ (Char.ofNat letter.toNat).isAlpha = true ∧
      (mark = 0x3A ∨ mark = 0x7C) := by
  unfold isDriveLetter at drive
  split at drive
  · rename_i letter mark written
    simp only [Bool.and_eq_true, Bool.or_eq_true, beq_iff_eq] at drive
    obtain ⟨alpha, isMark⟩ := drive
    have small := toNat_lt_of_isAlpha alpha
    have noPercent : letter ≠ '%' := by
      rintro rfl
      simp at alpha
    have bytes := eq_decodeBytes written
    rw [decodeBytes_cons_of_ne noPercent, Utf8.utf8EncodeChar_of_lt small] at bytes
    refine ⟨UInt8.ofNat letter.toNat, if mark = ':' then 0x3A else 0x7C, ?_, ?_, ?_⟩
    · rw [bytes]
      rcases isMark with rfl | rfl <;> rfl
    · rw [ofNat_toNat_ofNat small]
      exact alpha
    · rcases isMark with rfl | rfl
      · exact .inl rfl
      · exact .inr rfl
  · cases drive

/-- A drive letter is written with a colon where a path starts. -/
theorem addSegment_first (proper : FileName.Proper name) :
    addSegment true [] (encodeBytes escapedInFileName name) = fileSegments [withColon name] := by
  obtain ⟨-, notHere, notUp, -⟩ := proper
  rw [addSegment, not_isDotDot notUp, not_isDot notHere, encodeText_segment]
  by_cases drive : isDriveLetter (encodeBytes escapedInFileName name) = true
  · obtain ⟨letter, mark, rfl, alpha, isMark⟩ := eq_pair_of_isDriveLetter drive
    rw [drive]
    rcases isMark with rfl | rfl
    · have kept : withColon [letter, 0x3A] = [letter, 0x3A] := if_neg Bool.false_ne_true
      rw [kept, fileSegments, List.map_singleton, encodeBytes_drive alpha]
      rfl
    · have changed : withColon [letter, 0x7C] = [letter, 0x3A] := if_pos alpha
      rw [changed, fileSegments, List.map_singleton, encodeBytes_drive alpha,
        encodeBytes_drive alpha]
      rfl
  · have kept : withColon name = name := by
      refine if_neg fun barred => drive ?_
      obtain ⟨letter, rfl, alpha⟩ := isBarredDrive_iff.mp barred
      rw [encodeBytes_drive alpha]
      change ((Char.ofNat letter.toNat).isAlpha && true) = true
      rw [alpha]
      rfl
    rw [kept, Bool.eq_false_iff.mpr drive]
    rfl

private theorem addSegment_later (proper : FileName.Proper name) {before : List Bytes}
    (nonempty : before ≠ []) :
    addSegment true (fileSegments before) (encodeBytes escapedInFileName name) =
      fileSegments (before ++ [name]) := by
  obtain ⟨-, notHere, notUp, -⟩ := proper
  obtain ⟨first, others, rfl⟩ := List.exists_cons_of_ne_nil nonempty
  rw [addSegment, not_isDotDot notUp, not_isDot notHere, encodeText_segment, fileSegments_append]
  rfl

end Segments

section Resolved

variable {names : List Bytes}

/-- Names with a colon for the bar after a drive letter that comes first. -/
def colonFirst : List Bytes → List Bytes
  | [] => []
  | name :: names => withColon name :: names

private theorem withColon_ne_nil {name : Bytes} (nonempty : name ≠ []) : withColon name ≠ [] := by
  rw [withColon]
  by_cases barred : isBarredDrive name = true
  · rw [if_pos barred]
    exact List.append_ne_nil_of_right_ne_nil _ (List.cons_ne_nil 0x3A [])
  · rw [if_neg barred]
    exact nonempty

/-- A name is kept unless it reads as a drive with a bar. -/
theorem withColon_eq_self_iff {name : Bytes} :
    withColon name = name ↔ isBarredDrive name = false := by
  constructor
  · intro same
    apply Bool.eq_false_iff.mpr
    intro barred
    obtain ⟨letter, rfl, alpha⟩ := isBarredDrive_iff.mp barred
    have changed : withColon [letter, 0x7C] = [letter, 0x3A] := if_pos alpha
    rw [changed] at same
    exact absurd (List.cons.inj (List.cons.inj same).2).1 (by decide)
  · intro plain
    exact if_neg (Bool.eq_false_iff.mp plain)

private theorem encodeBytes_ne_nil {name : Bytes} (nonempty : name ≠ []) :
    encodeBytes escapedInFileName name ≠ [] := by
  intro empty
  exact nonempty (eq_decodeBytes empty)

private theorem foldl_addSegment (proper : Location.Proper names) {before : List Bytes}
    (nonempty : before ≠ []) :
    (fileSegments names).foldl (addSegment true) (fileSegments before) =
      fileSegments (before ++ names) := by
  induction names generalizing before with
  | nil => rw [List.append_nil]; rfl
  | cons name names ih =>
    change (fileSegments names).foldl (addSegment true)
      (addSegment true (fileSegments before) (encodeBytes escapedInFileName name)) = _
    rw [addSegment_later (proper name List.mem_cons_self) nonempty,
      ih (fun other member => proper other (List.mem_cons_of_mem name member))
        (List.append_ne_nil_of_left_ne_nil nonempty _),
      List.append_assoc, List.singleton_append]

private theorem getLast?_fileSegments (names : List Bytes) :
    (fileSegments names).getLast? = names.getLast?.map (encodeBytes escapedInFileName) :=
  List.getLast?_map

/-- Names that are steps of a path are kept, up to the bar after a drive letter. -/
theorem resolveSegments_fileSegments (proper : Location.Proper names) :
    resolveSegments true (fileSegments names) = fileSegments (colonFirst names) := by
  cases names with
  | nil => rfl
  | cons name names =>
    have resolved : (fileSegments (name :: names)).foldl (addSegment true) [] =
        fileSegments (colonFirst (name :: names)) := by
      change (fileSegments names).foldl (addSegment true)
        (addSegment true [] (encodeBytes escapedInFileName name)) = _
      rw [addSegment_first (proper name List.mem_cons_self),
        foldl_addSegment (fun other member => proper other (List.mem_cons_of_mem name member))
          (List.cons_ne_nil _ _)]
      rfl
    obtain ⟨before, last, shape⟩ : ∃ before last, name :: names = before ++ [last] :=
      ⟨_, _, (List.dropLast_concat_getLast (List.cons_ne_nil name names)).symm⟩
    obtain ⟨-, notHere, notUp, -⟩ :=
      proper last (shape ▸ List.mem_append_right before (List.mem_singleton_self last))
    have ends : (fileSegments (name :: names)).getLast? =
        some (encodeBytes escapedInFileName last) := by
      rw [getLast?_fileSegments, shape, List.getLast?_concat, Option.map_some]
    unfold resolveSegments
    rw [resolved, ends]
    simp only [not_isDotDot notUp, not_isDot notHere, Bool.or_self, Bool.false_eq_true, if_false]

private theorem dropEmptyStart_cons {segment : List Char} (nonempty : segment ≠ [])
    (rest : List (List Char)) : dropEmptyStart (segment :: rest) = segment :: rest := by
  obtain ⟨c, text, rfl⟩ := List.exists_cons_of_ne_nil nonempty
  rfl

/-- **The URL of a file is read back**, up to the bar after a drive letter at the start. -/
theorem parse_chars_ofNames (nonempty : names ≠ []) (proper : Location.Proper names) :
    parse (ofNames names).chars = .ok (ofNames (colonFirst names)) := by
  rw [parse_fileStart nonempty, fileUrl,
    ofChars_eq fun c member => endsPath_of_mem_pathText member]
  simp only [writtenSegments_pathText nonempty, resolveSegments_fileSegments proper, ite_self]
  obtain ⟨name, others, rfl⟩ := List.exists_cons_of_ne_nil nonempty
  obtain ⟨some', -⟩ := proper name List.mem_cons_self
  have kept : dropEmptyStart (fileSegments (colonFirst (name :: others))) =
      fileSegments (colonFirst (name :: others)) :=
    dropEmptyStart_cons (encodeBytes_ne_nil (withColon_ne_nil some')) _
  rw [kept]
  rfl

end Resolved

section Bound

variable {names others : List Bytes}

/-- Whether segments were written for at most so many names without slashes. -/
def WrittenFor (bound : Nat) (segments : List (List Char)) : Prop :=
  ∃ names : List Bytes, segments = fileSegments names ∧ (∀ name ∈ names, Path.slash ∉ name) ∧
    names.length ≤ bound

private theorem WrittenFor.mono {bound more : Nat} {segments : List (List Char)} (le : bound ≤ more)
    (written : WrittenFor bound segments) : WrittenFor more segments := by
  obtain ⟨names, shape, plain, short⟩ := written
  exact ⟨names, shape, plain, Nat.le_trans short le⟩

private theorem WrittenFor.concat {bound : Nat} {segments : List (List Char)}
    (written : WrittenFor bound segments) {name : Bytes} (plain : Path.slash ∉ name) :
    WrittenFor (bound + 1) (segments ++ [encodeBytes escapedInFileName name]) := by
  obtain ⟨names, rfl, plainNames, short⟩ := written
  refine ⟨names ++ [name], (fileSegments_append names [name]).symm, ?_, ?_⟩
  · intro other member
    rcases List.mem_append.mp member with before | last
    · exact plainNames other before
    · rw [List.mem_singleton.mp last]
      exact plain
  · rw [List.length_append, List.length_singleton]
    exact Nat.succ_le_succ short

private theorem WrittenFor.dropSegment {bound : Nat} {segments : List (List Char)}
    (written : WrittenFor bound segments) : WrittenFor bound (dropSegment segments) := by
  unfold Url.dropSegment
  split
  · split
    · exact written
    · obtain ⟨names, rfl, plain, short⟩ := written
      refine ⟨names.dropLast, (List.map_dropLast).symm, ?_, ?_⟩
      · exact fun name member => plain name ((List.dropLast_sublist names).subset member)
      · rw [List.length_dropLast]
        omega
  · exact written

private theorem WrittenFor.dropEmptyStart {bound : Nat} {segments : List (List Char)}
    (written : WrittenFor bound segments) : WrittenFor bound (dropEmptyStart segments) := by
  fun_induction Url.dropEmptyStart segments with
  | case1 next rest ih =>
    refine ih ?_
    obtain ⟨names, shape, plain, short⟩ := written
    refine ⟨names.drop 1, ?_, ?_, ?_⟩
    · rw [fileSegments, List.map_drop, ← fileSegments, ← shape]
      rfl
    · exact fun name member => plain name (List.mem_of_mem_drop member)
    · rw [List.length_drop]
      omega
  | case2 => exact written

/-- A dot segment adds nothing. -/
theorem WrittenFor.addDots {bound : Nat} {segments : List (List Char)}
    (written : WrittenFor bound segments) {segment : List Char}
    (dots : (isDotDot segment || isDot segment) = true) :
    WrittenFor bound (addSegment true segments segment) := by
  rw [Url.addSegment]
  by_cases up : isDotDot segment = true
  · rw [if_pos up]
    exact written.dropSegment
  · rw [Bool.eq_false_iff.mpr up, Bool.false_or] at dots
    rw [if_neg up, if_pos dots]
    exact written

/-- Adding the segment of a name adds at most one. -/
theorem WrittenFor.addSegment {bound : Nat} {segments : List (List Char)}
    (written : WrittenFor bound segments) {name : Bytes} (plain : Path.slash ∉ name) :
    WrittenFor (bound + 1) (addSegment true segments (encodeBytes escapedInFileName name)) := by
  by_cases dots : (isDotDot (encodeBytes escapedInFileName name) ||
      isDot (encodeBytes escapedInFileName name)) = true
  · exact (written.addDots dots).mono (Nat.le_succ bound)
  · obtain ⟨notUp, notHere⟩ := Bool.or_eq_false_iff.mp (Bool.eq_false_iff.mpr dots)
    rw [Url.addSegment, notUp, notHere, encodeText_segment]
    simp only [Bool.false_eq_true, if_false]
    by_cases drive : (true && segments.isEmpty &&
        isDriveLetter (encodeBytes escapedInFileName name)) = true
    · rw [if_pos drive]
      obtain ⟨letter, mark, rfl, alpha, -⟩ :=
        eq_pair_of_isDriveLetter (Bool.and_eq_true_iff.mp drive).2
      obtain ⟨noSlash, -⟩ := not_or.mp (mt List.mem_cons.mpr plain)
      refine ⟨[[letter, 0x3A]], ?_, ?_, ?_⟩
      · rw [fileSegments, List.map_singleton, encodeBytes_drive alpha, encodeBytes_drive alpha]
        rfl
      · intro name member inside
        rw [List.mem_singleton.mp member] at inside
        rcases List.mem_cons.mp inside with same | colon
        · exact noSlash same
        · exact absurd (List.mem_singleton.mp colon) (by decide)
      · exact Nat.succ_le_succ (Nat.zero_le bound)
    · rw [if_neg drive]
      exact written.concat plain

/-- Adding segments adds at most as many as there are. -/
theorem WrittenFor.foldl {bound : Nat} {segments : List (List Char)}
    (written : WrittenFor bound segments) (plain : ∀ name ∈ names, Path.slash ∉ name) :
    WrittenFor (bound + names.length)
      ((fileSegments names).foldl (Url.addSegment true) segments) := by
  induction names generalizing bound segments with
  | nil => exact written
  | cons name names ih =>
    have onward := ih (written.addSegment (plain name List.mem_cons_self))
      fun other member => plain other (List.mem_cons_of_mem name member)
    rw [List.length_cons, Nat.add_comm names.length 1, ← Nat.add_assoc]
    exact onward

private theorem writtenFor_nil : WrittenFor 0 [] :=
  ⟨[], rfl, fun _ member => absurd member List.not_mem_nil, Nat.le_refl 0⟩

/-- Resolving dot segments leaves at most as many segments as there were. -/
theorem writtenFor_resolveSegments (plain : ∀ name ∈ names, Path.slash ∉ name) :
    WrittenFor names.length (resolveSegments true (fileSegments names)) := by
  by_cases empty : names = []
  · rw [empty]
    exact writtenFor_nil
  · obtain ⟨before, last, rfl⟩ : ∃ before last, names = before ++ [last] :=
      ⟨_, _, (List.dropLast_concat_getLast empty).symm⟩
    have plainBefore : ∀ name ∈ before, Path.slash ∉ name :=
      fun name member => plain name (List.mem_append_left [last] member)
    have plainLast := plain last (List.mem_append_right before (List.mem_singleton_self last))
    have ends : (fileSegments (before ++ [last])).getLast? =
        some (encodeBytes escapedInFileName last) := by
      rw [getLast?_fileSegments, List.getLast?_concat, Option.map_some]
    have earlier := writtenFor_nil.foldl plainBefore
    rw [Nat.zero_add] at earlier
    unfold resolveSegments
    rw [ends, fileSegments_append, List.foldl_append, List.length_append, List.length_singleton]
    simp only
    by_cases dots : (isDotDot (encodeBytes escapedInFileName last) ||
        isDot (encodeBytes escapedInFileName last)) = true
    · rw [if_pos dots]
      have noSlash : Path.slash ∉ ([] : Bytes) := List.not_mem_nil
      exact (earlier.addDots dots).concat noSlash
    · rw [if_neg dots]
      exact earlier.addSegment plainLast

/-- **Reading the URL of names brings back at most as many names**, whichever they are. -/
theorem exists_parse_chars_ofNames (nonempty : names ≠ [])
    (plain : ∀ name ∈ names, Path.slash ∉ name) :
    ∃ others : List Bytes, parse (ofNames names).chars = .ok (ofNames others) ∧
      (∀ name ∈ others, Path.slash ∉ name) ∧ others.length ≤ names.length := by
  obtain ⟨others, shape, plainOthers, short⟩ := (writtenFor_resolveSegments plain).dropEmptyStart
  refine ⟨others, ?_, plainOthers, short⟩
  rw [parse_fileStart nonempty, fileUrl,
    ofChars_eq fun c member => endsPath_of_mem_pathText member]
  simp only [writtenSegments_pathText nonempty, shape, ite_self]
  rfl

end Bound

end Isolation.Url
