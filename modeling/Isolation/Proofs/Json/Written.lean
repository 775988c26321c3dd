import Isolation.Json.Reader
import Isolation.Json.Value
import Isolation.Proofs.NameMap.Lookup
import Mathlib.Data.List.Forall2

/-!
# Reading what was written

A reader reads a value from a document when it takes the document, as it is written on one line, off
the front of any text and gives the value (`Isolation.Json.Reads`). Strings are read back whatever
characters they hold (`Isolation.Json.reads_string`); lists, maps and records are read back when
their items, bindings and members are (`Isolation.Json.Reads.list`, `Isolation.Json.Reads.map`,
`Isolation.Json.Fills.reads`).
-/

namespace Isolation.Json

/-- Whether a reader takes a document off the front of any text and gives a value. -/
def Reads {α : Type} (read : Reader α) (value : α) (document : Json) : Prop :=
  ∀ rest, read (document.compactChars ++ rest) = .ok (value, rest)

private theorem skipSpace_cons {c : Char} (solid : isSpace c = false) (rest : List Char) :
    skipSpace (c :: rest) = c :: rest :=
  List.dropWhile_cons_of_neg (Bool.eq_false_iff.mp solid)

/-- A document that a reader reads is all that a text with it alone holds. -/
theorem Reads.readAll {α : Type} {read : Reader α} {value : α} {document : Json}
    (reads : Reads read value document) : readAll read document.compact = .ok value := by
  have taken := reads []
  rw [List.append_nil] at taken
  unfold Json.readAll compact
  rw [String.toList_ofList, taken]
  rfl

section Strings

private theorem hexValue?_lowerHexDigit :
    ∀ n < 16, Text.hexValue? (Text.lowerHexDigit n) = some n := by
  decide

private theorem readHexUnit_control {code : Nat} (small : code < 0x20) (rest : List Char) :
    readHexUnit ('0' :: '0' :: Text.lowerHexDigit (code / 16) ::
      Text.lowerHexDigit (code % 16) :: rest) = .ok (code, rest) := by
  have zero : Text.hexValue? '0' = some 0 := rfl
  have high := hexValue?_lowerHexDigit (code / 16) (by omega)
  have low := hexValue?_lowerHexDigit (code % 16) (by omega)
  have value : ((0 * 16 + 0) * 16 + code / 16) * 16 + code % 16 = code := by omega
  simp only [readHexUnit, zero, high, low, value]

/-- A character is written after a backslash that it can be read after, or it stands for itself. -/
theorem escapeChar_cases (c : Char) :
    (∃ written, escapeChar c = '\\' :: written ∧
      ∀ rest, readEscape (written ++ rest) = .ok (c, rest)) ∨
    (escapeChar c = [c] ∧ c ≠ '"' ∧ c ≠ '\\' ∧ 0x20 ≤ c.toNat) := by
  unfold escapeChar
  split
  case h_8 noQuote noBackslash _ _ _ _ _ =>
    by_cases control : c.toNat < 0x20
    · rw [if_pos control]
      refine .inl ⟨_, rfl, fun rest => ?_⟩
      have unit := readHexUnit_control control rest
      have noLow : ¬(0xDC00 ≤ c.toNat ∧ c.toNat ≤ 0xDFFF) := by omega
      have noHigh : ¬(0xD800 ≤ c.toNat ∧ c.toNat ≤ 0xDBFF) := by omega
      simp only [List.cons_append, List.nil_append, readEscape, unit]
      change (if 0xDC00 ≤ c.toNat ∧ c.toNat ≤ 0xDFFF then _ else _) = _
      rw [if_neg noLow, if_neg noHigh, Char.ofNat_toNat]
    · rw [if_neg control]
      exact .inr ⟨rfl, noQuote, noBackslash, Nat.le_of_not_lt control⟩
  all_goals exact .inl ⟨_, rfl, fun rest => rfl⟩

private theorem length_escapeChar_pos (c : Char) : 0 < (escapeChar c).length := by
  rcases escapeChar_cases c with ⟨written, shape, -⟩ | ⟨shape, -⟩ <;> rw [shape] <;> simp

/-- One written character is read back. -/
theorem readCharacters_escapeChar (c : Char) (fuel : Nat) (text : List Char) :
    readCharacters (fuel + 1) (escapeChar c ++ text) =
      (readCharacters fuel text).map fun read => (c :: read.1, read.2) := by
  rcases escapeChar_cases c with ⟨written, shape, escaped⟩ | ⟨shape, noQuote, noBackslash, solid⟩
  · rw [shape, List.cons_append, readCharacters, escaped]
    change (readCharacters fuel text >>= fun read => pure (c :: read.1, read.2)) = _
    cases readCharacters fuel text <;> rfl
  · rw [shape, List.singleton_append, readCharacters, if_neg (Nat.not_lt.mpr solid)]
    · cases readCharacters fuel text <;> rfl
    · exact noQuote
    · exact noBackslash

private theorem readCharacters_flatMap (text : List Char) {fuel : Nat} (enough : text.length < fuel)
    (rest : List Char) :
    readCharacters fuel (text.flatMap escapeChar ++ '"' :: rest) = .ok (text, rest) := by
  induction text generalizing fuel with
  | nil =>
    obtain ⟨fuel, rfl⟩ := Nat.exists_eq_add_of_lt enough
    rw [List.flatMap_nil, List.nil_append, readCharacters]
  | cons c text ih =>
    cases fuel with
    | zero => exact absurd enough (Nat.not_lt_zero _)
    | succ fuel =>
      rw [List.flatMap_cons, List.append_assoc, readCharacters_escapeChar,
        ih (Nat.lt_of_succ_lt_succ enough)]
      rfl

private theorem length_le_flatMap_escapeChar (text : List Char) :
    text.length ≤ (text.flatMap escapeChar).length := by
  induction text with
  | nil => exact Nat.le_refl _
  | cons c text ih =>
    have pos := length_escapeChar_pos c
    rw [List.flatMap_cons, List.length_append, List.length_cons]
    omega

private theorem quoteString_append (text : String) (rest : List Char) :
    quoteString text ++ rest = '"' :: (text.toList.flatMap escapeChar ++ '"' :: rest) := by
  simp [quoteString, quoteChars]

/-- What stands between the quotes of a written string is read back. -/
theorem readQuoted_written (text : String) (rest : List Char) :
    readQuoted (text.toList.flatMap escapeChar ++ '"' :: rest) = .ok (text, rest) := by
  have longer := length_le_flatMap_escapeChar text.toList
  have enough : text.toList.length <
      (text.toList.flatMap escapeChar ++ '"' :: rest).length + 1 := by
    rw [List.length_append]
    omega
  rw [readQuoted, readCharacters_flatMap _ enough]
  exact congrArg (fun text => Except.ok (text, rest)) String.ofList_toList

/-- **A string is read back whatever characters it holds.** -/
theorem reads_string (expected text : String) :
    Reads (readString expected) text (.string text) := by
  intro rest
  rw [compactChars, quoteString_append, readString, skipSpace_cons rfl]
  exact readQuoted_written text rest

/-- A path is read from the text that writes it. -/
theorem reads_path (text : String) : Reads readPath (Path.ofString text) (.string text) := by
  intro rest
  rw [readPath, reads_string]
  rfl

/-- A name that stands for a value is read as the value. -/
theorem reads_variant {α : Type} {ofName? : String → Option α} {name : String} {value : α}
    (named : ofName? name = some value) (names : List String) :
    Reads (readVariant names ofName?) value (.string name) := by
  intro rest
  rw [compactChars, quoteString_append, readVariant, skipSpace_cons rfl]
  simp only [readQuoted_written, bind, Except.bind, named]
  rfl

end Strings

/-- A boolean is read back. -/
theorem reads_boolean (value : Bool) : Reads readBoolean value (.boolean value) := by
  intro rest
  cases value <;> rw [compactChars] <;> rfl

/-- Whether a character can be the first of a written value. -/
def opens (c : Char) : Bool :=
  c.isDigit || ['"', '[', '\x7b', 'n', 't', 'f'].contains c

private theorem isSpace_of_opens {c : Char} (first : opens c = true) : isSpace c = false := by
  refine Bool.eq_false_iff.mpr fun space => ?_
  simp only [isSpace, Bool.or_eq_true, beq_iff_eq] at space
  rcases space with ((rfl | rfl) | rfl) | rfl <;> exact absurd first (by decide)

/-- Only `null` is written with an `n` in front. -/
theorem exists_cons_compactChars (document : Json) :
    ∃ c rest, document.compactChars = c :: rest ∧ opens c = true ∧
      (document ≠ .null → c ≠ 'n') := by
  cases document with
  | null => exact ⟨'n', _, by rw [compactChars]; rfl, rfl, fun given => absurd rfl given⟩
  | boolean value =>
    cases value
    · exact ⟨'f', _, by rw [compactChars]; rfl, rfl, fun _ => by decide⟩
    · exact ⟨'t', _, by rw [compactChars]; rfl, rfl, fun _ => by decide⟩
  | number value =>
    obtain ⟨c, rest, digits⟩ := List.exists_cons_of_ne_nil (Nat.toDigits_ne_nil (n := value))
    have digit : c.isDigit = true :=
      Nat.isDigit_of_mem_toDigits (by decide) (Nat.le_refl _) (digits ▸ List.mem_cons_self)
    refine ⟨c, rest, by rw [compactChars, digits], by rw [opens, digit, Bool.true_or], ?_⟩
    rintro - rfl
    exact absurd digit (by decide)
  | string text => exact ⟨'"', _, by rw [compactChars]; rfl, rfl, fun _ => by decide⟩
  | array items =>
    cases items <;> exact ⟨'[', _, by rw [compactChars], rfl, fun _ => by decide⟩
  | object members =>
    cases members <;> exact ⟨'\x7b', _, by rw [compactChars], rfl, fun _ => by decide⟩

private theorem length_compactChars_pos (document : Json) : 0 < document.compactChars.length := by
  obtain ⟨c, rest, shape, -⟩ := exists_cons_compactChars document
  rw [shape]
  exact Nat.succ_pos _

section Values

variable {α : Type} {read : Reader α}

/-- A value that may be left out is read where it is given. -/
theorem Reads.optional {value : α} {document : Json} (reads : Reads read value document)
    (given : document ≠ .null) : Reads (readOptional read) (some value) document := by
  intro rest
  obtain ⟨c, more, shape, first, notNull⟩ := exists_cons_compactChars document
  have taken := reads rest
  rw [shape, List.cons_append] at taken ⊢
  rw [readOptional, skipSpace_cons (isSpace_of_opens first)]
  split
  case h_1 same => exact absurd (List.cons.inj same).1 (notNull given)
  case h_2 => rw [taken]; rfl

/-- The items of an array that are still to be read, and its end; a comma stands before every item
but the first of all. -/
def itemsChars : Bool → List Json → List Char
  | _, [] => [']']
  | first, item :: rest =>
    (if first then [] else [',']) ++ (item.compactChars ++ itemsChars false rest)

private theorem compactItems_eq (items : List Json) :
    compactItems items = itemsChars false items := by
  induction items with
  | nil =>
    rw [compactItems]
    rfl
  | cons item items ih =>
    rw [compactItems, ih]
    rfl

private theorem compactChars_array (items : List Json) :
    compactChars (.array items) = '[' :: itemsChars true items := by
  cases items with
  | nil =>
    rw [compactChars]
    rfl
  | cons item items =>
    rw [compactChars, compactItems_eq]
    rfl

private theorem length_lt_itemsChars (first : Bool) (items : List Json) :
    items.length < (itemsChars first items).length := by
  induction items generalizing first with
  | nil => exact Nat.succ_pos _
  | cons item items ih =>
    have pos := length_compactChars_pos item
    have fewer := ih false
    simp only [itemsChars, List.length_append, List.length_cons]
    omega

/-- Moving to the next item of a written array takes the comma before it. -/
theorem nextItem_written (first : Bool) (item : Json) (items : List Json) (rest : List Char) :
    nextItem first (itemsChars first (item :: items) ++ rest) =
      .ok (some (item.compactChars ++ (itemsChars false items ++ rest))) := by
  obtain ⟨c, more, shape, opening, -⟩ := exists_cons_compactChars item
  have solid := isSpace_of_opens opening
  have noEnd : c ≠ ']' := by
    rintro rfl
    exact absurd opening (by decide)
  have noComma : c ≠ ',' := by
    rintro rfl
    exact absurd opening (by decide)
  cases first
  · change nextItem false (',' :: (item.compactChars ++ itemsChars false items) ++ rest) = _
    rw [shape, List.cons_append, List.append_assoc, List.cons_append, nextItem,
      skipSpace_cons rfl]
    simp only [skipSpace_cons solid, Bool.false_eq_true, if_false]
    split
    case h_1 same => cases same
    case h_2 same => exact absurd (List.cons.inj same).1 noEnd
    case h_3 => rfl
  · change nextItem true (item.compactChars ++ itemsChars false items ++ rest) = _
    rw [shape, List.append_assoc, List.cons_append, nextItem, skipSpace_cons solid]
    split
    case h_1 same => cases same
    case h_2 same => exact absurd (List.cons.inj same).1 noEnd
    case h_3 same => exact absurd (List.cons.inj same).1 noComma
    case h_4 => rfl

/-- The items of a written array are read up to its end. -/
theorem readItems_written {values : List α} {items : List Json}
    (reads : List.Forall₂ (Reads read) values items) {fuel : Nat} (enough : items.length < fuel)
    (first : Bool) (rest : List Char) :
    readItems read fuel first (itemsChars first items ++ rest) = .ok (values, ']' :: rest) := by
  induction reads generalizing fuel first with
  | nil =>
    obtain ⟨fuel, rfl⟩ := Nat.exists_eq_add_of_lt enough
    rfl
  | @cons value item values items reads _ ih =>
    cases fuel with
    | zero => exact absurd enough (Nat.not_lt_zero _)
    | succ fuel =>
      rw [readItems, nextItem_written]
      change (read (item.compactChars ++ (itemsChars false items ++ rest)) >>= _) = _
      rw [reads]
      change (readItems read fuel false (itemsChars false items ++ rest) >>= _) = _
      rw [ih (Nat.lt_of_succ_lt_succ enough)]
      rfl

/-- A list is read back when its items are. -/
theorem Reads.list {values : List α} {items : List Json}
    (reads : List.Forall₂ (Reads read) values items) :
    Reads (readList read) values (.array items) := by
  intro rest
  have longer := length_lt_itemsChars true items
  have enough : items.length < (itemsChars true items ++ rest).length + 1 := by
    rw [List.length_append]
    omega
  rw [compactChars_array, List.cons_append, readList, skipSpace_cons rfl]
  change (readItems read _ true (itemsChars true items ++ rest) >>= _) = _
  rw [readItems_written reads enough]
  rfl

/-- A list is read back from the array of the documents of its values. -/
theorem Reads.list_map {values : List α} {document : α → Json}
    (reads : ∀ value ∈ values, Reads read value (document value)) :
    Reads (readList read) values (.array (values.map document)) :=
  .list (List.forall₂_map_right_iff.mpr (List.forall₂_same.mpr reads))

/-- The members of an object that are still to be read, and its end; a comma stands before every
member but the first of all. -/
def membersChars : Bool → List (String × Json) → List Char
  | _, [] => ['\x7d']
  | first, (name, value) :: rest =>
    (if first then [] else [',']) ++
      (quoteString name ++ ':' :: (value.compactChars ++ membersChars false rest))

private theorem compactMembers_eq (members : List (String × Json)) :
    compactMembers members = membersChars false members := by
  induction members with
  | nil =>
    rw [compactMembers]
    rfl
  | cons member members ih =>
    rw [compactMembers, ih]
    rfl

private theorem compactChars_object (members : List (String × Json)) :
    compactChars (.object members) = '\x7b' :: membersChars true members := by
  cases members with
  | nil =>
    rw [compactChars]
    rfl
  | cons member members =>
    rw [compactChars, compactMembers_eq]
    rfl

private theorem length_lt_membersChars (first : Bool) (members : List (String × Json)) :
    members.length < (membersChars first members).length := by
  induction members generalizing first with
  | nil => exact Nat.succ_pos _
  | cons member members ih =>
    have fewer := ih false
    simp only [membersChars, List.length_append, List.length_cons]
    omega

private theorem length_lt_membersChars_append (members : List (String × Json)) (rest : List Char) :
    members.length < (membersChars true members ++ rest).length + 1 := by
  have longer := length_lt_membersChars true members
  rw [List.length_append]
  omega

/-- Moving to the next member of a written object takes the comma and the quote before its name. -/
theorem nextName_written (first : Bool) (name : String) (value : Json)
    (members : List (String × Json)) (rest : List Char) :
    nextName first (membersChars first ((name, value) :: members) ++ rest) =
      .ok (some (name.toList.flatMap escapeChar ++
        '"' :: ':' :: (value.compactChars ++ (membersChars false members ++ rest)))) := by
  cases first
  · change nextName false (',' :: (quoteString name ++
      ':' :: (value.compactChars ++ membersChars false members)) ++ rest) = _
    rw [List.cons_append, List.append_assoc, quoteString_append, List.cons_append,
      List.append_assoc]
    rfl
  · change nextName true (quoteString name ++
      ':' :: (value.compactChars ++ membersChars false members) ++ rest) = _
    rw [List.append_assoc, quoteString_append, List.cons_append, List.append_assoc]
    rfl

/-- The members of a written object are read up to its end, each in its turn. -/
theorem readBindings_written {bindings : List (String × α)} {members : List (String × Json)}
    (reads : List.Forall₂ (fun binding member =>
      binding.1 = member.1 ∧ Reads read binding.2 member.2) bindings members)
    {fuel : Nat} (enough : members.length < fuel) (first : Bool) (map : NameMap α)
    (rest : List Char) :
    readBindings read fuel first map (membersChars first members ++ rest) =
      .ok (bindings.foldl (fun map binding => map.insert binding.1 binding.2) map,
        '\x7d' :: rest) := by
  induction reads generalizing fuel first map with
  | nil =>
    obtain ⟨fuel, rfl⟩ := Nat.exists_eq_add_of_lt enough
    rfl
  | @cons binding member bindings members reads _ ih =>
    obtain ⟨name, value⟩ := binding
    obtain ⟨written, document⟩ := member
    obtain ⟨rfl, taken⟩ : name = written ∧ Reads read value document := reads
    cases fuel with
    | zero => exact absurd enough (Nat.not_lt_zero _)
    | succ fuel =>
      rw [readBindings, nextName_written]
      change (readQuoted _ >>= _) = _
      rw [readQuoted_written]
      change (read (document.compactChars ++ (membersChars false members ++ rest)) >>= _) = _
      rw [taken]
      exact ih (Nat.lt_of_succ_lt_succ enough) false (map.insert name value)

/-- A map is read back when what it binds is. -/
theorem Reads.map {map : NameMap α} {members : List (String × Json)}
    (reads : List.Forall₂ (fun binding member =>
      binding.1 = member.1 ∧ Reads read binding.2 member.2) map.entries members) :
    Reads (readMap read) map (.object members) := by
  intro rest
  have enough := length_lt_membersChars_append members rest
  rw [compactChars_object, List.cons_append, readMap, skipSpace_cons rfl]
  change (readBindings read _ true .empty (membersChars true members ++ rest) >>= _) = _
  rw [readBindings_written reads enough]
  exact congrArg (fun map => Except.ok (map, rest)) (NameMap.ofList_entries map)

end Values

section Records

variable {δ : Type}

/-- Members of an object that a record knows, none of them twice, and the drafts before and after
them. -/
inductive Fills (fields : List (Member δ)) : List (String × Json) → δ → δ → Prop
  | done (draft : δ) : Fills fields [] draft draft
  | next {field : Member δ} {name : String} {value : Json} {members : List (String × Json)}
      {draft filled final : δ} (known : fields.find? (·.name == name) = some field)
      (unread : field.isGiven draft = false) (reads : Reads (field.read draft) filled value)
      (more : Fills fields members filled final) :
      Fills fields ((name, value) :: members) draft final

/-- Members that fill a draft may be followed by members that fill the draft they leave. -/
theorem Fills.append {fields : List (Member δ)} {first second : List (String × Json)}
    {start middle final : δ} (before : Fills fields first start middle)
    (after : Fills fields second middle final) : Fills fields (first ++ second) start final := by
  induction before with
  | done => exact after
  | next known unread reads _ ih => exact .next known unread reads (ih after)

/-- A field is read into a draft when its value is read. -/
theorem Reads.field {α : Type} {read : Reader α} {value : α} {document : Json}
    {name : String} {required : Bool} {held : δ → Option α} {put : α → δ → δ} {draft : δ}
    (reads : Reads read value document) :
    Reads ((Member.of name required held read put).read draft) (put value draft) document := by
  intro rest
  change (read (document.compactChars ++ rest)).map _ = _
  rw [reads]
  rfl

/-- The members of a written object are read into the draft that they fill. -/
theorem readMembers_written {fields : List (Member δ)} {members : List (String × Json)}
    {start final : δ} (fills : Fills fields members start final) {fuel : Nat}
    (enough : members.length < fuel) (first : Bool) (rest : List Char) :
    readMembers fields fuel first start (membersChars first members ++ rest) =
      .ok (final, '\x7d' :: rest) := by
  induction fills generalizing fuel first with
  | done =>
    obtain ⟨fuel, rfl⟩ := Nat.exists_eq_add_of_lt enough
    rfl
  | @next field name value members draft filled final known unread reads _ ih =>
    cases fuel with
    | zero => exact absurd enough (Nat.not_lt_zero _)
    | succ fuel =>
      rw [readMembers, nextName_written]
      have colon (text : List Char) : expectColon (':' :: text) = .ok text := rfl
      have onward := ih (Nat.lt_of_succ_lt_succ enough) false
      have taken := reads (membersChars false members ++ rest)
      simp only [bind, Except.bind, readQuoted_written, known, unread, Bool.false_eq_true, if_false,
        colon, taken, onward]

/-- **A record is read back when its members fill all the fields that must be given.** -/
theorem Fills.reads {fields : List (Member δ)} {members : List (String × Json)}
    {start final : δ} (fills : Fills fields members start final)
    (complete : fields.find? (fun field => field.required && !field.isGiven final) = none)
    (kind : String) : Reads (readDraft kind fields start) final (.object members) := by
  intro rest
  have enough := length_lt_membersChars_append members rest
  rw [compactChars_object, List.cons_append, readDraft, skipSpace_cons rfl]
  simp only [bind, Except.bind, readMembers_written fills enough, complete]
  rfl

end Records

end Isolation.Json
