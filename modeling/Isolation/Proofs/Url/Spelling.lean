import Isolation.Proofs.Url.EntryText

/-!
# Names that stay as they are

What a text is rewritten to has some of its characters as they are and escapes for the others
(`Isolation.Url.Spelled`). The name of an entry comes out of a URL as it was put in exactly when
none of its characters is escaped and nothing at its ends is left out
(`Isolation.Url.entryText_eq_iff`).
-/

namespace Isolation.Url

/-- What a text may be rewritten to: each character to itself or to an escape, which starts with no
character that is ever escaped. -/
inductive Spelled : List Char → List Char → Prop
  | nil : Spelled [] []
  | kept {c : Char} {text written : List Char} (visible : 0x20 ≤ c.toNat ∧ c.toNat < 0x7F)
      (rest : Spelled text written) : Spelled (c :: text) (c :: written)
  | escaped {c first : Char} {piece text written : List Char} (changes : c ∉ escapeChars)
      (escapes : ∀ d ∈ first :: piece, d ∈ escapeChars) (rest : Spelled text written) :
      Spelled (c :: text) (first :: (piece ++ written))

namespace Spelled

variable {text written : List Char}

private theorem append {more writtenMore : List Char} (spelled : Spelled text written)
    (spelledMore : Spelled more writtenMore) : Spelled (text ++ more) (written ++ writtenMore) := by
  induction spelled with
  | nil => exact spelledMore
  | kept visible rest ih => exact .kept visible ih
  | @escaped c first piece text written changes escapes rest ih =>
    change Spelled _ (first :: (piece ++ written ++ writtenMore))
    rw [List.append_assoc]
    exact .escaped changes escapes ih

/-- Whatever is written is visible, spaces among it. -/
theorem visible (spelled : Spelled text written) {c : Char} (member : c ∈ written) :
    0x20 ≤ c.toNat ∧ c.toNat < 0x7F := by
  induction spelled with
  | nil => exact absurd member List.not_mem_nil
  | kept visible rest ih =>
    rcases List.mem_cons.mp member with rfl | later
    · exact visible
    · exact ih later
  | escaped changes escapes rest ih =>
    rw [← List.cons_append] at member
    rcases List.mem_append.mp member with here | later
    · obtain ⟨large, small⟩ := visible_of_mem_escapeChars (escapes c here)
      exact ⟨Nat.le_of_lt large, small⟩
    · exact ih later

/-- A character that no escape starts with is written for itself alone. -/
theorem exists_cons {c : Char} (plain : c ∉ escapeChars) (spelled : Spelled text (c :: written)) :
    ∃ rest, text = c :: rest := by
  cases spelled with
  | kept visible rest => exact ⟨_, rfl⟩
  | escaped changes escapes rest => exact absurd (escapes c List.mem_cons_self) plain

/-- What extends a text is no spelling of it. -/
theorem eq_nil_of_append {more : List Char} (spelled : Spelled text (text ++ more)) :
    more = [] := by
  induction text with
  | nil =>
    cases more with
    | nil => rfl
    | cons c more => cases spelled
  | cons c text ih =>
    rw [List.cons_append] at spelled
    generalize shape : text ++ more = written at spelled
    cases spelled with
    | kept visible rest => exact ih (shape ▸ rest)
    | escaped changes escapes rest => exact absurd (escapes c List.mem_cons_self) changes

end Spelled

section Encoded

variable {escaped : Char → Bool}

/-- The bytes of a character that is escaped, or outside ASCII, are all escaped. -/
theorem mem_escapeChars_of_mem_encodeBytes {c d : Char}
    (changes : ¬(c.toNat < 0x80 ∧ escaped c = false))
    (member : d ∈ encodeBytes escaped (String.utf8EncodeChar c)) : d ∈ escapeChars := by
  obtain ⟨byte, inside, here⟩ := List.mem_flatMap.mp member
  by_cases is : 0x80 ≤ byte ∨ escaped (Char.ofNat byte.toNat) = true
  · rw [encodeByte_of_escaped is] at here
    exact mem_escapeChars here
  · obtain ⟨small, plain⟩ := not_or.mp is
    have ascii : byte.toNat < 0x80 := UInt8.lt_iff_toNat_lt.mp (UInt8.not_le.mp small)
    have same := Utf8.toNat_eq_of_mem_utf8EncodeChar inside ascii
    rw [← same, Char.ofNat_toNat] at plain
    exact absurd ⟨by omega, Bool.eq_false_iff.mpr plain⟩ changes

private theorem spelled_encodeText (control : ∀ c, isControl c = true → escaped c = true)
    (kept : escapeChars.any escaped = false) (text : List Char) :
    Spelled text (encodeText escaped text) := by
  induction text with
  | nil => exact .nil
  | cons c text ih =>
    rw [encodeText_cons]
    by_cases plain : c.toNat < 0x80 ∧ escaped c = false
    · obtain ⟨ascii, notEscaped⟩ := plain
      have noControl : isControl c = false := by
        apply Bool.eq_false_iff.mpr
        intro isControl
        rw [control c isControl] at notEscaped
        cases notEscaped
      obtain ⟨large, noDelete⟩ := isControl_eq_false_iff.mp noControl
      rw [encodeBytes_utf8EncodeChar ascii notEscaped]
      exact .kept (by omega) ih
    · have changes : c ∉ escapeChars := by
        intro member
        have visible := visible_of_mem_escapeChars member
        have notEscaped := Bool.eq_false_iff.mpr (List.any_eq_false.mp kept c member)
        exact plain ⟨by omega, notEscaped⟩
      obtain ⟨first, piece, shape⟩ : ∃ first piece,
          encodeBytes escaped (String.utf8EncodeChar c) = first :: piece := by
        apply List.exists_cons_of_ne_nil
        intro empty
        have longer := one_lt_length_encodeBytes plain
        rw [empty] at longer
        simp at longer
      rw [shape, List.cons_append]
      exact .escaped changes
        (fun d member => mem_escapeChars_of_mem_encodeBytes plain (shape ▸ member)) ih

end Encoded

section Tail

variable {key : List Char}

/-- A query or a fragment with its mark, if there is one. -/
def marked (mark : Char) (text : Option (List Char)) : List Char :=
  (text.map (mark :: ·)).getD []

/-- The first character where a text stops being followed. -/
theorem stops_of_dropWhile {follows : Char → Bool} {text rest : List Char} {mark : Char}
    (stopped : text.dropWhile follows = mark :: rest) : follows mark = false := by
  have stops := List.head?_dropWhile_not follows text
  rw [stopped] at stops
  exact stops

/-- Cutting off a query and a fragment loses nothing. -/
theorem ofChars_join (text : List Char) :
    (Tail.ofChars text).path ++ marked '?' (Tail.ofChars text).query ++
      marked '#' (Tail.ofChars text).fragment = text := by
  have whole := List.takeWhile_append_dropWhile (p := (!endsPath ·)) (l := text)
  unfold Tail.ofChars
  cases rest : text.dropWhile (!endsPath ·) with
  | nil =>
    rw [rest, List.append_nil] at whole
    change text.takeWhile (!endsPath ·) ++ [] ++ [] = text
    rw [List.append_nil, List.append_nil, whole]
  | cons mark after =>
    have ends := stops_of_dropWhile rest
    rw [rest] at whole
    by_cases question : mark = '?'
    · subst question
      have inner := List.takeWhile_append_dropWhile (p := (· ≠ '#')) (l := after)
      cases later : after.dropWhile (· ≠ '#') with
      | nil =>
        rw [later, List.append_nil] at inner
        simp only [later]
        change text.takeWhile (!endsPath ·) ++ '?' :: after.takeWhile (· ≠ '#') ++ [] = text
        rw [List.append_nil, inner, whole]
      | cons mark fragment =>
        obtain rfl : mark = '#' := by simpa using stops_of_dropWhile later
        rw [later] at inner
        simp only [later]
        change text.takeWhile (!endsPath ·) ++ '?' :: after.takeWhile (· ≠ '#') ++ '#' :: fragment =
          text
        rw [List.append_assoc, List.cons_append, inner, whole]
    · obtain rfl : mark = '#' := by
        simpa [endsPath, question] using ends
      change text.takeWhile (!endsPath ·) ++ [] ++ '#' :: after = text
      rw [List.append_nil, whole]

/-- What becomes of the name of an entry: its path, query and fragment, each escaped in its own
way. -/
theorem entryText_eq (name : List Char) :
    entryText name =
      encodeText isControl (Tail.ofChars (cleaned name)).path ++
        marked '?' ((Tail.ofChars (cleaned name)).query.map (encodeText escapedInQuery)) ++
        marked '#' ((Tail.ofChars (cleaned name)).fragment.map (encodeText escapedInFragment)) := by
  have query : escapeQuery false = encodeText escapedInQuery := by
    funext text
    rw [escapeQuery]
    simp only [Bool.false_and, Bool.or_false]
  rw [entryText, marked, marked, Option.map_map, Option.map_map, query]
  rfl

/-- What a name is rewritten to spells what is read of it. -/
theorem spelled_entryText (name : List Char) : Spelled (cleaned name) (entryText name) := by
  have spelledMarked : ∀ (mark : Char) (escaped : Char → Bool) (text : Option (List Char)),
      0x20 ≤ mark.toNat ∧ mark.toNat < 0x7F →
      (∀ text, Spelled text (encodeText escaped text)) →
      Spelled (marked mark text) (marked mark (text.map (encodeText escaped))) := by
    intro mark escaped text visible spelled
    cases text with
    | none => exact .nil
    | some text => exact .kept visible (spelled text)
  have inPath := spelled_encodeText (fun _ isControl => isControl) (by decide)
    (Tail.ofChars (cleaned name)).path
  have inQuery : ∀ text, Spelled text (encodeText escapedInQuery text) :=
    spelled_encodeText (fun c control => by rw [escapedInQuery, control, Bool.true_or]) (by decide)
  have inFragment : ∀ text, Spelled text (encodeText escapedInFragment text) :=
    spelled_encodeText (fun c control => by rw [escapedInFragment, control, Bool.true_or])
      (by decide)
  have joined := (inPath.append (spelledMarked '?' _ (Tail.ofChars (cleaned name)).query
    (by decide) inQuery)).append (spelledMarked '#' _ (Tail.ofChars (cleaned name)).fragment
    (by decide) inFragment)
  rw [ofChars_join, ← entryText_eq] at joined
  exact joined

/-- Whether a name stays as it is in the locator of an entry: no slash starts it, no space ends it,
and each part of it has only characters of ASCII that are not escaped there. -/
structure KeepsEntry (key : List Char) : Prop where
  noSlash : key.head? ≠ some '/'
  noSpace : key.getLast? ≠ some ' '
  path : ∀ c ∈ (Tail.ofChars key).path, c.toNat < 0x80 ∧ isControl c = false
  query : ∀ query ∈ (Tail.ofChars key).query,
    ∀ c ∈ query, c.toNat < 0x80 ∧ escapedInQuery c = false
  fragment : ∀ fragment ∈ (Tail.ofChars key).fragment,
    ∀ c ∈ fragment, c.toNat < 0x80 ∧ escapedInFragment c = false

private theorem length_marked_le {escaped : Char → Bool} (mark : Char) (text : Option (List Char)) :
    (marked mark text).length ≤ (marked mark (text.map (encodeText escaped))).length := by
  cases text with
  | none => exact Nat.le_refl 0
  | some text => exact Nat.succ_le_succ (length_le_length_encodeText text)

/-- A query or a fragment keeps its length exactly when nothing in it is escaped. -/
theorem length_marked_eq_iff {escaped : Char → Bool} (mark : Char) (text : Option (List Char)) :
    (marked mark (text.map (encodeText escaped))).length = (marked mark text).length ↔
      ∀ part ∈ text, ∀ c ∈ part, c.toNat < 0x80 ∧ escaped c = false := by
  cases text with
  | none => exact ⟨fun _ part member => (nomatch member), fun _ => rfl⟩
  | some text =>
    have length := @length_encodeText_eq_iff escaped text
    constructor
    · intro same part member
      rw [← Option.mem_some_iff.mp member]
      exact length.mp (Nat.succ.inj same)
    · intro plain
      exact congrArg Nat.succ (length.mpr (plain text rfl))

/-- Visible characters and spaces stay, but for spaces at the end. -/
theorem cleaned_of_visible (visible : ∀ c ∈ key, 0x20 ≤ c.toNat) :
    cleaned key = (key.reverse.dropWhile fun c => decide (c.toNat ≤ 0x20)).reverse := by
  apply List.filter_eq_self.mpr
  intro c member
  have large := visible c (List.mem_reverse.mp
    ((List.dropWhile_suffix _).subset (List.mem_reverse.mp member)))
  simp only [List.contains_cons, List.contains_nil, Bool.or_false, Bool.not_eq_true',
    Bool.or_eq_false_iff, beq_eq_false_iff_ne]
  refine ⟨?_, ?_, ?_⟩ <;> rintro rfl <;> simp at large

private theorem cleaned_prefix (visible : ∀ c ∈ key, 0x20 ≤ c.toNat) : cleaned key <+: key := by
  rw [cleaned_of_visible visible]
  have suffix' := List.dropWhile_suffix (fun c : Char => decide (c.toNat ≤ 0x20)) (l := key.reverse)
  have reversed := List.reverse_prefix.mpr suffix'
  rw [List.reverse_reverse] at reversed
  exact reversed

/-- Visible characters are all kept unless a space is the last of them. -/
theorem cleaned_eq_self_iff (visible : ∀ c ∈ key, 0x20 ≤ c.toNat) :
    cleaned key = key ↔ key.getLast? ≠ some ' ' := by
  rw [cleaned_of_visible visible, List.reverse_eq_iff]
  by_cases empty : key = []
  · rw [empty]
    exact ⟨fun _ space => (nomatch space), fun _ => rfl⟩
  · obtain ⟨before, last, rfl⟩ : ∃ before last, key = before ++ [last] :=
      ⟨_, _, (List.dropLast_concat_getLast empty).symm⟩
    rw [List.getLast?_concat, List.reverse_append, List.reverse_singleton, List.singleton_append]
    constructor
    · intro same space
      obtain rfl := Option.some.inj space
      rw [List.dropWhile_cons_of_pos (by decide)] at same
      have shorter := (List.dropWhile_suffix
        (fun c : Char => decide (c.toNat ≤ 0x20)) (l := before.reverse)).length_le
      rw [same, List.length_cons] at shorter
      omega
    · intro noSpace
      have large := visible last (List.mem_append_right before (List.mem_singleton_self last))
      have notSpace : last.toNat ≠ 0x20 :=
        fun same => noSpace (congrArg some (Char.toNat_inj.mp same))
      refine List.dropWhile_cons_of_neg ?_
      rw [decide_eq_true_eq]
      omega

/-- Every character of a name that stays as it is is visible, spaces among them. -/
theorem KeepsEntry.visible (keeps : KeepsEntry key) : ∀ c ∈ key, 0x20 ≤ c.toNat := by
  have ofMarked : ∀ (mark : Char) (text : Option (List Char)), 0x20 ≤ mark.toNat →
      (∀ part ∈ text, ∀ c ∈ part, isControl c = false) →
        ∀ c ∈ marked mark text, 0x20 ≤ c.toNat := by
    intro mark text large noControl c member
    cases text with
    | none => exact absurd member List.not_mem_nil
    | some text =>
      rcases List.mem_cons.mp member with rfl | inside
      · exact large
      · exact (isControl_eq_false_iff.mp (noControl text rfl c inside)).1
  intro c member
  rw [← ofChars_join key] at member
  rcases List.mem_append.mp member with before | inFragment
  · rcases List.mem_append.mp before with inPath | inQuery
    · exact (isControl_eq_false_iff.mp (keeps.path c inPath).2).1
    · refine ofMarked '?' _ (by decide) (fun part inside c member => ?_) c inQuery
      have plain := (keeps.query part inside c member).2
      rw [escapedInQuery] at plain
      exact (Bool.or_eq_false_iff.mp plain).1
  · refine ofMarked '#' _ (by decide) (fun part inside c member => ?_) c inFragment
    have plain := (keeps.fragment part inside c member).2
    rw [escapedInFragment] at plain
    exact (Bool.or_eq_false_iff.mp plain).1

private theorem dropWhile_slash_eq_self_iff :
    key.dropWhile (· == '/') = key ↔ key.head? ≠ some '/' := by
  cases key with
  | nil => exact ⟨fun _ slash => (nomatch slash), fun _ => rfl⟩
  | cons c rest =>
    constructor
    · rintro same slash
      obtain rfl := Option.some.inj slash
      exact absurd (stops_of_dropWhile same) (by decide)
    · intro noSlash
      refine List.dropWhile_cons_of_neg fun slash => noSlash ?_
      rw [beq_iff_eq.mp slash, List.head?_cons]

private theorem marked_map_eq {escaped : Char → Bool} {text : Option (List Char)}
    (plain : ∀ part ∈ text, ∀ c ∈ part, c.toNat < 0x80 ∧ escaped c = false) (mark : Char) :
    marked mark (text.map (encodeText escaped)) = marked mark text := by
  cases text with
  | none => rfl
  | some text => exact congrArg (mark :: ·) (encodeText_eq_self (plain text rfl))

/-- **A name stays as it is in the locator of an entry** exactly when no slash starts it, no space
ends it and nothing in it is escaped. -/
theorem entryText_eq_iff : entryText (key.dropWhile (· == '/')) = key ↔ KeepsEntry key := by
  constructor
  · intro same
    have spelled := spelled_entryText (key.dropWhile (· == '/'))
    rw [same] at spelled
    have visible : ∀ c ∈ key, 0x20 ≤ c.toNat := fun c member => (spelled.visible member).1
    have visibleRest : ∀ c ∈ key.dropWhile (· == '/'), 0x20 ≤ c.toNat :=
      fun c member => visible c ((List.dropWhile_suffix _).subset member)
    have noSlash : key.head? ≠ some '/' := by
      intro slash
      obtain ⟨rest, rfl⟩ := List.head?_eq_some_iff.mp slash
      obtain ⟨text, starts⟩ := spelled.exists_cons (by decide)
      obtain ⟨more, whole⟩ := cleaned_prefix visibleRest
      rw [starts] at whole
      exact absurd (stops_of_dropWhile whole.symm) (by decide)
    have whole := dropWhile_slash_eq_self_iff.mpr noSlash
    rw [whole] at same spelled
    obtain ⟨more, extended⟩ := cleaned_prefix visible
    have nothing : more = [] := by
      refine @Spelled.eq_nil_of_append (cleaned key) more ?_
      rw [extended]
      exact spelled
    have kept : cleaned key = key := by
      rw [nothing, List.append_nil] at extended
      exact extended
    rw [entryText_eq, kept] at same
    have lengths := congrArg List.length (same.trans (ofChars_join key).symm)
    simp only [List.length_append] at lengths
    have path := @length_le_length_encodeText isControl (Tail.ofChars key).path
    have query := @length_marked_le escapedInQuery '?' (Tail.ofChars key).query
    have fragment := @length_marked_le escapedInFragment '#' (Tail.ofChars key).fragment
    exact {
      noSlash := noSlash
      noSpace := (cleaned_eq_self_iff visible).mp kept
      path := (length_encodeText_eq_iff _).mp (by omega)
      query := (length_marked_eq_iff '?' _).mp (by omega)
      fragment := (length_marked_eq_iff '#' _).mp (by omega) }
  · intro keeps
    rw [dropWhile_slash_eq_self_iff.mpr keeps.noSlash, entryText_eq,
      (cleaned_eq_self_iff keeps.visible).mpr keeps.noSpace, encodeText_eq_self keeps.path,
      marked_map_eq keeps.query, marked_map_eq keeps.fragment, ofChars_join]

end Tail

end Isolation.Url
