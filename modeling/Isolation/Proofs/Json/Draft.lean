import Isolation.Json.Reader
import Isolation.Proofs.Attempt

/-!
# What holds of what is read

A reader yields a property when the property holds of every value that it gives, whatever the text
(`Isolation.Json.Yields`). A list yields what its items yield (`Isolation.Json.Yields.list`), and a
record yields what its fields keep (`Isolation.Json.yields_readDraft`).
-/

namespace Isolation.Json

/-- Whether a property holds of whatever a reader gives. -/
def Yields {α : Type} (read : Reader α) (holds : α → Prop) : Prop :=
  ∀ ⦃text value rest⦄, read text = .ok (value, rest) → holds value

/-- Every path that is read is the path of a text. -/
theorem yields_readPath : Yields readPath fun path => ∃ text, path = .ofString text := by
  intro text path rest given
  obtain ⟨⟨spelled, more⟩, -, given⟩ := exists_of_map_eq_ok given
  exact ⟨spelled, (Prod.mk.inj given).1.symm⟩

section Lists

variable {α : Type} {read : Reader α} {holds : α → Prop}

private theorem Yields.items (yields : Yields read holds) (fuel : Nat) (first : Bool) :
    Yields (readItems read fuel first) fun items => ∀ item ∈ items, holds item := by
  induction fuel generalizing first with
  | zero => exact fun _ _ _ given => nomatch given
  | succ fuel ih =>
    intro text items rest given
    obtain ⟨next, -, given⟩ := exists_of_bind_eq_ok given
    cases next with
    | none =>
      obtain ⟨rfl, -⟩ := Prod.mk.inj (Except.ok.inj given)
      exact fun item member => absurd member List.not_mem_nil
    | some text =>
      obtain ⟨⟨item, text⟩, head, given⟩ := exists_of_bind_eq_ok given
      obtain ⟨⟨more, text⟩, tail, given⟩ := exists_of_bind_eq_ok given
      obtain ⟨rfl, -⟩ := Prod.mk.inj (Except.ok.inj given)
      exact List.forall_mem_cons.mpr ⟨yields head, ih false tail⟩

/-- What holds of every item that is read holds of the items of a list. -/
theorem Yields.list (yields : Yields read holds) :
    Yields (readList read) fun items => ∀ item ∈ items, holds item := by
  intro text items rest given
  unfold readList at given
  split at given
  · obtain ⟨⟨items, text⟩, body, given⟩ := exists_of_bind_eq_ok given
    obtain ⟨_, -, given⟩ := exists_of_bind_eq_ok given
    obtain ⟨rfl, -⟩ := Prod.mk.inj (Except.ok.inj given)
    exact yields.items _ _ body
  · cases given

end Lists

section Records

variable {δ : Type} {holds : δ → Prop} {fields : List (Member δ)}

/-- Whether reading a field leaves a property of the draft as it is. -/
def Member.Keeps (field : Member δ) (holds : δ → Prop) : Prop :=
  ∀ draft, holds draft → Yields (field.read draft) holds

/-- A field keeps a property when the property holds after its value is put into a draft. -/
theorem Member.keeps_of {α : Type} {read : Reader α} {put : α → δ → δ} {fits : α → Prop}
    (yields : Yields read fits) (puts : ∀ value draft, fits value → holds draft →
      holds (put value draft)) (name : String) (required : Bool) (held : δ → Option α) :
    (Member.of name required held read put).Keeps holds := by
  intro draft before text filled rest given
  obtain ⟨⟨value, more⟩, taken, given⟩ := exists_of_map_eq_ok given
  obtain ⟨rfl, -⟩ := Prod.mk.inj given
  exact puts value draft (yields taken) before

private theorem yields_readMembers (keep : ∀ field ∈ fields, field.Keeps holds) (fuel : Nat)
    (first : Bool) {draft : δ} (before : holds draft) :
    Yields (readMembers fields fuel first draft) holds := by
  induction fuel generalizing first draft with
  | zero => exact fun _ _ _ given => nomatch given
  | succ fuel ih =>
    intro text final rest given
    obtain ⟨next, -, given⟩ := exists_of_bind_eq_ok given
    cases next with
    | none =>
      obtain ⟨rfl, -⟩ := Prod.mk.inj (Except.ok.inj given)
      exact before
    | some text =>
      obtain ⟨⟨name, text⟩, -, given⟩ := exists_of_bind_eq_ok given
      cases known : fields.find? (·.name == name) with
      | none =>
        simp only [known] at given
        obtain ⟨text, -, given⟩ := exists_of_bind_eq_ok given
        obtain ⟨text, -, given⟩ := exists_of_bind_eq_ok given
        exact ih false before given
      | some field =>
        simp only [known] at given
        split at given
        · cases given
        · obtain ⟨text, -, given⟩ := exists_of_bind_eq_ok given
          obtain ⟨⟨filled, text⟩, value, given⟩ := exists_of_bind_eq_ok given
          exact ih false (keep field (List.mem_of_find?_eq_some known) draft before value) given

private theorem yields_readPositions (keep : ∀ field ∈ fields, field.Keeps holds)
    (expected : String) (position : Nat) {draft : δ} (before : holds draft) :
    Yields (readPositions expected fields position draft) holds := by
  induction fields generalizing position draft with
  | nil =>
    intro text final rest given
    obtain ⟨rfl, -⟩ := Prod.mk.inj (Except.ok.inj given)
    exact before
  | cons field fields ih =>
    obtain ⟨keepHere, keepLater⟩ := List.forall_mem_cons.mp keep
    intro text final rest given
    obtain ⟨next, -, given⟩ := exists_of_bind_eq_ok given
    cases next with
    | none =>
      simp only at given
      split at given
      · cases given
      · exact ih keepLater _ before given
    | some text =>
      obtain ⟨⟨filled, text⟩, value, given⟩ := exists_of_bind_eq_ok given
      exact ih keepLater _ (keepHere draft before value) given

/-- **A draft keeps what holds of it at the start**, as an object and as an array, when every field
keeps it. -/
theorem yields_readDraft (keep : ∀ field ∈ fields, field.Keeps holds) (kind : String) {start : δ}
    (before : holds start) : Yields (readDraft kind fields start) holds := by
  intro text final rest given
  unfold readDraft at given
  split at given
  · obtain ⟨⟨draft, text⟩, body, given⟩ := exists_of_bind_eq_ok given
    simp only at given
    split at given
    · cases given
    · obtain ⟨_, -, given⟩ := exists_of_bind_eq_ok given
      obtain ⟨rfl, -⟩ := Prod.mk.inj (Except.ok.inj given)
      exact yields_readMembers keep _ _ before body
  · obtain ⟨⟨draft, text⟩, body, given⟩ := exists_of_bind_eq_ok given
    obtain ⟨_, -, given⟩ := exists_of_bind_eq_ok given
    obtain ⟨rfl, -⟩ := Prod.mk.inj (Except.ok.inj given)
    exact yields_readPositions keep _ _ before body
  · cases given

end Records

end Isolation.Json
