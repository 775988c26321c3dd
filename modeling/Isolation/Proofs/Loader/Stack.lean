import Isolation.Loader.ClassLookup
import Isolation.Proofs.Loader.Resources

/-!
# Stacked wrappers

Wrappers may stand in front of wrappers. A class gets through a stack when every wrapper lets it
through, and otherwise the outermost one that does not is the one that says so
(`Isolation.Loader.loadClass_stacked`). A resource has to pass the outermost wrapper alone, for
wrappers ask the loader behind them for what is its own. So a stack of any height behaves as its
parts say, without regard to what was looked up, registered or disposed before
(`Isolation.Loader.stack_collapses`).
-/

namespace Isolation

/-- A lookup without its events: the state afterwards, and the answer. -/
def withoutEvents {α : Type} (found : State × Reported α) : State × α :=
  (found.1, found.2.answer)

namespace Loader

/-- Wrappers one behind another in front of a loader, the outermost first. -/
def stacked (wrappers : List Wrapper) (base : Loader) : Loader :=
  wrappers.foldr filtering base

/-- The outermost wrapper that does not let a class through. -/
def hiding? (wrappers : List Wrapper) (name : String) : Option Wrapper :=
  wrappers.find? fun wrapper => !wrapper.exports.admitsClass name

variable (files : FileTree) (state : State) (wrappers : List Wrapper) (base : Loader)
  (name : String)

@[simp] private theorem stacked_cons (wrapper : Wrapper) :
    stacked (wrapper :: wrappers) base = filtering wrapper (stacked wrappers base) :=
  rfl

section Behind

/-! What a wrapper passes on unchanged, a stack passes on unchanged. -/

@[simp] private theorem artifact_stacked : (stacked wrappers base).artifact = base.artifact := by
  induction wrappers with
  | nil => rfl
  | cons wrapper wrappers ih => exact ih

@[simp] private theorem identity_stacked : (stacked wrappers base).identity = base.identity := by
  induction wrappers with
  | nil => rfl
  | cons wrapper wrappers ih => exact ih

@[simp] private theorem rules_stacked : (stacked wrappers base).rules = base.rules := by
  induction wrappers with
  | nil => rfl
  | cons wrapper wrappers ih => exact ih

@[simp] private theorem findResource?_stacked :
    (stacked wrappers base).findResource? files name = base.findResource? files name := by
  induction wrappers with
  | nil => rfl
  | cons wrapper wrappers ih => exact ih

@[simp] private theorem findLocalResource?_stacked :
    (stacked wrappers base).findLocalResource? files name =
      base.findLocalResource? files name := by
  induction wrappers with
  | nil => rfl
  | cons wrapper wrappers ih => exact ih

@[simp] private theorem findResources_stacked :
    (stacked wrappers base).findResources files name = base.findResources files name := by
  induction wrappers with
  | nil => rfl
  | cons wrapper wrappers ih => exact ih

@[simp] private theorem findOwnClass_stacked :
    (stacked wrappers base).findOwnClass files state name =
      base.findOwnClass files state name := by
  induction wrappers with
  | nil => rfl
  | cons wrapper wrappers ih => exact ih

end Behind

/-- A class lookup through a wrapper goes on behind it, if the wrapper exports the class. -/
theorem loadClass_filtering (wrapper : Wrapper) (inner : Loader) :
    withoutEvents ((filtering wrapper inner).loadClass files state name) =
      if wrapper.exports.admitsClass name then withoutEvents (inner.loadClass files state name)
      else (state, .error (.notExported name inner.artifact wrapper.exports)) := by
  by_cases admitted : wrapper.exports.admitsClass name = true
  · have goesOn : (filtering wrapper inner).loadClass files state name =
        ((inner.loadClass files state name).1, (inner.loadClass files state name).2.after
          (.decided wrapper.verbosity inner.artifact .classLookup name .exported false)) :=
      if_pos admitted
    rw [if_pos admitted, goesOn]
    rfl
  · have stops : (filtering wrapper inner).loadClass files state name =
        (state, ⟨.error (.notExported name inner.artifact wrapper.exports),
          [.decided wrapper.verbosity inner.artifact .classLookup name .hidden false]⟩) :=
      if_neg admitted
    rw [if_neg admitted, stops]
    rfl

/-- **A class gets through a stack when every wrapper lets it through.** Otherwise nothing is asked
behind the outermost wrapper that does not, and nothing changes. -/
theorem loadClass_stacked :
    withoutEvents ((stacked wrappers base).loadClass files state name) =
      match hiding? wrappers name with
      | none => withoutEvents (base.loadClass files state name)
      | some wrapper => (state, .error (.notExported name base.artifact wrapper.exports)) := by
  induction wrappers with
  | nil => rfl
  | cons wrapper wrappers ih =>
    rw [stacked_cons]
    refine (loadClass_filtering files state name wrapper (stacked wrappers base)).trans ?_
    by_cases admitted : wrapper.exports.admitsClass name = true
    · have passes : hiding? (wrapper :: wrappers) name = hiding? wrappers name := by
        apply List.find?_cons_of_neg
        simp [admitted]
      rw [if_pos admitted, passes]
      exact ih
    · have hides : hiding? (wrapper :: wrappers) name = some wrapper := by
        apply List.find?_cons_of_pos
        simp [admitted]
      rw [if_neg admitted, hides, artifact_stacked]

/-- **A stack of wrappers collapses.** In any state, a class lookup goes through to the loader
behind the stack if all wrappers export the class; if not, the answer is that the outermost wrapper
which does not export it keeps it back, and nothing changes. A resource lookup is answered from the
table of the outermost wrapper, or else with what the loader behind the stack has of its own if
that wrapper exports it; the wrappers in between have no say. Everything else is what the loader
behind the stack says. -/
theorem stack_collapses (outermost : Wrapper) :
    let stack := stacked (outermost :: wrappers) base
    (withoutEvents (stack.loadClass files state name) =
        match hiding? (outermost :: wrappers) name with
        | none => withoutEvents (base.loadClass files state name)
        | some wrapper => (state, .error (.notExported name base.artifact wrapper.exports))) ∧
      stack.classLoader.loadClass files state name = stack.loadClass files state name ∧
      (stack.getResource? files name).answer =
        ((Service.interfaceOf? name).bind outermost.services.first?).or
          (if outermost.exports.admitsResource name then base.findResource? files name
          else none) ∧
      (stack.getResources files name).answer =
        (if ((Service.interfaceOf? name).map outermost.services.all).getD [] = [] then
          if outermost.exports.admitsResource name then base.findResources files name else .ok []
        else .ok (((Service.interfaceOf? name).map outermost.services.all).getD [])) ∧
      stack.findResource? files name = base.findResource? files name ∧
      stack.findResources files name = base.findResources files name ∧
      stack.findOwnClass files state name = base.findOwnClass files state name ∧
      stack.findLocalResource? files name = base.findLocalResource? files name ∧
      stack.artifact = base.artifact ∧ stack.identity = base.identity ∧
      stack.rules = base.rules := by
  intro stack
  refine ⟨loadClass_stacked files state (outermost :: wrappers) base name, rfl, ?_, ?_, ?_, ?_, ?_,
    ?_, ?_, ?_, ?_⟩
  · rw [← findResource?_stacked files wrappers base, ← Wrapper.answer_serviceLocator?]
    exact answer_getResource?_filtering outermost (stacked wrappers base)
  · rw [← findResources_stacked files wrappers base, ← Wrapper.answer_serviceLocators]
    exact answer_getResources_filtering outermost (stacked wrappers base)
  · exact findResource?_stacked files (outermost :: wrappers) base name
  · exact findResources_stacked files (outermost :: wrappers) base name
  · exact findOwnClass_stacked files state (outermost :: wrappers) base name
  · exact findLocalResource?_stacked files (outermost :: wrappers) base name
  · exact artifact_stacked (outermost :: wrappers) base
  · exact identity_stacked (outermost :: wrappers) base
  · exact rules_stacked (outermost :: wrappers) base

end Loader

end Isolation
