import HandleCache.Declaration

/-!
# Steps

The steps that scripts are made of, and what they answer. Variables, declarations, classes and
operations are referred to by name. A step that yields something can keep it in a variable.

A step may lack an entry that it needs, or have one that cannot be used. This is found when the step
comes to the entry, so that what is wrong with earlier entries is told first.

## Contents

- `Refusal`: why a step cannot be performed at all
- `Given`: an entry of a step, which may be missing
- `MemberKind`, `Droppable`: what members are looked up as, and what can be forgotten
- `Step`: the steps, `χ` being those that only scripts on one kind of host have
- `Answer`: what a step answers
-/

namespace HandleCache.Script

/-! ## Refusals -/

/-- Why a step cannot be performed at all. -/
inductive Refusal where
  | noSuchDeclaration
  | noSuchBinding
  | noSuchObject
  | noSuchRegistry
  | noSuchDeferred
  | noSuchWrapped
  | badArguments
  /-- There is no way to forget things of this kind. -/
  | notDroppable
  | unknownStep (name : String)
  /-- The step lacks this entry. -/
  | missing (key : String)
  /-- There is no class type of this name. -/
  | unknownType (name : String)
  /-- The class of the class type must not be there. -/
  | classPresent
  deriving DecidableEq, Repr

/-- How a refusal is worded. -/
def Refusal.message : Refusal → String
  | noSuchDeclaration => "no such decl"
  | noSuchBinding => "no such binding"
  | noSuchObject => "no such object"
  | noSuchRegistry => "no such registry"
  | noSuchDeferred => "no such lazy"
  | noSuchWrapped => "no such bound object"
  | badArguments => "bad args"
  | notDroppable => "cannot drop that"
  | unknownStep name => s!"unknown step {name}"
  | missing key => s!"{key} expected"
  | unknownType name => s!"unknown type {name}"
  | classPresent => "class present"

/-! ## Steps -/

/-- An entry of a step as it was given, or why it cannot be used; that matters only once the step
comes to need it. -/
abbrev Given (α : Type) : Type := Except Refusal α

/-- What members are looked up as; a constructor is a method here. -/
inductive MemberKind where
  | method
  | staticMethod
  | field
  | staticField
  deriving DecidableEq, Repr

/-- What can be forgotten. -/
inductive Droppable where
  | binding
  | registry
  deriving DecidableEq, Repr

/-- A step of a script. -/
inductive Step (χ : Type) where
  | resolve (declaration : Given String) (keep : Option String)
  | describe (binding : Given String)
  | contains (binding operation : Given String)
  | handle (kind : MemberKind) (binding operation : Given String)
  /-- Calls an instance method; a trusted instance is not tested to be of the class. -/
  | call (trusted : Bool) (binding operation : Given String) (instanceName : String)
      (arguments : List String) (keep : Option String)
  | callStatic (binding operation : Given String) (arguments : List String)
      (keep : Option String)
  | create (binding operation : Given String) (arguments : List String) (keep : Option String)
  /-- Reads an instance field; a trusted instance is not tested to be of the class. Arguments that
  are given have to be values, and are not used. -/
  | read (trusted : Bool) (binding operation : Given String) (instanceName : String)
      (arguments : List String) (keep : Option String)
  /-- Reads a static field, with arguments as for an instance field. -/
  | readStatic (binding operation : Given String) (arguments : List String)
      (keep : Option String)
  /-- Has a reference to the class of a binding for a moment. -/
  | acquire (binding : Given String)
  /-- Has a reference to a class by name for as long as some of its members are looked up. -/
  | scope (className : Given String) (members : Given (List (MemberKind × String × String)))
  /-- Asks whether two variables are the same binding. -/
  | same (first second : Given String)
  | drop (name : Given String) (kind : Given Droppable)
  | registry (keep : Given String)
  | registryOf (keep : Given String) (declarations : List String)
  | request (registry declaration : Given String) (keep : Option String)
  /-- Asks a registry for the binding for a class that it knows. -/
  | named (registry className : Given String) (keep : Option String)
  /-- Makes a registry resolve all that it knows. -/
  | preload (registry : Given String)
  /-- Asks a registry for the binding for a class if it is resolved already. -/
  | peek (registry className : Given String) (keep : Option String)
  | describeRegistry (registry : Given String)
  | defer (declaration keep : Given String)
  | force (deferred : Given String) (keep : Option String)
  /-- Tells all about a deferred binding; the binding is kept if it is there. -/
  | describeDeferred (deferred : Given String) (keep : Option String)
  /-- Asks a class type that stands on a deferred binding for its class and its binding. -/
  | classType (deferred : Given String) (keep : Option String)
  /-- Does what only scripts on this kind of host can do. -/
  | special (step : χ)

/-! ## Answers -/

/-- What a step answers. -/
inductive Answer where
  | nothing
  | flag (b : Bool)
  /-- A value, a handle or a summary, as text. -/
  | text (s : String)
  /-- All about a binding: its declaration, whether it keeps its class, the logical names of its
  operations and its summary. -/
  | binding (declaration : Declaration) (keepsClass : Bool) (operations : List String)
      (summary : String)
  /-- A class and some handles of its members. -/
  | scope (classText : String) (handles : List String)
  /-- All about a registry: the classes it knows, how many bindings it made, and its summary. -/
  | registry (classNames : List String) (resolutions : Nat) (summary : String)
  /-- All about a deferred binding: its declaration, the summary of its binding if it is there, and
  its own. -/
  | deferred (declaration : Declaration) (resolved : Option String) (summary : String)
  /-- A class type: its class and the summary of its binding. -/
  | classType (className summary : String)
  /-- A wrapped object: itself, its class, and whether its binding is the one it was wrapped
  with. -/
  | wrapped (object className : String) (sameBinding : Bool)
  deriving DecidableEq, Repr

end HandleCache.Script
