import HandleCache.Binding.Resolve

/-!
# Calls through a binding

A call is checked before it is made: the operation has to exist and be of the right kind, the
instance has to be there, the arguments have to fit, and for an instance member the instance has
to be of the bound class. The first check that fails decides. Where a call needs the class, a
reference is had from what the binding keeps, or else by name, and is given back after the call.

## Contents

- `Binding.withClass`: a class reference for the length of its use
- `Binding.requirePresent`, `Binding.requireArguments`, `Binding.requireInstance`: the checks
- `Binding.call`, `Binding.callStatic`, `Binding.create`: calls
- `Binding.read`, `Binding.readStatic`: field reads
- `Binding.callTrusted`, `Binding.readTrusted`: for instances known to be of the class
-/

namespace HandleCache

namespace Binding

variable {H : Host} {α : Type}

/-! ## The class -/

/-- The class by name, for a binding that keeps no reference that could be used. -/
def lookupAgain (b : Binding H) : H.Request H.ClassRef := do
  Host.tell (.lookingUpAgain b.className)
  Host.classNamed b.className

/-- A reference to the class: from the pin, from the weak reference unless its class is gone, or
by name. -/
def obtainClass (b : Binding H) : H.Request H.ClassRef :=
  match b.retained with
  | .pinned p => Host.direct (H.classOfPin p)
  | .weakly w => do
    match ← Host.direct (H.classOfWeak w) with
    | some c => pure c
    | none => do
      Host.tell (.weakCleared b.className)
      b.lookupAgain
  | .nothing => b.lookupAgain

section

variable {b : Binding H} {s t : H.State}

theorem obtainClass_of_nothing (kept : b.retained = .nothing) :
    b.obtainClass s = b.lookupAgain s := by
  rw [obtainClass, kept]

theorem obtainClass_of_pinned {p : H.Pin} {c : H.ClassRef} (kept : b.retained = .pinned p)
    (h : H.classOfPin p s = (.ok c, t)) : b.obtainClass s = (.ok c, t) := by
  simp only [obtainClass, kept, Host.direct, Action.mapError, h]

theorem obtainClass_of_weakly {w : H.Weak} {c : H.ClassRef} (kept : b.retained = .weakly w)
    (h : H.classOfWeak w s = (.ok (some c), t)) : b.obtainClass s = (.ok c, t) := by
  simp only [obtainClass, kept, Host.direct, Action.mapError, Action.bind_apply, h]
  rfl

/-- A weak reference that was cleared is told, and then the class is looked up. -/
theorem obtainClass_of_cleared {w : H.Weak} (kept : b.retained = .weakly w)
    (h : H.classOfWeak w s = (.ok none, t)) :
    b.obtainClass s = b.lookupAgain (H.note (.weakCleared b.className) t) := by
  simp only [obtainClass, kept, Host.direct, Action.mapError, Action.bind_apply, h]
  rfl

end

/-- Uses a reference to the class, which is given back afterwards. -/
def withClass (b : Binding H) (use : H.ClassRef → H.Request α) : H.Request α :=
  Action.bracket b.obtainClass H.releaseClass use

/-! ## Checks -/

/-- The instance has to be there. -/
def requirePresent (b : Binding H) (op : Operation) (o : H.Object) : H.Request Unit := do
  if ← Action.query (H.isNull o) then
    Action.fail (.nullInstance b.className op.name)

/-- The arguments from a position on have to fit their parameters, the first that does not
decides. -/
def requireEach (b : Binding H) (op : Operation) :
    Nat → List TypeDescriptor → List H.Argument → H.Request Unit
  | index, t :: ts, a :: rest => do
    if ← Action.query (H.accepts t a) then requireEach b op (index + 1) ts rest
    else Action.fail (.argumentType b.className op.name index t.render)
  | _, _, _ => pure ()

/-- There have to be as many arguments as parameters, and each has to fit. -/
def requireArguments (b : Binding H) (op : Operation) (d : MethodDescriptor)
    (args : List H.Argument) : H.Request Unit :=
  if d.parameters.length = args.length then b.requireEach op 0 d.parameters args
  else Action.fail (.argumentCount b.className op.name d.parameters.length args.length)

/-- The instance has to be of the bound class. -/
def requireInstance (b : Binding H) (o : H.Object) : H.Request Unit := do
  -- The reference is given back before the call, which does not need it.
  let isInstance ← b.withClass fun c => Host.direct (H.isInstance o c)
  if isInstance then pure () else Action.fail (.wrongClass b.className)

/-! ## Operations by kind -/

/-- An instance method. -/
def methodNamed (b : Binding H) (name : String) :
    Except (Fault H.Failure) (Operation × H.MethodId × MethodDescriptor) := do
  let r ← b.operation name
  match r.handle with
  | .method id d => .ok (r.operation, id, d)
  | _ => .error (b.kindFault r .method)

/-- An instance field. -/
def fieldNamed (b : Binding H) (name : String) :
    Except (Fault H.Failure) (Operation × H.FieldId × FieldDescriptor) := do
  let r ← b.operation name
  match r.handle with
  | .field id d => .ok (r.operation, id, d)
  | _ => .error (b.kindFault r .field)

/-- A static method. -/
def staticMethodNamed (b : Binding H) (name : String) :
    Except (Fault H.Failure) (Operation × H.StaticMethodId × MethodDescriptor) := do
  let r ← b.operation name
  match r.handle with
  | .staticMethod id d => .ok (r.operation, id, d)
  | _ => .error (b.kindFault r .staticMethod)

/-- A constructor. -/
def constructorNamed (b : Binding H) (name : String) :
    Except (Fault H.Failure) (Operation × H.MethodId × MethodDescriptor) := do
  let r ← b.operation name
  match r.handle with
  | .constructor id d => .ok (r.operation, id, d)
  | _ => .error (b.kindFault r .constructor)

/-- A static field. -/
def staticFieldNamed (b : Binding H) (name : String) :
    Except (Fault H.Failure) (Operation × H.StaticFieldId × FieldDescriptor) := do
  let r ← b.operation name
  match r.handle with
  | .staticField id d => .ok (r.operation, id, d)
  | _ => .error (b.kindFault r .staticField)

/-! ## Calls -/

/-- Calls an instance method. -/
def call (b : Binding H) (name : String) (o : H.Object) (args : List H.Argument) :
    H.Request H.Value := do
  let (op, id, d) ← Action.ofExcept (b.methodNamed name)
  b.requirePresent op o
  b.requireArguments op d args
  b.requireInstance o
  Host.direct (H.callMethod o id d args)

/-- Calls an instance method of an object that is known to be of the bound class. -/
def callTrusted (b : Binding H) (name : String) (o : H.Object) (args : List H.Argument) :
    H.Request H.Value := do
  let (op, id, d) ← Action.ofExcept (b.methodNamed name)
  b.requirePresent op o
  b.requireArguments op d args
  Host.direct (H.callMethod o id d args)

/-- Calls a static method. -/
def callStatic (b : Binding H) (name : String) (args : List H.Argument) :
    H.Request H.Value := do
  let (op, id, d) ← Action.ofExcept (b.staticMethodNamed name)
  b.requireArguments op d args
  b.withClass fun c => Host.direct (H.callStatic c id d args)

/-- Makes a new object. -/
def create (b : Binding H) (name : String) (args : List H.Argument) :
    H.Request H.Object := do
  let (op, id, d) ← Action.ofExcept (b.constructorNamed name)
  b.requireArguments op d args
  b.withClass fun c => Host.direct (H.newObject c id d args)

/-- Reads an instance field. -/
def read (b : Binding H) (name : String) (o : H.Object) : H.Request H.Value := do
  let (op, id, d) ← Action.ofExcept (b.fieldNamed name)
  b.requirePresent op o
  b.requireInstance o
  Host.direct (H.readField o id d)

/-- Reads an instance field of an object that is known to be of the bound class. -/
def readTrusted (b : Binding H) (name : String) (o : H.Object) : H.Request H.Value := do
  let (op, id, d) ← Action.ofExcept (b.fieldNamed name)
  b.requirePresent op o
  Host.direct (H.readField o id d)

/-- Reads a static field. -/
def readStatic (b : Binding H) (name : String) : H.Request H.Value := do
  let (_, id, d) ← Action.ofExcept (b.staticFieldNamed name)
  b.withClass fun c => Host.direct (H.readStatic c id d)

end Binding

end HandleCache
