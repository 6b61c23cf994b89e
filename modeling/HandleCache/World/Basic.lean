import HandleCache.Declaration
import HandleCache.World.Value

/-!
# Worlds

A world is what a virtual machine has loaded and made: classes with their members, one below
another, and objects that hold one value each. Names are looked up among the classes that are not
hidden. Unloading a class begins a new age of it, so that references made in an earlier age can be
told from later ones; the class itself stays.

## Contents

- `ObjectId`, `ObjectId.named`: references to objects, and which one is null
- `Behavior`, `WorldMember`, `WorldClass`, `WorldObject`: what there is
- `Behavior.read`: what members do, as text
- `World`: classes and objects by number
- `World.apply`: what can befall the classes from outside
- `World.lineage`, `World.isInstance`: a class and those above it
- `World.findMember`: a member by name, signature and staticness
- `World.run`, `World.make`: what members and constructors do

## Main statements

- `World.mem_lineage_self`: a class is in its own lineage
-/

namespace HandleCache

/-! ## What there is -/

/-- A reference to an object by its number, or null. -/
abbrev ObjectId := Option Nat

/-- The object that a name stands for, given what other names stand for; `null` always names no
object. -/
def ObjectId.named (others : String → Option ObjectId) (name : String) : Option ObjectId :=
  if name = "null" then some none else others name

/-- What a member does when it is run. -/
inductive Behavior where
  | nothing
  /-- As a constructor, it yields null. -/
  | null
  | throws (exception : String)
  | constant (v : Value ObjectId)
  /-- It yields a new object that holds nothing. -/
  | create (className : String)
  /-- It yields the argument at this position. -/
  | argument (index : Nat)
  | self
  /-- It yields the greatest whole number among the arguments. -/
  | greatest
  | held
  /-- It makes the instance hold the first argument, and yields that. -/
  | hold
  /-- It adds the first argument to what the instance holds, and yields the sum. -/
  | add

namespace Behavior

/-- What stands in a text after a mark at its front. -/
def afterMark? (mark text : String) : Option String :=
  if mark.isPrefixOf text then some (String.ofList (text.toList.drop mark.length)) else none

/-- The behavior that is written as a word: by itself, or after `throw:`, `new:` and `=`. Any other
word stands for doing nothing. -/
def read (text : String) : Behavior :=
  match text with
  | "null" => null
  | "arg0" => argument 0
  | "arg1" => argument 1
  | "self" => self
  | "max" => greatest
  | "slot" => held
  | "set" => hold
  | "add" => add
  | _ =>
    match afterMark? "throw:" text, afterMark? "new:" text, afterMark? "=" text with
    | some x, _, _ => throws x
    | _, some c, _ => create c
    | _, _, some v =>
      -- Null is the only reference that can be written before there are objects.
      ((Value.read (ObjectId.named fun _ => none) v).map constant).getD nothing
    | _, _, _ => nothing

end Behavior

/-- A member of a class. -/
structure WorldMember where
  name : String
  signature : String
  /-- Whether it belongs to the class and not to its instances. -/
  isStatic : Bool
  behavior : Behavior

/-- A class. -/
structure WorldClass where
  name : String
  /-- The name of the class above it. -/
  parent : Option String
  members : List WorldMember
  /-- Whether it is not found by name. -/
  hidden : Bool := false
  /-- How often it was unloaded. -/
  age : Nat := 0

/-- An object: the number of its class and what it holds. -/
structure WorldObject where
  owner : Nat
  held : Value ObjectId

/-- A member, by the numbers of its class and of its place in the class. -/
structure MemberId where
  /-- The number of the class that declares the member. -/
  owner : Nat
  /-- The number of the member in that class. -/
  index : Nat
  deriving DecidableEq, Repr

/-- Classes and objects, both by number. -/
structure World where
  classes : List WorldClass := []
  objects : List WorldObject := []

namespace World

/-! ## Classes -/

/-- The first class of this name, hidden or not. -/
def classNamed? (w : World) (name : String) : Option Nat :=
  w.classes.findIdx? (·.name == name)

/-- The class that a lookup by name finds. -/
def visibleClass? (w : World) (name : String) : Option Nat :=
  w.classes.findIdx? fun c => c.name == name && !c.hidden

/-- The name of a class. -/
def className (w : World) (c : Nat) : String :=
  (w.classes[c]?.map (·.name)).getD ""

/-- The age of a class. -/
def age (w : World) (c : Nat) : Nat :=
  (w.classes[c]?.map (·.age)).getD 0

/-- The class above a class. -/
def parent? (w : World) (c : Nat) : Option Nat := do
  let info ← w.classes[c]?
  w.classNamed? (← info.parent)

/-- A class and so many of those above it. -/
def lineageWithin (w : World) : Nat → Nat → List Nat
  | 0, c => [c]
  | n + 1, c => c :: ((w.parent? c).map (w.lineageWithin n)).getD []

/-- A class and those above it, the nearest first; there are no more of them than classes. -/
def lineage (w : World) (c : Nat) : List Nat :=
  w.lineageWithin w.classes.length c

theorem mem_lineage_self (w : World) (c : Nat) : c ∈ w.lineage c := by
  unfold lineage
  cases w.classes.length <;> simp [lineageWithin]

/-- Adds a class. -/
def addClass (w : World) (c : WorldClass) : World :=
  { w with classes := w.classes ++ [c] }

/-- Changes all classes of a name. -/
def changeClasses (w : World) (name : String) (f : WorldClass → WorldClass) : World :=
  { w with classes := w.classes.map fun c => if c.name = name then f c else c }

/-- Hides all classes of a name from lookups, or shows them again. -/
def setHidden (w : World) (name : String) (hidden : Bool) : World :=
  w.changeClasses name fun c => { c with hidden }

/-- Begins a new age of all classes of a name. -/
def unload (w : World) (name : String) : World :=
  w.changeClasses name fun c => { c with age := c.age + 1 }

/-- What can befall the classes of a world from outside. -/
inductive Change where
  | load (c : WorldClass)
  /-- The classes of a name are hidden from lookups. -/
  | hide (name : String)
  /-- The classes of a name are found again. -/
  | reveal (name : String)
  /-- A new age of the classes of a name begins. -/
  | unload (name : String)

/-- The world after a change. -/
def apply (w : World) : Change → World
  | .load c => w.addClass c
  | .hide name => w.setHidden name true
  | .reveal name => w.setHidden name false
  | .unload name => w.unload name

/-! ## Members -/

/-- The member behind a handle. -/
def member? (w : World) (m : MemberId) : Option WorldMember :=
  w.classes[m.owner]?.bind (·.members[m.index]?)

/-- The member of this name, signature and staticness that a class itself declares. -/
def ownMember? (w : World) (isStatic : Bool) (name signature : String) (c : Nat) :
    Option MemberId := do
  let info ← w.classes[c]?
  let i ← info.members.findIdx? fun m =>
    m.name == name && m.signature == signature && m.isStatic == isStatic
  pure ⟨c, i⟩

/-- The member of a class or of the nearest class above it that has one; constructors are only
looked for in the class itself. -/
def findMember (w : World) (isStatic : Bool) (c : Nat) (name signature : String) :
    Option MemberId :=
  -- A class does not inherit the constructors of those above it.
  let among := if name = Operation.constructorMember then [c] else w.lineage c
  among.findSome? (w.ownMember? isStatic name signature)

/-- A member as text: the class that declares it, its name and its signature. -/
def memberText (w : World) (m : MemberId) : String :=
  match w.member? m with
  | some x => w.className m.owner ++ "." ++ x.name ++ " " ++ x.signature
  | none => ""

/-! ## Objects -/

/-- An object as text: its number and its class, or null. -/
def objectText (w : World) : ObjectId → String
  | none => "null"
  | some i =>
    "#" ++ toString i ++ ":" ++ ((w.objects[i]?.map fun o => w.className o.owner).getD "")

/-- The lineage of an object's class. -/
def objectLineage (w : World) (o : ObjectId) : List Nat :=
  ((o.bind (w.objects[·]?)).map fun x => w.lineage x.owner).getD []

/-- Whether an object is of a class or of one below it; null is of none. -/
def isInstance (w : World) (o : ObjectId) (c : Nat) : Bool :=
  c ∈ w.objectLineage o

/-- Whether an object is of the first class of this name or of one below it; other classes of the
name do not count. -/
def isInstanceNamed (w : World) (o : ObjectId) (name : String) : Bool :=
  (w.classNamed? name).any (w.isInstance o)

/-- Makes an object of a class. -/
def allocate (w : World) (c : Nat) (held : Value ObjectId) : Nat × World :=
  (w.objects.length, { w with objects := w.objects ++ [⟨c, held⟩] })

/-- What an object holds. -/
def held? (w : World) (o : ObjectId) : Option (Value ObjectId) :=
  (o.bind (w.objects[·]?)).map (·.held)

/-- Makes an object hold a value. -/
def setHeld (w : World) (o : ObjectId) (v : Value ObjectId) : World :=
  match o with
  | none => w
  | some i => { w with objects := w.objects.modify i fun x => { x with held := v } }

/-! ## Running members -/

/-- The greatest whole number among arguments. -/
def greatest (args : List (Value ObjectId)) : Value ObjectId :=
  args.foldl (fun best a =>
    match best, a with
    | .int x, .int y => .int (max x y)
    | .int x, _ => .int x
    | _, .int y => .int y
    | best, _ => best) .void

/-- What a behavior yields, as it is, on an instance if there is one; or the exception that it
throws. -/
def behave (w : World) (b : Behavior) (o : ObjectId) (args : List (Value ObjectId)) :
    Except String (Value ObjectId) × World :=
  let first := args.headD .void
  match b with
  | .nothing | .null => (.ok .void, w)
  | .throws x => (.error x, w)
  | .constant v => (.ok v, w)
  -- Members find classes that are hidden from lookups.
  | .create name =>
    match w.classNamed? name with
    | some c => (.ok (.reference (some (w.allocate c .void).1)), (w.allocate c .void).2)
    | none => (.ok .void, w)
  | .argument i => (.ok (args[i]?.getD .void), w)
  | .self => (.ok (.reference o), w)
  | .greatest => (.ok (greatest args), w)
  | .held => (.ok ((w.held? o).getD .void), w)
  | .hold =>
    match w.held? o with
    | some _ => (.ok first, w.setHeld o first)
    | none => (.ok .void, w)
  -- Only whole numbers are added; anything else leaves what is held as it is.
  | .add =>
    match w.held? o with
    | some (.int x) =>
      match first with
      | .int y => (.ok (.int (x + y)), w.setHeld o (.int (x + y)))
      | _ => (.ok (.int x), w)
    | some held => (.ok held, w)
    | none => (.ok .void, w)

/-- What a member does. -/
def behaviorOf (w : World) (m : MemberId) : Behavior :=
  ((w.member? m).map (·.behavior)).getD .nothing

/-- Runs a member and brings what it yields to the kind that is asked for. -/
def run (w : World) (m : MemberId) (o : ObjectId) (args : List (Value ObjectId)) (k : Kind) :
    Except String (Value ObjectId) × World :=
  let (result, w) := w.behave (w.behaviorOf m) o args
  (result.map (Value.coerce none k), w)

/-- Makes an object of a class through a constructor, which is run before there is an instance. The
object holds the first argument, or zero if there is none. The constructor may throw, or yield null
and make nothing. -/
def make (w : World) (c : Nat) (m : MemberId) (args : List (Value ObjectId)) :
    Except String ObjectId × World :=
  match w.behaviorOf m with
  -- Yielding null is not throwing: nothing is made and nothing is wrong.
  | .null => (.ok none, w)
  | behavior =>
    match w.behave behavior none args with
    | (.error x, w) => (.error x, w)
    -- What the constructor yields is lost, but objects that it made keep their numbers.
    | (.ok _, w) =>
      let (i, w) := w.allocate c (args.headD (.int 0))
      (.ok (some i), w)

end World

end HandleCache
