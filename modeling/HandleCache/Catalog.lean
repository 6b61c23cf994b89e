import HandleCache.Declaration

/-!
# Class types

A type that stands for one class comes with a declaration of its own, and each of its operations is
a constant that holds the operation's logical name. The catalog lists the class types that programs
can refer to by name.

## Contents

- `ClassType`: a name with its declaration
- `ClassType.constants`: the logical names of its operations
- `ClassType.catalog`, `ClassType.named?`: the class types there are
-/

namespace HandleCache

/-- A type that stands for one class. -/
structure ClassType where
  name : String
  declaration : Declaration
  deriving DecidableEq, Repr

namespace ClassType

/-- The name of the class. -/
def className (t : ClassType) : String := t.declaration.className

/-- The values of the constants that stand for its operations, in order. -/
def constants (t : ClassType) : List String := t.declaration.operations.map (·.name)

/-- Boxed whole numbers. -/
def integer : ClassType where
  name := "Integer"
  declaration :=
    { className := "java/lang/Integer"
      operations :=
        [.constructor "init" "(I)V",
         .method "intValue" "intValue" "()I",
         .staticMethod "valueOf" "valueOf" "(I)Ljava/lang/Integer;",
         .staticField "MAX_VALUE" "MAX_VALUE" "I"]
      retention := .global }

/-- Pictures, with two overloads of one member under two logical names. -/
def bitmap : ClassType where
  name := "Bitmap"
  declaration :=
    { className := "android/graphics/Bitmap"
      operations :=
        [.staticMethod "createBitmap" "createBitmap"
           "(IILandroid/graphics/Bitmap$Config;)Landroid/graphics/Bitmap;",
         .staticMethod "createBitmap1" "createBitmap"
           "(Landroid/graphics/Bitmap;)Landroid/graphics/Bitmap;",
         .method "getWidth" "getWidth" "()I"] }

/-- Points of the plane. -/
def point : ClassType where
  name := "Point"
  declaration :=
    { className := "android/graphics/Point"
      operations :=
        [.constructor "init" "(II)V",
         .field "x" "x" "I",
         .field "y" "y" "I"]
      retention := .weak }

/-- A class of which nothing is used. -/
def nothing : ClassType where
  name := "Nothing"
  declaration := { className := "a/Nothing", operations := [], retention := .drop }

/-- A class whose constructor is declared with a result, so that it cannot be resolved. -/
def broken : ClassType where
  name := "Broken"
  declaration := { className := "a/Broken", operations := [.constructor "init" "()I"] }

/-- The class types that programs can refer to. -/
def catalog : List ClassType := [integer, bitmap, point, nothing, broken]

/-- The class type of this name. -/
def named? (name : String) : Option ClassType :=
  catalog.find? (·.name == name)

end ClassType

end HandleCache
