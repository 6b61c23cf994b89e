import HandleCache.Jni.Reference

/-!
# Native functions

The functions by which native code talks to the virtual machine, under the names that the native
interface gives them, and the entries of a trace of such calls.

## Contents

- `Function`, `Function.name`: the functions
- `Operand`, `Entry`: a call in a trace
-/

namespace HandleCache.Jni

/-- The functions of the native interface that the cache makes use of. Calls and field reads come
in one form for each kind of result. -/
inductive Function where
  | findClass
  | getMethodId
  | getStaticMethodId
  | getFieldId
  | getStaticFieldId
  | callMethod (k : Kind)
  | callStaticMethod (k : Kind)
  | newObject
  | getField (k : Kind)
  | getStaticField (k : Kind)
  | newLocalRef
  | newGlobalRef
  | newWeakGlobalRef
  | deleteLocalRef
  | deleteGlobalRef
  | deleteWeakGlobalRef
  | isInstanceOf
  | exceptionClear
  | getVirtualMachine
  deriving DecidableEq, Repr

/-- The name of a function. -/
def Function.name : Function → String
  | findClass => "FindClass"
  | getMethodId => "GetMethodID"
  | getStaticMethodId => "GetStaticMethodID"
  | getFieldId => "GetFieldID"
  | getStaticFieldId => "GetStaticFieldID"
  | callMethod k => "Call" ++ k.word ++ "MethodA"
  | callStaticMethod k => "CallStatic" ++ k.word ++ "MethodA"
  | newObject => "NewObjectA"
  | getField k => "Get" ++ k.word ++ "Field"
  | getStaticField k => "GetStatic" ++ k.word ++ "Field"
  | newLocalRef => "NewLocalRef"
  | newGlobalRef => "NewGlobalRef"
  | newWeakGlobalRef => "NewWeakGlobalRef"
  | deleteLocalRef => "DeleteLocalRef"
  | deleteGlobalRef => "DeleteGlobalRef"
  | deleteWeakGlobalRef => "DeleteWeakGlobalRef"
  | isInstanceOf => "IsInstanceOf"
  | exceptionClear => "ExceptionClear"
  | getVirtualMachine => "GetJavaVM"

/-- An operand of a call. -/
inductive Operand where
  | text (s : String)
  | reference (r : Reference)
  | member (m : MemberId)
  | arguments (args : List (Value Reference))

/-- A call of a native function in a trace. -/
structure Entry where
  function : Function
  /-- What it was called with. -/
  operands : List Operand
  /-- Whether an exception was pending when it was called. -/
  pending : Bool

end HandleCache.Jni
