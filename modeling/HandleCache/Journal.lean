import HandleCache.Declaration

/-!
# The journal

What the cache tells about its work while it resolves classes and hands out bindings. An entry
says what happened; its level and wording follow from that.
-/

namespace HandleCache

/-- How much a reader has to care. -/
inductive LogLevel where
  | debug
  | trace
  deriving DecidableEq, Repr

/-- Something worth telling. -/
inductive LogEntry where
  /-- The class of a declaration was found, and so many operations are looked up next. -/
  | resolvedClass (className : String) (operations : Nat)
  /-- A declaration was resolved. -/
  | cachedHandles (operations : Nat) (className : String) (retention : Retention)
  /-- A call needs a class that is not retained. -/
  | lookingUpAgain (className : String)
  /-- The class behind a weak reference is gone. -/
  | weakCleared (className : String)
  /-- A binding was asked for that is there already. -/
  | alreadyResolved (className : String)
  /-- A declaration that could not be resolved is forgotten. -/
  | forgetting (className : String)
  /-- So many classes are resolved ahead of their use. -/
  | preloading (bindings : Nat)
  /-- A lookup by the host failed. -/
  | lookupFailed (name signature reason : String)
  deriving DecidableEq, Repr

namespace LogEntry

/-- The level of an entry: ways back to a class are details, all else is not. -/
def level : LogEntry → LogLevel
  | lookingUpAgain _ | weakCleared _ | alreadyResolved _ | forgetting _ => .trace
  | resolvedClass .. | cachedHandles .. | preloading _ | lookupFailed .. => .debug

/-- How an entry is worded. -/
def message : LogEntry → String
  | resolvedClass c n => s!"resolved class {c}, looking up {n} operations"
  | cachedHandles n c r => s!"cached {n} handles for {c}, class reference {r.describe}"
  | lookingUpAgain c => s!"looking up {c} again"
  | weakCleared c => s!"weak reference to {c} was cleared"
  | alreadyResolved c => s!"binding for {c} already resolved"
  | forgetting c => s!"forgetting unresolved declaration of {c}"
  | preloading n => s!"preloading {n} bindings"
  | lookupFailed name signature reason => s!"lookup of {name}{signature} failed: {reason}"

/-- An entry as a line: its level, then its wording. -/
def render (e : LogEntry) : String :=
  match e.level with
  | .debug => "DEBUG " ++ e.message
  | .trace => "TRACE " ++ e.message

end LogEntry

end HandleCache
