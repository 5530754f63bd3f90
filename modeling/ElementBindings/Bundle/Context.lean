import ElementBindings.Wrapper.Basic

/-!
# Bundle/Context — what a build keeps between its steps

A build context holds the last wrapper module that was generated, with the wrappers it was generated
from, until the declarations are written from them.
-/

namespace ElementBindings

/-- A wrapper module with the wrappers in it. -/
structure GeneratedModule where
  wrappers : List Wrapper
  text : String
deriving DecidableEq, Inhabited, Repr

/-- What a build keeps. -/
structure BuildContext where
  cached : Option GeneratedModule
deriving DecidableEq, Inhabited, Repr

namespace BuildContext

/-- The context of a build that has generated nothing. -/
def empty : BuildContext := ⟨none⟩

/-- Keeps a module in the place of the one before. -/
def store (_ : BuildContext) (m : GeneratedModule) : BuildContext := ⟨some m⟩

/-- What is kept, and the context without it. -/
def take (c : BuildContext) : Option GeneratedModule × BuildContext := (c.cached, empty)

/-- Whether nothing is kept. -/
def isEmpty (c : BuildContext) : Bool := c.cached.isNone

end BuildContext

end ElementBindings
