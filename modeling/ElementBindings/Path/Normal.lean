import ElementBindings.Path.Basic

/-!
# Path/Normal — paths without detours

`normalize` resolves `.` and `..` on the text alone, without looking at a disk: a name goes down, a
`..` goes up and stays at the root, and a relative path keeps the `..`s that lead out of it.
-/

namespace ElementBindings.Path

/-- One step on a stack of components whose top is the innermost one. -/
def step (stack : List Component) : Component → List Component
  | .current => stack
  | .parent =>
    match stack with
    | .name _ :: outer => outer
    | .root :: _ => stack
    | _ => .parent :: stack
  | c => c :: stack

/-- The components of the place that a list of components leads to. -/
def resolve (cs : List Component) : List Component := (cs.foldl step []).reverse

/-- **The path without `.` and, as far as it can be told, without `..`.** -/
def normalize (p : Path) : Path := ofComponents (resolve p.components)

/-- **Whether a path lies in a directory** — its components extend those of the directory. -/
def isWithin (p dir : Path) : Bool :=
  dir.normalize.components.isPrefixOf p.normalize.components

end ElementBindings.Path
