import ElementBindings.Path.Normal

/-!
# Path/Specifier — how one module names another

The specifier of a target, seen from a directory, climbs out of the directory as far as the two
paths differ and then goes down.  It is defined when the climb passes names only: behind a `..` the
name of the directory to come back through is unknown.
-/

namespace ElementBindings.Path

/-- Two lists without the elements they begin with in common. -/
def dropCommon : List Component → List Component → List Component × List Component
  | a :: as, b :: bs => if a = b then dropCommon as bs else (a :: as, b :: bs)
  | as, bs => (as, bs)

/-- Whether a component is a name. -/
def Component.isName : Component → Bool
  | .name _ => true
  | _ => false

/-- Whether a component is a name or a `..`. -/
def Component.descends : Component → Bool
  | .name _ | .parent => true
  | _ => false

/-- **The import specifier of `target` for a module in `dir`** — it opens with `./` or climbs with
`..`; none when the way between the two is not known. -/
def relativeSpecifier (dir target : Path) : Option String :=
  let (climb, descent) := dropCommon dir.normalize.components target.normalize.components
  if climb.all Component.isName && descent.all Component.descends then
    let segments := List.replicate climb.length ".." ++ descent.map Component.text
    let joined := "/".intercalate segments
    some (if segments.head? = some ".." then joined else "./" ++ joined)
  else none

end ElementBindings.Path
