import ElementBindings.Wrapper.Module

/-!
# Wrapper/Declarations — the type declarations of the wrapper module

The declaration file stands elsewhere than the virtual module it describes, so import paths that
start at the virtual module are written anew, as seen from the directory of the declarations.
-/

namespace ElementBindings

/-- Where declarations are written, and what their imports start from. -/
structure DeclarationTarget where
  /-- the directory of the declaration file -/
  outDir : Path
  /-- the place of the virtual module -/
  virtualLocation : Path
  /-- whether import paths start at the virtual module -/
  samePackage : Bool
deriving DecidableEq, Inhabited, Repr

namespace DeclarationTarget

/-- The declaration file: named like the virtual module. -/
def outputPath (t : DeclarationTarget) : Path :=
  t.outDir.join ⟨t.virtualLocation.fileStem?.getD "index" ++ ".d.ts"⟩

/-- **An import path as seen from the declaration file** — kept as it is where it does not start at
the virtual module, or where no way leads from the one directory to the other. -/
def specifier (t : DeclarationTarget) (importPath : String) : String :=
  if t.samePackage && importPath.toList.head? == some '.' then
    let virtualDir := t.virtualLocation.parent?.getD ⟨""⟩
    (Path.relativeSpecifier t.outDir (virtualDir.join ⟨importPath⟩).normalize).getD importPath
  else importPath

end DeclarationTarget

/-- The declarations of one component, for an element of the given type. -/
def Wrapper.declaration (w : Wrapper) (element : String) : String :=
  "\n" ++ w.doc ++ w.propsDeclaration ++ "\n" ++ w.doc
  ++ "export declare const " ++ w.name ++ ": React.ForwardRefExoticComponent<" ++ w.propsType
  ++ " & React.RefAttributes<" ++ element ++ ">>;\n"

/-- **The text of the declaration file**, with the components in the order given. -/
def declarationModule (t : DeclarationTarget) (ws : List Wrapper) : String :=
  let plan := ImportPlan.ofWrappers t.specifier ws
  generatedHeader ++ "import type * as React from \"react\";\n" ++ plan.render .type
  ++ String.join (ws.zipIdx.map fun (w, i) => w.declaration (plan.elementType i))

end ElementBindings
