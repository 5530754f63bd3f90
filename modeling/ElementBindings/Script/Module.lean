import ElementBindings.Path.Basic
import ElementBindings.Script.Parse.Markup
import ElementBindings.Script.Parse.Statements

/-!
# Script/Module — reading a module

The productions are closed here: each level of the table calls the level below it, and no source
nests deeper than it is long.  Reading stops early where a statement would have to start with
something that is no token; what stands before it is kept.
-/

namespace ElementBindings.Script

open Parse

/-! ## Closing the productions -/

/-- The production of a part, given productions for the parts in it. -/
def production (rec : Rec) : (part : Part) → Parse part.Result
  | .assignment arrowResult => assignment rec arrowResult
  | .expression => expression rec
  | .binary precedence => binary rec precedence
  | .unary => unary rec
  | .operand => operand rec
  | .arguments => arguments rec
  | .classTail decorators => classTail rec decorators
  | .functionTail async generator => functionTail rec async generator
  | .functionBody async generator => functionBody rec async generator
  | .pattern => pattern rec
  | .type => type rec
  | .typeOperand => typeOperand rec
  | .statement => statement rec
  | .markup child => markupElement rec child

/-- The productions with a given number of levels. -/
def productions : Nat → Rec
  | 0, _ => failure
  | levels + 1, part => production (productions levels) part

/-- The levels a source can need: between two tokens no more than a few parts are entered. -/
def levelsFor (source : Array Char) : Nat := 16 * (source.size + 4)

/-! ## Dialects -/

/-- **The dialect of a file**, by its name.  A file whose name tells nothing is read with types. -/
def Dialect.ofPath (p : Path) : Dialect :=
  match p.extension? with
  | some "tsx" => ⟨true, true⟩
  | some "jsx" => ⟨false, true⟩
  | some "js" | some "mjs" | some "cjs" => ⟨false, false⟩
  | _ => ⟨true, false⟩

/-! ## Modules -/

/-- Whether a statement is a directive: a string that stands alone. -/
def Statement.isDirective : Statement → Bool
  | .expression (.string _) => true
  | _ => false

/-- A statement at the top of a module; `leading` tells whether it may be a directive, which is not
kept and does not end the text before a class. -/
def moduleStatement? (rec : Rec) (leading : Bool) : Parse (Option Statement) := do
  if ← stuck then return none
  let s ← rec .statement
  if !(leading && s.isDirective) then modify fun p => { p with statementEnd := p.previous }
  return some s

/-- The statements of a module with its directives, at most a given number. -/
def moduleStatementsUpTo (rec : Rec) : Nat → Bool → Parse (List Statement)
  | 0, _ => failure
  | fuel + 1, leading => do
    match ← moduleStatement? rec leading with
    | none => return []
    | some s =>
      let directive := leading && s.isDirective
      let rest ← moduleStatementsUpTo rec fuel directive
      return if directive then rest else s :: rest

/-- **The module a source writes**, unless it cannot be understood. -/
def Module.ofSource? (dialect : Dialect) (source : String) : Option Module :=
  let chars := source.toList
  let array := chars.toArray
  let surroundings : Surroundings := ⟨array, dialect, true, true, false, false, false⟩
  let place : Place := ⟨Token.first chars, 0, 0⟩
  let run := moduleStatementsUpTo (productions (levelsFor array)) (array.size + 2) true
  (run surroundings place).map fun (statements, _) => ⟨statements⟩

end ElementBindings.Script
