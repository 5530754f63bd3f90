/-!
# Script/Tree — the syntax of a module, as far as elements are described by it

The tree keeps what can say something about an element: class members with their decorators and
types, option objects, exports and registrations.  An expression of any other form is an `other`,
and so is a statement.  Types and initializers are kept as they are written.
-/

namespace ElementBindings.Script

/-! ## Expressions -/

mutual

/-- An expression. -/
inductive Expr where
  | identifier (name : String)
  | string (value : String)
  | number
  | boolean (value : Bool)
  | null
  /-- `plain` is the value of a template without substitutions -/
  | template (plain : Option String)
  | array (elements : List Item)
  | object (members : List ObjectMember)
  | call (callee : Expr) (arguments : List Item)
  /-- `object.property` -/
  | member (object : Expr) (property : String)
  /-- `object[…]` or `object.#name` -/
  | index (object : Expr)
  | parenthesized (inner : Expr)
  /-- `inner as T` -/
  | asType (inner : Expr)
  /-- `inner satisfies T`, `inner!` or `<T>inner` -/
  | typed (inner : Expr)
  /-- `inner<T>`, with no call behind it -/
  | instantiation (inner : Expr)
  /-- `target = value` -/
  | assign (target value : Expr)
  | other

/-- An element of an array, or an argument of a call. -/
inductive Item where
  | value (e : Expr)
  | spread (e : Expr)
  | hole

/-- A member of an object literal; a shorthand member has the identifier for a value. -/
inductive ObjectMember where
  | property (key : Key) (value : Expr)
  | spread (e : Expr)

/-- The name of a member: a plain or private name, a literal, or a computed expression. -/
inductive Key where
  | name (s : String)
  | privateName (s : String)
  | value (e : Expr)

end

instance : Inhabited Expr := ⟨.other⟩

namespace Expr

/-- The expression inside parentheses and type assertions. -/
def inner : Expr → Expr
  | parenthesized e | asType e | typed e => e.inner
  | e => e

/-- Whether an expression names a place: a variable or a member. -/
def isReference : Expr → Bool
  | identifier _ | member .. | index _ => true
  | _ => false

/-- Whether a value can be assigned to an expression as it stands, taking nothing apart. -/
def isSimpleTarget : Expr → Bool
  | identifier _ | member .. | index _ => true
  | parenthesized e => e.isSimpleTarget
  | asType e | typed e => e.inner.isReference
  | _ => false

end Expr

mutual

/-- Whether a value can be assigned to an expression; arrays and objects take it apart. -/
def Expr.isTarget : Expr → Bool
  | .array elements => targetItems elements
  | .object members => targetMembers members
  | .identifier _ | .member .. | .index _ => true
  | .parenthesized e => e.isSimpleTarget
  | .asType e | .typed e => e.inner.isReference
  | _ => false

/-- Whether an element takes a part of a value; a part may have a default. -/
def targetItems : List Item → Bool
  | [] => true
  | .hole :: items => targetItems items
  | .spread e :: items => e.isTarget && targetItems items
  | .value (.assign _ _) :: items => targetItems items
  | .value e :: items => e.isTarget && targetItems items

/-- Whether a member takes a part of a value. -/
def targetMembers : List ObjectMember → Bool
  | [] => true
  | .spread e :: members => e.isTarget && targetMembers members
  | .property _ (.assign _ _) :: members => targetMembers members
  | .property _ e :: members => e.isTarget && targetMembers members

end

/-- The name a key stands for, when it can be told: a private name without its mark, and the text of
a literal. -/
def Key.name? : Key → Option String
  | name s | privateName s => some s
  | value (.string s) => some s
  | value (.template plain) => plain
  | value .null => some "null"
  | value _ => none

/-- Whether a key is a private name. -/
def Key.isPrivate : Key → Bool
  | privateName _ => true
  | _ => false

/-! ## Classes -/

/-- Who may use a member. -/
inductive Access where
  | everyone
  | subclasses
  | itself
deriving DecidableEq, Inhabited, Repr

/-- What all members of a class have. -/
structure MemberHead where
  decorators : List Expr
  isStatic : Bool
  access : Access
  key : Key
  computed : Bool

/-- What a field says about its value. -/
structure FieldBody where
  /-- the declared type, as written -/
  type : Option String
  /-- the initializer, with its text -/
  initial : Option (Expr × String)
  /-- marked as always present -/
  definite : Bool

/-- The kinds of methods. -/
inductive MethodKind where
  | get
  | set
  | plain
deriving DecidableEq, Inhabited, Repr

/-- What a method says about its types, and what it returns. -/
structure MethodBody where
  kind : MethodKind
  /-- the declared type of the result, as written -/
  result : Option String
  /-- the declared type of the first parameter, as written -/
  parameter : Option String
  /-- what the `return` statements at the top of the body return -/
  returns : List Expr

/-- A member of a class. -/
inductive ClassMember where
  | field (head : MemberHead) (body : FieldBody)
  | accessor (head : MemberHead) (body : FieldBody)
  | method (head : MemberHead) (body : MethodBody)
  | other

/-- A class declaration. -/
structure ClassDecl where
  name : Option String
  decorators : List Expr
  members : List ClassMember
  /-- the text between the statement before the class and its body -/
  lead : String
  /-- the text of the body, braces included -/
  body : String

/-! ## Statements -/

/-- A name in an export list, with the name it is exported under. -/
structure ExportName where
  localName : String
  exported : String
  /-- whether only the type of that name is exported -/
  typeOnly : Bool
deriving DecidableEq, Inhabited, Repr

/-- A statement. -/
inductive Statement where
  | expression (e : Expr)
  | ifElse (consequent : Statement) (alternate : Option Statement)
  | block (body : List Statement)
  | returns (e : Option Expr)
  | classDecl (c : ClassDecl)
  | exportClass (c : ClassDecl)
  | exportDefaultClass (c : ClassDecl)
  | exportDefault (e : Expr)
  /-- `export { … }`, and whether the names come from another module -/
  | exportNames (names : List ExportName) (fromModule : Bool)
  | other

instance : Inhabited Statement := ⟨.other⟩

/-- The top-level statements of a module, without its directives. -/
structure Module where
  statements : List Statement

end ElementBindings.Script
