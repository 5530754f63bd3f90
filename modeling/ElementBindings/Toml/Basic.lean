/-!
# Toml/Basic — values and tables

A table of a TOML document can be written in four ways, and how it was written decides what may be
added to it later (`Table.set`, `Table.openHeader`, `Table.openItem`): a table between braces is
complete, a table with a header takes no dotted keys from elsewhere and no second header, a table
that only dotted keys have made takes no header, and a table that only the headers of the tables in
it have made takes one header of its own.
-/

namespace ElementBindings.Toml

/-! ## Values -/

/-- How a table is written. -/
inductive Origin where
  /-- under a header of its own -/
  | header
  /-- by the headers of the tables in it -/
  | implied
  /-- by dotted keys -/
  | dotted
  /-- between braces -/
  | braces
deriving DecidableEq, Inhabited, Repr

/-- A value of a document. -/
inductive Value where
  | text (s : String)
  | boolean (b : Bool)
  /-- a number, a date or a time, as it is written -/
  | scalar (written : String)
  | array (items : List Value)
  | table (origin : Origin) (entries : List (String × Value))
  /-- the tables of one repeated header -/
  | tables (earlier : List (List (String × Value))) (last : List (String × Value))
deriving Inhabited, Repr

/-- The entries of a table, each key once. -/
abbrev Table := List (String × Value)

namespace Table

/-- A table with an entry put in the place of the one with its key, or at the end. -/
def put (t : Table) (key : String) (v : Value) : Table :=
  match t with
  | [] => [(key, v)]
  | (k, w) :: t => if k = key then (key, v) :: t else (k, w) :: put t key v

/-! ## Building -/

/-- Changes the table that keys lead to, making the tables on the way that are missing.  A repeated
header stands for its last table.  Dotted keys lead through no table with a header of its own. -/
def descend (dotted : Bool) (change : Origin → Table → Option Table) :
    List String → Origin → Table → Option Table
  | [], origin, t => change origin t
  | key :: keys, _, t =>
    match t.lookup key with
    | none => do
      let origin := if dotted then .dotted else .implied
      return put t key (.table origin (← descend dotted change keys origin []))
    | some (.table origin inner) =>
      if origin = .braces || dotted && origin = .header then none
      else do return put t key (.table origin (← descend dotted change keys origin inner))
    | some (.tables earlier last) => do
      return put t key (.tables earlier (← descend dotted change keys .header last))
    | some _ => none

/-- A table with one more entry, unless it has its key already. -/
def add (t : Table) (key : String) (v : Value) : Option Table :=
  match t.lookup key with
  | none => some (t.put key v)
  | some _ => none

/-- **A table with a value at a dotted key.**  The tables that the key leads through are made by
dotted keys alone. -/
def set (t : Table) (keys : List String) (key : String) (v : Value) : Option Table :=
  descend true
    (fun origin t => if (origin == .dotted) == keys.isEmpty then none else t.add key v)
    keys .header t

/-- **A table with a header for a table in it.** -/
def openHeader (t : Table) (keys : List String) (key : String) : Option Table :=
  descend false
    (fun _ t => match t.lookup key with
      | none => some (t.put key (.table .header []))
      | some (.table .implied inner) => some (t.put key (.table .header inner))
      | some _ => none)
    keys .header t

/-- **A table with one more of the tables of a repeated header.** -/
def openItem (t : Table) (keys : List String) (key : String) : Option Table :=
  descend false
    (fun _ t => match t.lookup key with
      | none => some (t.put key (.tables [] []))
      | some (.tables earlier last) => some (t.put key (.tables (earlier ++ [last]) []))
      | some _ => none)
    keys .header t

end Table

/-! ## Statements -/

/-- The keys of a dotted key, of which the last one stands apart. -/
structure Key where
  outer : List String
  name : String
deriving DecidableEq, Inhabited, Repr

/-- A dotted key of keys, of which there is at least one. -/
def Key.ofList? : List String → Option Key
  | [] => none
  | [name] => some ⟨[], name⟩
  | k :: ks => (ofList? ks).map fun key => ⟨k :: key.outer, key.name⟩

/-- All keys of a dotted key. -/
def Key.toList (k : Key) : List String := k.outer ++ [k.name]

/-- What a line of a document says. -/
inductive Statement where
  | entry (key : Key) (v : Value)
  | header (key : Key)
  | itemHeader (key : Key)
deriving Inhabited, Repr

/-- The table of some entries, each at a dotted key. -/
def Table.ofEntries (entries : List (Key × Value)) : Option Table :=
  entries.foldlM (fun t (key, v) => t.set key.outer key.name v) []

/-- The table that statements make, of which the next one belongs to the table under `here`. -/
def Table.extend (t : Table) (here : List String) : List Statement → Option Table
  | [] => some t
  | .entry key v :: rest => do
    extend (← descend false (fun _ t => t.set key.outer key.name v) here .header t) here rest
  | .header key :: rest => do extend (← t.openHeader key.outer key.name) key.toList rest
  | .itemHeader key :: rest => do extend (← t.openItem key.outer key.name) key.toList rest

/-- **The table that statements make**, unless one of them defines what another has defined. -/
def Table.ofStatements (statements : List Statement) : Option Table := extend [] [] statements

end ElementBindings.Toml
