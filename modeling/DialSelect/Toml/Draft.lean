/-
# DialSelect.Toml.Draft -- tables under construction

A document says where its values go in three ways: by the header of a table, by
the header of the next table of an array, and by dotted names.  A draft remembers
how each table came about, because that decides whether it may still grow:

* a value is final, and so is an inline table;
* a table that only dotted names have built may grow by dotted names;
* a table that a longer header has passed through may still get its own header;
* a table with its own header gets no second one.

Every step is refused rather than repaired.
-/
import DialSelect.Toml.Value

namespace DialSelect.Toml

set_option autoImplicit false

/-- How a table came about. -/
inductive Origin where
  /-- A longer header passed through it. -/
  | implied
  /-- It has its own header. -/
  | header
  /-- Dotted names built it. -/
  | dotted
  deriving DecidableEq, Repr

inductive Draft where
  | value (value : Value)
  | table (origin : Origin) (entries : List (String × Draft))
  | tables (items : List (List (String × Draft)))

abbrev Entries := List (String × Draft)

namespace Entries

/-- Put a draft in the place of the one under a name. -/
def replace (key : String) (draft : Draft) (entries : Entries) : Entries :=
  entries.map fun entry => if entry.1 = key then (key, draft) else entry

/-- Put a draft under a new name, behind the others. -/
def add (key : String) (draft : Draft) (entries : Entries) : Entries :=
  entries ++ [(key, draft)]

def assign (value : Value) : List String → Entries → Option Entries
  | [], _ => none
  | [key], entries =>
      match entries.lookup key with
      | none => some (entries.add key (.value value))
      | some _ => none
  | key :: path, entries =>
      match entries.lookup key with
      | none => (assign value path []).map fun inner => entries.add key (.table .dotted inner)
      | some (.table .dotted inner) =>
          (assign value path inner).map fun inner => entries.replace key (.table .dotted inner)
      | some _ => none

/-- Change the table at the path of a header, passing through the last table of an
array of tables. -/
def within (change : Entries → Option Entries) : List String → Entries → Option Entries
  | [], entries => change entries
  | key :: path, entries =>
      match entries.lookup key with
      | none =>
          (within change path []).map fun inner => entries.add key (.table .implied inner)
      | some (.table origin inner) =>
          (within change path inner).map fun inner => entries.replace key (.table origin inner)
      | some (.tables items) =>
          match items.getLast? with
          | none => none
          | some last =>
              (within change path last).map fun inner =>
                entries.replace key (.tables (items.dropLast ++ [inner]))
      | some (.value _) => none

/-- Give a table its header. -/
def openTable (key : String) (entries : Entries) : Option Entries :=
  match entries.lookup key with
  | none => some (entries.add key (.table .header []))
  | some (.table .implied inner) => some (entries.replace key (.table .header inner))
  | some _ => none

/-- Begin the next table of an array of tables. -/
def openItem (key : String) (entries : Entries) : Option Entries :=
  match entries.lookup key with
  | none => some (entries.add key (.tables [[]]))
  | some (.tables items) => some (entries.replace key (.tables (items ++ [[]])))
  | some _ => none

end Entries

/-! ## Finishing -/

mutual

/-- The value that a finished draft is. -/
def Draft.close : Draft → Value
  | .value value => value
  | .table _ entries => .table (closeEntries entries)
  | .tables items => .array (closeItems items)

def closeEntries : List (String × Draft) → List (String × Value)
  | [] => []
  | (key, draft) :: others => (key, draft.close) :: closeEntries others

def closeItems : List (List (String × Draft)) → List Value
  | [] => []
  | entries :: others => .table (closeEntries entries) :: closeItems others

end

end DialSelect.Toml
