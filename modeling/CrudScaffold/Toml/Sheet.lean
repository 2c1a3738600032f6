import CrudScaffold.Toml.Quoted
import CrudScaffold.Toml.Value

/-!
# Sheets

A sheet is a document of a simple kind: texts under keys, and after them lists of sheets under keys.
It is written with one line for every text, a header for every sheet of a list, and an empty line
before each header but the first of a document.
-/

namespace CrudScaffold.Toml

mutual
/-- Texts under keys and lists of sheets under keys. -/
inductive Sheet where
  | mk (texts : List (String × String)) (lists : List SheetList)

/-- A list of sheets under a key. -/
inductive SheetList where
  | mk (key : String) (items : List Sheet)
end

/-! ## The document of a sheet -/

/-- The lists that hold nothing, as values. -/
def emptyEntries : List SheetList → Entries
  | [] => []
  | .mk key [] :: rest => (key, .array []) :: emptyEntries rest
  | .mk _ _ :: rest => emptyEntries rest

/-- A list of tables under a key, unless it holds nothing. -/
def tablesUnder (key : String) : List Entries → Entries
  | [] => []
  | t :: rest => [(key, .tables (t :: rest))]

mutual
/-- The table of a sheet. Lists that hold nothing stand in front of the others. -/
def Sheet.entries : Sheet → Entries
  | .mk texts lists =>
    texts.map (fun (k, s) => (k, .string s)) ++ emptyEntries lists ++ listEntries lists

/-- The lists that hold sheets, as values. -/
def listEntries : List SheetList → Entries
  | [] => []
  | .mk key items :: rest => tablesUnder key (itemTables items) ++ listEntries rest

/-- The tables of a list of sheets. -/
def itemTables : List Sheet → List Entries
  | [] => []
  | s :: rest => s.entries :: itemTables rest
end

/-! ## The text of a sheet -/

/-- The path of a list inside the sheet at a path. -/
def subpath (path key : String) : String := if path.isEmpty then key else path ++ "." ++ key

/-- The lines of the lists that hold nothing. -/
def emptyLines : List SheetList → List String
  | [] => []
  | .mk key [] :: rest => (key ++ " = []") :: emptyLines rest
  | .mk _ _ :: rest => emptyLines rest

mutual
/-- The lines of the sheet at a path. -/
def Sheet.lines (path : String) : Sheet → List String
  | .mk texts lists =>
    texts.map (fun (k, s) => k ++ " = " ++ writeText s) ++ emptyLines lists ++ listLines path lists

/-- The lines of the lists that hold sheets. -/
def listLines (path : String) : List SheetList → List String
  | [] => []
  | .mk key items :: rest => itemLines (subpath path key) items ++ listLines path rest

/-- The lines of the sheets of a list. -/
def itemLines (path : String) : List Sheet → List String
  | [] => []
  | s :: rest => "" :: ("[[" ++ path ++ "]]") :: s.lines path ++ itemLines path rest
end

/-- No empty line comes first. -/
def withoutLeadingBlank : List String → List String
  | "" :: rest => rest
  | lines => lines

/-- The text of a sheet. -/
def Sheet.toText (s : Sheet) : String :=
  String.join ((withoutLeadingBlank (s.lines "")).map (· ++ "\n"))

end CrudScaffold.Toml
