/-!
# Documents with optional line ends

A document is text with gaps, places where the line may end, gathered into groups. A group either
fits on its line as a whole, or it is broken: then a consistent group ends the line at every gap of
its own, and an inconsistent one only where the text up to the next gap does not fit.
-/

namespace CrudScaffold.Layout

/-- A width that fits on no line. -/
def endless : Nat := 65535

/-- A place where the line may end. -/
structure Gap where
  /-- Blanks that stand here when the line goes on. -/
  blanks : Nat := 0
  /-- What the next line is moved by. -/
  shift : Int := 0
  /-- Stands at the end of the line when it ends here. -/
  before : String := ""
  /-- Stands at the start of the next line when the line ends here. -/
  after : String := ""
  /-- Stands here when the line goes on. -/
  instead : String := ""
  /-- The gap counts for nothing at the end of its group. -/
  inner : Bool := false
  /-- The line never ends here. -/
  never : Bool := false
  deriving DecidableEq, Repr

/-- How a broken group ends lines. -/
inductive Style where
  | consistent
  | inconsistent
  deriving DecidableEq, Repr

/-- Text, a gap, or a group of documents. -/
inductive Doc where
  | text (s : String)
  | gap (g : Gap)
  /-- A part that cannot be printed. -/
  | unprintable
  /-- A group; lines inside it are indented by so much, and with a limit it is broken when it is
  wider than that. -/
  | group (style : Style) (indent : Int) (limit : Option Nat) (body : List Doc)

end Layout

/-- A sequence of documents. -/
abbrev Layout := List Layout.Doc

namespace Layout

/-- A text. -/
def text (s : String) : Layout := [.text s]

/-- A gap. -/
def gap (g : Gap) : Layout := [.gap g]

/-- A part that cannot be printed. -/
def unprintable : Layout := [.unprintable]

/-- A gap without blanks. -/
def cut : Layout := gap {}

/-- A gap with one blank. -/
def space : Layout := gap { blanks := 1 }

/-- The line ends. -/
def lineEnd : Layout := gap { blanks := endless }

/-- The line ends, unless its group ends here. -/
def innerLineEnd : Layout := gap { blanks := endless, inner := true }

/-- The line does not end here, whatever follows. -/
def glue : Layout := gap { never := true }

/-- One step of indentation. -/
def step : Int := 4

/-- A group that ends the line at all of its gaps or at none. -/
def together (indent : Int) (body : Layout) : Layout := [.group .consistent indent none body]

/-- A group that ends the line where it must. -/
def filled (indent : Int) (body : Layout) : Layout := [.group .inconsistent indent none body]

/-- A group that must not be wider than a limit to stay on its line. -/
def atMost (limit : Nat) (indent : Int) (body : Layout) : Layout :=
  [.group .consistent indent (some limit) body]

mutual
/-- Every part of a document can be printed. -/
def Doc.isPrintable : Doc → Bool
  | .text _ | .gap _ => true
  | .unprintable => false
  | .group _ _ _ body => isPrintable body

/-- Every part of a sequence of documents can be printed. -/
def isPrintable : List Doc → Bool
  | [] => true
  | d :: rest => d.isPrintable && isPrintable rest
end

mutual
/-- The last text of a document. -/
def Doc.lastText? : Doc → Option String
  | .text s => some s
  | .gap _ | .unprintable => none
  | .group _ _ _ body => lastText? body

/-- The last text of a sequence of documents. -/
def lastText? : List Doc → Option String
  | [] => none
  | d :: rest => (lastText? rest).or d.lastText?
end

mutual
/-- The first text of a document. -/
def Doc.firstText? : Doc → Option String
  | .text s => some s
  | .gap _ | .unprintable => none
  | .group _ _ _ body => firstText? body

/-- The first text of a sequence of documents. -/
def firstText? : List Doc → Option String
  | [] => none
  | d :: rest => d.firstText?.or (firstText? rest)
end

/-- The first text starts with a character. -/
def startsWith (c : Char) (l : Layout) : Bool :=
  (firstText? l).any fun s => s.toList.head? == some c

/-- The last text ends with a character. -/
def endsWith (c : Char) (l : Layout) : Bool :=
  (lastText? l).any fun s => s.toList.getLast? == some c

/-- A layout whose last gap takes one step of indentation back. -/
def takeBack (l : Layout) : Layout :=
  match l.getLast? with
  | some (.gap g) => l.dropLast ++ gap { g with shift := g.shift - step }
  | _ => l

/-- The comma after the last member of a broken list. -/
def lastComma : Layout := gap { before := ",", shift := -step }

/-- Members with commas between them and a layout behind the last one. -/
def separated (last : Layout) : List Layout → Layout
  | [] => []
  | [x] => x ++ last
  | x :: rest => x ++ text "," ++ space ++ separated last rest

/-- Members with commas between them; the last one gets a comma only in a broken list. -/
def commaItems (items : List Layout) : Layout := separated lastComma items

/-- Members in braces with commas between them; `rest` stands for the members that are left out. -/
def fieldItems (items : List Layout) (rest : Option Layout) : Layout :=
  match rest with
  | some r => items.flatMap (fun m => m ++ text "," ++ space) ++ r ++ space
  | none => separated (gap { blanks := 1, before := "," }) items

/-- A list of members on one line or one to a line. -/
def commaList (items : List Layout) : Layout :=
  if items.isEmpty then [] else together step (cut ++ commaItems items)

/-- The list of a tuple, where a single member is followed by a comma. -/
def tupleList : List Layout → Layout
  | [x] => together step (cut ++ x ++ text "," ++ gap { shift := -step })
  | items => commaList items

/-- Parts with a layout between each two. -/
def between (sep : Layout) : List Layout → Layout
  | [] => []
  | [x] => x
  | x :: rest => x ++ sep ++ between sep rest

/-- Parts with a text between each two. -/
def joined (sep : String) (parts : List Layout) : Layout := between (text sep) parts

end Layout

end CrudScaffold
