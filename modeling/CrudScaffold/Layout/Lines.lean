import CrudScaffold.Layout.Doc

/-!
# Breaking documents into lines

A document is unrolled into a row of marks, every mark is measured, and the row is written out from
left to right. A gap is as wide as everything from it to the next gap that is not deeper than itself,
and a group as everything from its start to the next gap outside of it.
-/

namespace CrudScaffold.Layout

/-- One mark of an unrolled document. -/
inductive Mark where
  | text (s : String) (width : Nat)
  | gap (g : Gap)
  | opening (style : Style) (indent : Int)
  | closing
  deriving DecidableEq, Repr

/-- The width of a mark on a line that goes on. -/
def Mark.width : Mark → Nat
  | .text _ w => w
  | .gap g => g.blanks
  | .opening _ _ | .closing => 0

/-- The width of a row on a line that goes on. -/
def rowWidth (row : List Mark) : Nat := row.foldl (fun n m => n + m.width) 0

/-- The row of a group. A group that holds only a gap counts for nothing, and an inner gap at its end
is dropped. A group over its limit is made too wide for any line. -/
def groupRow (style : Style) (indent : Int) (limit : Option Nat) (row : List Mark) : List Mark :=
  if (limit.map fun l => decide (l < rowWidth row)).getD false then
    .opening style indent :: row ++ [.text "" endless, .closing]
  else
    match row, row.getLast? with
    | [.gap _], _ => []
    | row, some (.gap g) =>
      if g.inner then .opening style indent :: row.dropLast ++ [.closing]
      else .opening style indent :: row ++ [.closing]
    | row, _ => .opening style indent :: row ++ [.closing]

mutual
/-- Unroll a document. -/
def Doc.row : Doc → List Mark
  | .text s => [.text s s.utf8ByteSize]
  | .gap g => [.gap g]
  | .unprintable => []
  | .group style indent limit body => groupRow style indent limit (docsRow body)

/-- Unroll a sequence of documents. -/
def docsRow : List Doc → List Mark
  | [] => []
  | d :: rest => d.row ++ docsRow rest
end

/-- The measures of a row: every mark with its measure, the width of the whole row, and for each
group that is open at its start the width from the next gap on that ends the group's own lines. -/
structure Measured where
  row : List (Mark × Nat)
  total : Nat
  gaps : List Nat

/-- Measure a row from its end. -/
def measure : List Mark → Measured
  | [] => ⟨[], 0, [0]⟩
  | m :: rest =>
    let after := measure rest
    let total := m.width + after.total
    match m with
    | .text _ _ => ⟨(m, m.width) :: after.row, total, after.gaps⟩
    | .gap _ =>
      let size := total - after.gaps.headD 0
      ⟨(m, size) :: after.row, total, total :: after.gaps.drop 1⟩
    | .closing => ⟨(m, 0) :: after.row, total, after.gaps.headD 0 :: after.gaps⟩
    | .opening _ _ =>
      let outer := after.gaps.drop 1
      ⟨(m, total - outer.headD 0) :: after.row, total, outer⟩

/-- The columns of a line. -/
def columns : Int := 89

/-- The columns that a line has at least, however far it is indented. -/
def leastColumns : Int := 60

/-- A group while it is written: it fits on its line, or it is broken and the indentation outside of
it is kept. -/
inductive Frame where
  | fits
  | broken (style : Style) (outerIndent : Int)

/-- What has been written so far. -/
structure Pen where
  /-- Written pieces, the last one first. -/
  written : List String := []
  /-- Columns left on the line. -/
  room : Int := columns
  indent : Int := 0
  /-- Blanks that come before the next piece. -/
  pending : Nat := 0
  frames : List Frame := []

namespace Pen

/-- Blanks. -/
def blanks (n : Nat) : String := .ofList (List.replicate n ' ')

/-- Write a piece after the blanks that are pending. -/
def write (p : Pen) (s : String) : Pen :=
  { p with written := s :: blanks p.pending :: p.written, pending := 0 }

/-- Write a text. -/
def text (p : Pen) (s : String) : Pen :=
  let p := p.write s
  { p with room := p.room - s.utf8ByteSize }

/-- Whether the line goes on at a gap of this measure. -/
def goesOn (p : Pen) (g : Gap) (size : Nat) : Bool :=
  g.never ||
    match p.frames with
    | .fits :: _ => true
    | .broken .consistent _ :: _ => false
    | .broken .inconsistent _ :: _ | [] => decide ((size : Int) ≤ p.room)

/-- Write a gap. -/
def gap (p : Pen) (g : Gap) (size : Nat) : Pen :=
  if p.goesOn g size then
    { p with
      written := g.instead :: p.written
      pending := p.pending + g.blanks
      room := p.room - g.blanks - g.instead.utf8ByteSize }
  else
    let p := if g.before.isEmpty then p else p.write g.before
    let indent := p.indent + g.shift
    let p := { p with
      written := "\n" :: p.written
      pending := indent.toNat
      room := max (columns - indent) leastColumns }
    if g.after.isEmpty then p
    else p.text g.after

/-- Start a group of this measure. -/
def enter (p : Pen) (style : Style) (indent : Int) (size : Nat) : Pen :=
  if (size : Int) > p.room then
    { p with frames := .broken style p.indent :: p.frames, indent := p.indent + indent }
  else { p with frames := .fits :: p.frames }

/-- End a group. -/
def leave (p : Pen) : Pen :=
  match p.frames with
  | .broken _ indent :: frames => { p with frames, indent }
  | .fits :: frames => { p with frames }
  | [] => p

/-- Write a measured mark. -/
def mark (p : Pen) : Mark × Nat → Pen
  | (.text s _, _) => p.text s
  | (.gap g, size) => p.gap g size
  | (.opening style indent, size) => p.enter style indent size
  | (.closing, _) => p.leave

end Pen

/-- The text of a document, if every part of it can be printed. -/
def toText? (d : Layout) : Option String :=
  if isPrintable d then
    let pen := (measure (docsRow d)).row.foldl Pen.mark {}
    some (String.join pen.written.reverse)
  else none

end CrudScaffold.Layout
