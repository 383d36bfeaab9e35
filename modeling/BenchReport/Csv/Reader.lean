import BenchReport.Text.Bytes
/-!
Splitting a file of comma separated values into records. A quote is special only as the first byte
of a field; inside, two quotes stand for one. Line feeds and carriage returns between records are
skipped, so blank lines vanish. Nothing is refused: an open quote runs to the end of the file.
-/

namespace BenchReport.Csv

structure Position where
  line : Nat
  byte : Nat
deriving DecidableEq

structure Record where
  start : Position
  fields : List Bytes
deriving DecidableEq

/-- What the scanner is inside of: nothing, the first byte of a field, a bare field, a quoted one,
or a quoted one whose last byte was a quote. -/
inductive Mode where
  | between
  | opening
  | bare
  | quoted
  | closing
deriving DecidableEq

/-- The state of the scanner. `field`, `fields` and `records` have their last element first. -/
structure Scanner where
  position : Position
  start : Position
  mode : Mode
  field : Bytes
  fields : List Bytes
  records : List Record

namespace Scanner

def endField (s : Scanner) : Scanner :=
  { s with mode := .opening, field := [], fields := s.field.reverse :: s.fields }

def endRecord (s : Scanner) : Scanner :=
  { s.endField with
    mode := .between
    start := s.position
    fields := []
    records := ⟨s.start, s.endField.fields.reverse⟩ :: s.records }

def keep (s : Scanner) (mode : Mode) (b : UInt8) : Scanner :=
  { s with mode, field := b :: s.field }

def lineFeed : UInt8 := 10
def carriageReturn : UInt8 := 13
def quote : UInt8 := 34
def comma : UInt8 := 44

def advance (p : Position) (b : UInt8) : Position :=
  ⟨if b = lineFeed then p.line + 1 else p.line, p.byte + 1⟩

def bareStep (s : Scanner) (b : UInt8) : Scanner :=
  if b = comma then s.endField
  else if b = lineFeed ∨ b = carriageReturn then s.endRecord
  else s.keep .bare b

def openingStep (s : Scanner) (b : UInt8) : Scanner :=
  if b = quote then { s with mode := .quoted } else s.bareStep b

def step (s : Scanner) (b : UInt8) : Scanner :=
  let s := { s with position := advance s.position b }
  match s.mode with
  | .between => if b = lineFeed ∨ b = carriageReturn then s else s.openingStep b
  | .opening => s.openingStep b
  | .bare => s.bareStep b
  | .quoted => if b = quote then { s with mode := .closing } else s.keep .quoted b
  | .closing => if b = quote then s.keep .quoted b else s.bareStep b

def finish (s : Scanner) : List Record :=
  if s.mode = .between then s.records.reverse else s.endRecord.records.reverse

def initial (p : Position) : Scanner := ⟨p, ⟨1, 0⟩, .between, [], [], []⟩

end Scanner

def byteOrderMark : Bytes := [0xef, 0xbb, 0xbf]

def split (file : Bytes) : List Record :=
  if byteOrderMark.isPrefixOf file then
    ((file.drop 3).foldl Scanner.step (.initial ⟨1, 3⟩)).finish
  else (file.foldl Scanner.step (.initial ⟨1, 0⟩)).finish

end BenchReport.Csv
