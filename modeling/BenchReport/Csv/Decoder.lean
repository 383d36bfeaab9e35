import BenchReport.Csv.Reader
import BenchReport.Disk
import BenchReport.Text.Blank
/-!
From split records to lines of text. Every record has as many fields as the first one, all of its
bytes spell characters, and white space around a field is dropped, inside quotes too. Below the
header the ASCII blanks go first, so that bytes which spell no character are counted without them.
-/

namespace BenchReport.Csv

inductive Fault where
  | unreadable (e : DiskError)
  | fieldCount (record : Nat) (start : Position) (found expected : Nat)
  | encoding (record : Nat) (start : Position) (field valid : Nat)
deriving DecidableEq

namespace Fault

def message : Fault → String
  | unreadable e => e.message
  | fieldCount record start found expected =>
    s!"CSV error: record {record} (line: {start.line}, byte: {start.byte}): " ++
      s!"found record with {found} fields, but the previous record has {expected} fields"
  | encoding record start field valid =>
    s!"CSV parse error: record {record} (line {start.line}, field: {field}, " ++
      s!"byte: {start.byte}): invalid utf-8: invalid UTF-8 in field {field} " ++
      s!"near byte index {valid}"

end Fault

structure Line where
  number : Nat
  cells : Except Fault (List String)

def isBlankByte (b : UInt8) : Bool := b = 9 ∨ b = 10 ∨ b = 12 ∨ b = 13 ∨ b = 32

def stripBlanks (field : Bytes) : Bytes :=
  ((field.dropWhile isBlankByte).reverse.dropWhile isBlankByte).reverse

def decodeFields (record : Nat) (start : Position) (field : Nat) :
    List Bytes → Except Fault (List String)
  | [] => .ok []
  | f :: fs =>
    match Text.ofBytes f with
    | .error valid => .error (.encoding record start field valid)
    | .ok text => (decodeFields record start (field + 1) fs).map (Text.trim text :: ·)

def decodeRecord (width record : Nat) (r : Record) : Except Fault (List String) :=
  if r.fields.length = width then decodeFields record r.start 0 (r.fields.map stripBlanks)
  else .error (.fieldCount record r.start r.fields.length width)

def decodeRecords (width : Nat) : Nat → List Record → List Line
  | _, [] => []
  | n, r :: rs => ⟨r.start.line, decodeRecord width n r⟩ :: decodeRecords width (n + 1) rs

def decode (file : Bytes) : Except Fault (List String) × List Line :=
  match split file with
  | [] => (.ok [], [])
  | h :: rs => (decodeFields 0 h.start 0 h.fields, decodeRecords h.fields.length 1 rs)

end BenchReport.Csv
