
namespace BenchReport.Csv

def needsQuotes (field : List Char) : Bool :=
  field.any fun c => c = ',' ∨ c = '"' ∨ c = '\n' ∨ c = '\r'

def writeField (field : List Char) : List Char :=
  if needsQuotes field then
    '"' :: (field.flatMap (fun c => if c = '"' then ['"', '"'] else [c]) ++ ['"'])
  else field

def writeRecord (fields : List String) : List Char :=
  [','].intercalate (fields.map fun f => writeField f.toList) ++ ['\n']

def write (records : List (List String)) : String := String.ofList (records.flatMap writeRecord)

end BenchReport.Csv
