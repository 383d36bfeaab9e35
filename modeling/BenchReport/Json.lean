import BenchReport.Decimal.Numeral
import BenchReport.Ordered

namespace BenchReport

inductive Json where
  | null
  | bool (b : Bool)
  | natural (n : Nat)
  | number (x : Double)
  | text (s : String)
  | list (items : List Json)
  | object (members : List (String × Json))

namespace Json

def hexFigure (n : Nat) : Char := (Nat.toDigits 16 n).headD '0'

def escape (c : Char) : List Char :=
  if c = '"' then ['\\', '"']
  else if c = '\\' then ['\\', '\\']
  else if c.toNat = 8 then ['\\', 'b']
  else if c = '\t' then ['\\', 't']
  else if c = '\n' then ['\\', 'n']
  else if c.toNat = 12 then ['\\', 'f']
  else if c = '\r' then ['\\', 'r']
  else if c.toNat < 32 then
    ['\\', 'u', '0', '0', hexFigure (c.toNat / 16), hexFigure (c.toNat % 16)]
  else [c]

def writeText (s : String) : List Char := '"' :: (s.toList.flatMap escape ++ ['"'])

def writeNumber (x : Double) : List Char := if x.isFinite then x.write .json else "null".toList

def writeBool (b : Bool) : List Char := if b then "true".toList else "false".toList

mutual

def compact : Json → List Char
  | null => "null".toList
  | bool b => writeBool b
  | natural n => Nat.toDigits 10 n
  | number x => writeNumber x
  | text s => writeText s
  | list items => '[' :: (compactItems items ++ [']'])
  | object members => '\x7b' :: (compactMembers members ++ ['\x7d'])

def compactItems : List Json → List Char
  | [] => []
  | [j] => compact j
  | j :: js => compact j ++ ',' :: compactItems js

def compactMembers : List (String × Json) → List Char
  | [] => []
  | [(name, j)] => writeText name ++ ':' :: compact j
  | (name, j) :: ms => writeText name ++ ':' :: (compact j ++ ',' :: compactMembers ms)

end

def newLine (depth : Nat) : List Char := '\n' :: List.replicate (2 * depth) ' '

mutual

def indented (depth : Nat) : Json → List Char
  | null => "null".toList
  | bool b => writeBool b
  | natural n => Nat.toDigits 10 n
  | number x => writeNumber x
  | text s => writeText s
  | list [] => ['[', ']']
  | list items => '[' :: (indentedItems (depth + 1) items ++ newLine depth ++ [']'])
  | object [] => ['\x7b', '\x7d']
  | object members => '\x7b' :: (indentedMembers (depth + 1) members ++ newLine depth ++ ['\x7d'])

def indentedItems (depth : Nat) : List Json → List Char
  | [] => []
  | [j] => newLine depth ++ indented depth j
  | j :: js => newLine depth ++ (indented depth j ++ ',' :: indentedItems depth js)

def indentedMembers (depth : Nat) : List (String × Json) → List Char
  | [] => []
  | [(name, j)] => newLine depth ++ (writeText name ++ ':' :: ' ' :: indented depth j)
  | (name, j) :: ms =>
    newLine depth ++
      (writeText name ++ ':' :: ' ' :: (indented depth j ++ ',' :: indentedMembers depth ms))

end

def ofNames (members : List (String × Json)) : Json :=
  object ((Ordered.distinct (members.map (·.1))).map fun name =>
    (name, (members.reverse.lookup name).getD null))

end Json

end BenchReport
