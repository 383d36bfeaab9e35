import BenchReport.Json
import BenchReport.Json.Scanner

namespace BenchReport.Json

def readNumeral (negative : Bool) : Reader Json := fun cs => do
  let (whole, cs) ← readWhole .truncated cs
  let (fraction, cs) ← readFraction .truncated cs
  let (power, cs) ← readPower .truncated cs
  if negative = false ∧ fraction.isEmpty ∧ power.isNone then
    .ok (natural (Numeral.digitsValue whole), cs)
  else
    let d : Decimal := ⟨Numeral.digitsValue (whole ++ fraction), power.getD 0 - fraction.length⟩
    if d.nearest < Double.infinity then .ok (number (.ofMagnitude negative d.nearest), cs)
    else .error .malformed

def readScalar : Reader Json
  | [] => .error .truncated
  | 'n' :: cs => (skipWord ['u', 'l', 'l'] cs).map fun cs => (null, cs)
  | 't' :: cs => (skipWord ['r', 'u', 'e'] cs).map fun cs => (bool true, cs)
  | 'f' :: cs => (skipWord ['a', 'l', 's', 'e'] cs).map fun cs => (bool false, cs)
  | '"' :: cs => (readText cs).map fun r => (text r.1, r.2)
  | '-' :: cs => readNumeral true cs
  | cs => readNumeral false cs

def readName : Reader String
  | [] => .error .truncated
  | '"' :: cs => readText cs
  | _ => .error .malformed

mutual

def readValue : Nat → Reader Json
  | 0, _ => .error .truncated
  | n + 1, cs =>
    match skipBlanks cs with
    | '[' :: cs =>
      match skipBlanks cs with
      | ']' :: cs => .ok (list [], cs)
      | cs => (readItems n cs).map fun r => (list r.1, r.2)
    | '\x7b' :: cs =>
      match skipBlanks cs with
      | '\x7d' :: cs => .ok (object [], cs)
      | cs => (readMembers n cs).map fun r => (object r.1, r.2)
    | cs => readScalar cs

def readItems : Nat → Reader (List Json)
  | 0, _ => .error .truncated
  | n + 1, cs => do
    let (j, cs) ← readValue n cs
    match skipBlanks cs with
    | ',' :: cs => (readItems n cs).map fun r => (j :: r.1, r.2)
    | ']' :: cs => .ok ([j], cs)
    | [] => .error .truncated
    | _ => .error .malformed

def readMembers : Nat → Reader (List (String × Json))
  | 0, _ => .error .truncated
  | n + 1, cs => do
    let (name, cs) ← readName (skipBlanks cs)
    let (j, cs) ← readValue n (← skipColon cs)
    match skipBlanks cs with
    | ',' :: cs => (readMembers n cs).map fun r => ((name, j) :: r.1, r.2)
    | '\x7d' :: cs => .ok ([(name, j)], cs)
    | [] => .error .truncated
    | _ => .error .malformed

end

def read (s : String) : Except Fault Json := do
  let (j, cs) ← readValue (s.length + 1) s.toList
  if (skipBlanks cs).isEmpty then .ok j else .error .malformed

def member? : Json → String → Option Json
  | object members, name => members.reverse.lookup name
  | _, _ => none

end BenchReport.Json
