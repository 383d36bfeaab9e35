import BenchReport.Json.Scanner
import BenchReport.Settings
/-!
Settings from JSON: an object with a member for each setting, or a list of all six in their order.
Only the trial count may be left out. Members with other names are passed over, and a setting that
is given twice is a fault. Of several faults the first in the text counts.
-/

namespace BenchReport.Settings

open Json (Fault Reader skipBlanks)

structure Draft where
  input : Option String := none
  outputDir : Option String := none
  trialCount : Option (Option UInt64) := none
  baseline : Option String := none
  vectorOutput : Option Bool := none
  summary : Option Bool := none

namespace Draft

def finish (d : Draft) : Except Fault Settings :=
  match d.input, d.outputDir, d.baseline, d.vectorOutput, d.summary with
  | some input, some outputDir, some baseline, some vectorOutput, some summary =>
    .ok { input, outputDir, trialCount := d.trialCount.join, baseline, vectorOutput, summary }
  | _, _, _, _, _ => .error .mismatched

end Draft

def readString (cs : List Char) : Except Fault (String × List Char) :=
  match skipBlanks cs with
  | '"' :: cs => Json.readText cs
  | cs => .error (Json.mismatch cs)

def readBool (cs : List Char) : Except Fault (Bool × List Char) :=
  match skipBlanks cs with
  | 't' :: cs => (Json.skipWord ['r', 'u', 'e'] cs).map fun cs => (true, cs)
  | 'f' :: cs => (Json.skipWord ['a', 'l', 's', 'e'] cs).map fun cs => (false, cs)
  | cs => .error (Json.mismatch cs)

def readTrialCount (cs : List Char) : Except Fault (Option UInt64 × List Char) :=
  match skipBlanks cs with
  | 'n' :: cs => (Json.skipWord ['u', 'l', 'l'] cs).map fun cs => (none, cs)
  | [] => .error .truncated
  | c :: cs =>
    if c.isDigit then do
      match ← Json.readNumber (c :: cs) with
      | (.whole n, cs) =>
        if n < UInt64.size then .ok (some (UInt64.ofNat n), cs) else .error .mismatched
      | (.other, _) => .error .mismatched
    else .error (Json.mismatch (c :: cs))

def once {α : Type} (field : Option α) (read : Reader α) : Reader α := fun cs =>
  match field with
  | some _ => .error .mismatched
  | none => do read (← Json.skipColon cs)

def readMember (d : Draft) (name : String) (cs : List Char) : Except Fault (Draft × List Char) :=
  if name = "input" then
    (once d.input readString cs).map fun r => ({ d with input := some r.1 }, r.2)
  else if name = "output_dir" then
    (once d.outputDir readString cs).map fun r => ({ d with outputDir := some r.1 }, r.2)
  else if name = "trial_count" then
    (once d.trialCount readTrialCount cs).map fun r => ({ d with trialCount := some r.1 }, r.2)
  else if name = "baseline" then
    (once d.baseline readString cs).map fun r => ({ d with baseline := some r.1 }, r.2)
  else if name = "vector_output" then
    (once d.vectorOutput readBool cs).map fun r => ({ d with vectorOutput := some r.1 }, r.2)
  else if name = "summary" then
    (once d.summary readBool cs).map fun r => ({ d with summary := some r.1 }, r.2)
  else do
    let cs ← Json.skipColon cs
    let cs ← Json.skipValue cs
    .ok (d, cs)

def readMembers : Nat → Draft → Reader Draft
  | 0, _, _ => .error .truncated
  | n + 1, d, cs =>
    match skipBlanks cs with
    | [] => .error .truncated
    | '"' :: cs => do
      let (name, cs) ← Json.readText cs
      let (d, cs) ← readMember d name cs
      match skipBlanks cs with
      | [] => .error .truncated
      | '\x7d' :: cs => .ok (d, cs)
      | ',' :: cs => readMembers n d cs
      | _ => .error .malformed
    | _ => .error .malformed

def readObject (cs : List Char) : Except Fault (Settings × List Char) := do
  let (d, cs) ←
    match skipBlanks cs with
    | '\x7d' :: cs => .ok ({}, cs)
    | cs => readMembers (cs.length + 1) {} cs
  .ok (← d.finish, cs)

def readItem {α : Type} (first : Bool) (read : Reader α) : Reader α := fun cs =>
  match skipBlanks cs with
  | [] => .error .truncated
  | ']' :: _ => .error .mismatched
  | c :: cs =>
    if first then read (c :: cs)
    else if c = ',' then
      match skipBlanks cs with
      | [] => .error .truncated
      | ']' :: _ => .error .malformed
      | cs => read cs
    else .error .malformed

def readList (cs : List Char) : Except Fault (Settings × List Char) := do
  let (input, cs) ← readItem true readString cs
  let (outputDir, cs) ← readItem false readString cs
  let (trialCount, cs) ← readItem false readTrialCount cs
  let (baseline, cs) ← readItem false readString cs
  let (vectorOutput, cs) ← readItem false readBool cs
  let (summary, cs) ← readItem false readBool cs
  match skipBlanks cs with
  | [] => .error .truncated
  | ']' :: cs => .ok ({ input, outputDir, trialCount, baseline, vectorOutput, summary }, cs)
  | _ => .error .malformed

def readSettings (cs : List Char) : Except Fault (Settings × List Char) :=
  match skipBlanks cs with
  | '\x7b' :: cs => readObject cs
  | '[' :: cs => readList cs
  | cs => .error (Json.mismatch cs)

def deserialize (text : String) : Except Fault Settings := do
  let (s, cs) ← readSettings text.toList
  if (skipBlanks cs).isEmpty then .ok s else .error .malformed

end BenchReport.Settings
