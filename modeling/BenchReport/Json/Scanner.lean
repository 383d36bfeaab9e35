import BenchReport.Decimal.Numeral
/-!
Reading JSON from the front of a text. Each function takes the characters that are left and gives
back those after what it has read, or the first fault that it meets.
-/

namespace BenchReport.Json

inductive Fault where
  | malformed
  | mismatched
  | truncated
deriving DecidableEq

abbrev Reader (α : Type) := List Char → Except Fault (α × List Char)

def isBlank (c : Char) : Bool := c = ' ' ∨ c = '\n' ∨ c = '\t' ∨ c = '\r'

def skipBlanks (cs : List Char) : List Char := cs.dropWhile isBlank

def skipWord : List Char → List Char → Except Fault (List Char)
  | [], cs => .ok cs
  | _ :: _, [] => .error .truncated
  | w :: ws, c :: cs => if w = c then skipWord ws cs else .error .malformed

def hexDigit? (c : Char) : Option Nat :=
  if c.isDigit then some (c.toNat - 48)
  else if 'a' ≤ c ∧ c ≤ 'f' then some (c.toNat - 87)
  else if 'A' ≤ c ∧ c ≤ 'F' then some (c.toNat - 55)
  else none

def hexNumber : Reader Nat
  | a :: b :: c :: d :: cs =>
    match hexDigit? a, hexDigit? b, hexDigit? c, hexDigit? d with
    | some a, some b, some c, some d => .ok (((a * 16 + b) * 16 + c) * 16 + d, cs)
    | _, _, _, _ => .error .malformed
  | cs => if (cs.flatMap String.utf8EncodeChar).length < 4 then .error .truncated
    else .error .malformed

def skipUnicodeMark : List Char → Except Fault (List Char)
  | [] => .error .truncated
  | '\\' :: [] => .error .truncated
  | '\\' :: 'u' :: cs => .ok cs
  | _ => .error .malformed

def unicodeEscape (cs : List Char) : Except Fault (Char × List Char) := do
  let (high, cs) ← hexNumber cs
  if 0xdc00 ≤ high ∧ high ≤ 0xdfff then .error .malformed
  else if 0xd800 ≤ high ∧ high ≤ 0xdbff then
    let (low, cs) ← hexNumber (← skipUnicodeMark cs)
    if 0xdc00 ≤ low ∧ low ≤ 0xdfff then
      .ok (Char.ofNat ((high - 0xd800) * 0x400 + (low - 0xdc00) + 0x10000), cs)
    else .error .malformed
  else .ok (Char.ofNat high, cs)

def plainEscape? (c : Char) : Option Char :=
  if c = '"' ∨ c = '\\' ∨ c = '/' then some c
  else if c = 'b' then some (Char.ofNat 8)
  else if c = 'f' then some (Char.ofNat 12)
  else if c = 'n' then some '\n'
  else if c = 'r' then some '\r'
  else if c = 't' then some '\t'
  else none

def unescape : Reader Char
  | [] => .error .truncated
  | 'u' :: cs => unicodeEscape cs
  | c :: cs =>
    match plainEscape? c with
    | some e => .ok (e, cs)
    | none => .error .malformed

def readChars : Nat → Reader (List Char)
  | 0, _ => .error .truncated
  | _ + 1, [] => .error .truncated
  | n + 1, c :: cs =>
    if c = '"' then .ok ([], cs)
    else if c = '\\' then do
      let (e, cs) ← unescape cs
      let (es, cs) ← readChars n cs
      .ok (e :: es, cs)
    else if c.toNat < 32 then .error .malformed
    else do
      let (es, cs) ← readChars n cs
      .ok (c :: es, cs)

def readText (cs : List Char) : Except Fault (String × List Char) :=
  (readChars (cs.length + 1) cs).map fun r => (String.ofList r.1, r.2)

def skipText : List Char → Except Fault (List Char)
  | [] => .error .truncated
  | '"' :: cs => .ok cs
  | '\\' :: 'u' :: a :: b :: c :: d :: cs =>
    if [a, b, c, d].all fun x => (hexDigit? x).isSome then skipText cs else .error .malformed
  | '\\' :: 'u' :: cs => (hexNumber cs).map (·.2)
  | '\\' :: c :: cs => if (plainEscape? c).isSome then skipText cs else .error .malformed
  | '\\' :: [] => .error .truncated
  | c :: cs => if c.toNat < 32 then .error .malformed else skipText cs

inductive Number where
  | whole (n : Nat)
  | other

def readDigits (atEnd : Fault) (cs : List Char) : Except Fault (List Char × List Char) :=
  match cs with
  | [] => .error atEnd
  | c :: _ =>
    if c.isDigit then .ok (cs.takeWhile Char.isDigit, cs.dropWhile Char.isDigit)
    else .error .malformed

def readWhole (atEnd : Fault) (cs : List Char) : Except Fault (List Char × List Char) := do
  let (ds, cs) ← readDigits atEnd cs
  if ds.head? = some '0' ∧ ds.length ≠ 1 then .error .malformed else .ok (ds, cs)

def readFraction (atEnd : Fault) : Reader (List Char)
  | '.' :: cs => readDigits atEnd cs
  | cs => .ok ([], cs)

def readPower (atEnd : Fault) : Reader (Option Int)
  | [] => .ok (none, [])
  | c :: cs =>
    if c = 'e' ∨ c = 'E' then do
      let (negative, cs) := Numeral.unsign cs
      let (ds, cs) ← readDigits atEnd cs
      let n : Int := Numeral.digitsValue ds
      .ok (some (if negative then -n else n), cs)
    else .ok (none, c :: cs)

def leadingDigits (ds : List Char) : Nat × Nat :=
  ds.foldl (fun r d =>
    let n := 10 * r.1 + (d.toNat - '0'.toNat)
    if r.2 = 0 ∧ n < UInt64.size then (n, 0) else (r.1, r.2 + 1)) (0, 0)

/-- Whether digits and a power of ten pass the largest `Double`. The leading digits and the power
are rounded first, and then their product is. -/
def isTooLarge (ds : List Char) (exponent : Int) : Bool :=
  let (n, left) := leadingDigits ds
  let e := exponent + left
  if n = 0 ∨ e < 0 then false
  else 308 < e || ((n : Double) * (Nat.pow 10 e.toNat : Double)).magnitude = Double.infinity

def readNumber (cs : List Char) : Except Fault (Number × List Char) := do
  let (whole, cs) ← readWhole .truncated cs
  let (fraction, cs) ← readFraction .truncated cs
  let (power, cs) ← readPower .truncated cs
  if isTooLarge (whole ++ fraction) (power.getD 0 - fraction.length) then .error .malformed
  else if fraction.isEmpty ∧ power.isNone then .ok (.whole (Numeral.digitsValue whole), cs)
  else .ok (.other, cs)

def skipNumber (cs : List Char) : Except Fault (List Char) := do
  let (_, cs) ← readWhole .malformed cs
  let (_, cs) ← readFraction .malformed cs
  let (_, cs) ← readPower .malformed cs
  .ok cs

def skipColon (cs : List Char) : Except Fault (List Char) :=
  match skipBlanks cs with
  | [] => .error .truncated
  | ':' :: cs => .ok cs
  | _ => .error .malformed

def skipScalar : List Char → Except Fault (List Char)
  | [] => .error .truncated
  | 'n' :: cs => skipWord ['u', 'l', 'l'] cs
  | 't' :: cs => skipWord ['r', 'u', 'e'] cs
  | 'f' :: cs => skipWord ['a', 'l', 's', 'e'] cs
  | '-' :: cs => skipNumber cs
  | '"' :: cs => skipText cs
  | c :: cs => if c.isDigit then skipNumber (c :: cs) else .error .malformed

inductive Bracket where
  | list
  | object
deriving DecidableEq

namespace Bracket

def closing : Bracket → Char
  | list => ']'
  | object => '\x7d'

end Bracket

inductive Expected where
  | value (around : List Bracket)
  | name (around : List Bracket)
  | first (b : Bracket) (around : List Bracket)
  | next (b : Bracket) (around : List Bracket)
  | nothing

namespace Expected

def afterValue : List Bracket → Expected
  | [] => nothing
  | b :: bs => next b bs

def item : Bracket → List Bracket → Expected
  | .list, bs => value (.list :: bs)
  | .object, bs => name bs

def passValue (around : List Bracket) (cs : List Char) : Except Fault (Expected × List Char) :=
  match cs with
  | '[' :: cs => .ok (first .list around, cs)
  | '\x7b' :: cs => .ok (first .object around, cs)
  | cs => (skipScalar cs).map fun cs => (afterValue around, cs)

def passName (around : List Bracket) (cs : List Char) : Except Fault (Expected × List Char) :=
  match cs with
  | [] => .error .truncated
  | '"' :: cs => do
    let cs ← skipColon (← skipText cs)
    .ok (value (.object :: around), cs)
  | _ => .error .malformed

def passItem (b : Bracket) (around : List Bracket) : Reader Expected :=
  match b with
  | .list => passValue (.list :: around)
  | .object => passName around

def pass : Expected → Reader Expected
  | nothing, cs => .ok (nothing, cs)
  | value around, cs => passValue around cs
  | name around, cs => passName around cs
  | first _ _, [] => .error .truncated
  | first b around, c :: cs =>
    if c = b.closing then .ok (afterValue around, cs) else passItem b around (c :: cs)
  | next _ _, [] => .error .truncated
  | next b around, c :: cs =>
    if c = b.closing then .ok (afterValue around, cs)
    else if c = ',' then .ok (item b around, cs)
    else .error .malformed

end Expected

def skipExpected : Nat → Expected → List Char → Except Fault (List Char)
  | _, .nothing, cs => .ok cs
  | 0, _, _ => .error .truncated
  | n + 1, e, cs =>
    match e.pass (skipBlanks cs) with
    | .error f => .error f
    | .ok (e, cs) => skipExpected n e cs

def skipValue (cs : List Char) : Except Fault (List Char) :=
  skipExpected (cs.length + 1) (.value []) cs

def mismatch (cs : List Char) : Fault :=
  let read : Except Fault Unit :=
    match cs with
    | [] => .error .truncated
    | 'n' :: cs => (skipWord ['u', 'l', 'l'] cs).map fun _ => ()
    | 't' :: cs => (skipWord ['r', 'u', 'e'] cs).map fun _ => ()
    | 'f' :: cs => (skipWord ['a', 'l', 's', 'e'] cs).map fun _ => ()
    | '-' :: cs => (readNumber cs).map fun _ => ()
    | '"' :: cs => (readText cs).map fun _ => ()
    | '[' :: _ => .ok ()
    | '\x7b' :: _ => .ok ()
    | c :: cs => if c.isDigit then (readNumber (c :: cs)).map fun _ => () else .error .malformed
  match read with
  | .ok _ => .mismatched
  | .error f => f

end BenchReport.Json
