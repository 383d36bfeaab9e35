/-!
Text as bytes (UTF-8). A character is read by the width its first byte announces and has to be
spelled as it is written, which leaves out overlong forms, surrogates and numbers past the last
character.
-/

namespace BenchReport

abbrev Bytes := List UInt8

namespace Text

def toBytes (s : String) : Bytes := s.toList.flatMap String.utf8EncodeChar

def width (b : UInt8) : Nat :=
  if b.toNat < 0x80 then 1 else if b.toNat < 0xe0 then 2 else if b.toNat < 0xf0 then 3 else 4

def codePoint (b : UInt8) (rest : Bytes) : Nat :=
  let head := if width b = 1 then b.toNat else b.toNat % Nat.pow 2 (7 - width b)
  rest.foldl (fun n c => n * 64 + c.toNat % 64) head

def firstChar? : Bytes → Option (Char × Bytes)
  | [] => none
  | b :: bs =>
    let c := Char.ofNat (codePoint b (bs.take (width b - 1)))
    if String.utf8EncodeChar c = b :: bs.take (width b - 1) then some (c, bs.drop (width b - 1))
    else none

def readChars : Nat → Bytes → List Char × Bytes
  | 0, bs => ([], bs)
  | n + 1, bs =>
    match firstChar? bs with
    | none => ([], bs)
    | some (c, rest) => ((readChars n rest).map (c :: ·) id)

def ofBytes (bs : Bytes) : Except Nat String :=
  match readChars bs.length bs with
  | (cs, []) => .ok (String.ofList cs)
  | (_, rest) => .error (bs.length - rest.length)

end Text

end BenchReport
