import BenchReport.Image
import BenchReport.Text.Bytes

namespace BenchReport.Png

def bigEndian : Nat → Nat → Bytes
  | 0, _ => []
  | count + 1, n => UInt8.ofNat (n / Nat.pow 256 count) :: bigEndian count n

def signature : Bytes := [137, 80, 78, 71, 13, 10, 26, 10]

def crcShift (c : UInt32) : UInt32 :=
  if c % 2 = 1 then (0xedb88320 : UInt32) ^^^ (c >>> 1) else c >>> 1

def crcByte (c : UInt32) (b : UInt8) : UInt32 := Nat.repeat crcShift 8 (c ^^^ b.toUInt32)

def crc (bytes : Bytes) : Nat := (bytes.foldl crcByte 0xffffffff ^^^ 0xffffffff).toNat

def adler (bytes : Bytes) : Nat :=
  let sums := bytes.foldl (fun (s : Nat × Nat) b =>
    let a := (s.1 + b.toNat) % 65521
    (a, (s.2 + a) % 65521)) (1, 0)
  65536 * sums.2 + sums.1

def chunk (name : String) (content : Bytes) : Bytes :=
  let body := Text.toBytes name ++ content
  bigEndian 4 content.length ++ body ++ bigEndian 4 (crc body)

def block (isLast : Bool) (content : Bytes) : Bytes :=
  let n := content.length
  (if isLast then 1 else 0) ::
    ((bigEndian 2 n).reverse ++ (bigEndian 2 (65535 - n)).reverse ++ content)

def blocks : Nat → Bytes → Bytes
  | 0, _ => []
  | fuel + 1, bytes =>
    let rest := bytes.drop 65535
    block rest.isEmpty (bytes.take 65535) ++ if rest.isEmpty then [] else blocks fuel rest

def compressed (bytes : Bytes) : Bytes :=
  [0x78, 0x01] ++ blocks (bytes.length / 65535 + 1) bytes ++ bigEndian 4 (adler bytes)

def rows (i : Image) : Bytes :=
  (List.range i.height).flatMap fun y =>
    0 :: (i.pixels.extract (y * i.width) ((y + 1) * i.width)).toList

def header (i : Image) : Bytes := bigEndian 4 i.width ++ bigEndian 4 i.height ++ [8, 3, 0, 0, 0]

def encode (i : Image) : Bytes :=
  signature ++ chunk "IHDR" (header i) ++
    chunk "PLTE" (i.palette.flatMap fun c => [c.red, c.green, c.blue]) ++
    chunk "IDAT" (compressed (rows i)) ++ chunk "IEND" []

end BenchReport.Png
