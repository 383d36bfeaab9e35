import BenchReport.Chart.Style

namespace BenchReport

structure Image where
  width : Nat
  height : Nat
  palette : List Colour
  pixels : ByteArray

namespace Image

def blank (width height : Nat) (palette : List Colour) : Image :=
  ⟨width, height, palette, ByteArray.mk (Array.replicate (width * height) 0)⟩

def index (i : Image) (c : Colour) : UInt8 := UInt8.ofNat ((i.palette.idxOf? c).getD 0)

def setPixel (pixels : ByteArray) (k : Nat) (b : UInt8) : ByteArray :=
  if h : k < pixels.size then pixels.set k b h else pixels

def paint (i : Image) (c : Colour) (x y : Int) (count : Nat) : Image :=
  if y < 0 ∨ (i.height : Int) ≤ y then i
  else
    let first := (max x 0).toNat
    let last := (min (x + count) i.width).toNat
    let start := y.toNat * i.width
    let b := i.index c
    { i with
      pixels := (List.range (last - first)).foldl
        (fun pixels k => setPixel pixels (start + first + k) b) i.pixels }

end Image

end BenchReport
