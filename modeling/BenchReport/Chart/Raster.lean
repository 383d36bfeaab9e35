import BenchReport.Chart.Drawing
import BenchReport.Image

namespace BenchReport.Raster

structure Stripe where
  x : Int
  y : Int
  count : Nat
deriving DecidableEq

def range (a b : Int) : List Int := (List.range (b - a + 1).toNat).map fun (i : Nat) => a + i

def box (x y width height : Int) : List Stripe :=
  (range y (y + height)).map fun row => ⟨x, row, width.toNat + 1⟩

def outline (x y width height : Int) : List Stripe :=
  box x y width 0 ++ box x (y + height) width 0 ++ box x y 0 height ++ box (x + width) y 0 height

def disc (centre : Pixel) (radius : Nat) : List Stripe :=
  (range (-radius) radius).map fun dy =>
    let half := (List.range radius).countP fun (k : Nat) =>
      decide (((k : Int) + 1) * (k + 1) + dy * dy ≤ radius * radius)
    ⟨centre.1 - half, centre.2 + dy, 2 * half + 1⟩

def line (width : Nat) (a b : Pixel) : List Stripe :=
  let dx := b.1 - a.1
  let dy := b.2 - a.2
  let steps : Int := max dx.natAbs dy.natAbs
  (range 0 steps).flatMap fun i =>
    let more : Int := (width - 1 : Nat)
    box (a.1 + dx * i / max steps 1) (a.2 + dy * i / max steps 1) more more

def polyline (width : Nat) : List Pixel → List Stripe
  | a :: b :: ps => line width a b ++ polyline width (b :: ps)
  | _ => []

def crossing (y : Int) (a b : Pixel) : Option Int :=
  if a.2 = b.2 ∨ y < min a.2 b.2 ∨ max a.2 b.2 < y then none
  else some (a.1 + (b.1 - a.1) * (y - a.2) / (b.2 - a.2))

def polygon : List Pixel → List Stripe
  | [] => []
  | p :: ps =>
    let ys := ps.map (·.2)
    (range (ys.foldl min p.2) (ys.foldl max p.2)).filterMap fun y =>
      match ((p :: ps).zip (ps ++ [p])).filterMap fun side => crossing y side.1 side.2 with
      | [] => none
      | x :: xs => some ⟨xs.foldl min x, y, (xs.foldl max x - xs.foldl min x).toNat + 1⟩

def stripes : Shape → List Stripe
  | .rectangle _ filled x y w h => if filled then box x y w h else outline x y w h
  | .polyline _ w ps => polyline w ps
  | .circle _ p r => disc p r
  | .polygon _ ps => polygon ps
  | .segment _ w a b => line w a b

def colour : Shape → Colour
  | .rectangle c .. | .polyline c .. | .circle c .. | .polygon c .. | .segment c .. => c

def paint (i : Image) (s : Shape) : Image :=
  (stripes s).foldl (fun i r => i.paint (colour s) r.x r.y r.count) i

def panelShapes (i : Nat) (p : PanelDrawing) : List Shape :=
  .rectangle Drawing.black false (85 + 1200 * i) 89 1100 646 :: (p.shapes ++ p.reference)

def image (d : Drawing) : Image :=
  let shapes := (d.panels.mapIdx panelShapes).flatten
  shapes.foldl paint (.blank d.width d.height (⟨255, 255, 255⟩ :: (shapes.map colour).eraseDups))

end BenchReport.Raster
