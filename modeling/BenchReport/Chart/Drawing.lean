import BenchReport.Chart.Axis
/-!
The shapes of a chart on a canvas of whole pixels, with the first panel at the left. Each panel has
a plot area of 1100 by 646 pixels inside its 1200 by 800. What lies outside of it is moved to an
edge.
-/

namespace BenchReport

abbrev Pixel := Int × Int

inductive Shape where
  | rectangle (colour : Colour) (filled : Bool) (x y width height : Int)
  | polyline (colour : Colour) (width : Nat) (points : List Pixel)
  | circle (colour : Colour) (centre : Pixel) (radius : Nat)
  | polygon (colour : Colour) (corners : List Pixel)
  | segment (colour : Colour) (width : Nat) (start finish : Pixel)
deriving DecidableEq

inductive Swatch where
  | bar (colour : Colour) (filled : Bool)
  | line (colour : Colour)
deriving DecidableEq

structure PanelDrawing where
  caption : String
  yLabel : String
  xLabel : String
  tickLabels : List (String × Int)
  shapes : List Shape
  reference : List Shape
  legend : List (String × Swatch)
deriving DecidableEq

structure Drawing where
  width : Nat
  height : Nat
  title : Option String
  panels : List PanelDrawing
deriving DecidableEq

namespace Drawing

def black : Colour := ⟨0, 0, 0⟩

def clamp (low high n : Int) : Int := max low (min high n)

def advance (start distance : Int) : Int :=
  -- pixels have 32 bits: a distance is cut to them, and a sum past their end comes round
  (start + clamp (-0x80000000) 0x7fffffff distance).bmod 0x100000000

def share (axis : Span Double) (x : Double) : Double := (x - axis.low) / (axis.high - axis.low)

def along (first last : Int) (t : Double) (distance : Int) : Int :=
  if t.magnitude = Double.infinity then (if t.negative then first else last)
  else advance first distance

def pixelX (panel : Nat) (axis : Span Double) (x : Double) : Int :=
  let left : Int := 85 + 1200 * panel
  let t := share axis x
  clamp left (left + 1100) (along left (left + 1099) t (1099 * t + 0.001 : Double).floor)

def pixelY (axis : Span Double) (y : Double) : Int :=
  let t := share axis y
  clamp 89 735 (along 734 89 t (-645 * t - 0.001 : Double).ceil)

structure Frame where
  panel : Nat
  horizontal : Span Double
  vertical : Span Double

namespace Frame

def pixel (f : Frame) (x y : Double) : Pixel :=
  (pixelX f.panel f.horizontal x, pixelY f.vertical y)

end Frame

def bar (f : Frame) (style : SeriesStyle) (span : Span Double) (value : Double) : Shape :=
  let (x₁, y₁) := f.pixel span.low 0
  let (x₂, y₂) := f.pixel span.high value
  .rectangle style.colour (!style.hollow) (min x₁ x₂) (min y₁ y₂) (max x₁ x₂ - min x₁ x₂)
    (max y₁ y₂ - min y₁ y₂)

def marker (style : SeriesStyle) : Pixel → List Shape
  | (a, b) =>
    match style.marker with
    | .circle => [.circle style.colour (a, b) 5]
    | .square => [.rectangle style.colour true (a - 5) (b - 5) 10 10]
    | .triangle => [.polygon style.colour [(a, b - 6), (a - 5, b + 3), (a + 6, b + 3)]]
    | .cross =>
      [.segment style.colour 2 (a - 5, b - 5) (a + 5, b + 5),
        .segment style.colour 2 (a - 5, b + 5) (a + 5, b - 5)]

def seriesBars (f : Frame) (p : Panel Double) (i : Nat) (s : PanelSeries Double) : List Shape :=
  s.points.filterMap fun point =>
    (p.tickIndex? point.percent).map fun tick =>
      bar f s.style (barSpan barGroupWidth tick i p.series.length) point.value

def seriesLine (f : Frame) (s : PanelSeries Double) : List Shape :=
  let pixels := s.points.map fun point => f.pixel point.percent point.value
  .polyline s.style.colour 2 pixels :: pixels.flatMap (marker s.style)

def referenceShapes (f : Frame) : Option Double → List Shape
  | none => []
  | some y =>
    (dashes f.horizontal).map fun d => .polyline black 1 [f.pixel d.low y, f.pixel d.high y]

def frame (panel : Nat) (spec : ChartSpec) (p : Panel Double) : Frame :=
  ⟨panel, if spec.kind = .bar then tickAxis 0.5 p.ticks.length else percentAxis,
    valueAxis headroom spec.kind spec.referenceLine p⟩

def tickLabels (f : Frame) (spec : ChartSpec) (p : Panel Double) : List (String × Int) :=
  if spec.kind = .bar then p.ticks.mapIdx fun i t => (t.fixed 0, (f.pixel (i : Nat) 0).1)
  else (List.range 11).map fun (i : Nat) => (toString (10 * i), (f.pixel (10 * i : Nat) 0).1)

def swatch (spec : ChartSpec) (style : SeriesStyle) : Swatch :=
  if spec.kind = .bar then .bar style.colour (!style.hollow) else .line style.colour

def panel (spec : ChartSpec) (i : Nat) (p : Panel Double) : PanelDrawing :=
  let f := frame i spec p
  { caption := "Read ratio " ++ p.readRatio.fixed 2
    yLabel := spec.yLabel
    xLabel := "Sortedness (%)"
    tickLabels := tickLabels f spec p
    shapes :=
      if spec.kind = .bar then (p.series.mapIdx (seriesBars f p)).flatten
      else p.series.flatMap (seriesLine f)
    reference := referenceShapes f spec.referenceLine
    legend := p.series.map fun s => (s.treeType, swatch spec s.style) }

end Drawing

namespace Chart

def canvas (c : Chart) : Nat × Nat := (1200 * max c.panels.length 1, 800)

def draw (c : Chart) : Drawing where
  width := c.canvas.1
  height := c.canvas.2
  title := if c.isEmpty then none else some c.spec.title
  panels := c.panels.mapIdx (Drawing.panel c.spec)

end Chart

end BenchReport
