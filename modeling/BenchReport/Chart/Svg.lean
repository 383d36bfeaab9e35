import BenchReport.Chart.Drawing

namespace BenchReport.Svg

def escape (c : Char) : List Char :=
  if c = '&' then "&amp;".toList
  else if c = '<' then "&lt;".toList
  else if c = '>' then "&gt;".toList
  else if c = '"' then "&quot;".toList
  else [c]

def escaped (s : String) : String := String.ofList (s.toList.flatMap escape)

def opening (name : String) (attributes : List (String × String)) : String :=
  "<" ++ name ++
    String.join (attributes.map fun a => " " ++ a.1 ++ "=\"" ++ escaped a.2 ++ "\"")

def element (name : String) (attributes : List (String × String)) : String :=
  opening name attributes ++ "/>"

def textElement (attributes : List (String × String)) (content : String) : String :=
  opening "text" attributes ++ ">" ++ escaped content ++ "</text>"

def points (ps : List Pixel) : String :=
  " ".intercalate (ps.map fun p => toString p.1 ++ "," ++ toString p.2)

def paint (colour : Colour) (filled : Bool) : List (String × String) :=
  [("fill", if filled then colour.hex else "none"),
    ("stroke", if filled then "none" else colour.hex)]

def shape : Shape → String
  | .rectangle c filled x y w h =>
    element "rect" <|
      [("x", toString x), ("y", toString y), ("width", toString w), ("height", toString h)] ++
        paint c filled
  | .polyline c w ps =>
    element "polyline" <|
      paint c false ++ [("stroke-width", toString w), ("points", points ps)]
  | .circle c p r =>
    element "circle" <|
      [("cx", toString p.1), ("cy", toString p.2), ("r", toString r)] ++ paint c true
  | .polygon c ps => element "polygon" (paint c true ++ [("points", points ps)])
  | .segment c w a b =>
    element "line" <|
      paint c false ++
        [("stroke-width", toString w), ("x1", toString a.1), ("y1", toString a.2),
          ("x2", toString b.1), ("y2", toString b.2)]

def placed (size : Nat) (x y : Int) (anchor : String) : List (String × String) :=
  [("x", toString x), ("y", toString y), ("font-family", "sans-serif"),
    ("font-size", toString size), ("text-anchor", anchor)]

def label (size : Nat) (x y : Int) (content : String) : String :=
  textElement (placed size x y "middle") content

def sideLabel (size : Nat) (x y : Int) (content : String) : String :=
  let turn := "rotate(-90 " ++ toString x ++ " " ++ toString y ++ ")"
  textElement (placed size x y "middle" ++ [("transform", turn)]) content

def plotArea (left : Int) : String := shape (.rectangle Drawing.black false left 89 1100 646)

def swatch (x y : Int) : Swatch → String
  | .bar c filled => shape (.rectangle c filled x (y - 10) 20 10)
  | .line c => shape (.polyline c 2 [(x, y - 5), (x + 20, y - 5)])

def legend (left : Int) (entries : List (String × Swatch)) : List String :=
  (entries.mapIdx fun i e =>
    let y : Int := 115 + 24 * i
    [swatch (left + 15) y e.2, textElement (placed 20 (left + 45) y "start") e.1]).flatten

def panel (i : Nat) (p : PanelDrawing) : List String :=
  let left : Int := 85 + 1200 * i
  [label 28 (left + 550) 80 p.caption, plotArea left, sideLabel 16 (left - 60) 412 p.yLabel] ++
    p.tickLabels.map (fun t => label 16 t.2 755 t.1) ++
    [label 16 (left + 550) 785 p.xLabel] ++
    p.shapes.map shape ++ p.reference.map shape ++ legend left p.legend

def nameSpace : String := "/".intercalate ["http:", "", "www.w3.org", "2000", "svg"]

def document (d : Drawing) : String :=
  let head := opening "svg"
    [("width", toString d.width), ("height", toString d.height), ("xmlns", nameSpace)] ++ ">"
  let ground := element "rect"
    [("width", toString d.width), ("height", toString d.height), ("fill", "#FFFFFF")]
  let title := d.title.toList.map (label 40 (d.width / 2 : Nat) 40)
  "\n".intercalate <|
    [head, ground] ++ title ++ (d.panels.mapIdx panel).flatten ++ ["</svg>", ""]

end BenchReport.Svg
