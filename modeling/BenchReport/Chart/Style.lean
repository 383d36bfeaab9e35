
namespace BenchReport

inductive TreeVariant where
  | simpleBTree
  | optimizedBTree
  | loggedBTree
  | lasTree
  | other
deriving DecidableEq

namespace TreeVariant

def ofLabel (label : String) : TreeVariant :=
  if label = "SimpleBTree" then simpleBTree
  else if label = "OptimizedBTree" then optimizedBTree
  else if label = "LoggedBTree" then loggedBTree
  else if label = "LasTree" then lasTree
  else other

end TreeVariant

structure Colour where
  red : UInt8
  green : UInt8
  blue : UInt8
deriving DecidableEq

namespace Colour

def hexByte (b : UInt8) : List Char :=
  ((Nat.toDigits 16 b.toNat).leftpad 2 '0').map Char.toUpper

def hex (c : Colour) : String :=
  String.ofList ('#' :: (hexByte c.red ++ hexByte c.green ++ hexByte c.blue))

end Colour

inductive Marker where
  | circle
  | square
  | triangle
  | cross
deriving DecidableEq

structure SeriesStyle where
  colour : Colour
  marker : Marker
  hollow : Bool
deriving DecidableEq

namespace SeriesStyle

def spareColour (i : Nat) : Colour :=
  match i % 6 with
  | 0 => ⟨148, 103, 189⟩
  | 1 => ⟨140, 86, 75⟩
  | 2 => ⟨227, 119, 194⟩
  | 3 => ⟨127, 127, 127⟩
  | 4 => ⟨188, 189, 34⟩
  | _ => ⟨23, 190, 207⟩

def spareMarker (i : Nat) : Marker :=
  match i % 4 with
  | 0 => .circle
  | 1 => .square
  | 2 => .triangle
  | _ => .cross

def ofLabel (label : String) (i : Nat) : SeriesStyle :=
  match TreeVariant.ofLabel label with
  | .simpleBTree => ⟨⟨31, 119, 180⟩, .circle, false⟩
  | .optimizedBTree => ⟨⟨214, 39, 40⟩, .square, false⟩
  | .loggedBTree => ⟨⟨44, 160, 44⟩, .triangle, true⟩
  | .lasTree => ⟨⟨255, 127, 14⟩, .cross, true⟩
  | .other => ⟨spareColour i, spareMarker i, i % 2 = 1⟩

end SeriesStyle

end BenchReport
