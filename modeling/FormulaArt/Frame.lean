import FormulaArt.Fault

/-!
# Frames

A finished picture: its size and three bytes per pixel, row by row. A frame made from bytes with
`Frame.ofBytes` has as many bytes as its size asks for; the fields are open, and a frame put together
by hand may have more or fewer.

## Main definitions

* `Rgb` — the three levels of a pixel
* `Frame`, `Frame.ofBytes` — frames, and the check on the number of bytes
* `Frame.pixel` — a pixel by column and row
* `Frame.pixels` — all pixels in row order
* `Frame.toImage` — the frame as an image buffer, which may not have too few bytes
-/

namespace FormulaArt

/-- The levels of a pixel. -/
structure Rgb where
  red : UInt8
  green : UInt8
  blue : UInt8
deriving Repr, DecidableEq

namespace Rgb

/-- Bytes taken three at a time; one or two bytes at the end are left out. -/
def ofBytes : List UInt8 → List Rgb
  | red :: green :: blue :: rest => ⟨red, green, blue⟩ :: ofBytes rest
  | _ => []

/-- The three bytes of a pixel. -/
def toBytes (p : Rgb) : List UInt8 :=
  [p.red, p.green, p.blue]

end Rgb

/-- A picture. -/
structure Frame where
  width : UInt32
  height : UInt32
  /-- Three bytes per pixel, row by row. -/
  data : Array UInt8
deriving Repr, DecidableEq

/-- What is found at a place of a frame. -/
inductive PixelAt where
  /-- The place is outside the frame. -/
  | outside
  /-- The place is inside the frame, but the bytes end before it. -/
  | missing
  | found (color : Rgb)
deriving Repr, DecidableEq

/-- An image buffer, ready to be encoded. -/
structure Image where
  width : UInt32
  height : UInt32
  /-- Three bytes per pixel, row by row, and perhaps more behind them. -/
  bytes : Array UInt8
deriving Repr, DecidableEq

/-- The number of bytes of a picture of a size. -/
def bytesFor (width height : UInt32) : Nat :=
  width.toNat * height.toNat * 3

/-- The position of the first byte of the pixel in column `x` and row `y` of a picture. -/
def byteOffset (width : UInt32) (x y : UInt32) : Nat :=
  (y.toNat * width.toNat + x.toNat) * 3

/-- The three bytes from a position on. -/
def rgbAt? (bytes : Array UInt8) (offset : Nat) : Option Rgb := do
  let red ← bytes[offset]?
  let green ← bytes[offset + 1]?
  let blue ← bytes[offset + 2]?
  return { red, green, blue }

namespace Frame

/-- The frame of a size with the given bytes. Neither side may be empty, and the number of bytes has
to be that of the size. -/
def ofBytes {α : Type} (width height : UInt32) (data : Array UInt8) : Except (Fault α) Frame :=
  if width = 0 ∨ height = 0 then
    .error (.dimensions width height)
  else if data.size ≠ bytesFor width height then
    .error (.validation (.frameBytes data.size (bytesFor width height) width height))
  else
    .ok { width, height, data }

/-- The pixel in column `x` and row `y`. -/
def pixel (f : Frame) (x y : UInt32) : PixelAt :=
  if f.width ≤ x ∨ f.height ≤ y then .outside
  else
    match rgbAt? f.data (byteOffset f.width x y) with
    | none => .missing
    | some color => .found color

/-- All pixels, row by row. -/
def pixels (f : Frame) : List Rgb :=
  Rgb.ofBytes f.data.toList

/-- The frame as an image buffer. All bytes are kept; there have to be enough for the size. -/
def toImage {α : Type} (f : Frame) : Except (Fault α) Image :=
  if f.data.size < bytesFor f.width f.height then
    .error (.validation (.imageBytes f.width f.height))
  else
    .ok { width := f.width, height := f.height, bytes := f.data }

end Frame

namespace Image

/-- The pixel in the last column of the last row, if there is a pixel. -/
def lastPixel? (image : Image) : Option Rgb :=
  if image.width = 0 ∨ image.height = 0 then none
  else rgbAt? image.bytes (byteOffset image.width (image.width - 1) (image.height - 1))

end Image

end FormulaArt
