import FormulaArt.Fault
import FormulaArt.Scalar

/-!
# Affine maps between intervals

The map that carries one interval onto another, with the source interval checked once. Pixel
indices, evaluation coordinates and brightness are related by such maps.

## Main definitions

* `AffineMap` — a map with its scale resolved
* `AffineMap.between` — the map from one interval onto another; the source must have a width
* `pixelCoordinate` — the place of a pixel index in the evaluation domain
-/

namespace FormulaArt

variable {α : Type} [Scalar α]

/-- The lower bound of the evaluation domain and range. -/
def evalMin : α :=
  Scalar.ofInt (-1)

/-- The upper bound of the evaluation domain and range. -/
def evalMax : α :=
  Scalar.ofInt 1

/-- The map that sends `sourceMin` to `targetMin` and grows by `scale` per unit. -/
structure AffineMap (α : Type) where
  /-- The point whose image is known. -/
  sourceMin : α
  /-- The image of that point. -/
  targetMin : α
  /-- The growth per unit. -/
  scale : α

namespace AffineMap

/-- The map that carries the bounds of the source interval to those of the target interval, in
order. Either interval may be reversed; the source interval may not be a single point. -/
def between (sourceMin sourceMax targetMin targetMax : α) : Except (Fault α) (AffineMap α) :=
  if Scalar.eq sourceMax sourceMin then
    .error (.degenerateInterval sourceMin sourceMax)
  else
    .ok { sourceMin, targetMin, scale := (targetMax - targetMin) / (sourceMax - sourceMin) }

/-- The image of a value, inside the source interval or outside. -/
@[inline] def apply (f : AffineMap α) (v : α) : α :=
  f.scale * (v - f.sourceMin) + f.targetMin

end AffineMap

/-- Carry one value from the source interval to the target interval. -/
def remap (v sourceMin sourceMax targetMin targetMax : α) : Except (Fault α) α :=
  (AffineMap.between sourceMin sourceMax targetMin targetMax).map fun f => f.apply v

/-- The place of a pixel index along an axis of `extent` pixels: index 0 lies at the lower bound of
the evaluation domain, and index `extent` would lie at the upper bound. -/
def pixelCoordinate (index extent : UInt32) : Except (Fault α) α :=
  remap (Scalar.ofInt index.toNat) (Scalar.ofInt 0) (Scalar.ofInt extent.toNat) evalMin evalMax

end FormulaArt
