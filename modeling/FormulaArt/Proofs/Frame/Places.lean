import FormulaArt.Proofs.Frame
import FormulaArt.Proofs.Grid
import Mathlib

/-!
# The places of the bytes of a frame

A pixel owns three neighbouring bytes, whose position follows from its column, its row and the width of the
frame.  Taking a position apart again by divisions shows that no byte has two owners, and that none is without
one as long as there are as many bytes as the size of the frame asks for.  For such a frame, looking a pixel
up by column and row and going through all pixels in order come to the same.

## Main definitions

* `Frame.places` — the positions of the bytes of a pixel
* `Frame.IsWhole` — the bytes of a frame are as many as its size asks for

## Main statements

* `Frame.mem_places_iff` — the owner of a byte
* `Frame.pairwiseDisjoint_places`, `Frame.iUnion_places` — every byte of a picture has exactly one owner
* `Frame.IsWhole.exists_pixel_eq` — a pixel inside a whole frame
* `Frame.IsWhole.flatMap_pixels` — the pixels of a whole frame, one after the other
* `Frame.ofBytes_layout` — the layout of a frame that was made from bytes
-/

namespace FormulaArt

/-! ### Bytes taken three at a time -/

/-- Bytes that come in threes are given back by the pixels made of them. -/
theorem Rgb.flatMap_toBytes_ofBytes {bytes : List UInt8} (threes : 3 ∣ bytes.length) :
    (ofBytes bytes).flatMap toBytes = bytes := by
  induction bytes using Rgb.ofBytes.induct with
  | case1 red green blue rest ih =>
      have rest' : 3 ∣ rest.length := by
        simpa [Nat.dvd_add_left (Nat.dvd_refl 3)] using threes
      rw [ofBytes, List.flatMap_cons, ih rest']
      rfl
  | case2 bytes short =>
      have none : bytes.length = 0 := Nat.eq_zero_of_dvd_of_lt threes (length_lt_three short)
      rw [List.eq_nil_of_length_eq_zero none]
      rfl

/-- The levels of a pixel are the three bytes from its position on. -/
theorem getElem?_of_rgbAt? {bytes : Array UInt8} {offset : Nat} {color : Rgb}
    (h : rgbAt? bytes offset = some color) {k : Nat} (hk : k < 3) :
    bytes[offset + k]? = color.toBytes[k]? := by
  simp only [rgbAt?, bind, Option.bind_eq_some_iff, pure, Option.some.injEq] at h
  obtain ⟨red, hred, green, hgreen, blue, hblue, rfl⟩ := h
  obtain rfl | rfl | rfl : k = 0 ∨ k = 1 ∨ k = 2 := by omega
  · exact hred
  · exact hgreen
  · exact hblue

namespace Frame

/-! ### Positions -/

/-- The positions of the bytes of the pixel in column `x` and row `y` of a picture. -/
def places (width x y : UInt32) : Set ℕ :=
  Set.Ico (byteOffset width x y) (byteOffset width x y + 3)

/-- The owner of a byte is found by division. -/
theorem mem_places_iff {width x : UInt32} (hx : x < width) (y : UInt32) (k : ℕ) :
    k ∈ places width x y ↔ k / 3 / width.toNat = y.toNat ∧ k / 3 % width.toNat = x.toNat := by
  have column : x.toNat < width.toNat := UInt32.lt_iff_toNat_lt.mp hx
  rw [Nat.div_mod_unique (Nat.zero_lt_of_lt column), places, byteOffset, Set.mem_Ico,
    Nat.mul_comm width.toNat]
  omega

/-- The pixels inside a picture. -/
def inside (width height : UInt32) : Set (UInt32 × UInt32) :=
  {p | p.1 < width ∧ p.2 < height}

/-- No byte belongs to two pixels. -/
theorem pairwiseDisjoint_places (width height : UInt32) :
    (inside width height).PairwiseDisjoint fun p => places width p.1 p.2 := by
  rw [Set.pairwiseDisjoint_iff]
  rintro ⟨x, y⟩ ⟨hx, -⟩ ⟨x', y'⟩ ⟨hx', -⟩ ⟨k, member, member'⟩
  obtain ⟨row, column⟩ := (mem_places_iff hx y k).mp member
  obtain ⟨row', column'⟩ := (mem_places_iff hx' y' k).mp member'
  exact Prod.ext (UInt32.toNat_inj.mp (column.symm.trans column'))
    (UInt32.toNat_inj.mp (row.symm.trans row'))

/-- The bytes of a picture are those of its pixels. -/
theorem iUnion_places (width height : UInt32) :
    ⋃ p ∈ inside width height, places width p.1 p.2 = Set.Iio (bytesFor width height) := by
  ext k
  simp only [Set.mem_iUnion, exists_prop, Prod.exists, Set.mem_Iio]
  constructor
  · rintro ⟨x, y, ⟨hx, hy⟩, -, below⟩
    have position : y.toNat * width.toNat + x.toNat < width.toNat * height.toNat :=
      position_lt (UInt32.lt_iff_toNat_lt.mp hx) (UInt32.lt_iff_toNat_lt.mp hy)
    change k < (y.toNat * width.toNat + x.toNat) * 3 + 3 at below
    rw [bytesFor]
    omega
  · intro below
    have number : k / 3 < width.toNat * height.toNat := Nat.div_lt_of_lt_mul (by rwa [mul_comm])
    have positive : 0 < width.toNat := Nat.pos_of_mul_pos_right (Nat.zero_lt_of_lt number)
    have column : k / 3 % width.toNat < width.toNat := Nat.mod_lt _ positive
    have row : k / 3 / width.toNat < height.toNat := Nat.div_lt_of_lt_mul number
    have hx := UInt32.toNat_ofNat_of_lt' (lt_trans column width.toNat_lt)
    have hy := UInt32.toNat_ofNat_of_lt' (lt_trans row height.toNat_lt)
    have below : UInt32.ofNat (k / 3 % width.toNat) < width := UInt32.lt_iff_toNat_lt.mpr (by rwa [hx])
    refine ⟨_, UInt32.ofNat (k / 3 / width.toNat),
      ⟨below, UInt32.lt_iff_toNat_lt.mpr (by rwa [hy])⟩, ?_⟩
    exact (mem_places_iff below _ k).mpr ⟨hy.symm, hx.symm⟩

/-! ### Whole frames -/

/-- The bytes of a frame are as many as its size asks for. -/
def IsWhole (f : Frame) : Prop :=
  f.data.size = bytesFor f.width f.height

theorem pixel_of_not_inside {f : Frame} {x y : UInt32} (h : ¬ (x < f.width ∧ y < f.height)) :
    f.pixel x y = .outside := by
  rw [not_and_or, UInt32.not_lt, UInt32.not_lt] at h
  rw [pixel, if_pos h]

namespace IsWhole

variable {f : Frame} (whole : f.IsWhole)

include whole

/-- The pixels, one after the other, are the bytes. -/
theorem flatMap_pixels : f.pixels.flatMap Rgb.toBytes = f.data.toList := by
  refine Rgb.flatMap_toBytes_ofBytes ?_
  rw [Array.length_toList, whole, bytesFor]
  exact Nat.dvd_mul_left 3 _

theorem length_pixels : f.pixels.length = f.width.toNat * f.height.toNat := by
  have bytes : f.pixels.length * 3 = f.data.size := by
    rw [← Rgb.length_flatMap_toBytes, flatMap_pixels whole, Array.length_toList]
  rw [whole, bytesFor] at bytes
  exact Nat.eq_of_mul_eq_mul_right three_pos bytes

/-- A pixel inside the frame is found by column and row and by its number, and made of its bytes. -/
theorem exists_pixel_eq {x y : UInt32} (hx : x < f.width) (hy : y < f.height) :
    ∃ color, f.pixel x y = .found color ∧
      f.pixels[y.toNat * f.width.toNat + x.toNat]? = some color ∧
      ∀ k < 3, f.data[byteOffset f.width x y + k]? = color.toBytes[k]? := by
  have position : y.toNat * f.width.toNat + x.toNat < f.pixels.length := by
    rw [length_pixels whole]
    exact position_lt (UInt32.lt_iff_toNat_lt.mp hx) (UInt32.lt_iff_toNat_lt.mp hy)
  have number := List.getElem?_eq_getElem position
  refine ⟨_, pixel_eq_found hx hy number, number, ?_⟩
  intro k hk
  refine getElem?_of_rgbAt? ?_ hk
  rw [byteOffset, rgbAt?_three_mul]
  exact number

/-- There is no pixel whose bytes are missing, and pixels are found inside the frame only. -/
theorem exists_pixel_eq_iff (x y : UInt32) :
    f.pixel x y ≠ .missing ∧
      ((∃ color, f.pixel x y = .found color) ↔ x < f.width ∧ y < f.height) := by
  by_cases h : x < f.width ∧ y < f.height
  · obtain ⟨color, found, -, -⟩ := exists_pixel_eq whole h.1 h.2
    simp [found, h]
  · simp [pixel_of_not_inside h, h]

/-- The bytes are enough for an image buffer. -/
theorem toImage_eq {α : Type} :
    (f.toImage : Except (Fault α) Image) = .ok ⟨f.width, f.height, f.data⟩ := by
  rw [toImage, if_neg (Nat.not_lt.mpr whole.ge)]

end IsWhole

/-- **The layout of a frame.**  Bytes make a frame of a size without an empty side if and only if there are
three for each of its pixels, and the frame keeps them.  Looking up a pixel by column and row stays inside
the bytes, finds something exactly inside the frame, and there finds the item of the list of pixels at
position `y * width + x`, whose levels are the bytes at the places of the pixel.  The list has an item for
every pixel and gives the bytes back.  Different pixels have no place in common, and their places are all
there are.  The frame becomes an image buffer of the same size with the same bytes. -/
theorem ofBytes_layout {α : Type} {width height : UInt32} (hw : width ≠ 0) (hh : height ≠ 0)
    (data : Array UInt8) :
    ((∃ f, (ofBytes width height data : Except (Fault α) Frame) = .ok f) ↔
      data.size = width.toNat * height.toNat * 3) ∧
    ∀ f, (ofBytes width height data : Except (Fault α) Frame) = .ok f →
      (f.width = width ∧ f.height = height ∧ f.data = data) ∧
      (∀ x y, f.pixel x y ≠ .missing ∧
        ((∃ color, f.pixel x y = .found color) ↔ x < width ∧ y < height)) ∧
      (∀ x y, x < width → y < height → ∃ color, f.pixel x y = .found color ∧
        f.pixels[y.toNat * width.toNat + x.toNat]? = some color ∧
        ∀ k < 3, data[byteOffset width x y + k]? = color.toBytes[k]?) ∧
      (f.pixels.length = width.toNat * height.toNat ∧
        f.pixels.flatMap Rgb.toBytes = data.toList) ∧
      ((inside width height).PairwiseDisjoint (fun p => places width p.1 p.2) ∧
        ⋃ p ∈ inside width height, places width p.1 p.2 = Set.Iio data.size) ∧
      (f.toImage : Except (Fault α) Image) = .ok ⟨width, height, data⟩ := by
  constructor
  · constructor
    · rintro ⟨f, made⟩
      exact (ofBytes_eq_ok_iff.mp made).2.1
    · intro size
      exact ⟨_, ofBytes_eq_ok_iff.mpr ⟨⟨hw, hh⟩, size, rfl⟩⟩
  · intro f made
    obtain ⟨-, whole, rfl⟩ := ofBytes_eq_ok_iff.mp made
    have whole : IsWhole ⟨width, height, data⟩ := whole
    refine ⟨⟨rfl, rfl, rfl⟩, whole.exists_pixel_eq_iff, fun x y => whole.exists_pixel_eq,
      ⟨whole.length_pixels, whole.flatMap_pixels⟩,
      ⟨pairwiseDisjoint_places width height, ?_⟩, whole.toImage_eq⟩
    rw [iUnion_places, whole]

/-- A frame of two columns and three rows, where the pixel in the last row and the first column owns the bytes
from position 12 on. -/
theorem ofBytes_layout_two_by_three :
    ((2 : UInt32) ≠ 0 ∧ (3 : UInt32) ≠ 0) ∧
    ∃ f : Frame, (ofBytes 2 3 ((List.range 18).map UInt8.ofNat).toArray : Except (Fault Float) Frame)
        = .ok f ∧
      f.pixels.length = 6 ∧
      ∃ color, f.pixel 0 2 = .found color ∧ f.pixels[4]? = some color ∧ color.toBytes[0]? = some 12 := by
  refine ⟨⟨by decide, by decide⟩, ?_⟩
  have layout := @ofBytes_layout Float 2 3 (by decide) (by decide)
    ((List.range 18).map UInt8.ofNat).toArray
  obtain ⟨f, made⟩ := layout.1.mpr (by decide)
  obtain ⟨-, -, pixels, ⟨length, -⟩, -, -⟩ := layout.2 f made
  obtain ⟨color, found, number, bytes⟩ := pixels 0 2 (by decide) (by decide)
  exact ⟨f, made, length, color, found, number, (bytes 0 (by decide)).symm⟩

end Frame

end FormulaArt
