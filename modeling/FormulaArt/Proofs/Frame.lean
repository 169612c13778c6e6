import FormulaArt.Frame

/-!
# The layout of frames

The bytes of a frame are read in two ways: `Frame.pixels` takes them three at a time, and
`Frame.pixel` looks at the position that belongs to a column and a row.  This module shows that the
second is a lookup in the first.

## Main statements

* `rgbAt?_three_mul` — three bytes from a multiple of three on are an entry of `Rgb.ofBytes`
* `Rgb.ofBytes_flatMap_toBytes` — written pixels are read back
* `Frame.ofBytes_eq_ok_iff` — what a frame made from bytes consists of
* `Frame.pixel_eq_found` — a pixel by column and row
-/

namespace FormulaArt

namespace Rgb

/-- Pixels that are written one after the other are read back. -/
@[simp] theorem ofBytes_flatMap_toBytes (pixels : List Rgb) :
    ofBytes (pixels.flatMap toBytes) = pixels := by
  induction pixels with
  | nil => rfl
  | cons p pixels ih =>
      rw [List.flatMap_cons, toBytes, List.cons_append, List.cons_append, List.singleton_append,
        ofBytes, ih]

theorem length_flatMap_toBytes (pixels : List Rgb) :
    (pixels.flatMap toBytes).length = pixels.length * 3 := by
  induction pixels with
  | nil => rfl
  | cons p pixels ih =>
      rw [List.flatMap_cons, List.length_append, ih, List.length_cons]
      show 3 + pixels.length * 3 = (pixels.length + 1) * 3
      omega

/-- Bytes that do not begin with a pixel are fewer than three. -/
theorem length_lt_three {bytes : List UInt8}
    (short : ∀ red green blue rest, bytes = red :: green :: blue :: rest → False) :
    bytes.length < 3 := by
  rcases bytes with _ | ⟨red, _ | ⟨green, _ | ⟨blue, rest⟩⟩⟩
  · exact Nat.zero_lt_succ 2
  · exact Nat.one_lt_succ_succ 1
  · exact Nat.lt_succ_self 2
  · exact (short red green blue rest rfl).elim

end Rgb

/-- The three bytes from position `3 * k` on are the `k`-th entry of the bytes taken three at a time,
and neither exists when the bytes end too early. -/
theorem rgbAt?_three_mul (bytes : Array UInt8) (k : Nat) :
    rgbAt? bytes (k * 3) = (Rgb.ofBytes bytes.toList)[k]? := by
  obtain ⟨bytes⟩ := bytes
  simp only [rgbAt?, List.getElem?_toArray]
  induction bytes using Rgb.ofBytes.induct generalizing k with
  | case1 red green blue rest ih =>
      cases k with
      | zero => rfl
      | succ k =>
          have position : (k + 1) * 3 = k * 3 + 1 + 1 + 1 := by omega
          rw [position]
          exact ih k
  | case2 bytes short =>
      -- fewer than three bytes are left, and neither side has an entry
      have few : bytes.length ≤ k * 3 + 2 := by
        have := Rgb.length_lt_three short
        omega
      rw [Rgb.ofBytes, List.getElem?_nil, List.getElem?_eq_none few]
      · cases bytes[k * 3]? with
        | none => rfl
        | some red =>
            cases bytes[k * 3 + 1]? <;> rfl
      · exact short

namespace Frame

variable {α : Type}

/-- Bytes make a frame of a size without an empty side if there are as many as the size asks for; the
frame keeps them as they are. -/
theorem ofBytes_eq_ok_iff {width height : UInt32} {data : Array UInt8} {f : Frame} :
    (ofBytes width height data : Except (Fault α) Frame) = .ok f ↔
      (width ≠ 0 ∧ height ≠ 0) ∧ data.size = bytesFor width height ∧ f = ⟨width, height, data⟩ := by
  unfold ofBytes
  by_cases empty : width = 0 ∨ height = 0
  · rw [if_pos empty]
    constructor
    · intro h
      cases h
    · rintro ⟨⟨hw, hh⟩, -⟩
      exact absurd empty (by simp [hw, hh])
  · rw [if_neg empty]
    rw [not_or] at empty
    by_cases size : data.size = bytesFor width height
    · rw [if_neg (not_not_intro size), Except.ok.injEq]
      exact ⟨fun h => ⟨empty, size, h.symm⟩, fun h => h.2.2.symm⟩
    · rw [if_pos size]
      constructor
      · intro h
        cases h
      · rintro ⟨-, h, -⟩
        exact absurd h size

/-- A pixel inside a frame is the one at its position in row order. -/
theorem pixel_eq_found {f : Frame} {x y : UInt32} (hx : x < f.width) (hy : y < f.height)
    {color : Rgb} (h : f.pixels[y.toNat * f.width.toNat + x.toNat]? = some color) :
    f.pixel x y = .found color := by
  have inside : ¬ (f.width ≤ x ∨ f.height ≤ y) := by
    rw [not_or]
    exact ⟨UInt32.not_le.mpr hx, UInt32.not_le.mpr hy⟩
  rw [pixel, if_neg inside, byteOffset, rgbAt?_three_mul]
  rw [pixels] at h
  rw [h]

end Frame

end FormulaArt
