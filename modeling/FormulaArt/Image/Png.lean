import FormulaArt.Frame

/-!
# PNG files

An image as a PNG file of 8-bit RGB pixels. The scan lines are not filtered and their bytes are
stored without compression, so the pixels stand in the file as they are.

## Main definitions

* `Png.crc` — the checksum of a chunk
* `Png.adler` — the checksum of the stored bytes
* `Png.encode` — the file
-/

namespace FormulaArt

namespace Png

/-- One step of the cyclic checksum: a shift, and the polynomial if a one was shifted out. -/
def crcShift (c : UInt32) : UInt32 :=
  if c &&& 1 = 1 then (0xEDB88320 : UInt32) ^^^ (c >>> 1) else c >>> 1

/-- Eight steps of the cyclic checksum for each value of a byte. -/
def crcTable : Array UInt32 :=
  (Array.range 256).map fun n => Nat.repeat crcShift 8 (UInt32.ofNat n)

/-- The cyclic checksum of some bytes. -/
def crc (bytes : ByteArray) : UInt32 :=
  let register := bytes.foldl
    (fun c b => crcTable.getD ((c ^^^ b.toUInt32) &&& 0xFF).toNat 0 ^^^ (c >>> 8)) 0xFFFFFFFF
  register ^^^ 0xFFFFFFFF

/-- The checksum of two running sums modulo the greatest prime below `2 ^ 16`. -/
def adler (bytes : ByteArray) : UInt32 :=
  let (a, b) := bytes.foldl
    (fun (a, b) x =>
      let a := (a + x.toUInt32) % 65521
      (a, (b + a) % 65521))
    ((1 : UInt32), (0 : UInt32))
  (b <<< 16) ||| a

/-- Four bytes, the most significant first. -/
def bigEndian (n : UInt32) : ByteArray :=
  ⟨#[(n >>> 24).toUInt8, (n >>> 16).toUInt8, (n >>> 8).toUInt8, n.toUInt8]⟩

/-- Two bytes, the least significant first. -/
def littleEndian (n : UInt16) : ByteArray :=
  ⟨#[n.toUInt8, (n >>> 8).toUInt8]⟩

/-- A chunk: the length of its content, its name, the content, and the checksum of the last two. -/
def chunk (name : String) (content : ByteArray) : ByteArray :=
  let body := name.toUTF8 ++ content
  bigEndian content.size.toUInt32 ++ body ++ bigEndian (crc body)

/-- The greatest number of bytes in a stored block. -/
def blockSize : Nat :=
  65535

/-- Bytes as a stream of stored blocks with its header and checksum. -/
def stored (bytes : ByteArray) : ByteArray :=
  let blocks := max 1 ((bytes.size + blockSize - 1) / blockSize)
  let body := (List.range blocks).foldl
    (fun out k =>
      let content := bytes.extract (k * blockSize) ((k + 1) * blockSize)
      let size := content.size.toUInt16
      let last : UInt8 := if k + 1 = blocks then 1 else 0
      out.push last ++ littleEndian size ++ littleEndian (size ^^^ 0xFFFF) ++ content)
    (ByteArray.mk #[0x78, 0x01])
  body ++ bigEndian (adler bytes)

/-- The rows of an image, each behind a byte that says that it is not filtered. -/
def scanLines (image : Image) : ByteArray :=
  let bytes := ByteArray.mk image.bytes
  let stride := image.width.toNat * 3
  (List.range image.height.toNat).foldl
    (fun out j => out.push 0 ++ bytes.extract (j * stride) ((j + 1) * stride)) ByteArray.empty

/-- The header: the size, 8 bits per level, three levels per pixel, nothing special. -/
def header (image : Image) : ByteArray :=
  bigEndian image.width ++ bigEndian image.height ++ ⟨#[8, 2, 0, 0, 0]⟩

/-- The image as a file. -/
def encode (image : Image) : ByteArray :=
  ⟨#[0x89, 0x50, 0x4E, 0x47, 0x0D, 0x0A, 0x1A, 0x0A]⟩
    ++ chunk "IHDR" (header image)
    ++ chunk "IDAT" (stored (scanLines image))
    ++ chunk "IEND" ByteArray.empty

end Png

end FormulaArt
