import Chip8.Picture.Format

/-! Images as bytes of a file. Nothing is compressed: each format has a way to store its data
plainly. -/
namespace Chip8

namespace Image

def rowBytes (i : Image) (r : Nat) : List UInt8 := (i.rowColors r).flatten

end Image

namespace Encoding

/-- `width` bytes of a number, the lowest first. -/
def littleEndian (width n : Nat) : List UInt8 :=
  (List.range width).map fun k => UInt8.ofNat (n >>> (8 * k))

def bigEndian (width n : Nat) : List UInt8 := (littleEndian width n).reverse

def ascii (s : String) : List UInt8 := s.toUTF8.toList

/-! PPM: the rows behind a short text. -/

def ppm (i : Image) : List UInt8 :=
  ascii s!"P6\n{i.width} {i.height}\n255\n" ++ (List.range i.height).flatMap i.rowBytes

/-! BMP: rows from the bottom up, blue first, each a multiple of four bytes long. -/

def bmpRow (i : Image) (r : Nat) : List UInt8 :=
  let bytes := (i.rowColors r).flatMap List.reverse
  bytes ++ List.replicate ((4 - bytes.length % 4) % 4) 0

/-- DIB: a BMP without the lead that tells its size. -/
def dib (i : Image) : List UInt8 :=
  let pixels := (List.range i.height).reverse.flatMap (bmpRow i)
  littleEndian 4 40 ++ littleEndian 4 i.width ++ littleEndian 4 i.height ++ littleEndian 2 1 ++
    littleEndian 2 24 ++ littleEndian 4 0 ++ littleEndian 4 pixels.length ++
    littleEndian 4 3780 ++ littleEndian 4 3780 ++ littleEndian 4 0 ++ littleEndian 4 0 ++ pixels

def bmp (i : Image) : List UInt8 :=
  let body := dib i
  ascii "BM" ++ littleEndian 4 (14 + body.length) ++ littleEndian 4 0 ++ littleEndian 4 54 ++ body

/-! TGA: rows from the top down, blue first. -/

def tga (i : Image) : List UInt8 :=
  [0, 0, 2] ++ List.replicate 9 0 ++ littleEndian 2 i.width ++ littleEndian 2 i.height ++
    [24, 0x20] ++ (List.range i.height).flatMap fun r => (i.rowColors r).flatMap List.reverse

/-! TIFF: a directory of fields in front of the rows. -/

/-- A field with one value, or with the place where its values stand. -/
def tiffField (tag kind count value : Nat) : List UInt8 :=
  littleEndian 2 tag ++ littleEndian 2 kind ++ littleEndian 4 count ++ littleEndian 4 value

def tiff (i : Image) : List UInt8 :=
  let fields :=
    [ tiffField 256 4 1 i.width, tiffField 257 4 1 i.height, tiffField 258 3 3 122,
      tiffField 259 3 1 1, tiffField 262 3 1 2, tiffField 273 4 1 128, tiffField 277 3 1 3,
      tiffField 278 4 1 i.height, tiffField 279 4 1 (i.height * i.width * 3) ]
  ascii "II" ++ littleEndian 2 42 ++ littleEndian 4 8 ++ littleEndian 2 9 ++ fields.flatten ++
    littleEndian 4 0 ++ (List.replicate 3 (littleEndian 2 8)).flatten ++
    (List.range i.height).flatMap i.rowBytes

/-! PNG: chunks with a checksum; the rows are one stream of stored blocks. -/

def crcBit (c : UInt32) : UInt32 := if c &&& 1 = 1 then (c >>> 1) ^^^ 0xEDB88320 else c >>> 1

def crcByte (c : UInt32) (b : UInt8) : UInt32 :=
  (List.range 8).foldl (fun c _ => crcBit c) (c ^^^ b.toUInt32)

def crc (bytes : List UInt8) : UInt32 := bytes.foldl crcByte 0xFFFFFFFF ^^^ 0xFFFFFFFF

def adler (bytes : List UInt8) : Nat :=
  let (a, b) := bytes.foldl (fun (a, b) x =>
    let a := (a + x.toNat) % 65521
    (a, (b + a) % 65521)) (1, 0)
  b * 65536 + a

/-- The longest part of a stream that one block can hold. -/
def blockSize : Nat := 65535

/-- Blocks of stored bytes; `count` more may follow. -/
def storedBlocks : Nat → List UInt8 → List UInt8
  | 0, bytes => block 1 bytes
  | count + 1, bytes =>
    if bytes.length ≤ blockSize then block 1 bytes
    else block 0 (bytes.take blockSize) ++ storedBlocks count (bytes.drop blockSize)
where
  block (final : UInt8) (bytes : List UInt8) : List UInt8 :=
    final :: littleEndian 2 bytes.length ++ littleEndian 2 (blockSize - bytes.length) ++ bytes

def zlib (bytes : List UInt8) : List UInt8 :=
  [0x78, 0x01] ++ storedBlocks (bytes.length / blockSize) bytes ++ bigEndian 4 (adler bytes)

def chunk (kind : String) (body : List UInt8) : List UInt8 :=
  bigEndian 4 body.length ++ ascii kind ++ body ++ bigEndian 4 (crc (ascii kind ++ body)).toNat

def png (i : Image) : List UInt8 :=
  let rows := (List.range i.height).flatMap fun r => 0 :: i.rowBytes r
  [0x89] ++ ascii "PNG\r\n\x1a\n" ++
    chunk "IHDR" (bigEndian 4 i.width ++ bigEndian 4 i.height ++ [8, 2, 0, 0, 0]) ++
    chunk "IDAT" (zlib rows) ++ chunk "IEND" []

/-! GIF: a table of up to 128 colors and one code of eight bits per pixel. The codes are reset
before the code book would make them longer. -/

/-- The colors of an image, each one once. -/
def palette (i : Image) : List Color :=
  ((List.range i.height).foldl (fun p r => ((i.rowColors r).eraseDups ++ p).eraseDups) []).take 128

/-- A reset code in front of every 120 pixels. -/
def resets : Nat → List UInt8 → List UInt8
  | _, [] => [129]
  | 0, b :: bs => 128 :: b :: resets 119 bs
  | n + 1, b :: bs => b :: resets n bs

/-- Parts of at most 255 bytes, each behind its length; an empty one is the last. -/
def subBlocks : Nat → List UInt8 → List UInt8
  | 0, _ => [0]
  | _ + 1, [] => [0]
  | n + 1, bytes =>
    let part := bytes.take 255
    UInt8.ofNat part.length :: part ++ subBlocks n (bytes.drop 255)

def gif (i : Image) : List UInt8 :=
  let colors := palette i
  let table := (colors ++ List.replicate (128 - colors.length) [0, 0, 0]).flatten
  let codes := (List.range i.height).flatMap fun r =>
    (i.rowColors r).map fun c => UInt8.ofNat (colors.idxOf c)
  let stream := resets 0 codes
  let size := littleEndian 2 i.width ++ littleEndian 2 i.height
  ascii "GIF89a" ++ size ++ [0xF6, 0, 0] ++ table ++ [0x2C] ++ littleEndian 4 0 ++ size ++
    [0, 7] ++ subBlocks stream.length stream ++ [0x3B]

end Encoding

/-- The bytes of an image file, for the formats that store their data plainly. -/
def Format.encode? : Format → Option (Image → List UInt8)
  | png => some Encoding.png
  | bmp => some Encoding.bmp
  | dib => some Encoding.dib
  | ppm => some Encoding.ppm
  | gif => some Encoding.gif
  | tga => some Encoding.tga
  | tiff => some Encoding.tiff
  | _ => none

end Chip8
