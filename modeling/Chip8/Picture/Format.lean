import Chip8.Picture.Scheme

/-! Image files: the format is told by the extension of the file name. Many formats are known,
but only some of them can be written, and only some can hold a picture in colors. -/
namespace Chip8

inductive Format
  | png | bmp | dib | ppm | gif | tiff | tga | sgi | pcx | im | dds | jpeg2000
  | jpeg | webp | avif | ico | icns | qoi | eps | pdf
deriving DecidableEq, Repr

namespace Format

def name : Format → String
  | png => "PNG"
  | bmp => "BMP"
  | dib => "DIB"
  | ppm => "PPM"
  | gif => "GIF"
  | tiff => "TIFF"
  | tga => "TGA"
  | sgi => "SGI"
  | pcx => "PCX"
  | im => "IM"
  | dds => "DDS"
  | jpeg2000 => "JPEG2000"
  | jpeg => "JPEG"
  | webp => "WEBP"
  | avif => "AVIF"
  | ico => "ICO"
  | icns => "ICNS"
  | qoi => "QOI"
  | eps => "EPS"
  | pdf => "PDF"

/-- What can be done with the files of an extension. -/
inductive Support
  | writes (f : Format)
  /-- Files are only read. -/
  | readOnly
  /-- Files cannot hold the colors of a picture, which shows when one is written. -/
  | noColors
  /-- Files hold only colors from a palette. -/
  | paletteOnly
deriving DecidableEq, Repr

/-- The extensions that stand for a format. -/
def extensionsOf : Format → List String
  | png => [".png", ".apng"]
  | bmp => [".bmp"]
  | dib => [".dib"]
  | ppm => [".ppm", ".pgm", ".pbm", ".pnm", ".pfm"]
  | gif => [".gif"]
  | tiff => [".tif", ".tiff"]
  | tga => [".tga", ".icb", ".vda", ".vst"]
  | sgi => [".sgi", ".bw", ".rgb", ".rgba"]
  | pcx => [".pcx"]
  | im => [".im"]
  | dds => [".dds"]
  | jpeg2000 => [".jp2", ".j2k", ".jpc", ".jpf", ".jpx", ".j2c"]
  | jpeg => [".jpg", ".jpe", ".jpeg", ".jfif", ".mpo"]
  | webp => [".webp"]
  | avif => [".avif", ".avifs"]
  | ico => [".ico"]
  | icns => [".icns"]
  | qoi => [".qoi"]
  | eps => [".eps", ".ps"]
  | pdf => [".pdf"]

def all : List Format :=
  [png, bmp, dib, ppm, gif, tiff, tga, sgi, pcx, im, dds, jpeg2000, jpeg, webp, avif, ico, icns,
    qoi, eps, pdf]

def readOnlyExtensions : List String :=
  [".cur", ".dcx", ".fit", ".fits", ".flc", ".fli", ".ftc", ".ftu", ".gbr", ".iim", ".mpeg",
    ".mpg", ".pcd", ".psd", ".pxr", ".ras", ".xpm"]

def colorlessExtensions : List String :=
  [".bufr", ".emf", ".grib", ".h5", ".hdf", ".msp", ".palm", ".wmf", ".xbm"]

def paletteExtensions : List String := [".blp"]

/-- The part after the last slash. -/
def lastName (path : String) : List Char := (path.toList.reverse.takeWhile (· != '/')).reverse

/-- From the last dot of the last name on; dots in front of a name do not count. -/
def extension (path : String) : String :=
  let name := (lastName path).dropWhile (· == '.')
  let tail := (name.reverse.takeWhile (· != '.')).reverse
  if tail.length < name.length then String.ofList ('.' :: tail) else ""

/-- What can be done with an extension in lower case, if it is known. -/
def support? (ext : String) : Option Support :=
  match all.find? fun f => (extensionsOf f).contains ext with
  | some f => some (.writes f)
  | none =>
    if ext ∈ readOnlyExtensions then some .readOnly
    else if ext ∈ colorlessExtensions then some .noColors
    else if ext ∈ paletteExtensions then some .paletteOnly
    else none

/-- What can be done with a path, unless its file would not even be opened. -/
def ofPath (path : String) : Except PictureError Support :=
  match support? (extension path).toLower with
  | some .readOnly => .error .readOnlyFormat
  | some s => .ok s
  | none => .error .unknownFormat

/-- The format in which an opened file is written. -/
def Support.writable : Support → Except PictureError Format
  | .writes f => .ok f
  | .readOnly => .error .readOnlyFormat
  | .noColors => .error .colorlessFormat
  | .paletteOnly => .error .paletteFormat

end Format

/-- The libraries that hold pictures as arrays and write them to files, which have limits of their
own. -/
structure Painter where
  hold : Image → Except PictureError Unit
  encode : Format → Image → Except PictureError Unit

/-- No picture is too large. -/
def Painter.unlimited : Painter := ⟨fun _ => .ok (), fun _ _ => .ok ()⟩

end Chip8
