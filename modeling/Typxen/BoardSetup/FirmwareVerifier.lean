import Typxen.Foundation.Python
import Typxen.Foundation.Tiling
import Mathlib.Data.UInt

/-! # The firmware verifier

`verify_release` of `verify_typx_firmware.py`, with `inspect_images` false. The
fields of a manifest are those of the JSON object, `none` where the key is
missing or the value is of a type that the verifier does not take. -/

namespace Typxen.BoardSetup

open Python Tiling

structure Library where
  /-- `hashlib.sha256(data).hexdigest()` -/
  hexdigest : List UInt8 → String
  /-- `text.lower()` -/
  lower : String → String
  /-- `int(text, 0)` -/
  intLiteral : String → Option Int
  /-- `bytes.fromhex(text)` -/
  fromhex : String → Option (List UInt8)

/-- An entry of `embeddedImages`; `name`, `magicHex` and `sha256` are the `str`
of the values, `sizeBytes` is the `int`. -/
structure EmbeddedImage where
  name : Option String
  offset : Option String
  sizeBytes : Option Int
  magicHex : Option String
  sha256 : Option String
  deriving DecidableEq, Repr

structure BinarySection where
  file : Option String
  sizeBytes : Option Int
  sizeText : String
  sha256 : Option String
  deriving DecidableEq, Repr

structure Manifest where
  binary : Option BinarySection
  embeddedImages : Option (List EmbeddedImage)
  flashAddress : Option String
  target : Option String
  flashMode : Option String
  flashFrequency : Option String
  flashSize : Option String
  deriving DecidableEq, Repr

inductive ManifestFile
  | missing
  | invalid (error : String)
  | other
  | object (manifest : Manifest)
  deriving DecidableEq, Repr

structure Files where
  manifestPath : String
  manifest : ManifestFile
  /-- The path of a file beside the manifest. -/
  beside : String → String
  readBytes : String → Option (List UInt8)

/-- A `VerificationError`, or another exception. -/
inductive Failure
  | verificationError (message : String)
  | exception
  deriving DecidableEq, Repr

structure Release where
  binary : String
  size : Nat
  sha256 : String
  images : List EmbeddedImage
  deriving DecidableEq, Repr

def require (condition : Bool) (message : String) : Except Failure Unit :=
  if condition then .ok () else .error (.verificationError message)

/-- A lookup or a conversion that may raise. -/
def attempt {α : Type} (value : Option α) : Except Failure α :=
  value.elim (.error .exception) .ok

def Library.offset (library : Library) (image : EmbeddedImage) : Option Int :=
  image.offset.bind library.intLiteral

def Library.ordered (library : Library) (left right : EmbeddedImage) : Bool :=
  (library.offset left).getD 0 ≤ (library.offset right).getD 0

/-- `sorted` is stable, and it raises where a key does. -/
def sortedByOffset (library : Library) (images : List EmbeddedImage) :
    Except Failure (List EmbeddedImage) :=
  if images.all fun image => (library.offset image).isSome then
    .ok (images.mergeSort library.ordered)
  else
    .error .exception

/-- The loop over the images, which returns its cursor. -/
def checkImages (library : Library) (data : List UInt8) :
    (images : List EmbeddedImage) → (cursor : Int) → Except Failure Int
  | [], cursor => .ok cursor
  | image :: images, cursor => do
      let name := image.name.getD "embedded image"
      let place := image.offset.getD ""
      let offset ← attempt (library.offset image)
      let size ← attempt image.sizeBytes
      require (offset ≥ cursor) s!"Embedded ranges overlap before {name}"
      require ((slice data cursor offset).all (· == 0xff))
        s!"Non-0xFF padding before {name} at {place}"
      let stop := offset + size
      require (stop ≤ data.length)
        s!"Embedded {name} exceeds merged file size"
      let embedded := slice data offset stop
      let magic ← attempt (image.magicHex.bind library.fromhex)
      require (magic.isPrefixOf embedded)
        s!"Embedded {name} magic mismatch at {place}"
      let digest ← attempt image.sha256
      require (library.hexdigest embedded == library.lower digest)
        s!"Embedded {name} SHA-256 mismatch"
      checkImages library data images stop

def verifyManifest (library : Library) (files : Files) (manifest : Manifest) :
    Except Failure Release := do
  let binaryInfo ← manifest.binary.elim
    (.error (.verificationError "Manifest binary section is missing")) .ok
  let images := manifest.embeddedImages.getD []
  require (!images.isEmpty) "Manifest embeddedImages is missing"
  require (manifest.flashAddress == some "0x0")
    "Merged flash address must be 0x0"
  require (manifest.target == some "esp32")
    "Firmware target must be original ESP32"
  require (manifest.flashMode == some "dio") "Flash mode must be DIO"
  require (manifest.flashFrequency == some "40m")
    "Flash frequency must be 40 MHz"
  require (manifest.flashSize == some "4MB") "Flash size must be 4 MB"
  let binary := files.beside (binaryInfo.file.getD "")
  let data ← (files.readBytes binary).elim
    (.error (.verificationError s!"Merged firmware is missing: {binary}")) .ok
  let size := data.length
  let sizeText := binaryInfo.sizeText
  require (binaryInfo.sizeBytes == some (size : Int))
    s!"Merged size mismatch: {size} != {sizeText}"
  let actualHash := library.hexdigest data
  require (actualHash == library.lower (binaryInfo.sha256.getD ""))
    s!"Merged SHA-256 mismatch: {actualHash}"
  let ordered ← sortedByOffset library images
  let cursor ← checkImages library data ordered 0
  require (cursor == (size : Int))
    "Unexpected data follows the final embedded image"
  return { binary, size, sha256 := actualHash, images := ordered }

def verifyRelease (library : Library) (files : Files) :
    Except Failure Release :=
  let path := files.manifestPath
  match files.manifest with
  | .missing =>
      .error (.verificationError s!"Release manifest is missing: {path}")
  | .invalid error =>
      .error (.verificationError s!"Release manifest is invalid: {error}")
  | .other => .error .exception
  | .object manifest => verifyManifest library files manifest

end Typxen.BoardSetup
