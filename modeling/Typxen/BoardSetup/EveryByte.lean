import Mathlib.Data.Bool.AllAny
import Typxen.BoardSetup.FirmwareVerifier
import Typxen.Foundation.Fips180

/-! # Every byte of a release

The verifier's cursor accounts for every byte of the merged file as long as no
image has a negative size: such an image moves the cursor back, even before the
file, where a slice means something else. -/

namespace Typxen.BoardSetup

open Python Tiling

/-! ## Placements -/

structure Placement extends Region where
  magic : List UInt8
  digest : String

def Library.placement (library : Library) (image : EmbeddedImage) :
    Option Placement := do
  let offset ← library.offset image
  let size ← image.sizeBytes
  let magic ← image.magicHex.bind library.fromhex
  let digest ← image.sha256
  return { offset, size, magic, digest := library.lower digest }

def Placement.content (placement : Placement) (data : List UInt8) :
    List UInt8 :=
  slice data placement.offset placement.stop

structure Placement.Embedded (library : Library) (data : List UInt8)
    (placement : Placement) : Prop where
  magic : placement.magic <+: placement.content data
  digest : library.hexdigest (placement.content data) = placement.digest

def padding (data : List UInt8) (address : Int) : Prop :=
  ∀ value, data[address.toNat]? = some value → value = 0xff

/-- The file is the images, which do not overlap, and padding. -/
structure EveryByte (library : Library) (data : List UInt8)
    (placements : List Placement) : Prop where
  lengths : ∀ placement ∈ placements, 0 ≤ placement.size
  partition : Partition (padding data) 0 (placements.map Placement.toRegion)
    data.length
  embedded : ∀ placement ∈ placements, placement.Embedded library data

/-! ## The loop -/

section Checks

variable {α β : Type} {failure : Failure} {result : β}

theorem require_iff {condition : Bool} {message : String} :
    require condition message = .ok () ↔ condition = true := by
  cases condition
  · exact ⟨nofun, nofun⟩
  · exact ⟨fun _ => rfl, fun _ => rfl⟩

theorem require_bind_iff {condition : Bool} {message : String}
    {rest : Unit → Except Failure β} :
    (require condition message >>= rest) = .ok result ↔
      condition = true ∧ rest () = .ok result := by
  cases condition
  · constructor
    · nofun
    · exact fun both => absurd both.1 Bool.false_ne_true
  · exact ⟨fun passed => ⟨rfl, passed⟩, fun both => both.2⟩

theorem elim_bind_iff {value : Option α} {rest : α → Except Failure β} :
    (value.elim (.error failure) .ok >>= rest) = .ok result ↔
      ∃ given, value = some given ∧ rest given = .ok result := by
  cases value with
  | none =>
      constructor
      · nofun
      · nofun
  | some given =>
      constructor
      · exact fun passed => ⟨given, rfl, passed⟩
      · intro passed
        rcases passed with ⟨_, same, passed⟩
        cases same
        exact passed

theorem bind_iff {value : Except Failure α} {rest : α → Except Failure β} :
    (value >>= rest) = .ok result ↔
      ∃ given, value = .ok given ∧ rest given = .ok result := by
  cases value with
  | error failure =>
      constructor
      · nofun
      · nofun
  | ok given =>
      constructor
      · exact fun passed => ⟨given, rfl, passed⟩
      · intro passed
        rcases passed with ⟨_, same, passed⟩
        cases same
        exact passed

theorem attempt_bind_iff {value : Option α} {rest : α → Except Failure β} :
    (attempt value >>= rest) = .ok result ↔
      ∃ given, value = some given ∧ rest given = .ok result :=
  elim_bind_iff

end Checks

structure Checked (library : Library) (data : List UInt8) (cursor : Int)
    (placement : Placement) : Prop where
  follows : cursor ≤ placement.offset
  gap : ∀ value ∈ slice data cursor placement.offset, value = 0xff
  fits : placement.stop ≤ data.length
  embedded : placement.Embedded library data

/-- The checks of all turns: each image is compared with the end of the one
before it. -/
structure Walked (library : Library) (data : List UInt8) (cursor : Int)
    (placements : List Placement) (final : Int) : Prop where
  checked : ∀ turn ∈ (cursor :: placements.map (·.stop)).zip placements,
    Checked library data turn.1 turn.2
  ends : (placements.map (·.stop)).getLastD cursor = final

section Loop

variable {library : Library} {data : List UInt8} {cursor final : Int}

theorem walked_cons_iff {placement : Placement} {placements : List Placement} :
    Walked library data cursor (placement :: placements) final ↔
      Checked library data cursor placement ∧
        Walked library data placement.stop placements final := by
  constructor
  · intro walked
    have ends := walked.ends
    rw [List.map_cons, List.getLastD_cons] at ends
    refine ⟨walked.checked (cursor, placement) (by simp), ?_, ends⟩
    intro turn member
    exact walked.checked turn (by simp [member])
  · intro both
    rcases both with ⟨first, rest⟩
    constructor
    · intro turn member
      rw [List.map_cons, List.zip_cons_cons, List.mem_cons] at member
      rcases member with rfl | later
      · exact first
      · exact rest.checked turn later
    · rw [List.map_cons, List.getLastD_cons]
      exact rest.ends

theorem placement_eq_some_iff {image : EmbeddedImage} {placement : Placement} :
    library.placement image = some placement ↔
      library.offset image = some placement.offset ∧
        image.sizeBytes = some placement.size ∧
        image.magicHex.bind library.fromhex = some placement.magic ∧
        image.sha256.map library.lower = some placement.digest := by
  simp only [Library.placement, Option.bind_eq_bind, Option.bind_eq_some_iff,
    Option.map_eq_some_iff]
  constructor
  · intro found
    rcases found with ⟨offset, placed, size, sized, magic, parsed, digest,
      stated, same⟩
    cases same
    exact ⟨placed, sized, parsed, digest, stated, rfl⟩
  · intro parts
    rcases parts with ⟨placed, sized, parsed, digest, stated, same⟩
    refine ⟨_, placed, _, sized, _, parsed, digest, stated, ?_⟩
    rw [same]
    rfl

theorem checkImages_cons_iff {image : EmbeddedImage}
    {images : List EmbeddedImage} :
    checkImages library data (image :: images) cursor = .ok final ↔
      ∃ placement, library.placement image = some placement ∧
        Checked library data cursor placement ∧
        checkImages library data images placement.stop = .ok final := by
  rw [checkImages]
  simp only [attempt_bind_iff, require_bind_iff, placement_eq_some_iff,
    Option.map_eq_some_iff, decide_eq_true_eq, List.all_eq_true, beq_iff_eq,
    List.isPrefixOf_iff_prefix]
  constructor
  · intro passed
    rcases passed with ⟨offset, placed, size, sized, follows, gap, fits, magic,
      parsed, starts, digest, stated, same, rest⟩
    exact ⟨⟨⟨offset, size⟩, magic, library.lower digest⟩,
      ⟨placed, sized, parsed, digest, stated, rfl⟩,
      ⟨follows, gap, fits, starts, same⟩, rest⟩
  · intro passed
    rcases passed with ⟨placement, ⟨placed, sized, parsed, digest, stated, same⟩,
      checked, rest⟩
    exact ⟨_, placed, _, sized, checked.follows, checked.gap, checked.fits, _,
      parsed, checked.embedded.magic, digest, stated,
      checked.embedded.digest.trans same.symm, rest⟩

def Complete (library : Library) (images : List EmbeddedImage) : Prop :=
  ∀ image ∈ images, (library.placement image).isSome

theorem checkImages_iff {images : List EmbeddedImage} :
    checkImages library data images cursor = .ok final ↔
      Complete library images ∧
        Walked library data cursor (images.filterMap library.placement)
          final := by
  induction images generalizing cursor with
  | nil =>
      constructor
      · intro passed
        cases passed
        exact ⟨nofun, nofun, rfl⟩
      · intro passed
        exact congrArg Except.ok passed.2.ends
  | cons image images induction =>
      rw [checkImages_cons_iff]
      constructor
      · intro passed
        rcases passed with ⟨placement, placed, checked, rest⟩
        rcases induction.mp rest with ⟨complete, walked⟩
        constructor
        · intro other member
          rcases List.mem_cons.mp member with rfl | later
          · simp [placed]
          · exact complete other later
        · rw [List.filterMap_cons_some placed]
          exact walked_cons_iff.mpr ⟨checked, walked⟩
      · intro passed
        rcases passed with ⟨complete, walked⟩
        rcases Option.isSome_iff_exists.mp (complete image List.mem_cons_self)
          with ⟨placement, placed⟩
        rw [List.filterMap_cons_some placed] at walked
        rcases walked_cons_iff.mp walked with ⟨checked, rest⟩
        refine ⟨placement, placed, checked, induction.mpr ⟨?_, rest⟩⟩
        exact fun other later => complete other (List.mem_cons_of_mem _ later)

end Loop

/-! ## Order -/

section Order

variable {library : Library} {data : List UInt8} {images : List EmbeddedImage}

theorem sortedByOffset_iff {ordered : List EmbeddedImage} :
    sortedByOffset library images = .ok ordered ↔
      (∀ image ∈ images, (library.offset image).isSome) ∧
        images.mergeSort library.ordered = ordered := by
  rw [sortedByOffset]
  split
  · rename_i all
    rw [List.all_eq_true] at all
    exact ⟨fun same => ⟨all, Except.ok.inj same⟩,
      fun both => congrArg Except.ok both.2⟩
  · rename_i some
    rw [List.all_eq_true] at some
    exact ⟨nofun, fun both => absurd both.1 some⟩

theorem Complete.offset (complete : Complete library images) :
    ∀ image ∈ images, (library.offset image).isSome := by
  intro image member
  rcases Option.isSome_iff_exists.mp (complete image member) with
    ⟨placement, placed⟩
  rw [(placement_eq_some_iff.mp placed).1]
  rfl

theorem Complete.sorted (complete : Complete library images) :
    Complete library (images.mergeSort library.ordered) :=
  fun image member => complete image (List.mem_mergeSort.mp member)

theorem Complete.of_sorted
    (complete : Complete library (images.mergeSort library.ordered)) :
    Complete library images :=
  fun image member => complete image (List.mem_mergeSort.mpr member)

theorem placements_perm (library : Library) (images : List EmbeddedImage) :
    ((images.mergeSort library.ordered).filterMap library.placement).Perm
      (images.filterMap library.placement) :=
  (List.mergeSort_perm _ _).filterMap _

theorem placements_sorted (library : Library) (images : List EmbeddedImage) :
    ((images.mergeSort library.ordered).filterMap library.placement).Pairwise
      fun left right => left.offset ≤ right.offset := by
  have sorted : (images.mergeSort library.ordered).Pairwise
      fun left right => library.ordered left right := by
    apply List.pairwise_mergeSort
    · intro first second third before after
      simp only [Library.ordered, decide_eq_true_eq] at before after ⊢
      exact Int.le_trans before after
    · intro left right
      simp only [Library.ordered, Bool.or_eq_true, decide_eq_true_eq]
      exact Int.le_total _ _
  apply sorted.filterMap
  intro left right before first placedFirst second placedSecond
  simp only [Library.ordered, decide_eq_true_eq,
    (placement_eq_some_iff.mp placedFirst).1,
    (placement_eq_some_iff.mp placedSecond).1, Option.getD_some] at before
  exact before

theorem EveryByte.perm {placements others : List Placement}
    (all : EveryByte library data placements) (perm : placements.Perm others) :
    EveryByte library data others where
  lengths := fun placement member =>
    all.lengths placement (perm.mem_iff.mpr member)
  partition := all.partition.perm (perm.map _)
  embedded := fun placement member =>
    all.embedded placement (perm.mem_iff.mpr member)

end Order

/-! ## Tiles -/

section Tiles

variable {library : Library} {data : List UInt8} {cursor final : Int}
  {placements : List Placement}

theorem gap_iff {start stop : Int} (low : 0 ≤ start) (ascending : start ≤ stop)
    (high : stop ≤ data.length) :
    (∀ value ∈ slice data start stop, value = 0xff) ↔
      ∀ address, start ≤ address → address < stop → padding data address := by
  rw [all_slice_iff low ascending high]
  constructor
  · intro all address after before value found
    exact all address.toNat value (by omega) (by omega) found
  · intro all index value after before found
    exact all index after before value found

/-- Where the cursor never goes back, the loop goes over tiles. -/
theorem Walked.tiles (walked : Walked library data cursor placements final)
    (lengths : ∀ placement ∈ placements, 0 ≤ placement.size)
    (low : 0 ≤ cursor) :
    Tiles (padding data) cursor (placements.map Placement.toRegion) final ∧
      ∀ placement ∈ placements, placement.Embedded library data := by
  induction placements generalizing cursor with
  | nil => exact ⟨walked.ends, nofun⟩
  | cons placement placements induction =>
      rcases walked_cons_iff.mp walked with ⟨checked, rest⟩
      have length := lengths placement List.mem_cons_self
      have follows := checked.follows
      have fits := checked.fits
      have stop : placement.stop = placement.offset + placement.size := rfl
      rcases induction rest (fun other later =>
        lengths other (List.mem_cons_of_mem _ later)) (by omega) with
        ⟨tiles, embedded⟩
      constructor
      · exact ⟨follows, (gap_iff low follows (by omega)).mp checked.gap, tiles⟩
      · intro other member
        rcases List.mem_cons.mp member with rfl | later
        · exact checked.embedded
        · exact embedded other later

theorem walked_of_tiles
    (tiles : Tiles (padding data) cursor (placements.map Placement.toRegion)
      final)
    (lengths : ∀ placement ∈ placements, 0 ≤ placement.size)
    (fits : ∀ placement ∈ placements, placement.stop ≤ data.length)
    (embedded : ∀ placement ∈ placements, placement.Embedded library data)
    (low : 0 ≤ cursor) : Walked library data cursor placements final := by
  induction placements generalizing cursor with
  | nil => exact ⟨nofun, tiles⟩
  | cons placement placements induction =>
      rcases tiles with ⟨follows, gap, rest⟩
      have length := lengths placement List.mem_cons_self
      have inside := fits placement List.mem_cons_self
      have stop : placement.stop = placement.offset + placement.size := rfl
      apply walked_cons_iff.mpr
      constructor
      · exact ⟨follows, (gap_iff low follows (by omega)).mpr gap, inside,
          embedded placement List.mem_cons_self⟩
      · exact induction rest
          (fun other later => lengths other (List.mem_cons_of_mem _ later))
          (fun other later => fits other (List.mem_cons_of_mem _ later))
          (fun other later => embedded other (List.mem_cons_of_mem _ later))
          (by omega)

end Tiles

/-! ## Releases -/

def Manifest.images (manifest : Manifest) : List EmbeddedImage :=
  manifest.embeddedImages.getD []

def Library.placements (library : Library) (manifest : Manifest) :
    List Placement :=
  manifest.images.filterMap library.placement

structure Opened (files : Files) (manifest : Manifest)
    (binaryInfo : BinarySection) (data : List UInt8) : Prop where
  object : files.manifest = .object manifest
  binary : manifest.binary = some binaryInfo
  data : files.readBytes (files.beside (binaryInfo.file.getD "")) = some data

structure Matching (library : Library) (manifest : Manifest)
    (binaryInfo : BinarySection) (data : List UInt8) : Prop where
  flashAddress : manifest.flashAddress = some "0x0"
  target : manifest.target = some "esp32"
  flashMode : manifest.flashMode = some "dio"
  flashFrequency : manifest.flashFrequency = some "40m"
  flashSize : manifest.flashSize = some "4MB"
  size : binaryInfo.sizeBytes = some data.length
  digest : library.hexdigest data = library.lower (binaryInfo.sha256.getD "")

def Returns (library : Library) (files : Files) : Prop :=
  ∃ release, verifyRelease library files = .ok release

def Accounted (library : Library) (files : Files) : Prop :=
  ∃ manifest binaryInfo data, Opened files manifest binaryInfo data ∧
    Complete library manifest.images ∧
    EveryByte library data (library.placements manifest)

def Intended (library : Library) (files : Files) : Prop :=
  ∃ manifest binaryInfo data, Opened files manifest binaryInfo data ∧
    Matching library manifest binaryInfo data ∧
    Complete library manifest.images ∧
    EveryByte library data (library.placements manifest) ∧
    (∀ placement ∈ library.placements manifest, 0 < placement.size) ∧
    ∃ placement ∈ library.placements manifest, placement.stop = data.length

def Library.inOrder (library : Library) (manifest : Manifest) :
    List Placement :=
  (manifest.images.mergeSort library.ordered).filterMap library.placement

/-- An image of negative size in a release that has nothing else against it:
each image is where the end of the one before it allows, and the last ends with
the file. -/
def Overlooked (library : Library) (files : Files) : Prop :=
  ∃ manifest binaryInfo data, Opened files manifest binaryInfo data ∧
    Matching library manifest binaryInfo data ∧
    Complete library manifest.images ∧
    Walked library data 0 (library.inOrder manifest) data.length ∧
    ∃ placement ∈ library.placements manifest, placement.size < 0

section Release

variable {library : Library} {files : Files}

theorem verifyManifest_iff {manifest : Manifest} {release : Release}
    (object : files.manifest = .object manifest) :
    verifyManifest library files manifest = .ok release ↔
      ∃ binaryInfo data, Opened files manifest binaryInfo data ∧
        manifest.images ≠ [] ∧ Matching library manifest binaryInfo data ∧
        Complete library manifest.images ∧
        Walked library data 0 (library.inOrder manifest) data.length ∧
        release = {
          binary := files.beside (binaryInfo.file.getD "")
          size := data.length
          sha256 := library.hexdigest data
          images := manifest.images.mergeSort library.ordered } := by
  simp only [verifyManifest, elim_bind_iff, require_bind_iff, beq_iff_eq,
    Bool.not_eq_true', List.isEmpty_eq_false_iff]
  simp only [bind_iff, sortedByOffset_iff]
  constructor
  · intro verified
    rcases verified with ⟨binaryInfo, binary, images, flashAddress, target,
      flashMode, flashFrequency, flashSize, data, read, size, digest, verified⟩
    rcases verified with ⟨ordered, ⟨_, same⟩, cursor, checked, _, final, last⟩
    rw [← same, checkImages_iff] at checked
    rw [require_iff, beq_iff_eq] at final
    rw [final] at checked
    cases last
    exact ⟨binaryInfo, data, ⟨object, binary, read⟩, images,
      ⟨flashAddress, target, flashMode, flashFrequency, flashSize, size, digest⟩,
      checked.1.of_sorted, checked.2, by rw [← same]; rfl⟩
  · intro expected
    rcases expected with ⟨binaryInfo, data, opened, images, matching, complete,
      walked, same⟩
    have checked := checkImages_iff.mpr ⟨complete.sorted, walked⟩
    exact ⟨binaryInfo, opened.binary, images, matching.flashAddress,
      matching.target, matching.flashMode, matching.flashFrequency,
      matching.flashSize, data, opened.data, matching.size, matching.digest,
      _, ⟨complete.offset, rfl⟩, _, checked, (),
      require_iff.mpr (beq_self_eq_true _), congrArg Except.ok same.symm⟩

theorem returns_iff :
    Returns library files ↔
      ∃ manifest binaryInfo data, Opened files manifest binaryInfo data ∧
        manifest.images ≠ [] ∧ Matching library manifest binaryInfo data ∧
        Complete library manifest.images ∧
        Walked library data 0 (library.inOrder manifest) data.length := by
  constructor
  · intro returns
    rcases returns with ⟨release, verified⟩
    rw [verifyRelease] at verified
    split at verified
    · cases verified
    · cases verified
    · cases verified
    · rename_i manifest object
      rcases (verifyManifest_iff object).mp verified with
        ⟨binaryInfo, data, opened, images, matching, complete, walked, _⟩
      exact ⟨manifest, binaryInfo, data, opened, images, matching, complete,
        walked⟩
  · intro expected
    rcases expected with ⟨manifest, binaryInfo, data, opened, images, matching,
      complete, walked⟩
    have verified := (verifyManifest_iff opened.object).mpr ⟨binaryInfo, data,
      opened, images, matching, complete, walked, rfl⟩
    refine ⟨_, Eq.trans ?_ verified⟩
    rw [verifyRelease, opened.object]

theorem Walked.everyByte {data : List UInt8} {placements : List Placement}
    (walked : Walked library data 0 placements data.length)
    (lengths : ∀ placement ∈ placements, 0 ≤ placement.size) :
    EveryByte library data placements := by
  rcases walked.tiles lengths (Int.le_refl 0) with ⟨tiles, embedded⟩
  refine ⟨lengths, tiles.partition ?_, embedded⟩
  intro region member
  rcases List.mem_map.mp member with ⟨placement, within, same⟩
  rw [← same]
  exact lengths placement within

theorem EveryByte.walked {data : List UInt8} {placements : List Placement}
    (all : EveryByte library data placements)
    (sorted : placements.Pairwise fun left right => left.offset ≤ right.offset)
    (lengths : ∀ placement ∈ placements, 0 < placement.size)
    (ends : ∃ placement ∈ placements, placement.stop = data.length) :
    Walked library data 0 placements data.length := by
  have tiles : Tiles (padding data) 0 (placements.map Placement.toRegion)
      data.length := by
    apply all.partition.tiles
    · exact List.pairwise_map.mpr sorted
    · intro region member
      rcases List.mem_map.mp member with ⟨placement, within, same⟩
      rw [← same]
      exact lengths placement within
    · rcases ends with ⟨placement, member, last⟩
      exact .inr ⟨_, List.mem_map_of_mem member, last⟩
  exact walked_of_tiles tiles all.lengths
    (fun placement member =>
      (all.partition.within _ (List.mem_map_of_mem member)).2)
    all.embedded (Int.le_refl 0)

theorem intended_returns (intended : Intended library files) :
    Returns library files := by
  rcases intended with ⟨manifest, binaryInfo, data, opened, matching, complete,
    all, lengths, ends⟩
  have perm := placements_perm library manifest.images
  have filled : manifest.images ≠ [] := by
    intro empty
    rcases ends with ⟨placement, member, _⟩
    rw [Library.placements, empty] at member
    cases member
  have walked : Walked library data 0 (library.inOrder manifest) data.length := by
    apply (all.perm perm.symm).walked (placements_sorted library _)
    · exact fun placement member => lengths placement (perm.mem_iff.mp member)
    · rcases ends with ⟨placement, member, last⟩
      exact ⟨placement, perm.mem_iff.mpr member, last⟩
  exact returns_iff.mpr ⟨manifest, binaryInfo, data, opened, filled, matching,
    complete, walked⟩

/-- A release that the verifier returns is accounted for unless an image of
negative size was overlooked, and it returns every intended release. -/
theorem verifyRelease_accounts (library : Library) (files : Files) :
    ((Returns library files → Accounted library files) ∧
        (Intended library files → Returns library files)) ↔
      ¬Overlooked library files := by
  constructor
  · intro accounts overlooked
    rcases overlooked with ⟨manifest, binaryInfo, data, opened, matching,
      complete, walked, placement, member, negative⟩
    have filled : manifest.images ≠ [] := by
      intro empty
      rw [Library.placements, empty] at member
      cases member
    have accounted := accounts.1 (returns_iff.mpr ⟨manifest, binaryInfo, data,
      opened, filled, matching, complete, walked⟩)
    rcases accounted with ⟨other, _, _, otherOpened, _, all⟩
    have same : manifest = other := by
      simpa using opened.object.symm.trans otherOpened.object
    rw [same] at member
    have length := all.lengths placement member
    omega
  · intro careful
    refine ⟨?_, intended_returns⟩
    intro returns
    rcases returns_iff.mp returns with ⟨manifest, binaryInfo, data, opened, _,
      matching, complete, walked⟩
    have perm := placements_perm library manifest.images
    have lengths : ∀ placement ∈ library.placements manifest,
        0 ≤ placement.size := by
      intro placement member
      by_contra negative
      exact careful ⟨manifest, binaryInfo, data, opened, matching, complete,
        walked, placement, member, Int.not_le.mp negative⟩
    have sortedLengths : ∀ placement ∈ library.inOrder manifest,
        0 ≤ placement.size := fun placement member =>
      lengths placement (perm.mem_iff.mp member)
    exact ⟨manifest, binaryInfo, data, opened, complete,
      (walked.everyByte sortedLengths).perm perm⟩

end Release

/-! ## An image of negative size -/

def sampleLibrary : Library where
  hexdigest := fun data => String.ofList
    ((Fips180.sha256 data).toList.flatMap fun byte =>
      [Nat.digitChar (byte.toNat / 16), Nat.digitChar (byte.toNat % 16)])
  lower := id
  intLiteral := fun text =>
    if text = "0x0" then some 0 else if text = "0x8" then some 8 else none
  fromhex := fun text =>
    if text = "" then some [] else if text = "e9" then some [0xe9] else none

def sampleData : List UInt8 := List.replicate 8 0 ++ List.replicate 8 0xe9

def negativeImage : EmbeddedImage where
  name := some "bootloader"
  offset := some "0x0"
  sizeBytes := some (-1)
  magicHex := some ""
  sha256 := some (sampleLibrary.hexdigest (slice sampleData 0 (-1)))

def lastImage : EmbeddedImage where
  name := some "application"
  offset := some "0x8"
  sizeBytes := some 8
  magicHex := some "e9"
  sha256 := some (sampleLibrary.hexdigest (slice sampleData 8 16))

def sampleBinary : BinarySection where
  file := some "merged.bin"
  sizeBytes := some 16
  sizeText := "16"
  sha256 := some (sampleLibrary.hexdigest sampleData)

def sampleManifest : Manifest where
  binary := some sampleBinary
  embeddedImages := some [negativeImage, lastImage]
  flashAddress := some "0x0"
  target := some "esp32"
  flashMode := some "dio"
  flashFrequency := some "40m"
  flashSize := some "4MB"

def sampleFiles : Files where
  manifestPath := "dist/RELEASE_MANIFEST.json"
  manifest := .object sampleManifest
  beside := fun file => "dist/" ++ file
  readBytes := fun path =>
    if path = "dist/merged.bin" then some sampleData else none

theorem verifyRelease_accounts_negative :
    Returns sampleLibrary sampleFiles ∧
      ¬Accounted sampleLibrary sampleFiles := by
  have first : sampleLibrary.placement negativeImage =
      some ⟨⟨0, -1⟩, [], sampleLibrary.hexdigest (slice sampleData 0 (-1))⟩ :=
    placement_eq_some_iff.mpr ⟨rfl, rfl, rfl, rfl⟩
  have second : sampleLibrary.placement lastImage =
      some ⟨⟨8, 8⟩, [0xe9], sampleLibrary.hexdigest (slice sampleData 8 16)⟩ :=
    placement_eq_some_iff.mpr ⟨rfl, rfl, rfl, rfl⟩
  have ordered : sampleLibrary.inOrder sampleManifest =
      [⟨⟨0, -1⟩, [], sampleLibrary.hexdigest (slice sampleData 0 (-1))⟩,
        ⟨⟨8, 8⟩, [0xe9], sampleLibrary.hexdigest (slice sampleData 8 16)⟩] := by
    have sorted : [negativeImage, lastImage].mergeSort sampleLibrary.ordered =
        [negativeImage, lastImage] := by
      apply List.mergeSort_of_pairwise
      exact .cons (by simp [Library.ordered, Library.offset, negativeImage,
        lastImage, sampleLibrary]) (.cons nofun .nil)
    change ([negativeImage, lastImage].mergeSort
      sampleLibrary.ordered).filterMap _ = _
    rw [sorted, List.filterMap_cons_some first,
      List.filterMap_cons_some second, List.filterMap_nil]
  constructor
  · apply returns_iff.mpr
    refine ⟨sampleManifest, sampleBinary, sampleData, ⟨rfl, rfl, rfl⟩, nofun,
      ⟨rfl, rfl, rfl, rfl, rfl, rfl, rfl⟩, ?_, ?_⟩
    · intro image member
      rcases List.mem_pair.mp member with rfl | rfl
      · rw [first]
        rfl
      · rw [second]
        rfl
    · rw [ordered]
      apply walked_cons_iff.mpr
      refine ⟨⟨by decide, List.all_iff_forall_prop.mp (by decide), by decide,
        ⟨by decide, rfl⟩⟩, ?_⟩
      apply walked_cons_iff.mpr
      exact ⟨⟨by decide, List.all_iff_forall_prop.mp (by decide), by decide,
        ⟨by decide, rfl⟩⟩, nofun, rfl⟩
  · intro accounted
    rcases accounted with ⟨manifest, _, _, opened, _, all⟩
    cases opened.object
    have length := all.lengths _ (List.mem_filterMap.mpr
      ⟨negativeImage, List.mem_cons_self, first⟩)
    exact absurd length (by decide)

end Typxen.BoardSetup
