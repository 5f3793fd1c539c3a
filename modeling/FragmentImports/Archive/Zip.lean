import FragmentImports.Archive.Bzip2
import FragmentImports.Archive.Checksum
import FragmentImports.Archive.Inflate
import FragmentImports.Archive.Lzma
import FragmentImports.Files.Tree

/-!
Members of ZIP archives and their extraction into a tree. The directory at the end of an archive
says where its members are.
-/

namespace FragmentImports

inductive Compression where
  | stored
  | deflated
  | blockSorted
  | chained
  deriving DecidableEq, Repr

inductive ArchiveFault where
  | notArchive
  | unknownKind (suffix : String)
  | tar (kind : String)
  | encrypted
  | unsupportedFeature
  | outsideFile
  | beyondNumbers
  | emptyName
  | malformedStream (compression : Compression)
  | file (fault : FileFault)
  deriving DecidableEq, Repr

namespace ArchiveFault

def message : ArchiveFault → String
  | unknownKind suffix => "Unsupported archive format: " ++ suffix
  | _ => ""

end ArchiveFault

namespace Zip

def number? (data : ByteArray) (offset : Nat) : (width : Nat) → Option Nat
  | 0 => some 0
  | width + 1 => do
      let low ← data[offset]?
      return low.toNat + 256 * (← number? data (offset + 1) width)

def endSignature : Nat := 0x06054B50
def directorySignature : Nat := 0x02014B50
def memberSignature : Nat := 0x04034B50
def longEndSignature : Nat := 0x06064B50
def longEndPointerSignature : Nat := 0x07064B50

/-- Where the end record starts: at the last place with its signature, as far back as its comment
can be long, unless it stands at the very end without a comment. -/
def endOffset? (data : ByteArray) : Option Nat :=
  if data.size < 22 then none
  else
    let last := data.size - 22
    let endsBare := number? data last 4 = some endSignature ∧ number? data (last + 20) 2 = some 0
    if endsBare then some last
    else
      let found := ((List.range (min data.size 65558)).map fun back => data.size - 1 - back).find?
        fun offset => number? data offset 4 = some endSignature
      found.filter fun offset => offset ≤ last

def upperCharacters : List Char :=
  ("ÇüéâäàåçêëèïîìÄÅÉæÆôöòûùÿÖÜ¢£¥₧ƒáíóúñÑªº¿⌐¬½¼¡«»░▒▓│┤╡╢╖╕╣║╗╝╜╛┐"
    ++ "└┴┬├─┼╞╟╚╔╩╦╠═╬╧╨╤╥╙╘╒╓╫╪┘┌█▄▌▐▀αßΓπΣσµτΦΘΩδ∞φε∩≡±≥≤⌠⌡÷≈°∙·√ⁿ²■\u00a0").toList

def legacyCharacter (byte : UInt8) : Char :=
  if byte < 128 then Char.ofNat byte.toNat else upperCharacters[byte.toNat - 128]?.getD ' '

structure Member where
  /-- The whole name; what follows a NUL character does not count when the member is written. -/
  fullName : String
  flags : Nat
  method : Nat
  checksum : Nat
  compressedSize : Nat
  size : Nat
  offset : Int
  limit : Int

def Member.name (member : Member) : String :=
  String.ofList (member.fullName.toList.takeWhile (· ≠ '\x00'))

def slice (data : ByteArray) (offset size : Nat) : ByteArray := data.extract offset (offset + size)

def hasFlag (flags place : Nat) : Bool := flags.testBit place

def nameOf (flags : Nat) (raw : ByteArray) : Except ArchiveFault String :=
  if hasFlag flags 11 then
    match String.fromUTF8? raw with
    | some name => .ok name
    | none => .error (.file (.notText (Utf8.fault? raw)))
  else .ok (String.ofList (raw.toList.map legacyCharacter))

def number (data : ByteArray) (offset width : Nat) : Except ArchiveFault Nat :=
  match number? data offset width with
  | some value => .ok value
  | none => .error .notArchive

/-- Sizes and offset of a member that stand in a longer form, in this order, as far as their short
forms say so. -/
def longNumbers (data : ByteArray) (member : Member) : Except ArchiveFault Member := do
  let mut member := member
  let mut place := 0
  if member.size = 0xFFFFFFFF ∨ member.size = 0xFFFFFFFFFFFFFFFF then
    member := { member with size := ← number data place 8 }
    place := place + 8
  if member.compressedSize = 0xFFFFFFFF then
    member := { member with compressedSize := ← number data place 8 }
    place := place + 8
  if member.offset = 0xFFFFFFFF then
    member := { member with offset := ← number data place 8 }
  return member

def readExtra (extra : ByteArray) : (bound offset : Nat) → Member → Except ArchiveFault Member
  | 0, _, member => .ok member
  | bound + 1, offset, member => do
      if extra.size < offset + 4 then return member
      let kind ← number extra offset 2
      let size ← number extra (offset + 2) 2
      if extra.size < offset + 4 + size then throw .notArchive
      let member ← if kind = 1 then longNumbers (slice extra (offset + 4) size) member
        else pure member
      readExtra extra bound (offset + 4 + size) member

def readEntry (directory : ByteArray) (offset : Nat) : Except ArchiveFault (Member × Nat) := do
  let field (place width : Nat) : Except ArchiveFault Nat :=
    number directory (offset + place) width
  if directory.size < offset + 46 then throw .notArchive
  if (← field 0 4) ≠ directorySignature then throw .notArchive
  let flags ← field 8 2
  let nameSize ← field 28 2
  let extraSize ← field 30 2
  let name ← nameOf flags (slice directory (offset + 46) nameSize)
  if 63 < (← field 6 1) then throw .unsupportedFeature
  let extra := slice directory (offset + 46 + nameSize) extraSize
  let member ← readExtra extra (extraSize + 1) 0
    { fullName := name
      flags := flags
      method := ← field 10 2
      checksum := ← field 16 4
      compressedSize := ← field 20 4
      size := ← field 24 4
      offset := ← field 42 4
      limit := 0 }
  return (member, 46 + nameSize + extraSize + (← field 32 2))

def readEntries (directory : ByteArray) (size : Nat) :
    (bound offset : Nat) → Except ArchiveFault (List Member)
  | 0, _ => .ok []
  | bound + 1, offset =>
      if size ≤ offset then .ok []
      else do
        let (member, taken) ← readEntry directory offset
        return member :: (← readEntries directory size bound (offset + taken))

structure DirectoryPlace where
  size : Nat
  start : Nat
  finish : Nat

def longPlace? (data : ByteArray) (finish : Nat) : Except ArchiveFault (Option DirectoryPlace) := do
  if finish < 20 ∨ number? data (finish - 20) 4 ≠ some longEndPointerSignature then return none
  let disk ← number data (finish - 16) 4
  let disks ← number data (finish - 4) 4
  if disk ≠ 0 ∨ 1 < disks ∨ finish < 76 then throw .notArchive
  if number? data (finish - 76) 4 ≠ some longEndSignature then return none
  return some ⟨← number data (finish - 36) 8, ← number data (finish - 28) 8, finish - 76⟩

def directoryPlace (data : ByteArray) : Except ArchiveFault DirectoryPlace := do
  let some finish := endOffset? data | throw .notArchive
  match ← longPlace? data finish with
  | some place => return place
  | none => return ⟨← number data (finish + 12) 4, ← number data (finish + 16) 4, finish⟩

/-- The least start behind a member, of the directory or another member. Of several members at one
place only the first one has room. -/
def limitOf (directory : Int) (earlier all : List Member) (member : Member) : Int :=
  if earlier.any fun other => other.offset = member.offset then member.offset
  else ((all.map Member.offset).filter (member.offset < ·)).min?.getD directory

def limited (directory : Int) (members : List Member) : List Member :=
  members.zipIdx.map fun (member, i) =>
    { member with limit := limitOf directory (members.take i) members member }

/-- The members of an archive. The directory ends where the end record starts; what stands in front
of the archive moves all members. -/
def members (data : ByteArray) : Except ArchiveFault (List Member) := do
  let place ← directoryPlace data
  if place.finish < place.size then throw .notArchive
  let start := place.finish - place.size
  let moved : Int := start - place.start
  let found ← readEntries (slice data start place.size) place.size (data.size + 1) 0
  return limited start (found.map fun member => { member with offset := member.offset + moved })

def compressionOf? : (method : Nat) → Option Compression
  | 0 => some .stored
  | 8 => some .deflated
  | 12 => some .blockSorted
  | 14 => some .chained
  | _ => none

def maximalFile : Int := 0xFFFFFFFF000

def contentPlace (data : ByteArray) (member : Member) :
    Except ArchiveFault (Nat × Compression) := do
  if 0x8000000000000000 ≤ member.offset then throw .beyondNumbers
  if member.offset < 0 ∨ maximalFile < member.offset then throw .outsideFile
  let offset := member.offset.toNat
  if data.size < offset + 30 then throw .notArchive
  if (← number data offset 4) ≠ memberSignature then throw .notArchive
  let nameSize ← number data (offset + 26) 2
  let extraSize ← number data (offset + 28) 2
  if hasFlag member.flags 5 ∨ hasFlag member.flags 6 then throw .unsupportedFeature
  let name ← nameOf (← number data (offset + 6) 2) (slice data (offset + 30) nameSize)
  if name ≠ member.fullName then throw .notArchive
  let start := offset + 30 + nameSize + extraSize
  if member.limit < start + member.compressedSize then throw .notArchive
  if hasFlag member.flags 0 then throw .encrypted
  match compressionOf? member.method with
  | some compression => return (start, compression)
  | none => throw .unsupportedFeature

def unpack (compression : Compression) (packed : ByteArray) : Except ArchiveFault ByteArray :=
  let accept {ε : Type} (outcome : BitStream.Outcome ε) : Except ArchiveFault ByteArray :=
    match outcome.ending with
    | .malformed _ => .error (.malformedStream compression)
    | _ => .ok outcome.output
  match compression with
  | .stored => .ok packed
  | .deflated => accept (inflate packed)
  | .blockSorted => accept (unsortBlocks packed)
  | .chained =>
      let size := (number? packed 2 2).getD 0
      if packed.size ≤ 4 + size then .ok .empty
      else accept (unchain (slice packed 4 size).toList (packed.extract (4 + size) packed.size))

def content (data : ByteArray) (start : Nat) (compression : Compression) (member : Member) :
    Except ArchiveFault ByteArray := do
  let bytes ← unpack compression (slice data start member.compressedSize)
  let bytes := slice bytes 0 member.size
  if Checksum.crc32 bytes ≠ member.checksum then throw .notArchive
  return bytes

def safeParts (name : String) : List String :=
  (FileTree.partsOf name.toList).filter fun part => part ∉ ["", ".", ".."]

def checkTarget (tree : FileTree) (parts : List String) : Except FileFault Unit :=
  match tree.node? parts with
  | some .directory => .error .isDirectory
  | some (.file _) => .ok ()
  | none =>
      if !tree.isDirectoryAt parts.dropLast then .error .notDirectory
      else if !(parts.all FileTree.fitsName) then .error .nameTooLong
      else .ok ()

def extractMember (data : ByteArray) (tree : FileTree) (member : Member) :
    Except ArchiveFault FileTree := do
  let parts := safeParts member.name
  let tree ←
    if (tree.node? parts.dropLast).isSome then pure tree
    else (tree.withDirectories parts.dropLast).mapError .file
  match member.name.toList.getLast? with
  | none => throw .emptyName
  | some '/' => (tree.withDirectories parts).mapError .file
  | some _ =>
      let (start, compression) ← contentPlace data member
      (checkTarget tree parts).mapError .file
      return tree.put parts (.file (← content data start compression member))

/-- The tree of the members of an archive; of several with one name the last one counts. -/
def extract (data : ByteArray) : Except ArchiveFault FileTree := do
  let found ← members data
  let last (member : Member) : Member :=
    (found.reverse.find? fun other => other.name = member.name).getD member
  (found.map last).foldlM (extractMember data) ⟨.empty, []⟩

end Zip

def archiveSuffixes : List String := [".zip", ".tar.gz", ".tgz"]

def FileTree.isArchive (tree : FileTree) (path : Path) : Bool :=
  tree.isFile path.render && archiveSuffixes.any fun suffix =>
    suffix.toList.isSuffixOf (path.name.toList.map Char.toLower)

/-- How the bytes of a compressed tar archive are unpacked: the tree that it holds, or the kind of
the fault. -/
abbrev Untar := ByteArray → Except String FileTree

def FileTree.extractArchive (untar : Untar) (tree : FileTree) (path : Path) :
    Except ArchiveFault FileTree := do
  let endsWith (suffix : String) : Bool :=
    suffix.toList.isSuffixOf (path.name.toList.map Char.toLower)
  if endsWith ".zip" then Zip.extract (← (tree.readBytes path.render).mapError .file)
  else if endsWith ".tar.gz" || endsWith ".tgz" then
    (untar (← (tree.readBytes path.render).mapError .file)).mapError .tar
  else throw (.unknownKind path.suffix)

end FragmentImports
