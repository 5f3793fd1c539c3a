import FragmentImports.Archive.Checksum
import FragmentImports.Archive.Inflate
import FragmentImports.Text.Basic

/-!
Codings of bodies: compressed streams in one of two wrappings, or without one. What is cut off
stands for the bytes that it has.
-/

namespace FragmentImports.Endpoint

inductive ContentCoding where
  | gzip
  | deflate
  deriving DecidableEq, Repr

namespace ContentCoding

inductive Fault where
  | header
  | method
  | flags
  | headerChecksum
  | checksum
  | length
  | stream (fault : Inflate.Fault)
  deriving DecidableEq, Repr

def Fault.cause : Fault → String
  | header => "incorrect header check"
  | method => "unknown compression method"
  | flags => "unknown header flags set"
  | headerChecksum => "header crc mismatch"
  | checksum => "incorrect data check"
  | length => "incorrect length check"
  | stream fault => fault.message

def Fault.message (fault : Fault) : String := "Error -3 while decompressing data: " ++ fault.cause

def ofHeader (value : String) : List ContentCoding :=
  (value.toList.splitOn ',').filterMap fun name =>
    match String.ofList ((stripBlanks name).map Char.toLower) with
    | "gzip" => some gzip
    | "deflate" => some deflate
    | _ => none

def number (bytes : List UInt8) : Nat :=
  bytes.reverse.foldl (fun total byte => 256 * total + byte.toNat) 0

def contradicts (bytes : List UInt8) (expected : Nat) : Bool :=
  bytes.length = 4 && number bytes ≠ expected

/-- What a stream that starts so many bytes into the data stands for, and the bytes behind it where
it is complete. -/
def unpackAt (data : ByteArray) (start : Nat) :
    Except Fault (ByteArray × Option (List UInt8)) :=
  let outcome := inflate (data.extract start data.size)
  match outcome.ending with
  | .malformed fault => .error (.stream fault)
  | .cutOff => .ok (outcome.output, none)
  | .complete =>
      .ok (outcome.output, some (data.extract (start + outcome.size) data.size).toList)

/-- A wrapped stream: two bytes that check each other, and a checksum, the highest byte first. Wraps
that ask for a dictionary are of no use. -/
def unwrap (data : ByteArray) : Except Fault ByteArray :=
  match data.toList with
  | first :: second :: rest =>
      if (256 * first.toNat + second.toNat) % 31 ≠ 0 then .error .header
      else if first &&& 0x8F ≠ 8 then .error .method
      else if second &&& 0x20 ≠ 0 then if rest.length < 4 then .ok .empty else .error .flags
      else do
        let (output, behind?) ← unpackAt data 2
        let found := (behind?.getD []).take 4
        if contradicts found.reverse (Checksum.adler32 output) then throw .checksum
        return output
  | _ => .ok .empty

def dropText? (bytes : List UInt8) : Option (List UInt8) :=
  match bytes.dropWhile (· ≠ 0) with
  | [] => none
  | _ :: rest => some rest

def dropCounted? : List UInt8 → Option (List UInt8)
  | low :: high :: rest =>
      let size := number [low, high]
      if rest.length < size then none else some (rest.drop size)
  | _ => none

/-- What follows the parts of a header behind its first ten bytes, as its flags tell; `none` where
the header is cut off. -/
def dropParts? (flags : UInt8) (bytes : List UInt8) : Option (List UInt8) := do
  let bytes ← if flags &&& 4 = 0 then some bytes else dropCounted? bytes
  let bytes ← if flags &&& 8 = 0 then some bytes else dropText? bytes
  if flags &&& 16 = 0 then some bytes else dropText? bytes

def gzipStart? (data : ByteArray) (flags : UInt8) : Except Fault (Option Nat) :=
  if data.size < 10 then .ok none
  else match dropParts? flags (data.toList.drop 10) with
    | none => .ok none
    | some rest =>
        let size := data.size - rest.length
        if flags &&& 2 = 0 then .ok (some size)
        else if rest.length < 2 then .ok none
        else
          let found := number (rest.take 2)
          if found = Checksum.crc32 (data.extract 0 size) % 0x10000 then .ok (some (size + 2))
          else .error .headerChecksum

def unwrapGzip (data : ByteArray) : Except Fault ByteArray :=
  match data.toList with
  | 0x1F :: 0x8B :: method :: flags :: _ =>
      if method ≠ 8 then .error .method
      else if flags &&& 0xE0 ≠ 0 then .error .flags
      else do
        let some start ← gzipStart? data flags | return .empty
        let (output, behind?) ← unpackAt data start
        let found := behind?.getD []
        if contradicts (found.take 4) (Checksum.crc32 output) then throw .checksum
        if contradicts ((found.drop 4).take 4) (output.size % 0x100000000) then throw .length
        return output
  | 0x1F :: 0x8B :: _ => .ok .empty
  | _ :: _ :: _ => .error .header
  | _ => .ok .empty

/-- The bytes that a coding stands for; a stream whose wrap is of no use is read without one. -/
def decode (data : ByteArray) : ContentCoding → Except Fault ByteArray
  | gzip => unwrapGzip data
  | deflate =>
      match unwrap data with
      | .ok output => .ok output
      | .error _ => (unpackAt data 0).map Prod.fst

def decodeAll (codings : List ContentCoding) (data : ByteArray) : Except Fault ByteArray :=
  codings.reverse.foldlM decode data

end ContentCoding

end FragmentImports.Endpoint
