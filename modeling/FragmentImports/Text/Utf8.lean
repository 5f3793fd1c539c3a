import FragmentImports.Text.Basic

namespace FragmentImports

namespace Utf8

inductive Reason where
  | startByte
  | continuationByte
  | endOfData
  deriving DecidableEq, Repr

def Reason.message : Reason → String
  | startByte => "invalid start byte"
  | continuationByte => "invalid continuation byte"
  | endOfData => "unexpected end of data"

structure Fault where
  position : Nat
  byte : UInt8
  length : Nat
  reason : Reason
  deriving DecidableEq, Repr

def hexByte (byte : UInt8) : String :=
  "0x" ++ String.ofList (Digits.hex 2 byte.toNat)

namespace Fault

def message (fault : Fault) : String :=
  let place := if fault.length = 1 then
      "byte " ++ hexByte fault.byte ++ " in position " ++ toString fault.position
    else "bytes in position " ++ toString fault.position ++ "-"
      ++ toString (fault.position + fault.length - 1)
  "'utf-8' codec can't decode " ++ place ++ ": " ++ fault.reason.message

end Fault

def isContinuation (byte : UInt8) : Bool := 0x80 ≤ byte && byte < 0xC0

def followers? (first : UInt8) : Option Nat :=
  if first < 0x80 then some 0
  else if first < 0xC2 then none
  else if first < 0xE0 then some 1
  else if first < 0xF0 then some 2
  else if first < 0xF5 then some 3
  else none

/-- Whether a second byte may follow a first one: no longer spelling than needed, no surrogate, and
nothing beyond the last character. -/
def mayFollow (first second : UInt8) : Bool :=
  isContinuation second
    && (first != 0xE0 || 0xA0 ≤ second) && (first != 0xED || second < 0xA0)
    && (first != 0xF0 || 0x90 ≤ second) && (first != 0xF4 || second < 0x90)

def accepted (first : UInt8) : (wanted : Nat) → List UInt8 → Nat
  | wanted + 1, second :: rest =>
      if mayFollow first second then ((rest.take wanted).takeWhile isContinuation).length + 1 else 0
  | _, _ => 0

def faultFrom? (position : Nat) : List UInt8 → Option Fault
  | [] => none
  | first :: rest =>
      match followers? first with
      | none => some ⟨position, first, 1, .startByte⟩
      | some wanted =>
          let found := accepted first wanted rest
          if found = wanted then faultFrom? (position + wanted + 1) (rest.drop wanted)
          else
            some ⟨position, first, found + 1,
              if rest.length = found then .endOfData else .continuationByte⟩
termination_by bytes => bytes.length
decreasing_by
  simp only [List.length_drop, List.length_cons]
  omega

def fault? (bytes : ByteArray) : Option Fault := faultFrom? 0 bytes.toList

def charOf (first : UInt8) (followers : List UInt8) : Char :=
  let bits := if followers = [] then 0x80 else 0x40 >>> followers.length
  Char.ofNat (followers.foldl (fun total byte => 64 * total + byte.toNat % 64)
    (first.toNat % bits))

/-- The text of some bytes; each stretch that is no character becomes a replacement character. -/
def decodeLeniently : List UInt8 → List Char
  | [] => []
  | first :: rest =>
      let wanted? := followers? first
      let found := accepted first (wanted?.getD 0) rest
      let c := if wanted? = some found then charOf first (rest.take found) else '\ufffd'
      c :: decodeLeniently (rest.drop found)
termination_by bytes => bytes.length
decreasing_by
  simp only [List.length_drop, List.length_cons]
  omega

end Utf8

end FragmentImports
