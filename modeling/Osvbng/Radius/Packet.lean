import Osvbng.Lib.Md5

/-!
# RADIUS packets

The layout of a datagram, the attribute walk that looks for a
Message-Authenticator, and the two authenticators of RFC 2865 and RFC 5176 as
the peers are to compute them.

Packets are read and written by a library, which is a parameter: `Library` says
nothing about what its functions return. `Library.reference` is the plain
reading of the layout.
-/

namespace Osvbng.Radius
open Lib Lib.Slice

structure Packet where
  code : UInt8
  identifier : UInt8
  authenticator : Bytes
  attributes : List (UInt8 × Bytes)
deriving DecidableEq

def codeAccessRequest : UInt8 := 1
def codeAccessAccept : UInt8 := 2
def codeAccessReject : UInt8 := 3

/-! ## Layout -/

variable (raw : Bytes)

def lengthField : Nat := beNat ((raw.drop 2).take 2)

def authenticatorOf : Bytes := (raw.drop 4).take 16

def attributesOf : Bytes := (raw.take (lengthField raw)).drop 20

def splice (offset : Nat) (value : Bytes) : Bytes :=
  raw.take offset ++ value ++ raw.drop (offset + value.length)

def findAttr80From (raw : Bytes) : (fuel i : Nat) → Option Nat
  | 0, _ => none
  | fuel + 1, i =>
    if i + 2 ≤ raw.length then
      let attrType := raw.getD i 0
      let attrLen := (raw.getD (i + 1) 0).toNat
      if attrLen < 2 ∨ raw.length < i + attrLen then none
      else if attrType = 80 ∧ attrLen = 18 then some (i + 2)
      else findAttr80From raw fuel (i + attrLen)
    else none

/-- Where the value of the first Message-Authenticator of 16 bytes starts. An
attribute takes at least two bytes, so the walk ends within the length. -/
def findAttr80 : Option Nat :=
  if raw.length < 20 then none else findAttr80From raw raw.length 20

/-! ## The library -/

structure Library where
  parse : Bytes → Option Packet
  /-- Encodes a packet under a secret. -/
  encode : Packet → Bytes → Option Bytes

def parseAttributes : (fuel : Nat) → Bytes → Option (List (UInt8 × Bytes))
  | _, [] => some []
  | 0, _ => none
  | fuel + 1, b =>
    let attrLen := (b.getD 1 0).toNat
    if attrLen < 2 ∨ b.length < attrLen then none
    else (parseAttributes fuel (b.drop attrLen)).map ((b.getD 0 0, (b.take attrLen).drop 2) :: ·)

def decode : Option Packet :=
  if raw.length < 20 ∨ lengthField raw < 20 ∨ 4096 < lengthField raw ∨
      raw.length < lengthField raw then none
  else (parseAttributes raw.length (attributesOf raw)).map fun attributes =>
    ⟨raw.getD 0 0, raw.getD 1 0, authenticatorOf raw, attributes⟩

def marshal (p : Packet) : Bytes :=
  let attributes := p.attributes.flatMap fun a => [a.1, UInt8.ofNat (a.2.length + 2)] ++ a.2
  [p.code, p.identifier] ++ putBe 2 (20 + attributes.length) ++ p.authenticator ++ attributes

/-- Reads and writes the layout; a request keeps the authenticator it has. -/
def Library.reference : Library := ⟨decode, fun p _ => some (marshal p)⟩

/-! ## Authenticators -/

variable (response request secret : Bytes)

/-- `MD5(Code + ID + Length + RequestAuth + Attributes + Secret)`. -/
def responseAuthenticator : Bytes :=
  Md5.sum (response.take 4 ++ authenticatorOf request ++ attributesOf response ++ secret)

/-- A response that answers a request, from someone who knows the secret. -/
def Answers : Prop :=
  authenticatorOf response = responseAuthenticator response request secret
deriving Decidable

end Osvbng.Radius
