import ApiGateway.Domain.Name
import ApiGateway.Uri.Ipv4
import ApiGateway.Uri.Ipv6

/-! Which texts name a host. Where a scheme is known to address hosts of the network the text is a
domain name or an address; under any other scheme it only has to keep out of the way of what stands
around it. -/

namespace ApiGateway.Uri

/-- Takes bytes written as a percent sign and two digits for what they are. -/
def percentDecoded : List UInt8 → List UInt8
  | 0x25 :: a :: b :: rest =>
    let digits := [Char.ofNat a.toNat, Char.ofNat b.toNat]
    if digits.all Text.isHexDigit then UInt8.ofNat (Text.numberIn 16 digits) :: percentDecoded rest
    else 0x25 :: percentDecoded (a :: b :: rest)
  | b :: rest => b :: percentDecoded rest
  | [] => []
  termination_by bs => bs.length

def percentDecode? (cs : List Char) : Option (List Char) :=
  if '%' ∈ cs then
    let bytes := percentDecoded (cs.flatMap String.utf8EncodeChar)
    (String.fromUTF8? ⟨bytes.toArray⟩).map String.toList
  else some cs

def forbiddenInHost : List Char :=
  ['\x00', '\t', '\n', '\r', ' ', '#', '/', ':', '<', '>', '?', '@', '[', '\\', ']', '^', '|']

def isForbiddenInDomain (c : Char) : Bool :=
  c.toNat ≤ 0x20 || c.toNat == 0x7F || c == '%' || forbiddenInHost.contains c

def isDomainOrIpv4 (cs : List Char) : Bool :=
  match (percentDecode? cs).bind Domain.fold with
  | none => false
  | some folded =>
    folded ≠ [] && !folded.any isForbiddenInDomain &&
      match Domain.labels? folded with
      | none => false
      | some labels => !Ipv4.isMeant labels || Ipv4.isAddress labels

/-- Brackets announce an IPv6 address. -/
def bracketed? : List Char → Option (List Char)
  | '[' :: rest => some rest
  | _ => none

def isBracketedAddress (rest : List Char) : Bool :=
  rest.getLast? = some ']' && Ipv6.isAddress rest.dropLast

def isNetworkHost (cs : List Char) : Bool :=
  match bracketed? cs with
  | some rest => isBracketedAddress rest
  | none => isDomainOrIpv4 cs

def isOpaqueHost (cs : List Char) : Bool :=
  match bracketed? cs with
  | some rest => isBracketedAddress rest
  | none => !cs.any forbiddenInHost.contains

end ApiGateway.Uri
