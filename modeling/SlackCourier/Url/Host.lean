import SlackCourier.DomainName.Basic
import SlackCourier.Octets
import SlackCourier.Transport
import SlackCourier.Url.Address
import SlackCourier.Url.Percent

/-!
# Hosts

The host in a URL is an address of version 6 between brackets, an address of
version 4, or a name. On the web a host has one form, names the one in ASCII; a
name that ends in a number has to be an address. Other schemes give hosts names
of their own, which are left as they are.
-/

namespace SlackCourier.Url

/-- An address of version 6 between brackets, of which the first has been read. -/
def parseBracketed (text : List Char) : Except UrlFault (List Char) :=
  match text.getLast?, ipv6? text.dropLast with
  | some ']', some groups => .ok ('[' :: writeIpv6 groups ++ [']'])
  | _, _ => .error .invalidIpv6Address

/-- A name in its one form, or the address of version 4 that it is. -/
def parseName (text : List Char) : Except UrlFault (List Char) :=
  match DomainName.ascii? (percentDecode (Octets.ofText (String.ofList text))).lossyChars with
  | none => .error .invalidInternationalDomain
  | some [] => .error .emptyHost
  | some name =>
    if endsInNumber name then
      match ipv4? name with
      | some address => .ok (writeIpv4 address)
      | none => .error .invalidIpv4Address
    else .ok name

/-- A host on the web in its one form. -/
def parseHost : List Char → Except UrlFault (List Char)
  | '[' :: rest => parseBracketed rest
  | text => parseName text

/-- Whether a character may not stand in a host of another scheme. -/
def isForbiddenInHost (c : Char) : Bool :=
  ['\x00', '\t', '\n', '\r', ' ', '#', '/', ':', '<', '>', '?', '@', '[', '\\', ']', '^',
    '|'].contains c

/-- A host of another scheme. -/
def parseOpaqueHost : List Char → Except UrlFault (List Char)
  | '[' :: rest => parseBracketed rest
  | text =>
    if text.any isForbiddenInHost then .error .invalidDomainCharacter
    else .ok (percentEncode isReservedAnywhere text)

end SlackCourier.Url
