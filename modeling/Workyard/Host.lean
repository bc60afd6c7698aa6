/-
**Hosts and the addresses that can be dialled.**

A host in a URL is a name, a row of numbers with dots, or eight groups of hexadecimal digits in brackets.
A full address can be dialled if its scheme is that of the web and it has a host and a port that are
well formed.

* `Host.isValid`: the hosts of URLs;
* `Endpoint.isDialable`: the addresses that a client can be made for.
-/

import Workyard.Endpoint
import Workyard.Host.Name
import Workyard.Text.Utf8

namespace Workyard

namespace Host

/-- The value of a number in a host; nothing at all is no number. -/
def hostNumber? (part : List Char) : Option Nat :=
  let (base, digits) := basedDigits part
  if part.isEmpty then none else readBase base digits

/-- The parts of a name between dots, without an empty last one. -/
def dotted (name : List Char) : List (List Char) :=
  let labels := Text.split '.' name
  if 1 < labels.length && labels.getLast? = some [] then labels.dropLast else labels

/-- Whether a name has to be a row of numbers: its last part is one, or is made of digits. -/
def endsInNumber (name : List Char) : Bool :=
  (dotted name).getLast?.any fun last =>
    (!last.isEmpty && last.all fun c => (Text.digit? c).isSome) || (hostNumber? last).isSome

/-- Whether a name is a row of numbers that make an address. -/
def isNumeric (name : List Char) : Bool :=
  ((dotted name).mapM hostNumber?).bind packed? |>.isSome

/-- The octets of a text with its escapes of two hexadecimal digits resolved. -/
def unescape : List UInt8 → List UInt8
  | 0x25 :: high :: low :: rest =>
    match readBase 16 [Char.ofNat high.toNat, Char.ofNat low.toNat] with
    | some octet => UInt8.ofNat octet :: unescape rest
    | none => 0x25 :: unescape (high :: low :: rest)
  | octet :: rest => octet :: unescape rest
  | [] => []
termination_by text => text.length

/-- Whether a text is a host. -/
def isValid (host : List Char) : Bool :=
  if host.head? = some '[' then
    1 < host.length && host.getLast? = some ']' && (eightGroups? (host.drop 1).dropLast).isSome
  else
    let octets := unescape (Text.Utf8.encode (String.ofList host))
    match Name.settled? (Text.Utf8.decodeLossy octets) with
    | none => false
    | some name => !name.isEmpty && (!endsInNumber name || isNumeric name)

end Host

namespace Endpoint

/-- The schemes of the web. -/
def webSchemes : List (List Char) := [defaultScheme, defaultScheme ++ ['s']]

/-- A URL without control characters and blanks around it and line breaks within. -/
def cleaned (url : List Char) : List Char :=
  let start := url.dropWhile (·.toNat ≤ 0x20)
  ((start.reverse.dropWhile (·.toNat ≤ 0x20)).reverse).filter fun c =>
    c ≠ '\t' && c ≠ '\n' && c ≠ '\r'

/-- The host and the port of a place; a colon inside brackets is not that of a port. -/
def cutHost (inBrackets : Bool) : List Char → List Char × List Char
  | [] => ([], [])
  | c :: rest =>
    if c = ':' && !inBrackets then ([], c :: rest)
    else
      let (host, port) := cutHost (c = '[' || (inBrackets && c ≠ ']')) rest
      (c :: host, port)

/-- The host and the port of what stands between the slashes of a URL. -/
def hostAndPort (authority : List Char) : List Char × List Char :=
  cutHost false (((Text.splitLast? '@' authority).map (·.2)).getD authority)

/-- Whether a text is a port with its colon, or nothing. -/
def isPort : List Char → Bool
  | [] => true
  | ':' :: digits => digits.all (fun c => (Text.digit? c).isSome) &&
      (digits = [] || (Text.parseUnsigned Text.maxU16 digits) matches .ok _)
  | _ => false

/-- Whether a client can be made for a full address. -/
def isDialable (url : List Char) : Bool :=
  let url := cleaned url
  let scheme := url.takeWhile (· ≠ ':')
  let rest := (url.drop (scheme.length + 1)).dropWhile fun c => c = '/' || c = '\\'
  let authority := rest.takeWhile fun c => c ≠ '/' && c ≠ '\\' && c ≠ '?' && c ≠ '#'
  let (host, port) := hostAndPort authority
  webSchemes.contains (scheme.map Char.toLower) && Host.isValid host && isPort port

end Endpoint

end Workyard
