import Flowgraph.Number.Digits
import Flowgraph.Text.Search
import Flowgraph.Url.Percent
import Flowgraph.Url.Domain
/-!
# Hosts

The host of a URL is a domain, an address of version 4 or 6, or, under a scheme that is not
special, any text. A domain whose last label is a number must be an address of version 4.

Main definitions: `UrlError`, `Host`, `Host.read`, `Host.readLoose`, `Host.render`,
`Ipv4.read?`, `Ipv6.read?`.
-/

namespace Flowgraph

/-- Why a text is no URL. -/
inductive UrlError where
  | relativeWithoutBase
  | emptyHost
  | invalidPort
  | invalidIpv4
  | invalidIpv6
  | invalidDomainCharacter
  | invalidDomainName
  deriving DecidableEq

/-- The message of an error. -/
def UrlError.message : UrlError → String
  | relativeWithoutBase => "relative URL without a base"
  | emptyHost => "empty host"
  | invalidPort => "invalid port number"
  | invalidIpv4 => "invalid IPv4 address"
  | invalidIpv6 => "invalid IPv6 address"
  | invalidDomainCharacter => "invalid domain character"
  | invalidDomainName => "invalid international domain name"

/-! ## Addresses of version 4 -/

namespace Ipv4

/-- The value of a digit in a base up to sixteen. -/
def digitIn? (base : Nat) (c : Char) : Option Nat :=
  (Percent.hexValue? (UInt8.ofNat c.toNat)).filter fun d => d < base && c.toNat < 128

/-- The number of digits in a base; no digits are zero. -/
def numberIn? (base : Nat) (cs : List Char) : Option Nat :=
  cs.foldlM (fun n c => (digitIn? base c).map fun d => n * base + d) 0

/-- One part of an address: decimal, octal behind a zero, or of base sixteen behind `0x`. -/
def readPart? : List Char → Option Nat
  | [] => none
  | '0' :: 'x' :: rest | '0' :: 'X' :: rest => numberIn? 16 rest
  | '0' :: c :: rest => numberIn? 8 (c :: rest)
  | cs => numberIn? 10 cs

/-- The parts of a domain between dots, an empty last one aside. -/
def partsOf (cs : List Char) : List (List Char) :=
  let parts := cs.splitOn '.'
  if parts.length > 1 ∧ parts.getLast? = some [] then parts.dropLast else parts

/-- Whether the last part of a domain is a number, so that the domain must be an address. -/
def endsInNumber (cs : List Char) : Bool :=
  match (partsOf cs).getLast? with
  | some last => (!last.isEmpty && last.all Number.isDigit) || (readPart? last).isSome
  | none => false

/-- The address of its parts: all but the last are octets, the last fills the rest. -/
def combine? (parts : List Nat) : Option Nat :=
  match parts.getLast? with
  | none => none
  | some last =>
    let front := parts.dropLast
    if 3 < front.length || 1 <<< (8 * (4 - front.length)) ≤ last || front.any (255 < ·) then none
    else some (front.zipIdx.foldl (fun n (part, i) => n + part <<< (8 * (3 - i))) last)

/-- Reads an address as a number of 32 bits. -/
def read? (cs : List Char) : Option Nat :=
  ((partsOf cs).mapM readPart?).bind combine?

/-- The four octets between dots. -/
def render (address : Nat) : List Char :=
  ['.'].intercalate
    ([3, 2, 1, 0].map fun i => Number.digits (address >>> (8 * i) % 256))

end Ipv4

/-! ## Addresses of version 6 -/

namespace Ipv6

/-- One octet of an embedded address of version 4, without a zero in front. -/
def readOctet? (cs : List Char) : Option Nat :=
  if cs.length > 1 ∧ cs.head? = some '0' then none
  else (Number.readNat? cs).filter (· ≤ 255)

/-- The two pieces of an embedded address of version 4. -/
def readEmbedded? (cs : List Char) : Option (List Nat) := do
  match ← (cs.splitOn '.').mapM readOctet? with
  | [a, b, c, d] => return [256 * a + b, 256 * c + d]
  | _ => none

/-- One piece of one to four digits of base sixteen. -/
def readPiece? (cs : List Char) : Option Nat :=
  if cs.isEmpty || 4 < cs.length then none else Ipv4.numberIn? 16 cs

/-- The pieces between colons; with `mayEmbed` the last one may be an address of version 4. -/
def readPieces? (mayEmbed : Bool) : List (List Char) → Option (List Nat)
  | [] => some []
  | [last] =>
    if mayEmbed && last.contains '.' then readEmbedded? last else (readPiece? last).map ([·])
  | piece :: rest => do return (← readPiece? piece) :: (← readPieces? mayEmbed rest)

/-- The pieces of one side of a double colon, which may be empty. -/
def readSide? (mayEmbed : Bool) (cs : List Char) : Option (List Nat) :=
  if cs.isEmpty then some [] else readPieces? mayEmbed (cs.splitOn ':')

/-- Reads the eight pieces of an address; a double colon stands for one or more zeros. -/
def read? (cs : List Char) : Option (List Nat) := do
  match Text.cutAt? [':', ':'] cs with
  | some (front, back) =>
    let front ← readSide? false front
    let back ← readSide? true back
    if front.length + back.length < 8 then
      return front ++ List.replicate (8 - front.length - back.length) 0 ++ back
    else none
  | none =>
    let pieces ← readPieces? true (cs.splitOn ':')
    if pieces.length = 8 then return pieces else none

/-- The length of the run of zeros in front. -/
def zeroRun (pieces : List Nat) : Nat :=
  (pieces.takeWhile (· = 0)).length

/-- The place and length of the first longest run of zeros, looking from place `i` on. -/
def longestZeroRun (i : Nat) : List Nat → Nat × Nat
  | [] => (i, 0)
  | piece :: rest =>
    let here := zeroRun (piece :: rest)
    let later := longestZeroRun (i + 1) rest
    if later.2 ≤ here then (i, here) else later

/-- The digits of a piece, without zeros in front. -/
def renderPiece (piece : Nat) : List Char :=
  Nat.toDigits 16 piece

/-- Pieces between colons. -/
def renderPieces (pieces : List Nat) : List Char :=
  [':'].intercalate (pieces.map renderPiece)

/-- The pieces with the first longest run of two or more zeros as a double colon. -/
def render (pieces : List Nat) : List Char :=
  let (start, length) := longestZeroRun 0 pieces
  if length < 2 then renderPieces pieces
  else
    renderPieces (pieces.take start) ++ ':' :: ':' :: renderPieces (pieces.drop (start + length))

end Ipv6

/-! ## Hosts -/

/-- The host of a URL. -/
inductive Host where
  | domain (name : List Char)
  | ipv4 (address : Nat)
  | ipv6 (pieces : List Nat)
  deriving DecidableEq

namespace Host

/-- The written form of a host. -/
def render : Host → List Char
  | domain name => name
  | ipv4 address => Ipv4.render address
  | ipv6 pieces => '[' :: (Ipv6.render pieces ++ [']'])

/-- Whether a host is the empty domain. -/
def isEmpty : Host → Bool
  | domain name => name.isEmpty
  | _ => false

/-- Reads an address of version 6 behind its opening bracket. -/
def readBracketed (cs : List Char) : Except UrlError Host :=
  match cs.getLast?, Ipv6.read? cs.dropLast with
  | some ']', some pieces => .ok (.ipv6 pieces)
  | _, _ => .error .invalidIpv6

/-- Reads the host of a special scheme. -/
def read : List Char → Except UrlError Host
  | '[' :: rest => readBracketed rest
  | cs =>
    match (Text.ofOctets? (Percent.decode (Text.octetsOf cs))).bind Domain.toAscii? with
    | none => .error .invalidDomainName
    | some name =>
      if name.isEmpty then .error .emptyHost
      else if Ipv4.endsInNumber name then
        match Ipv4.read? name with
        | some address => .ok (.ipv4 address)
        | none => .error .invalidIpv4
      else .ok (.domain name)

/-- Whether a character may not stand in the host of a scheme that is not special. -/
def isForbidden (c : Char) : Bool :=
  c = Char.ofNat 0 || "\t\n\r #/:<>?@[\\]^|".toList.contains c

/-- Reads the host of a scheme that is not special. -/
def readLoose : List Char → Except UrlError Host
  | '[' :: rest => readBracketed rest
  | cs =>
    if cs.any isForbidden then .error .invalidDomainCharacter
    else .ok (.domain (Percent.encode Percent.isPlain cs))

end Host

end Flowgraph
