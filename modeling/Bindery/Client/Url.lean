import Bindery.Client.IpAddress
import Bindery.Text.Octets
import Bindery.Text.Quoted

/-!
# Addresses

The address of a server, taken apart and put together again. Octets that may not stand in a part of
an address are written with a percent sign and two hexadecimal digits.

## Main definitions

- `UrlPart` — the parts of an address that escape different octets
- `percentEncode`, `percentDecode` — escapes octets of a part and reads them back
- `Url`, `Url.parse`, `Url.text` — an address, how it is read and how it is written
- `UrlError`, `UrlError.message` — why a text is no address
-/

namespace Bindery

/-- The parts of an address that escape different octets. -/
inductive UrlPart where
  | user
  | host
  | zone
  | path
  | fragment
  deriving DecidableEq, Repr

/-- Why a text is no address. -/
inductive UrlError where
  | control
  | missingScheme
  | colonInPath
  | userinfo
  | escape (text : Octets)
  | hostChar (text : Octets)
  | port (text : Octets)
  | missingBracket
  | literal
  | address (error : IpError)
  deriving DecidableEq, Repr

/-- The text of an error about an address. -/
def UrlError.message : UrlError → String
  | control => "net/url: invalid control character in URL"
  | missingScheme => "missing protocol scheme"
  | colonInPath => "first path segment in URL cannot contain colon"
  | userinfo => "net/url: invalid userinfo"
  | escape text => "invalid URL escape " ++ text.quoted
  | hostChar text => "invalid character " ++ text.quoted ++ " in host name"
  | port text => "invalid port " ++ text.quoted ++ " after host"
  | missingBracket => "missing ']' in host"
  | literal => "invalid IP-literal"
  | address e => "invalid host: " ++ e.message

/-- The octet of a character below 128. -/
def octetOf (c : Char) : UInt8 :=
  c.toNat.toUInt8

/-- Whether an octet is one of some characters. -/
def isOneOf (chars : String) (b : UInt8) : Bool :=
  chars.toList.any fun c => octetOf c == b

/-- Whether an octet is a letter or a digit. -/
def isAlphanumeric (b : UInt8) : Bool :=
  b < 0x80 && (Char.ofNat b.toNat).isAlphanum

/-- Whether an octet has to be escaped in a part of an address. -/
def UrlPart.escapes (part : UrlPart) (b : UInt8) : Bool :=
  if isAlphanumeric b || isOneOf "-_.~" b then false
  else match part with
    | .host | .zone => !isOneOf "!$&'()*+,;=:[]<>\"" b
    | .user => if isOneOf "$&+,/:;=?@" b then isOneOf "@/?:" b else true
    | .path => if isOneOf "$&+,/:;=?@" b then isOneOf "?" b else true
    | .fragment => !isOneOf "$&+,/:;=?@!()*" b

/-- An octet as a percent sign and two digits. -/
def percentOctet (b : UInt8) : Octets :=
  0x25 :: ((hexDigits 2 b.toNat).map fun c => octetOf c.toUpper)

/-- The octets of a part of an address with those escaped that have to be. -/
def percentEncode (part : UrlPart) (o : Octets) : Octets :=
  o.flatMap fun b => if part.escapes b then percentOctet b else [b]

/-- The value of an octet that is a hexadecimal digit. -/
def hexOctet? (b : UInt8) : Option Nat :=
  if 0x30 ≤ b && b ≤ 0x39 then some (b.toNat - 48)
  else if 0x61 ≤ b && b ≤ 0x66 then some (b.toNat - 87)
  else if 0x41 ≤ b && b ≤ 0x46 then some (b.toNat - 55)
  else none

/-- Whether an octet may be written with a percent sign in a part of an address: in a host only those
beyond 127 and the percent sign itself, and in the zone of a network address also a space and what need
not be escaped. -/
def UrlPart.mayEscape (part : UrlPart) (b : UInt8) : Bool :=
  match part with
  | .host => 0x80 ≤ b || b == 0x25
  | .zone => b == 0x25 || b == 0x20 || !UrlPart.escapes .host b
  | _ => true

/-- Whether an octet may not stand in a part of an address as it is. -/
def UrlPart.refuses (part : UrlPart) (b : UInt8) : Bool :=
  (part == .host || part == .zone) && b < 0x80 && part.escapes b

/-- The octets that a part of an address stands for. -/
def percentDecode (part : UrlPart) : Octets → Except UrlError Octets
  | [] => .ok []
  | 0x25 :: a :: b :: rest =>
    match hexOctet? a, hexOctet? b with
    | some x, some y =>
      let value := UInt8.ofNat (x * 16 + y)
      if part.mayEscape value then (percentDecode part rest).map (value :: ·)
      else .error (.escape [0x25, a, b])
    | _, _ => .error (.escape [0x25, a, b])
  | 0x25 :: rest => .error (.escape (0x25 :: rest.take 2))
  | b :: rest =>
    if part.refuses b then .error (.hostChar [b])
    else (percentDecode part rest).map (b :: ·)

/-- Whether a text can stand in a part of an address as it is. -/
def isEncoded (part : UrlPart) (o : Octets) : Bool :=
  o.all fun b => isOneOf "!$&'()*+,;=:@[]%" b || !part.escapes b

/-- A text as it stands in a part of an address: as it was given if it can stand so, and escaped
otherwise. -/
def escapedAsGiven (part : UrlPart) (o : Octets) : Except UrlError Octets := do
  let decoded ← percentDecode part o
  return if isEncoded part o then o else percentEncode part decoded

/-- The name and the password in an address. -/
structure UserInfo where
  /-- The name. -/
  name : Octets
  /-- The password, if there is one. -/
  password : Option Octets
  deriving DecidableEq, Repr

/-- What follows the scheme of an address. -/
inductive UrlBody where
  /-- Something that is no path. -/
  | other (text : Octets)
  /-- A host and a path, the host being none if the address does not even give an empty one. -/
  | hierarchy (user : Option UserInfo) (host : Option Octets) (path : Octets)
  deriving DecidableEq, Repr

/-- An address. -/
structure Url where
  /-- The scheme, empty if there is none. -/
  scheme : String
  /-- What follows the scheme. -/
  body : UrlBody
  /-- The query, none if there is no question mark. -/
  query : Option Octets
  /-- The fragment, empty if there is none. -/
  fragment : Octets
  deriving DecidableEq, Repr

namespace Url

/-- The text before and after the first octet equal to `b`, none if there is none. -/
def cut (b : UInt8) (o : Octets) : Octets × Option Octets :=
  match o.span (· != b) with
  | (before, []) => (before, none)
  | (before, _ :: after) => (before, some after)

/-- The text before and after the last octet equal to `b`, none if there is none. -/
def cutLast (b : UInt8) (o : Octets) : Option (Octets × Octets) :=
  match cut b o.reverse with
  | (_, none) => none
  | (after, some before) => some (before.reverse, after.reverse)

/-- The scheme of an address and the text after its colon, without a scheme if the beginning is none. -/
def scheme? (o : Octets) : Except UrlError (Octets × Octets) :=
  let isLetter := fun (b : UInt8) => b < 0x80 && (Char.ofNat b.toNat).isAlpha
  let (start, rest) := o.span fun b => isAlphanumeric b || isOneOf "+-." b
  match rest with
  | 0x3a :: after =>
    if start.isEmpty then .error .missingScheme
    else if start.head?.any isLetter then .ok (start, after)
    else .ok ([], o)
  | _ => .ok ([], o)

/-- Whether a text is a colon and digits, or nothing. -/
def isPort : Octets → Bool
  | [] => true
  | b :: rest => b == 0x3a && rest.all fun d => 0x30 ≤ d && d ≤ 0x39

/-- The text before and after the first place where a percent sign is escaped, which is kept in the
second text. -/
def cutZone : Octets → Octets × Octets
  | [] => ([], [])
  | b :: rest =>
    if (b :: rest).take 3 == [0x25, 0x32, 0x35] then ([], b :: rest)
    else let (before, after) := cutZone rest; (b :: before, after)

/-- The network address between brackets. -/
def parseLiteral (o : Octets) : Except UrlError Octets := do
  let (address, zone) := cutZone o
  let text := (← percentDecode .host address) ++ (← percentDecode .zone zone)
  match IpAddress.parse text with
  | .error e => throw (.address e)
  | .ok .four => throw .literal
  | .ok .eight => return text

/-- The host of an address with its port. -/
def parseHost (o : Octets) : Except UrlError Octets := do
  match cutLast 0x5b o with
  | some ([], rest) =>
    match cutLast 0x5d rest with
    | none => throw .missingBracket
    | some (literal, port) =>
      if !isPort port then throw (.port port)
      return 0x5b :: (← parseLiteral literal) ++ 0x5d :: port
  | some _ => throw .literal
  | none =>
    match cutLast 0x3a o with
    | some (_, port) => if !isPort (0x3a :: port) then throw (.port (0x3a :: port))
    | none => pure ()
    percentDecode .host o

/-- The user and the host of an address. -/
def parseAuthority (o : Octets) : Except UrlError (Option UserInfo × Octets) := do
  match cutLast 0x40 o with
  | none => return (none, ← parseHost o)
  | some (info, host) =>
    let host ← parseHost host
    if !info.all fun b => isAlphanumeric b || isOneOf "-._:~!$&'()*+,;=%@" b then throw .userinfo
    match cut 0x3a info with
    | (name, none) => return (some ⟨← percentDecode .user name, none⟩, host)
    | (name, some password) =>
      return (some ⟨← percentDecode .user name, some (← percentDecode .user password)⟩, host)

/-- What follows the scheme of an address, without its query. -/
def parseBody (hasScheme : Bool) (o : Octets) : Except UrlError UrlBody := do
  match o with
  | 0x2f :: 0x2f :: rest =>
    if !hasScheme && rest.head? == some 0x2f then
      return .hierarchy none none (← escapedAsGiven .path o)
    let (authority, path) := rest.span (· != 0x2f)
    let (user, host) ← parseAuthority authority
    return .hierarchy user (some host) (← escapedAsGiven .path path)
  | 0x2f :: _ => return .hierarchy none none (← escapedAsGiven .path o)
  | o =>
    if hasScheme then return .other o
    if (cut 0x2f o).1.contains 0x3a then throw .colonInPath
    return .hierarchy none (some []) (← escapedAsGiven .path o)

/-- Reads an address without a fragment. -/
def parseMain (o : Octets) : Except UrlError Url := do
  if o.any fun b => b < 0x20 || b == 0x7f then throw .control
  let (scheme, rest) ← scheme? o
  let (rest, query) := cut 0x3f rest
  let body ← parseBody (!scheme.isEmpty) rest
  return ⟨String.ofList ((Octets.lossy scheme).toList.map Char.toLower), body, query, []⟩

/-- Reads an address. An error comes with the text that is at fault: the address without its fragment,
or all of it if the fragment is at fault. -/
def parse (o : Octets) : Except (Octets × UrlError) Url := do
  let (main, fragment) := cut 0x23 o
  let url ← (parseMain main).mapError (main, ·)
  let fragment ← (escapedAsGiven .fragment (fragment.getD [])).mapError (o, ·)
  return { url with fragment }

/-- A host without a colon that no port follows. -/
def trimPort (host : Octets) : Octets :=
  match host.reverse with
  | 0x3a :: rest => rest.reverse
  | _ => host

/-- The address without a colon that no port follows. -/
def withoutEmptyPort (u : Url) : Url :=
  match u.body with
  | .hierarchy user host path => { u with body := .hierarchy user (host.map trimPort) path }
  | _ => u

/-- The name and the password of an address as they stand before the host. -/
def userText (user : UserInfo) (password : Octets → Octets) : Octets :=
  percentEncode .user user.name ++ (user.password.elim [] fun p => 0x3a :: password p) ++ [0x40]

/-- What follows the scheme of an address. -/
def bodyText (hasScheme : Bool) (password : Octets → Octets) : UrlBody → Octets
  | .other o => o
  | .hierarchy user host path =>
    let hostText := percentEncode .host (host.getD [])
    let named := hasScheme || !hostText.isEmpty || user.isSome
    let slashes := named && host.isSome && (!hostText.isEmpty || !path.isEmpty || user.isSome)
    let start := if slashes then [0x2f, 0x2f] ++ user.elim [] (userText · password) ++ hostText else []
    let joint : Octets := if !path.isEmpty && path.head? != some 0x2f && !hostText.isEmpty then [0x2f] else []
    let dot : Octets :=
      if !hasScheme && start.isEmpty && (cut 0x2f path).1.contains 0x3a then [0x2e, 0x2f] else []
    start ++ joint ++ dot ++ path

/-- The text of an address whose password is written by `password`. -/
def textWith (password : Octets → Octets) (u : Url) : Octets :=
  let scheme := if u.scheme == "" then [] else Octets.ofString (u.scheme ++ ":")
  scheme ++ bodyText (u.scheme != "") password u.body ++ (u.query.elim [] (0x3f :: ·)) ++
    (if u.fragment.isEmpty then [] else 0x23 :: u.fragment)

/-- The text of an address. -/
def text (u : Url) : Octets :=
  u.textWith (percentEncode .user)

/-- The text of an address that does not tell its password. -/
def redacted (u : Url) : Octets :=
  u.textWith fun _ => [0x2a, 0x2a, 0x2a]

/-- The name and the password of an address. -/
def user? (u : Url) : Option UserInfo :=
  match u.body with
  | .hierarchy user _ _ => user
  | _ => none

end Url

end Bindery
