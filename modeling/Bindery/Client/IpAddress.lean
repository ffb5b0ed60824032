import Bindery.Text.Quoted

/-!
# Network addresses

The number of a machine, as it may stand between brackets in the place of a host name. An address of
four parts is written in decimal with dots, one of eight parts in hexadecimal with colons. Two colons
without anything between them stand for a run of zeros, and the last two of the eight parts may be
written as four.

## Main definitions

- `IpError`, `IpError.message` — why a text is no network address
- `IpAddress` — whether an address has four or eight parts
- `IpAddress.parse` — reads an address
-/

namespace Bindery

/-- Why a text is no network address. The text `place` begins where the fault is. -/
inductive IpReason where
  | noAddress
  | missing
  | emptyZone
  | octetZero
  | octetLarge
  | octetMissing (place : Octets)
  | octetsMany
  | octetsFew
  | unexpected (place : Octets)
  | groupLong (place : Octets)
  | groupMissing (place : Octets)
  | dottedPlace (place : Octets)
  | dottedRoom (place : Octets)
  | noColon (place : Octets)
  | colonLast (place : Octets)
  | secondRun (place : Octets)
  | trailing (place : Octets)
  | groupsFew
  | emptyRun
  deriving DecidableEq, Repr

namespace IpReason

/-- The text of a reason, without the place. -/
def text : IpReason → String
  | noAddress => "unable to parse IP"
  | missing => "missing IPv6 address"
  | emptyZone => "zone must be a non-empty string"
  | octetZero => "IPv4 field has octet with leading zero"
  | octetLarge => "IPv4 field has value >255"
  | octetMissing _ => "IPv4 field must have at least one digit"
  | octetsMany => "IPv4 address too long"
  | octetsFew => "IPv4 address too short"
  | unexpected _ => "unexpected character"
  | groupLong _ => "each group must have 4 or fewer digits"
  | groupMissing _ => "each colon-separated field must have at least one digit"
  | dottedPlace _ => "embedded IPv4 address must replace the final 2 fields of the address"
  | dottedRoom _ => "too many hex fields to fit an embedded IPv4 at the end of the address"
  | noColon _ => "unexpected character, want colon"
  | colonLast _ => "colon must be followed by more characters"
  | secondRun _ => "multiple :: in address"
  | trailing _ => "trailing garbage after address"
  | groupsFew => "address string too short"
  | emptyRun => "the :: must expand to at least one field of zeros"

/-- Where the fault is, empty if the whole text is at fault. -/
def place : IpReason → Octets
  | octetMissing o | unexpected o | groupLong o | groupMissing o | dottedPlace o | dottedRoom o
  | noColon o | colonLast o | secondRun o | trailing o => o
  | _ => []

end IpReason

/-- Why a text is no network address. -/
structure IpError where
  /-- The text. -/
  text : Octets
  /-- The reason. -/
  reason : IpReason
  deriving DecidableEq, Repr

/-- The text of an error about a network address. -/
def IpError.message (e : IpError) : String :=
  let start := "ParseAddr(" ++ e.text.quoted ++ "): " ++ e.reason.text
  if e.reason.place.isEmpty then start else start ++ " (at " ++ e.reason.place.quoted ++ ")"

/-- The kinds of network addresses. -/
inductive IpAddress where
  /-- Four parts. -/
  | four
  /-- Eight parts. -/
  | eight
  deriving DecidableEq, Repr

namespace IpAddress

/-- Whether an octet is a hexadecimal digit. -/
def isHexDigit (b : UInt8) : Bool :=
  0x30 ≤ b && b ≤ 0x39 || 0x61 ≤ b && b ≤ 0x66 || 0x41 ≤ b && b ≤ 0x46

/-- Checks four decimal parts with dots between them. `parts` counts the parts that are complete,
`digits` those of the last part, whose value is `value`. -/
def checkDotted (parts digits value : Nat) : Octets → Except IpReason Unit
  | [] => if parts < 3 then .error .octetsFew else .ok ()
  | b :: rest =>
    if 0x30 ≤ b && b ≤ 0x39 then
      let grown := value * 10 + (b.toNat - 48)
      if digits == 1 && value == 0 then .error .octetZero
      else if grown > 255 then .error .octetLarge
      else checkDotted parts (digits + 1) grown rest
    else if b == 0x2e then
      if rest.isEmpty || digits == 0 then .error (.octetMissing (b :: rest))
      else if parts == 3 then .error .octetsMany
      else checkDotted (parts + 1) 0 0 rest
    else .error (.unexpected (b :: rest))

/-- Checks hexadecimal parts with colons between them, of which `parts` have been read and `run` says
that a run of zeros has been left out. -/
def checkGroups (parts : Nat) (run : Bool) (o : Octets) : Except IpReason Unit :=
  if parts < 8 then
    let digits := o.takeWhile isHexDigit
    let rest := o.dropWhile isHexDigit
    if digits.length > 4 then .error (.groupLong o)
    else if digits.isEmpty then .error (.groupMissing o)
    else match rest with
      | [] => finish (parts + 1) run []
      | 0x2e :: _ =>
        if !run && parts != 6 then .error (.dottedPlace o)
        else if parts > 6 then .error (.dottedRoom o)
        else do
          checkDotted 0 0 0 o
          finish (parts + 2) run []
      | [0x3a] => .error (.colonLast rest)
      | 0x3a :: 0x3a :: after =>
        if run then .error (.secondRun (0x3a :: after))
        else if after.isEmpty then finish (parts + 1) true []
        else checkGroups (parts + 1) true after
      | 0x3a :: after => checkGroups (parts + 1) run after
      | _ => .error (.noColon rest)
  else finish parts run o
termination_by 8 - parts
where
  /-- Checks that nothing is left and that the parts are eight. -/
  finish (parts : Nat) (run : Bool) (rest : Octets) : Except IpReason Unit :=
    if !rest.isEmpty then .error (.trailing rest)
    else if parts < 8 then if run then .ok () else .error .groupsFew
    else if run then .error .emptyRun
    else .ok ()

/-- Checks an address of eight parts, which a percent sign and the name of a zone may follow. -/
def checkEight (o : Octets) : Except IpReason Unit :=
  let address := o.takeWhile (· != 0x25)
  if o.dropWhile (· != 0x25) == [0x25] then .error .emptyZone
  else match address with
    | [0x3a, 0x3a] => .ok ()
    | 0x3a :: 0x3a :: rest => checkGroups 0 true rest
    | _ => checkGroups 0 false address

/-- Reads a network address. The first dot, colon or percent sign tells its kind. -/
def parse (o : Octets) : Except IpError IpAddress :=
  let result : Except IpReason IpAddress :=
    match o.find? fun b => b == 0x2e || b == 0x3a || b == 0x25 with
    | none => .error .noAddress
    | some 0x2e => (checkDotted 0 0 0 o).map fun _ => .four
    | some 0x3a => (checkEight o).map fun _ => .eight
    | some _ => .error .missing
  result.mapError (⟨o, ·⟩)

end IpAddress

end Bindery
