import DnsHealth.Address.Basic
import DnsHealth.Message.Extensions
import DnsHealth.Message.Property
import DnsHealth.Message.Reader
import DnsHealth.Message.TypeBitmap
import DnsHealth.Record.Type

/-!
# Record data in messages

The data of a record as a message carries it, with names by their labels. Data whose names may be
compressed is taken apart; other data is kept as bytes, those of keys and properties in normal form.
Types that the library does not model are checked for their form all the same, because one malformed
record spoils its message.
-/

namespace DnsHealth.Message

/-- The data of a record in a message. -/
inductive WireData where
  | a (address : Ipv4)
  | aaaa (address : Ipv6)
  | ns (host : LabelName)
  | cname (target : LabelName)
  | mx (preference : UInt16) (exchange : LabelName)
  | soa (mname rname : LabelName) (serial refresh retry expire minimum : UInt32)
  | txt (strings : List (List UInt8))
  | srv (priority weight port : UInt16) (target : LabelName)
  /-- A signature: the fields before the name of the signer, the name, and the signature itself. -/
  | rrsig (head : List UInt8) (signer : LabelName) (signature : List UInt8)
  /-- Data that is kept as bytes. -/
  | bytes (data : List UInt8)
  deriving DecidableEq, Repr

open Reader

/-- The bytes of a piece of data whose form a reader checks. -/
def checked (r : Reader Unit) : Reader WireData := fun message c =>
  (r message c).map fun (_, next) => (.bytes c.rest, next)

/-- Takes all bytes that are left, which have to pass a test. -/
def takeIf (test : List UInt8 → Bool) : Reader Unit := do require (test (← takeAll))

/-- Takes an IPv4 address. -/
def ipv4 : Reader Ipv4 := do
  return ⟨← u8, ← u8, ← u8, ← u8⟩

/-- Takes an IPv6 address. -/
def ipv6 : Reader Ipv6 := do
  ofOption (Ipv6.ofGroups? (← times 8 u16))

/-- Takes a string behind its length byte. -/
def characterString : Reader (List UInt8) := do take (← u8).toNat

/-- Takes the data of a key whose flags outside a mask are dropped. -/
def keyData : Reader WireData := do
  let flags ← u16
  let protocol ← u8
  let algorithm ← u8
  require (protocol = 3)
  return .bytes (Bytes.of16 (flags &&& 0x0181) ++ [protocol, algorithm] ++ (← takeAll))

/-- Takes the data of a delegation signer, of a digest type from one to five. -/
def signerData : Reader WireData := checked do
  let _ ← take 3
  let digestType ← u8
  require (1 ≤ digestType && digestType ≤ 5)
  takeIf fun _ => true

/-- Takes the data of a signature. -/
def signatureData : Reader WireData := do
  return .rrsig (← take 18) (← name) (← takeAll)

/-- Takes the fields that hashed denials of existence begin with. -/
def hashParameters : Reader Unit := do
  require ((← u8) = 1)
  require ((← u8) &&& 0xFE = 0)
  let _ ← u16
  let _ ← characterString

/-- Takes the data of a service binding. -/
def serviceBinding : Reader WireData := checked do
  let _ ← u16
  let _ ← name
  takeIf (isServiceParameters none)

/-- Takes the data of a transaction signature. -/
def transactionSignature : Reader WireData := checked do
  let _ ← name
  let _ ← take 8
  let _ ← take (← u16).toNat
  let _ ← take 4
  let _ ← take (← u16).toNat

/-- Takes the data of a rule for rewriting names. -/
def namingAuthority : Reader WireData := checked do
  let _ ← take 4
  let flags ← characterString
  require (flags.all isAlphanumeric)
  let _ ← characterString
  let _ ← characterString
  let _ ← name

/-- Takes at least a given number of bytes. -/
def atLeast (n : Nat) : Reader WireData := checked (takeIf fun bytes => decide (n ≤ bytes.length))

/-- Takes the data of a record of a given type off a stretch that holds just this. -/
def wireData (code : UInt16) : Reader WireData :=
  match code.toNat with
  | 0 => fail
  | 1 => return .a (← ipv4)
  | 2 => return .ns (← name)
  | 5 => return .cname (← name)
  | 6 => return .soa (← name) (← name) (← u32) (← u32) (← u32) (← u32) (← u32)
  | 12 | 65305 => checked do let _ ← name
  | 13 => checked do
    let _ ← characterString
    let _ ← characterString
  | 15 => return .mx (← u16) (← name)
  | 16 => do return .txt (← ofOption (characterStrings? (← takeAll)))
  | 24 | 46 => signatureData
  | 25 => checked do
    require ((← u16) &&& 0x3CF0 = 0)
    let _ ← take 2
    takeIf fun _ => true
  | 28 => return .aaaa (← ipv6)
  | 33 => return .srv (← u16) (← u16) (← u16) (← name)
  | 35 => namingAuthority
  | 41 => checked (takeIf fun bytes => isOptionList bytes.length bytes)
  | 43 | 59 => signerData
  | 44 => atLeast 2
  | 47 => checked do
    let _ ← name
    takeIf isTypeBitmap
  | 48 | 60 => keyData
  | 50 => checked do
    hashParameters
    let _ ← characterString
    takeIf isTypeBitmap
  | 51 => checked hashParameters
  | 52 => atLeast 3
  | 62 => checked do
    let _ ← u32
    require ((← u16) &&& 0xFC = 0)
    takeIf isTypeBitmap
  | 64 | 65 => serviceBinding
  | 250 => transactionSignature
  | 251 | 252 | 255 => fail
  | 257 => do return .bytes (← ofOption (caa? (← takeAll)))
  | _ => return .bytes (← takeAll)

end DnsHealth.Message
