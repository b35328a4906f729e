import DnsHealth.Json.Decode

/-!
# Record types

The thirteen types that the library models, with their mnemonics and their numbers. Both are one to
one: a number or a mnemonic stands for at most one type, and each type reads back from its own.
-/

namespace DnsHealth

/-- The type of a resource record, or of a question about one. -/
inductive RecordType where
  | a
  | ns
  | cname
  | soa
  | mx
  | txt
  | aaaa
  | srv
  | ds
  | rrsig
  | dnskey
  | caa
  | axfr
  deriving DecidableEq, Repr

namespace RecordType

/-- Every record type, in order of declaration. -/
def all : List RecordType :=
  [a, ns, cname, soa, mx, txt, aaaa, srv, ds, rrsig, dnskey, caa, axfr]

/-- The mnemonic of a type. -/
def mnemonic : RecordType → String
  | a => "A"
  | ns => "NS"
  | cname => "CNAME"
  | soa => "SOA"
  | mx => "MX"
  | txt => "TXT"
  | aaaa => "AAAA"
  | srv => "SRV"
  | ds => "DS"
  | rrsig => "RRSIG"
  | dnskey => "DNSKEY"
  | caa => "CAA"
  | axfr => "AXFR"

/-- The number of a type on the wire. -/
def code : RecordType → UInt16
  | a => 1
  | ns => 2
  | cname => 5
  | soa => 6
  | mx => 15
  | txt => 16
  | aaaa => 28
  | srv => 33
  | ds => 43
  | rrsig => 46
  | dnskey => 48
  | caa => 257
  | axfr => 252

/-- The type with a given number. -/
def ofCode? (n : UInt16) : Option RecordType := all.find? (·.code = n)

/-- The type with a given mnemonic, in exact case. -/
def ofMnemonic? (s : String) : Option RecordType := all.find? (·.mnemonic = s)

/-- A character in capital form, as far as it can matter for a mnemonic: the capitals of the long s
and of the dotless i are ASCII letters. -/
def capital (c : Char) : Char :=
  if c = 'ſ' then 'S' else if c = 'ı' then 'I' else c.toUpper

/-- The type that a user's text means, in any case. -/
def parse? (s : String) : Option RecordType :=
  ofMnemonic? (String.ofList (s.toList.map capital))

/-- What is said about a text that means no record type. -/
def unknownMessage (s : String) : String := "Unknown record type: " ++ s

/-- The types of the security extensions. -/
def isDnssec : RecordType → Bool
  | ds | rrsig | dnskey => true
  | _ => false

/-- The types whose data is an address. -/
def isAddress : RecordType → Bool
  | a | aaaa => true
  | _ => false

/-- A type as JSON. -/
def toJson (t : RecordType) : Json := .str t.mnemonic

/-- Reads a type from JSON. -/
def ofJson? (j : Json) : Option RecordType := j.tag? Json.isNull >>= ofMnemonic?

/-- Reads a type from JSON that may also give it as the key of an object without members. -/
def ofLooseJson? (j : Json) : Option RecordType := j.tag? Json.isVoid >>= ofMnemonic?

@[simp] theorem ofCode?_code (t : RecordType) : ofCode? t.code = some t := by
  cases t <;> decide

theorem code_of_ofCode? {n : UInt16} {t : RecordType} (h : ofCode? n = some t) : t.code = n := by
  simpa using List.find?_some h

/-- No two types share a number. -/
theorem code_injective {s t : RecordType} (h : s.code = t.code) : s = t := by
  have hs := ofCode?_code s
  rw [h, ofCode?_code] at hs
  exact (Option.some.inj hs).symm

@[simp] theorem ofMnemonic?_mnemonic (t : RecordType) : ofMnemonic? t.mnemonic = some t := by
  cases t <;> decide

end RecordType

end DnsHealth
