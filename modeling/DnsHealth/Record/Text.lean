import DnsHealth.Record.Data
import DnsHealth.Text.Utf8

/-!
# Presentation lines

A record as one line: owner, time to live, class, type and data, with tabs between them. Character
strings and the values of CAA records are quoted, keys and signatures are in Base64, digests in
hexadecimal digits.
-/

namespace DnsHealth

open Text (Decimal.ofNat Quoted.quote)

/-- The presentation form of SOA data. -/
def Soa.text (s : Soa) : String :=
  s.mname ++ " " ++ s.rname ++ " " ++ Decimal.ofNat s.serial.toNat ++ " " ++
    Decimal.ofNat s.refresh.toNat ++ " " ++ Decimal.ofNat s.retry.toNat ++ " " ++
    Decimal.ofNat s.expire.toNat ++ " " ++ Decimal.ofNat s.minimum.toNat

/-- The presentation form of record data. -/
def RecordData.text : RecordData → String
  | a address => address.text
  | aaaa address => address.text
  | ns host => host
  | cname target => target
  | mx preference exchange => Decimal.ofNat preference.toNat ++ " " ++ exchange
  | soa authority => authority.text
  | txt strings => " ".intercalate (strings.map Quoted.quote)
  | srv priority weight port target =>
    Decimal.ofNat priority.toNat ++ " " ++ Decimal.ofNat weight.toNat ++ " " ++
      Decimal.ofNat port.toNat ++ " " ++ target
  | caa flags tag value =>
    Decimal.ofNat flags.toNat ++ " " ++ tag ++ " " ++
      Quoted.quote (String.ofList (Text.Utf8.decodeLossy value))
  | dnskey key => key.text
  | ds signer => signer.text
  | rrsig signed => signed.text

/-- The line of a record. -/
def Record.line (r : Record) : String :=
  r.name ++ "\t" ++ Decimal.ofNat r.ttl.toNat ++ "\tIN\t" ++ r.type.mnemonic ++ "\t" ++ r.data.text

end DnsHealth
