/-!
# Response codes

The mnemonics of the codes with which a server ends an answer.
-/

namespace DnsHealth

/-- The mnemonic of a response code. -/
def rcodeName (rcode : Nat) : String :=
  match rcode with
  | 0 => "NOERROR"
  | 1 => "FORMERR"
  | 2 => "SERVFAIL"
  | 3 => "NXDOMAIN"
  | 4 => "NOTIMP"
  | 5 => "REFUSED"
  | 6 => "YXDOMAIN"
  | 7 => "YXRRSET"
  | 8 => "NXRRSET"
  | 9 => "NOTAUTH"
  | 10 => "NOTZONE"
  | 16 => "BADVERS"
  | _ => "UNKNOWN"

end DnsHealth
