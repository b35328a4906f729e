/-!
# Base64

Bytes in the standard alphabet of RFC 4648, three to four characters at a time, the last group
filled up with equals signs.
-/

namespace DnsHealth.Text.Base64

/-- The character for a group of six bits. -/
def sextet (n : Nat) : Char :=
  if n < 26 then Char.ofNat (65 + n)
  else if n < 52 then Char.ofNat (71 + n)
  else if n < 62 then Char.ofNat (n - 4)
  else if n = 62 then '+'
  else '/'

/-- The four characters for three bytes taken as one number. -/
def quartet (n : Nat) : List Char :=
  [sextet (n / 262144), sextet (n / 4096 % 64), sextet (n / 64 % 64), sextet (n % 64)]

/-- The text of a byte string. -/
def encode : List UInt8 → List Char
  | [] => []
  | [a] => (quartet (a.toNat * 65536)).take 2 ++ ['=', '=']
  | [a, b] => (quartet (a.toNat * 65536 + b.toNat * 256)).take 3 ++ ['=']
  | a :: b :: c :: rest =>
    quartet (a.toNat * 65536 + b.toNat * 256 + c.toNat) ++ encode rest

/-- Every started group of three bytes makes four characters. -/
theorem length_encode (bytes : List UInt8) :
    (encode bytes).length = 4 * ((bytes.length + 2) / 3) := by
  fun_induction encode bytes with
  | case1 => rfl
  | case2 => simp [quartet]
  | case3 => simp [quartet]
  | case4 a b c rest ih =>
    simp only [List.length_append, ih, quartet, List.length_cons, List.length_nil]
    omega

end DnsHealth.Text.Base64
