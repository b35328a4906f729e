import DnsHealth.Proofs.Fallible
import DnsHealth.Text.Base64
import DnsHealth.Text.Hex

/-!
# Bytes read back from their text

A byte string is read back from its hexadecimal digits, and from its Base64 text: the equals signs
at the end tell how many bytes the last group has. So no two byte strings share a text of either
kind.
-/

namespace DnsHealth.Text

namespace Hex

private theorem digit?_upperDigit : ∀ n < 16, digit? (upperDigit n) = some n := by decide

/-- A byte is put together from its halves. -/
theorem ofNat_halves (b : UInt8) : UInt8.ofNat (16 * (b.toNat / 16) + b.toNat % 16) = b := by
  rw [Nat.div_add_mod, UInt8.ofNat_toNat]

/-- Bytes read back from their digits. -/
@[simp] theorem decode?_upper (bytes : List UInt8) : decode? (upper bytes) = some bytes := by
  induction bytes with
  | nil => rfl
  | cons b bytes ih =>
    have hb := b.toNat_lt
    have hhigh := digit?_upperDigit (b.toNat / 16) (by omega)
    have hlow := digit?_upperDigit (b.toNat % 16) (by omega)
    rw [upper, List.flatMap_cons, ← upper, List.cons_append, List.cons_append, List.nil_append,
      decode?, hhigh, hlow, ih]
    simp only [Option.bind_eq_bind, Option.bind_some, Option.pure_def, ofNat_halves]

/-- No two byte strings share their digits. -/
@[simp] theorem upper_inj {xs ys : List UInt8} : upper xs = upper ys ↔ xs = ys :=
  eq_iff_of_read decode?_upper

end Hex

namespace Base64

/-- The six bits that a character stands for. -/
def value? (c : Char) : Option Nat :=
  let n := c.toNat
  if 65 ≤ n ∧ n ≤ 90 then some (n - 65)
  else if 97 ≤ n ∧ n ≤ 122 then some (n - 71)
  else if 48 ≤ n ∧ n ≤ 57 then some (n + 4)
  else if c = '+' then some 62
  else if c = '/' then some 63
  else none

/-- Reads bytes from a text, up to a group that has less than four characters of the alphabet. -/
def decode? : List Char → Option (List UInt8)
  | [] => some []
  | c :: d :: e :: f :: rest =>
    match value? c, value? d, value? e, value? f with
    | some i, some j, some k, some l => do
      let bytes ← decode? rest
      return UInt8.ofNat (i * 4 + j / 16) :: UInt8.ofNat (j % 16 * 16 + k / 4) ::
        UInt8.ofNat (k % 4 * 64 + l) :: bytes
    | some i, some j, some k, none =>
      some [UInt8.ofNat (i * 4 + j / 16), UInt8.ofNat (j % 16 * 16 + k / 4)]
    | some i, some j, none, none => some [UInt8.ofNat (i * 4 + j / 16)]
    | _, _, _, _ => none
  | _ => none

private theorem value?_sextet : ∀ n < 64, value? (sextet n) = some n := by decide

private theorem value?_equals : value? '=' = none := by decide

/-- Bytes read back from their text. -/
@[simp] theorem decode?_encode (bytes : List UInt8) : decode? (encode bytes) = some bytes := by
  fun_induction encode bytes with
  | case1 => rfl
  | case2 a =>
    have ha := a.toNat_lt
    have hfirst := value?_sextet (a.toNat * 65536 / 262144) (by omega)
    have hsecond := value?_sextet (a.toNat * 65536 / 4096 % 64) (by omega)
    simp only [quartet, List.take_succ_cons, List.take_zero, List.cons_append, List.nil_append,
      decode?, hfirst, hsecond, value?_equals]
    rw [show a.toNat * 65536 / 262144 * 4 + a.toNat * 65536 / 4096 % 64 / 16 = a.toNat by omega,
      UInt8.ofNat_toNat]
  | case3 a b =>
    have ha := a.toNat_lt
    have hb := b.toNat_lt
    generalize hn : a.toNat * 65536 + b.toNat * 256 = n
    have hfirst := value?_sextet (n / 262144) (by omega)
    have hsecond := value?_sextet (n / 4096 % 64) (by omega)
    have hthird := value?_sextet (n / 64 % 64) (by omega)
    simp only [quartet, List.take_succ_cons, List.take_zero, List.cons_append, List.nil_append,
      decode?, hfirst, hsecond, hthird, value?_equals]
    rw [show n / 262144 * 4 + n / 4096 % 64 / 16 = a.toNat by omega,
      show n / 4096 % 64 % 16 * 16 + n / 64 % 64 / 4 = b.toNat by omega, UInt8.ofNat_toNat,
      UInt8.ofNat_toNat]
  | case4 a b c rest ih =>
    have ha := a.toNat_lt
    have hb := b.toNat_lt
    have hc := c.toNat_lt
    generalize hn : a.toNat * 65536 + b.toNat * 256 + c.toNat = n
    have hfirst := value?_sextet (n / 262144) (by omega)
    have hsecond := value?_sextet (n / 4096 % 64) (by omega)
    have hthird := value?_sextet (n / 64 % 64) (by omega)
    have hfourth := value?_sextet (n % 64) (by omega)
    simp only [quartet, List.cons_append, List.nil_append, decode?, hfirst, hsecond, hthird,
      hfourth, ih, Option.bind_eq_bind, Option.bind_some, Option.pure_def]
    rw [show n / 262144 * 4 + n / 4096 % 64 / 16 = a.toNat by omega,
      show n / 4096 % 64 % 16 * 16 + n / 64 % 64 / 4 = b.toNat by omega,
      show n / 64 % 64 % 4 * 64 + n % 64 = c.toNat by omega, UInt8.ofNat_toNat,
      UInt8.ofNat_toNat, UInt8.ofNat_toNat]

/-- No two byte strings share their text. -/
@[simp] theorem encode_inj {xs ys : List UInt8} : encode xs = encode ys ↔ xs = ys :=
  eq_iff_of_read decode?_encode

end Base64

end DnsHealth.Text
