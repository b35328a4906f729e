import DnsHealth.Crypto.Rsa
import DnsHealth.Proofs.Bytes

/-!
# Public keys behind their headers

A public key for RSA stands behind the length of its exponent, which takes one byte if that is not
zero, and otherwise the two bytes behind it. A byte string is read as a key exactly if the key
stands in it and its modulus is not empty, so there is no second reading and no byte is lost.
Reading takes no position out of range, whatever the bytes are. What is written is read again, and a
key that is cut off before its modulus is refused.
-/

namespace DnsHealth.Crypto.Rsa

variable {bytes : List UInt8} {key other : PublicKey}

/-- Behind a length stand the exponent and a modulus that is not empty. -/
theorem splitAt_eq_ok_iff {size : Nat} :
    splitAt size bytes = .ok key ↔
      key.exponent.length = size ∧ key.modulus ≠ [] ∧ bytes = key.exponent ++ key.modulus := by
  unfold splitAt
  constructor
  · intro h
    split at h
    · cases h
    · next hfits =>
      split at h
      · cases h
      · next hmore =>
        cases h
        refine ⟨?_, ?_, (List.take_append_drop size bytes).symm⟩
        · rw [List.length_take]
          omega
        · rw [Ne, List.drop_eq_nil_iff]
          omega
  · rintro ⟨rfl, hne, rfl⟩
    have hpos := List.length_pos_iff.mpr hne
    rw [List.length_append, if_neg (by omega), if_neg (by omega), List.take_left, List.drop_left]

namespace PublicKey

/-- A byte string holds a key: the exponent behind its length in one byte, or behind a zero byte and
its length in two bytes, and then a modulus that is not empty. -/
def StandsIn (key : PublicKey) (bytes : List UInt8) : Prop :=
  key.modulus ≠ [] ∧
    ((1 ≤ key.exponent.length ∧ key.exponent.length ≤ 255 ∧
        bytes = [UInt8.ofNat key.exponent.length] ++ key.exponent ++ key.modulus) ∨
      ∃ high low : UInt8, key.exponent.length = 256 * high.toNat + low.toNat ∧
        bytes = [0, high, low] ++ key.exponent ++ key.modulus)

/-- A first byte that is not zero is the length of the exponent. -/
theorem ofBytes_cons_of_ne_zero {first : UInt8} (h : first ≠ 0) (rest : List UInt8) :
    ofBytes (first :: rest) = splitAt first.toNat rest :=
  if_neg h

/-- A length of 1 to 255 takes one byte that is not zero. -/
theorem ofNat_ne_zero {n : Nat} (hpos : 1 ≤ n) (hle : n ≤ 255) : UInt8.ofNat n ≠ 0 := by
  intro h
  have hzero := Bytes.toNat_ofNat_of_le hle
  rw [h] at hzero
  exact absurd hzero.symm (Nat.ne_of_gt hpos)

/-- A key is read from the byte strings that it stands in, and from no other. -/
theorem ofBytes_eq_ok_iff : ofBytes bytes = .ok key ↔ key.StandsIn bytes := by
  constructor
  · intro h
    unfold ofBytes at h
    split at h
    · cases h
    · next first rest =>
      split at h
      · next hzero =>
        split at h
        · next high low rest =>
          obtain ⟨hlength, hne, rfl⟩ := splitAt_eq_ok_iff.mp h
          rw [Bytes.toNat_to16, Nat.mul_comm] at hlength
          exact ⟨hne, .inr ⟨high, low, hlength, by rw [hzero]; rfl⟩⟩
        · cases h
      · next hzero =>
        obtain ⟨hlength, hne, rfl⟩ := splitAt_eq_ok_iff.mp h
        have hlt := first.toNat_lt
        have hpos : first.toNat ≠ 0 := fun h => hzero (UInt8.toNat_inj.mp h)
        refine ⟨hne, .inl ⟨by omega, by omega, ?_⟩⟩
        rw [hlength, UInt8.ofNat_toNat]
        rfl
  · rintro ⟨hne, ⟨hpos, hle, rfl⟩ | ⟨high, low, hlength, rfl⟩⟩
    · rw [List.append_assoc, List.singleton_append,
        ofBytes_cons_of_ne_zero (ofNat_ne_zero hpos hle)]
      exact splitAt_eq_ok_iff.mpr ⟨(Bytes.toNat_ofNat_of_le hle).symm, hne, rfl⟩
    · have hsize : key.exponent.length = (Bytes.to16 high low).toNat := by
        rw [Bytes.toNat_to16, hlength, Nat.mul_comm]
      exact splitAt_eq_ok_iff.mpr ⟨hsize, hne, rfl⟩

/-- A byte string holds at most one key. -/
theorem StandsIn.unique (h : key.StandsIn bytes) (h' : other.StandsIn bytes) : key = other :=
  Except.ok.inj ((ofBytes_eq_ok_iff.mpr h).symm.trans (ofBytes_eq_ok_iff.mpr h'))

/-- Bytes behind a key belong to its modulus. -/
theorem StandsIn.append (h : key.StandsIn bytes) (more : List UInt8) :
    StandsIn ⟨key.exponent, key.modulus ++ more⟩ (bytes ++ more) := by
  obtain ⟨hne, ⟨hpos, hle, rfl⟩ | ⟨high, low, hlength, rfl⟩⟩ := h
  · exact ⟨List.append_ne_nil_of_left_ne_nil hne more,
      .inl ⟨hpos, hle, List.append_assoc ..⟩⟩
  · exact ⟨List.append_ne_nil_of_left_ne_nil hne more,
      .inr ⟨high, low, hlength, List.append_assoc ..⟩⟩

/-- A part of a key's bytes from the front on is read as a key exactly if it reaches into the
modulus. -/
theorem StandsIn.ofBytes_front_iff {front back : List UInt8} (h : key.StandsIn (front ++ back)) :
    ofBytes front = .ok other ↔
      other.exponent = key.exponent ∧ other.modulus ≠ [] ∧
        key.modulus = other.modulus ++ back := by
  rw [ofBytes_eq_ok_iff]
  constructor
  · intro hfront
    obtain rfl := (hfront.append back).unique h
    exact ⟨rfl, hfront.1, rfl⟩
  · rintro ⟨hexponent, hne, hmodulus⟩
    obtain ⟨-, hform⟩ := h
    rw [hmodulus] at hform
    simp only [← List.append_assoc, List.append_cancel_right_eq] at hform
    exact ⟨hne, hexponent ▸ hform⟩

private theorem toBytes_of_le (hpos : 1 ≤ key.exponent.length) (hle : key.exponent.length ≤ 255) :
    key.toBytes = [UInt8.ofNat key.exponent.length] ++ key.exponent ++ key.modulus :=
  if_pos ⟨hpos, Nat.lt_succ_of_le hle⟩

/-- The length of a long exponent is written in two bytes behind a zero byte. -/
theorem exists_toBytes_of_lt (hlt : 255 < key.exponent.length)
    (hle : key.exponent.length ≤ 65535) :
    ∃ high low : UInt8, key.exponent.length = 256 * high.toNat + low.toNat ∧
      key.toBytes = [0, high, low] ++ key.exponent ++ key.modulus := by
  have hsize : (UInt16.ofNat key.exponent.length).toNat = key.exponent.length := by
    rw [UInt16.toNat_ofNat']
    omega
  refine ⟨.ofNat (key.exponent.length / 256), .ofNat (key.exponent.length % 256), ?_, ?_⟩
  · rw [Bytes.toNat_ofNat_of_le (by omega), Bytes.toNat_ofNat_of_le (by omega),
      Nat.div_add_mod]
  · rw [toBytes, if_neg (by omega), Bytes.of16, hsize]
    rfl

/-- What is written holds the key. -/
theorem standsIn_toBytes (hpos : 1 ≤ key.exponent.length) (hle : key.exponent.length ≤ 65535)
    (hne : key.modulus ≠ []) : key.StandsIn key.toBytes := by
  by_cases hshort : key.exponent.length ≤ 255
  · exact ⟨hne, .inl ⟨hpos, hshort, toBytes_of_le hpos hshort⟩⟩
  · exact ⟨hne, .inr (exists_toBytes_of_lt (Nat.lt_of_not_le hshort) hle)⟩

/-- Splits a byte string behind an index by positions, and gives nothing if one is out of range. -/
def splitAt? (bytes : List UInt8) (start size : Nat) : Option (Except Failure PublicKey) :=
  if bytes.length < start + size then
    some (.error (.invalidResponse "RSA exponent extends beyond key data"))
  else do
    let modulus ← Bytes.slice? bytes (start + size) bytes.length
    if modulus = [] then return .error (.invalidResponse "RSA modulus is empty")
    else return .ok ⟨← Bytes.slice? bytes start (start + size), modulus⟩

/-- Splitting by positions takes from behind an index what splitting takes from the bytes there. -/
theorem splitAt?_append (front rest : List UInt8) (size : Nat) :
    splitAt? (front ++ rest) front.length size = some (splitAt size rest) := by
  have hfits : (front ++ rest).length < front.length + size ↔ rest.length < size := by
    rw [List.length_append]
    omega
  unfold splitAt? splitAt
  by_cases hshort : rest.length < size
  · rw [if_pos (hfits.mpr hshort), if_pos hshort]
  · have hle : front.length + size ≤ (front ++ rest).length :=
      Nat.le_of_not_lt (mt hfits.mp hshort)
    have hexponent : Bytes.slice? (front ++ rest) front.length (front.length + size) =
        some (rest.take size) := by
      rw [Bytes.slice?_of_le (Nat.le_add_right ..) hle, List.drop_left, Nat.add_sub_cancel_left]
    have hmodulus : Bytes.slice? (front ++ rest) (front.length + size) (front ++ rest).length =
        some (rest.drop size) := by
      rw [Bytes.slice?_of_le hle (Nat.le_refl _), ← List.length_drop, List.take_length,
        List.drop_append, List.drop_eq_nil_of_le (Nat.le_add_right ..), Nat.add_sub_cancel_left,
        List.nil_append]
    have hempty : rest.drop size = [] ↔ rest.length = size := by
      rw [List.drop_eq_nil_iff]
      omega
    rw [if_neg (mt hfits.mp hshort), if_neg hshort, hexponent, hmodulus]
    simp only [Option.bind_eq_bind, Option.bind_some, hempty]
    split <;> rfl

/-- Reads a key by positions, and gives nothing if one is out of range. -/
def ofBytes? (bytes : List UInt8) : Option (Except Failure PublicKey) :=
  if bytes = [] then some (.error (.invalidResponse "Empty RSA public key"))
  else do
    let first ← bytes[0]?
    if first = 0 then
      if bytes.length < 3 then
        return .error (.invalidResponse "RSA key too short for long form")
      else splitAt? bytes 3 (← Bytes.at16? bytes 1).toNat
    else splitAt? bytes 1 first.toNat

/-- No position that is read at is out of range, whatever the bytes are. -/
theorem ofBytes?_eq_some (bytes : List UInt8) : ofBytes? bytes = some (ofBytes bytes) := by
  match bytes with
  | [] => rfl
  | first :: rest =>
    rw [ofBytes?, if_neg (List.cons_ne_nil first rest), List.getElem?_cons_zero]
    by_cases hzero : first = 0
    · subst hzero
      match rest with
      | [] => rfl
      | [_] => rfl
      | high :: low :: rest => exact splitAt?_append [0, high, low] rest _
    · simp only [Option.bind_eq_bind, Option.bind_some, if_neg hzero,
        ofBytes_cons_of_ne_zero hzero]
      exact splitAt?_append [first] rest _

end PublicKey

/-- Reading takes no position out of range, and gives a key exactly if the key stands in the bytes:
its exponent behind the length in one byte, or behind zero and the length in two, and a modulus that
is not empty behind it. No other key stands in the same bytes, and a part of them from the front on
is read as a key exactly if it reaches into the modulus, and then only the modulus is cut off. Every
key with an exponent of 1 to 65535 bytes and a modulus that is not empty reads back from what is
written, which is the shorter form up to 255 bytes and the longer form above. -/
theorem publicKey_stands_in_bytes (bytes : List UInt8) (key : PublicKey) :
    PublicKey.ofBytes? bytes = some (PublicKey.ofBytes bytes) ∧
    (PublicKey.ofBytes bytes = .ok key ↔ key.StandsIn bytes) ∧
    (∀ other : PublicKey, key.StandsIn bytes → other.StandsIn bytes → other = key) ∧
    (∀ (front back : List UInt8) (other : PublicKey),
      key.StandsIn bytes → bytes = front ++ back →
        (PublicKey.ofBytes front = .ok other ↔
          other.exponent = key.exponent ∧ other.modulus ≠ [] ∧
            key.modulus = other.modulus ++ back)) ∧
    (1 ≤ key.exponent.length → key.exponent.length ≤ 65535 → key.modulus ≠ [] →
      PublicKey.ofBytes key.toBytes = .ok key ∧
      (key.exponent.length ≤ 255 →
        key.toBytes = [UInt8.ofNat key.exponent.length] ++ key.exponent ++ key.modulus) ∧
      (255 < key.exponent.length →
        ∃ high low : UInt8, key.exponent.length = 256 * high.toNat + low.toNat ∧
          key.toBytes = [0, high, low] ++ key.exponent ++ key.modulus)) := by
  refine ⟨PublicKey.ofBytes?_eq_some bytes, PublicKey.ofBytes_eq_ok_iff,
    fun other h h' => h'.unique h, ?_, fun hpos hle hne => ⟨?_, ?_, ?_⟩⟩
  · rintro front back other h rfl
    exact h.ofBytes_front_iff
  · exact PublicKey.ofBytes_eq_ok_iff.mpr (PublicKey.standsIn_toBytes hpos hle hne)
  · exact PublicKey.toBytes_of_le hpos
  · exact fun hlt => PublicKey.exists_toBytes_of_lt hlt hle

/-- An exponent of 255 bytes has the shorter form and one of 256 bytes the longer form. Both read
back, and neither does when its last byte is missing. -/
theorem publicKey_stands_in_bytes_boundary :
    let short : PublicKey := ⟨List.replicate 255 3, [193]⟩
    let long : PublicKey := ⟨List.replicate 256 3, [193]⟩
    let exponent (size : Nat) : List UInt8 := List.replicate size 3
    255 < long.exponent.length ∧
      short.toBytes = 255 :: (exponent 255 ++ [193]) ∧
      long.toBytes = 0 :: 1 :: 0 :: (exponent 256 ++ [193]) ∧
      PublicKey.ofBytes short.toBytes = .ok short ∧ PublicKey.ofBytes long.toBytes = .ok long ∧
      ∀ other, PublicKey.ofBytes (255 :: exponent 255) ≠ .ok other := by
  intro short long exponent
  have hshort : short.exponent.length = 255 := List.length_replicate
  have hlong : long.exponent.length = 256 := List.length_replicate
  obtain ⟨-, hstands, -, hcut, hwritten⟩ := publicKey_stands_in_bytes short.toBytes short
  obtain ⟨hread, hform, -⟩ := hwritten (by omega) (by omega) (List.cons_ne_nil 193 [])
  obtain ⟨-, -, -, -, hwritten⟩ := publicKey_stands_in_bytes long.toBytes long
  obtain ⟨hreadLong, -, -⟩ := hwritten (by omega) (by omega) (List.cons_ne_nil 193 [])
  have hbytes : short.toBytes = 255 :: (exponent 255 ++ [193]) := by
    rw [hform (by omega), hshort, List.append_assoc, List.singleton_append]
    rfl
  refine ⟨by omega, hbytes, by decide +kernel, hread, hreadLong, fun other hother => ?_⟩
  obtain ⟨-, hne, hmodulus⟩ :=
    (hcut (255 :: exponent 255) [193] other (hstands.mp hread) hbytes).mp hother
  exact hne (List.append_cancel_right hmodulus).symm

end DnsHealth.Crypto.Rsa
