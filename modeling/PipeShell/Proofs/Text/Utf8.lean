import PipeShell.Text.Utf8

/-!
# `PipeShell.Proofs.Text.Utf8`: a text and its bytes

Decoding the bytes of a text gives the text back, without a fault. The
machine takes the bytes of one character and owes nothing after them
(`decodeFrom_char`); `strict?_encode` is the induction over the text.
Newlines are bytes of their own (`newline_mem_encode`), so a text can be
cut at them before it is decoded.
-/

set_option autoImplicit false

namespace PipeShell.Text.Utf8

/-! ### One character -/

/-- The code point of a character is no surrogate. -/
theorem toNat_valid (c : Char) :
    c.toNat < 0xD800 ∨ 0xDFFF < c.toNat ∧ c.toNat < 0x110000 := c.valid

theorem toNat_byte {n : Nat} (h : n < 256) : (UInt8.ofNat n).toNat = n := by
  rw [UInt8.toNat_ofNat', Nat.mod_eq_of_lt h]

section
variable {low high n : Nat} (hlow : low ≤ n + 128) (hhigh : n + 128 ≤ high) (hbits : n < 64)
include hlow hhigh hbits

/-- The last byte that is owed completes a character. -/
theorem decodeFrom_last (value : Nat) (rest : List UInt8) :
    decodeFrom (some ⟨1, low, high, value⟩) (UInt8.ofNat (n + 128) :: rest)
      = some (Char.ofNat (64 * value + n)) :: decodeFrom none rest := by
  simp [decodeFrom, step, Nat.mod_eq_of_lt (show n + 128 < 256 by omega), hlow, hhigh]

/-- Any other byte that is owed leaves one less to come. -/
theorem decodeFrom_more (count value : Nat) (rest : List UInt8) :
    decodeFrom (some ⟨count + 2, low, high, value⟩) (UInt8.ofNat (n + 128) :: rest)
      = decodeFrom (some ⟨count + 1, 0x80, 0xBF, 64 * value + n⟩) rest := by
  simp [decodeFrom, step, Nat.mod_eq_of_lt (show n + 128 < 256 by omega), hlow, hhigh]

end

/-- A first byte that leaves a debt. -/
theorem decodeFrom_first {n : Nat} {o : Owed} (hbyte : n < 256) (h : lead n = ([], some o))
    (rest : List UInt8) :
    decodeFrom none (UInt8.ofNat n :: rest) = decodeFrom (some o) rest := by
  simp [decodeFrom, step, toNat_byte hbyte, h]

/-- What the first of two bytes leaves owed. -/
theorem lead_two {n : Nat} (hlow : 0xC2 ≤ n) (hhigh : n ≤ 0xDF) :
    lead n = ([], some ⟨1, 0x80, 0xBF, n - 0xC0⟩) := by
  rw [lead, if_neg (by omega), if_pos (by simp; omega)]

/-- What the first of three bytes leaves owed: after the least of them
the next byte has a bound from below, after `0xED` one from above. -/
theorem lead_three {n : Nat} (hlow : 0xE0 ≤ n) (hhigh : n ≤ 0xEF) :
    lead n = ([], some ⟨2, if n = 0xE0 then 0xA0 else 0x80, if n = 0xED then 0x9F else 0xBF,
      n - 0xE0⟩) := by
  rw [lead, if_neg (by omega), if_neg (by simp; omega)]
  by_cases hfirst : n = 0xE0
  · simp [hfirst]
  by_cases hsurrogate : n = 0xED
  · simp [hsurrogate]
  · simp [hfirst, hsurrogate]
    omega

/-- What the first of four bytes leaves owed: after the least of them the
next byte has a bound from below, after the greatest one from above. -/
theorem lead_four {n : Nat} (hlow : 0xF0 ≤ n) (hhigh : n ≤ 0xF4) :
    lead n = ([], some ⟨3, if n = 0xF0 then 0x90 else 0x80, if n = 0xF4 then 0x8F else 0xBF,
      n - 0xF0⟩) := by
  rw [lead, if_neg (by omega), if_neg (by simp; omega), if_neg (by simp; omega),
    if_neg (by simp; omega), if_neg (by simp; omega)]
  by_cases hfirst : n = 0xF0
  · simp [hfirst]
  by_cases hlast : n = 0xF4
  · simp [hlast]
  · simp [hfirst, hlast]
    omega

/-- The bytes of a character are taken for that character, and nothing is
owed after them. -/
theorem decodeFrom_char (c : Char) (rest : List UInt8) :
    decodeFrom none (String.utf8EncodeChar c ++ rest) = some c :: decodeFrom none rest := by
  have hvalid := toNat_valid c
  have hback : Char.ofNat c.toNat = c := c.ofNat_toNat
  have hval : c.val.toNat = c.toNat := rfl
  rw [String.utf8EncodeChar, hval]
  generalize c.toNat = v at hvalid hback
  split
  · rename_i hone
    simp [decodeFrom, step, lead, toNat_byte (show v < 256 by omega), hone, hback]
  split
  · rename_i hone htwo
    have hvalue : 64 * (v / 64 % 32 + 192 - 0xC0) + v % 64 = v := by omega
    simp only [List.cons_append, List.nil_append]
    rw [decodeFrom_first (by omega) (lead_two (by omega) (by omega)),
      decodeFrom_last (by omega) (by omega) (by omega), hvalue, hback]
  split
  · rename_i hone htwo hthree
    have hvalue : 64 * (64 * (v / 4096 % 16 + 224 - 0xE0) + v / 64 % 64) + v % 64 = v := by omega
    simp only [List.cons_append, List.nil_append]
    rw [decodeFrom_first (by omega) (lead_three (by omega) (by omega)),
      decodeFrom_more (by split <;> omega) (by split <;> omega) (by omega),
      decodeFrom_last (by omega) (by omega) (by omega), hvalue, hback]
  · rename_i hone htwo hthree
    have hvalue : 64 * (64 * (64 * (v / 262144 % 8 + 240 - 0xF0) + v / 4096 % 64) + v / 64 % 64)
        + v % 64 = v := by omega
    simp only [List.cons_append, List.nil_append]
    rw [decodeFrom_first (by omega) (lead_four (by omega) (by omega)),
      decodeFrom_more (by split <;> omega) (by split <;> omega) (by omega),
      decodeFrom_more (by omega) (by omega) (by omega),
      decodeFrom_last (by omega) (by omega) (by omega), hvalue, hback]

/-- A byte of a character is a newline only if the character is one. -/
theorem newline_mem_encodeChar {c : Char} : 0x0A ∈ String.utf8EncodeChar c ↔ c = '\n' := by
  have hchar : c = '\n' ↔ c.toNat = 10 := by
    rw [← Char.toNat_inj]
    rfl
  have hbyte : ∀ n < 256, (0x0A : UInt8) = UInt8.ofNat n ↔ n = 10 := by
    intro n hn
    rw [← UInt8.toNat_inj, toNat_byte hn, eq_comm]
    rfl
  have hvalid := toNat_valid c
  have hval : c.val.toNat = c.toNat := rfl
  rw [hchar, String.utf8EncodeChar, hval]
  generalize c.toNat = v at hvalid
  split
  · rw [List.mem_singleton, hbyte v (by omega)]
  split
  · simp only [List.mem_cons, List.not_mem_nil, or_false]
    rw [hbyte _ (by omega), hbyte _ (by omega)]
    omega
  split
  · simp only [List.mem_cons, List.not_mem_nil, or_false]
    rw [hbyte _ (by omega), hbyte _ (by omega), hbyte _ (by omega)]
    omega
  · simp only [List.mem_cons, List.not_mem_nil, or_false]
    rw [hbyte _ (by omega), hbyte _ (by omega), hbyte _ (by omega), hbyte _ (by omega)]
    omega

/-! ### Whole texts -/

@[simp]
theorem encode_ofList_nil : encode (String.ofList []) = [] := by simp [encode]

theorem encode_append (s t : String) : encode (s ++ t) = encode s ++ encode t := by
  simp [encode]

theorem encode_ofList_newline (cs : List Char) :
    encode (String.ofList ('\n' :: cs)) = 0x0A :: encode (String.ofList cs) := by
  simp [encode, String.utf8EncodeChar]

/-- Decoding undoes encoding. -/
theorem decode_encode (s : String) : decode (encode s) = s.toList.map some := by
  rw [decode, encode]
  induction s.toList with
  | nil => rfl
  | cons c cs ih => rw [List.flatMap_cons, decodeFrom_char, ih, List.map_cons]

theorem strict?_encode (s : String) : strict? (encode s) = some s := by
  have hall : (s.toList.map some).mapM id = some s.toList := by
    induction s.toList with
    | nil => rfl
    | cons c cs ih => simp [ih]
  rw [strict?, decode_encode, hall, Option.map_some, String.ofList_toList]

/-- Nothing is replaced in the bytes of a text. -/
theorem lossy_encode (s : String) : lossy (encode s) = s := by
  simp [lossy, decode_encode, Function.comp_def]

/-- A text has as many bytes as its size says. -/
theorem length_encode (s : String) : (encode s).length = s.utf8ByteSize := by
  rw [encode, ← String.size_toByteArray, ← String.utf8Encode_toList, List.utf8Encode,
    List.size_toByteArray]

theorem newline_mem_encode {s : String} : 0x0A ∈ encode s ↔ '\n' ∈ s.toList := by
  simp [encode, newline_mem_encodeChar]

theorem encode_eq_nil {s : String} : encode s = [] ↔ s.toList = [] := by
  constructor
  · intro h
    cases hs : s.toList with
    | nil => rfl
    | cons c cs => simp [encode, hs] at h
  · intro h
    simp [encode, h]

end PipeShell.Text.Utf8
