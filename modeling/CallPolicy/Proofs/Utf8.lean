import CallPolicy.Text.Utf8

/-!
# CallPolicy.Proofs.Utf8

Octets written for a text are read back as the text.

* `unitsFrom_encodeChar`: the octets of one character, with anything behind them.
* `decodeLossy_encode`: a whole text; nothing in it is taken for broken.
-/

namespace CallPolicy
namespace Text
namespace Utf8

theorem toNat_octet {n : Nat} (h : n < 256) : (octet n).toNat = n := by
  rw [octet, UInt8.toNat_ofNat']
  exact Nat.mod_eq_of_lt h

section

variable {n m : Nat} {bs : List UInt8}

theorem unitsFrom_start_char {c : Char} (hn : n < 256) (h : start n = .char c) :
    unitsFrom none (octet n :: bs) = some c :: unitsFrom none bs := by
  rw [unitsFrom, toNat_octet hn, h]

theorem unitsFrom_start_pending {p : Pending} (hn : n < 256) (h : start n = .pending p) :
    unitsFrom none (octet n :: bs) = unitsFrom (some p) bs := by
  rw [unitsFrom, toNat_octet hn, h]

/-- An octet within a character adds its six bits; the character still owes some. -/
theorem unitsFrom_inner {p : Pending} (hm : m < 64) (hlow : p.low ≤ 0x80 + m)
    (hhigh : 0x80 + m ≤ p.high) (howed : 1 < p.owed) :
    unitsFrom (some p) (octet (0x80 + m) :: bs) =
      unitsFrom (some ⟨p.owed - 1, 0x80, 0xBF, p.value * 64 + m⟩) bs := by
  rw [unitsFrom, toNat_octet (by omega), if_pos ⟨hlow, hhigh⟩, if_neg (by omega),
    Nat.add_sub_cancel_left]

/-- The last octet of a character completes it. -/
theorem unitsFrom_last {p : Pending} (hm : m < 64) (hlow : p.low ≤ 0x80 + m)
    (hhigh : 0x80 + m ≤ p.high) (howed : p.owed = 1) :
    unitsFrom (some p) (octet (0x80 + m) :: bs) =
      some (Char.ofNat (p.value * 64 + m)) :: unitsFrom none bs := by
  rw [unitsFrom, toNat_octet (by omega), if_pos ⟨hlow, hhigh⟩, if_pos (by omega),
    Nat.add_sub_cancel_left]

end

/-- Characters leave out the surrogates and end at the last code point. -/
theorem toNat_valid (c : Char) :
    c.toNat < 0xD800 ∨ 0xDFFF < c.toNat ∧ c.toNat < 0x110000 := c.valid

theorem start_one {n : Nat} (h : n < 0x80) : start n = .char (Char.ofNat n) := by
  rw [start, if_pos h]

theorem start_two {q : Nat} (hlow : 2 ≤ q) (hhigh : q < 32) :
    start (0xC0 + q) = .pending ⟨1, 0x80, 0xBF, q⟩ := by
  rw [start, if_neg (by omega), if_neg (by omega), if_pos (by omega), Nat.add_sub_cancel_left]

theorem start_three {q : Nat} (h : q < 16) :
    start (0xE0 + q) =
      .pending ⟨2, if q = 0 then 0xA0 else 0x80, if q = 13 then 0x9F else 0xBF, q⟩ := by
  have hfirst : (0xE0 + q = 0xE0) = (q = 0) := by simp
  have hlast : (0xE0 + q = 0xED) = (q = 13) := by rw [eq_iff_iff]; omega
  rw [start, if_neg (by omega), if_neg (by omega), if_neg (by omega), if_pos (by omega),
    Nat.add_sub_cancel_left]
  simp only [hfirst, hlast]

theorem start_four {q : Nat} (h : q < 5) :
    start (0xF0 + q) =
      .pending ⟨3, if q = 0 then 0x90 else 0x80, if q = 4 then 0x8F else 0xBF, q⟩ := by
  have hfirst : (0xF0 + q = 0xF0) = (q = 0) := by simp
  have hlast : (0xF0 + q = 0xF4) = (q = 4) := by rw [eq_iff_iff]; omega
  rw [start, if_neg (by omega), if_neg (by omega), if_neg (by omega), if_neg (by omega),
    if_pos (by omega), Nat.add_sub_cancel_left]
  simp only [hfirst, hlast]

/-- The octets of a character are read as the character, whatever follows them. -/
theorem unitsFrom_encodeChar (c : Char) (bs : List UInt8) :
    unitsFrom none (encodeChar c ++ bs) = some c :: unitsFrom none bs := by
  have hvalid := toNat_valid c
  have hchar := Char.ofNat_toNat c
  -- One case for each length; what keeps the second octet in its range is that no shorter form
  -- would do and that there are no surrogates.
  simp only [encodeChar]
  generalize c.toNat = n at hvalid hchar ⊢
  by_cases h1 : n < 0x80
  · rw [if_pos h1, List.singleton_append, unitsFrom_start_char (by omega) (start_one h1), hchar]
  by_cases h2 : n < 0x800
  · have hvalue : n / 64 * 64 + n % 64 = n := by omega
    rw [if_neg h1, if_pos h2, List.cons_append, List.singleton_append,
      unitsFrom_start_pending (by omega) (start_two (by omega) (by omega)),
      unitsFrom_last (by omega) (by simp) (by simp; omega) rfl, hvalue, hchar]
  by_cases h3 : n < 0x10000
  · have hvalue : (n / 4096 * 64 + n / 64 % 64) * 64 + n % 64 = n := by omega
    rw [if_neg h1, if_neg h2, if_pos h3]
    simp only [List.cons_append, List.nil_append]
    rw [unitsFrom_start_pending (by omega) (start_three (by omega)),
      unitsFrom_inner (by omega) (by simp only; split <;> omega) (by simp only; split <;> omega)
        (by simp),
      unitsFrom_last (by omega) (by simp) (by simp; omega) rfl, hvalue, hchar]
  · have hvalue :
        ((n / 262144 * 64 + n / 4096 % 64) * 64 + n / 64 % 64) * 64 + n % 64 = n := by omega
    rw [if_neg h1, if_neg h2, if_neg h3]
    simp only [List.cons_append, List.nil_append]
    rw [unitsFrom_start_pending (by omega) (start_four (by omega)),
      unitsFrom_inner (by omega) (by simp only; split <;> omega) (by simp only; split <;> omega)
        (by simp),
      unitsFrom_inner (by omega) (by simp) (by simp; omega) (by simp),
      unitsFrom_last (by omega) (by simp) (by simp; omega) rfl, hvalue, hchar]

theorem units_encode (cs : List Char) : units (encode cs) = cs.map some := by
  rw [units]
  induction cs with
  | nil => rfl
  | cons c cs ih =>
    rw [encode, List.flatMap_cons, ← encode, unitsFrom_encodeChar, ih]
    rfl

/-- What is written is read back. -/
theorem decodeLossy_encode (cs : List Char) : decodeLossy (encode cs) = cs := by
  rw [decodeLossy, units_encode, List.map_map]
  exact List.map_id cs

end Utf8
end Text
end CallPolicy
