import TitleSieve.Text.Utf8
import Mathlib.Logic.Basic

/-!
Writing UTF-8. A character takes one to four bytes, by the size of its code: the first byte tells
how many and holds the highest bits, and each later one holds six bits more. Strict reading gives
back every text that is written so: the forms that it refuses, overlong ones, surrogates and codes
that are too large, are never written.
-/

namespace TitleSieve.Text.Utf8

def encodeChar (c : Char) : List Nat :=
  let n := c.toNat
  if n < 0x80 then [n]
  else if n < 0x800 then [0xc0 + n / 64, 0x80 + n % 64]
  else if n < 0x10000 then [0xe0 + n / 4096, 0x80 + n / 64 % 64, 0x80 + n % 64]
  else [0xf0 + n / 262144, 0x80 + n / 4096 % 64, 0x80 + n / 64 % 64, 0x80 + n % 64]

def encode (t : Text) : List Nat := t.flatMap encodeChar

/-- Bytes that belong to a character that has been read are passed over. -/
theorem decodeFrom_append (position : Nat) (passed rest : List Nat) :
    decodeFrom position passed.length (passed ++ rest) =
      decodeFrom (position + passed.length) 0 rest := by
  induction passed generalizing position with
  | nil => rfl
  | cons b more ih =>
    simp only [List.length_cons, List.cons_append, decodeFrom]
    rw [ih, Nat.add_assoc, Nat.add_comm 1]

theorem decodeFrom_of_readChar {first code : Nat} {tails rest : List Nat} {t : Text}
    (position : Nat) (hread : readChar first (tails ++ rest) = .code code)
    (hsize : sizeFrom first = some (tails.length + 1))
    (hrest : ∀ position, decodeFrom position 0 rest = .ok t) :
    decodeFrom position 0 (first :: (tails ++ rest)) = .ok (Char.ofNat code :: t) := by
  simp only [decodeFrom, hread, hsize, Option.getD_some, Nat.add_sub_cancel, decodeFrom_append,
    hrest]

theorem isTail_low (n : Nat) : isTail (0x80 + n % 64) = true := by
  simp only [isTail, Bool.and_eq_true, decide_eq_true_eq]
  omega

theorem sizeFrom_two {n : Nat} (h : 0x80 ≤ n) (h' : n < 0x800) :
    sizeFrom (0xc0 + n / 64) = some 2 := by
  unfold sizeFrom
  rw [if_neg (by omega), if_neg (by omega), if_pos (by omega)]

theorem sizeFrom_three {n : Nat} (h : n < 0x10000) : sizeFrom (0xe0 + n / 4096) = some 3 := by
  unfold sizeFrom
  rw [if_neg (by omega), if_neg (by omega), if_neg (by omega), if_pos (by omega)]

theorem sizeFrom_four {n : Nat} (h : n < 0x110000) : sizeFrom (0xf0 + n / 262144) = some 4 := by
  unfold sizeFrom
  rw [if_neg (by omega), if_neg (by omega), if_neg (by omega), if_neg (by omega), if_pos (by omega)]

/-- A second byte follows any first byte but the four with narrower ranges. -/
theorem isSecond_iff (first b : Nat) :
    isSecond first b = true ↔ (0x80 ≤ b ∧ b < 0xc0) ∧ (first = 0xe0 → 0xa0 ≤ b) ∧
      (first = 0xed → b < 0xa0) ∧ (first = 0xf0 → 0x90 ≤ b) ∧ (first = 0xf4 → b < 0x90) := by
  simp only [isSecond, isTail, Bool.and_eq_true, Bool.or_eq_true, bne_iff_ne, decide_eq_true_eq,
    and_assoc, imp_iff_not_or, ne_eq]

/-- With a good second byte, what is left to read is the later bytes. -/
theorem readChar_of_second {first second size : Nat} (hsize : sizeFrom first = some (size + 2))
    (hsecond : isSecond first second = true) (more : List Nat) :
    readChar first (second :: more) =
      readTails 2 (leadBits (size + 2) first * 64 + (second - 0x80)) size more := by
  unfold readChar
  rw [hsize]
  simp only [hsecond, if_true, Nat.add_sub_cancel]

theorem readTails_low (good soFar wanted n : Nat) (rest : List Nat) :
    readTails good soFar (wanted + 1) ((0x80 + n % 64) :: rest) =
      readTails (good + 1) (soFar * 64 + n % 64) wanted rest := by
  rw [readTails, if_pos (isTail_low n), Nat.add_sub_cancel_left]

theorem leadBits_two (first : Nat) : leadBits 2 first = first - 0xc0 := rfl

theorem leadBits_three (first : Nat) : leadBits 3 first = first - 0xe0 := rfl

theorem leadBits_four (first : Nat) : leadBits 4 first = first - 0xf0 := rfl

theorem readChar_two {n : Nat} (h : 0x80 ≤ n) (h' : n < 0x800) (rest : List Nat) :
    readChar (0xc0 + n / 64) ([0x80 + n % 64] ++ rest) = .code n := by
  have hsecond : isSecond (0xc0 + n / 64) (0x80 + n % 64) = true := by
    rw [isSecond_iff]
    omega
  have hcode : leadBits 2 (0xc0 + n / 64) * 64 + (0x80 + n % 64 - 0x80) = n := by
    rw [leadBits_two]
    omega
  rw [List.singleton_append, readChar_of_second (sizeFrom_two h h') hsecond, hcode, readTails]

theorem readChar_three {n : Nat} (h : 0x800 ≤ n) (h' : n < 0x10000)
    (hvalid : n < 0xd800 ∨ 0xdfff < n) (rest : List Nat) :
    readChar (0xe0 + n / 4096) ([0x80 + n / 64 % 64, 0x80 + n % 64] ++ rest) = .code n := by
  have hsecond : isSecond (0xe0 + n / 4096) (0x80 + n / 64 % 64) = true := by
    rw [isSecond_iff]
    omega
  have hcode : (leadBits 3 (0xe0 + n / 4096) * 64 + (0x80 + n / 64 % 64 - 0x80)) * 64 + n % 64 =
      n := by
    rw [leadBits_three]
    omega
  rw [List.cons_append, readChar_of_second (sizeFrom_three h') hsecond, List.singleton_append,
    readTails_low, hcode, readTails]

theorem readChar_four {n : Nat} (h : 0x10000 ≤ n) (h' : n < 0x110000) (rest : List Nat) :
    readChar (0xf0 + n / 262144)
      ([0x80 + n / 4096 % 64, 0x80 + n / 64 % 64, 0x80 + n % 64] ++ rest) = .code n := by
  have hsecond : isSecond (0xf0 + n / 262144) (0x80 + n / 4096 % 64) = true := by
    rw [isSecond_iff]
    omega
  have hcode : ((leadBits 4 (0xf0 + n / 262144) * 64 + (0x80 + n / 4096 % 64 - 0x80)) * 64 +
      n / 64 % 64) * 64 + n % 64 = n := by
    rw [leadBits_four]
    omega
  rw [List.cons_append, readChar_of_second (sizeFrom_four h') hsecond, List.cons_append,
    readTails_low, List.singleton_append, readTails_low, hcode, readTails]

theorem readChar_one {n : Nat} (h : n < 0x80) (rest : List Nat) : readChar n rest = .code n := by
  have hsize : sizeFrom n = some 1 := if_pos h
  simp only [readChar, hsize]

theorem toNat_valid (c : Char) : c.toNat < 0xd800 ∨ 0xdfff < c.toNat ∧ c.toNat < 0x110000 := c.valid

theorem decodeFrom_encodeChar (position : Nat) (c : Char) {rest : List Nat} {t : Text}
    (hrest : ∀ position, decodeFrom position 0 rest = .ok t) :
    decodeFrom position 0 (encodeChar c ++ rest) = .ok (c :: t) := by
  have hvalid := toNat_valid c
  have hc : (Char.ofNat c.toNat :: t) = c :: t := by rw [Char.ofNat_toNat]
  rw [← hc]
  unfold encodeChar
  simp only
  generalize c.toNat = n at hvalid ⊢
  split
  · rename_i hone
    exact decodeFrom_of_readChar position (readChar_one hone ([] ++ rest)) (if_pos hone) hrest
  · split
    · rename_i hone htwo
      exact decodeFrom_of_readChar position (readChar_two (by omega) htwo rest)
        (sizeFrom_two (by omega) htwo) hrest
    · split
      · rename_i htwo hthree
        exact decodeFrom_of_readChar position (readChar_three (by omega) hthree (by omega) rest)
          (sizeFrom_three hthree) hrest
      · rename_i hthree
        exact decodeFrom_of_readChar position (readChar_four (by omega) (by omega) rest)
          (sizeFrom_four (by omega)) hrest

theorem decodeFrom_encode (position : Nat) (t : Text) :
    decodeFrom position 0 (encode t) = .ok t := by
  induction t generalizing position with
  | nil => rfl
  | cons c rest ih => exact decodeFrom_encodeChar position c ih

theorem decode_encode (t : Text) : decode (encode t) = .ok t := decodeFrom_encode 0 t

end TitleSieve.Text.Utf8
