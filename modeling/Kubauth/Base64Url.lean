import Mathlib.Data.Nat.Digits.Defs

/-!
# Numbers as text

A number is written as its bytes, the most significant one first and without
leading zeros.  Bytes are written in the URL alphabet of Base64, six bits a
symbol and without padding.  Both are read back to what was written.
-/

namespace Base64Url

/-! ## Symbols -/

def alphabet : List Char :=
  "ABCDEFGHIJKLMNOPQRSTUVWXYZabcdefghijklmnopqrstuvwxyz0123456789-_".toList

/-- The symbol of a number below 64. -/
def symbol (sextet : Nat) : Char := alphabet.getD sextet 'A'

/-- The number of a symbol of the alphabet. -/
def sextet (symbol : Char) : Option Nat := alphabet.idxOf? symbol

theorem sextet_symbol :
    ∀ number < 64, sextet (symbol number) = some number := by
  decide +kernel

theorem mapM_sextet_map_symbol {numbers : List Nat}
    (small : ∀ number ∈ numbers, number < 64) :
    (numbers.map symbol).mapM sextet = some numbers := by
  induction numbers with
  | nil => rfl
  | cons number rest induction =>
      have first : sextet (symbol number) = some number :=
        sextet_symbol number (small number List.mem_cons_self)
      have others : (rest.map symbol).mapM sextet = some rest := by
        apply induction
        intro other member
        exact small other (List.mem_cons_of_mem number member)
      rw [List.map_cons, List.mapM_cons, first, others]
      rfl

/-! ## Groups of bits -/

/-- Three bytes are four groups of six bits.  What is left at the end is
filled up with zero bits. -/
def sextets : List UInt8 → List Nat
  | [] => []
  | [a] => [a.toNat / 4, a.toNat % 4 * 16]
  | [a, b] =>
      [a.toNat / 4, a.toNat % 4 * 16 + b.toNat / 16, b.toNat % 16 * 4]
  | a :: b :: c :: rest =>
      a.toNat / 4 :: (a.toNat % 4 * 16 + b.toNat / 16) ::
        (b.toNat % 16 * 4 + c.toNat / 64) :: c.toNat % 64 :: sextets rest

/-- One group alone at the end is not a byte. -/
def octets : List Nat → Option (List UInt8)
  | [] => some []
  | [_] => none
  | [w, x] => some [.ofNat (w * 4 + x / 16)]
  | [w, x, y] =>
      some [.ofNat (w * 4 + x / 16), .ofNat (x % 16 * 16 + y / 4)]
  | w :: x :: y :: z :: rest =>
      (octets rest).map fun bytes =>
        .ofNat (w * 4 + x / 16) :: .ofNat (x % 16 * 16 + y / 4) ::
          .ofNat (y % 4 * 64 + z) :: bytes

theorem sextets_lt (bytes : List UInt8) :
    ∀ number ∈ sextets bytes, number < 64 := by
  fun_induction sextets bytes with
  | case1 => simp
  | case2 a =>
      have := a.toNat_lt
      simp only [List.mem_cons, List.not_mem_nil, or_false]
      omega
  | case3 a b =>
      have := a.toNat_lt
      have := b.toNat_lt
      simp only [List.mem_cons, List.not_mem_nil, or_false]
      omega
  | case4 a b c rest induction =>
      have := a.toNat_lt
      have := b.toNat_lt
      have := c.toNat_lt
      simp only [List.mem_cons]
      rintro number (rfl | rfl | rfl | rfl | member)
      · omega
      · omega
      · omega
      · omega
      · exact induction number member

theorem ofNat_eq (byte : UInt8) {value : Nat} (same : value = byte.toNat) :
    UInt8.ofNat value = byte := by
  rw [same, UInt8.ofNat_toNat]

theorem octets_sextets (bytes : List UInt8) :
    octets (sextets bytes) = some bytes := by
  fun_induction sextets bytes with
  | case1 => rfl
  | case2 a =>
      rw [octets, ofNat_eq a (by omega)]
  | case3 a b =>
      have := b.toNat_lt
      rw [octets, ofNat_eq a (by omega),
        ofNat_eq b (by omega)]
  | case4 a b c rest induction =>
      have := b.toNat_lt
      have := c.toNat_lt
      rw [octets, induction, Option.map_some, ofNat_eq a (by omega),
        ofNat_eq b (by omega), ofNat_eq c (by omega)]

/-! ## Bytes -/

/-- The text of some bytes. -/
def encode (bytes : List UInt8) : String :=
  .ofList ((sextets bytes).map symbol)

def decode (text : String) : Option (List UInt8) :=
  (text.toList.mapM sextet).bind octets

theorem decode_encode (bytes : List UInt8) :
    decode (encode bytes) = some bytes := by
  have read : ((sextets bytes).map symbol).mapM sextet =
      some (sextets bytes) :=
    mapM_sextet_map_symbol (sextets_lt bytes)
  rw [decode, encode, String.toList_ofList, read]
  exact octets_sextets bytes

/-! ## Numbers -/

/-- The bytes of a number, the most significant one first. -/
def bigEndian (number : Nat) : List UInt8 :=
  ((Nat.digits 256 number).map UInt8.ofNat).reverse

def ofBigEndian (bytes : List UInt8) : Nat :=
  Nat.ofDigits 256 (bytes.reverse.map UInt8.toNat)

theorem ofBigEndian_bigEndian (number : Nat) :
    ofBigEndian (bigEndian number) = number := by
  have kept : (Nat.digits 256 number).map (UInt8.toNat ∘ UInt8.ofNat) =
      Nat.digits 256 number := by
    rw [List.map_congr_left, List.map_id]
    intro digit member
    have small : digit < 256 := Nat.digits_lt_base (by decide) member
    exact UInt8.toNat_ofNat_of_lt' small
  rw [ofBigEndian, bigEndian, List.reverse_reverse, List.map_map, kept,
    Nat.ofDigits_digits]

end Base64Url
