import Mathlib.Data.List.Basic
import Mathlib.Data.Nat.Basic

/-!
# The order of texts by bytes

Maps keep their names in the order of code points. In the usual encoding of texts as bytes this is
the order of bytes too: what decides two characters is their first byte that differs, be they of one
length or not.
-/

namespace LayeredSettings.Text

/-- The bytes of a text. -/
def bytes (s : String) : List UInt8 := s.toUTF8.data.toList

/-- The bytes of a text are those of its characters in turn. -/
theorem bytes_eq_flatMap (s : String) : bytes s = s.toList.flatMap String.utf8EncodeChar := by
  unfold bytes
  rw [String.toUTF8_eq_toByteArray, ← String.utf8Encode_toList, List.utf8Encode,
    List.data_toByteArray]

/-- Bytes are compared by the first one in which they differ. -/
private theorem ofNat_cons_lt {a b : ℕ} (ha : a < 256) (hb : b < 256) {x y : List UInt8}
    (h : a < b ∨ a = b ∧ x < y) : UInt8.ofNat a :: x < UInt8.ofNat b :: y := by
  rw [List.cons_lt_cons_iff, UInt8.lt_iff_toNat_lt, ← UInt8.toNat_inj, UInt8.toNat_ofNat',
    UInt8.toNat_ofNat', Nat.mod_eq_of_lt ha, Nat.mod_eq_of_lt hb]
  exact h

/-- Two-byte characters are in the order of their code points. -/
private theorem pair_lt {m n : ℕ} (hlt : m < n) (hn : n < 0x800) (x y : List UInt8) :
    UInt8.ofNat (m / 64 % 32 + 192) :: UInt8.ofNat (m % 64 + 128) :: x <
      UInt8.ofNat (n / 64 % 32 + 192) :: UInt8.ofNat (n % 64 + 128) :: y := by
  refine ofNat_cons_lt (by omega) (by omega) ?_
  by_cases hlead : m / 64 = n / 64
  · right
    exact ⟨by omega, ofNat_cons_lt (by omega) (by omega) (Or.inl (by omega))⟩
  · left
    omega

/-- Three-byte characters are in the order of their code points. -/
private theorem triple_lt {m n : ℕ} (hlt : m < n) (hn : n < 0x10000) (x y : List UInt8) :
    UInt8.ofNat (m / 4096 % 16 + 224) :: UInt8.ofNat (m / 64 % 64 + 128) ::
        UInt8.ofNat (m % 64 + 128) :: x <
      UInt8.ofNat (n / 4096 % 16 + 224) :: UInt8.ofNat (n / 64 % 64 + 128) ::
        UInt8.ofNat (n % 64 + 128) :: y := by
  refine ofNat_cons_lt (by omega) (by omega) ?_
  by_cases hlead : m / 4096 = n / 4096
  · right
    refine ⟨by omega, ofNat_cons_lt (by omega) (by omega) ?_⟩
    by_cases hmiddle : m / 64 = n / 64
    · right
      exact ⟨by omega, ofNat_cons_lt (by omega) (by omega) (Or.inl (by omega))⟩
    · left
      omega
  · left
    omega

/-- Four-byte characters are in the order of their code points. -/
private theorem quadruple_lt {m n : ℕ} (hlt : m < n) (hn : n < 0x110000) (x y : List UInt8) :
    UInt8.ofNat (m / 262144 % 8 + 240) :: UInt8.ofNat (m / 4096 % 64 + 128) ::
        UInt8.ofNat (m / 64 % 64 + 128) :: UInt8.ofNat (m % 64 + 128) :: x <
      UInt8.ofNat (n / 262144 % 8 + 240) :: UInt8.ofNat (n / 4096 % 64 + 128) ::
        UInt8.ofNat (n / 64 % 64 + 128) :: UInt8.ofNat (n % 64 + 128) :: y := by
  refine ofNat_cons_lt (by omega) (by omega) ?_
  by_cases hlead : m / 262144 = n / 262144
  · right
    refine ⟨by omega, ofNat_cons_lt (by omega) (by omega) ?_⟩
    by_cases hsecond : m / 4096 = n / 4096
    · right
      refine ⟨by omega, ofNat_cons_lt (by omega) (by omega) ?_⟩
      by_cases hthird : m / 64 = n / 64
      · right
        exact ⟨by omega, ofNat_cons_lt (by omega) (by omega) (Or.inl (by omega))⟩
      · left
        omega
    · left
      omega
  · left
    omega

/-- The bytes of a smaller character are smaller, whatever follows. -/
theorem utf8EncodeChar_append_lt {c d : Char} (h : c < d) (x y : List UInt8) :
    String.utf8EncodeChar c ++ x < String.utf8EncodeChar d ++ y := by
  have hlt : c.val.toNat < d.val.toNat := h
  have hd : d.val.toNat < 0x110000 := by
    rcases d.valid with hsmall | hlarge
    · exact Nat.lt_trans hsmall (by decide)
    · exact hlarge.2
  unfold String.utf8EncodeChar
  generalize c.val.toNat = m at *
  generalize d.val.toNat = n at *
  dsimp only
  -- Of two lengths the longer has the larger first byte; of one length the digits decide.
  split
  · split
    · exact ofNat_cons_lt (by omega) (by omega) (Or.inl hlt)
    · split <;> [skip; split] <;> exact ofNat_cons_lt (by omega) (by omega) (Or.inl (by omega))
  · split
    · rw [if_neg (by omega)]
      split
      · exact pair_lt hlt (by omega) x y
      · split <;> exact ofNat_cons_lt (by omega) (by omega) (Or.inl (by omega))
    · rw [if_neg (by omega : ¬n ≤ 0x7f), if_neg (by omega : ¬n ≤ 0x7ff)]
      split
      · split
        · exact triple_lt hlt (by omega) x y
        · exact ofNat_cons_lt (by omega) (by omega) (Or.inl (by omega))
      · rw [if_neg (by omega)]
        exact quadruple_lt hlt hd x y

/-- A smaller text has smaller bytes. -/
theorem bytes_lt_of_lt {s t : String} (h : s < t) : bytes s < bytes t := by
  rw [bytes_eq_flatMap, bytes_eq_flatMap]
  have hchars : s.toList < t.toList := String.lt_iff.mp h
  generalize s.toList = l at hchars
  generalize t.toList = k at hchars
  induction l generalizing k with
  | nil =>
    cases k with
    | nil => exact absurd hchars (List.not_lt_nil _)
    | cons d k =>
      cases hd : String.utf8EncodeChar d with
      | nil =>
        have hlength := String.length_utf8EncodeChar d
        have hpos := d.utf8Size_pos
        rw [hd, List.length_nil] at hlength
        omega
      | cons b rest => simp [List.flatMap_cons, hd]
  | cons c l ih =>
    cases k with
    | nil => exact absurd hchars (List.not_lt_nil _)
    | cons d k =>
      rw [List.flatMap_cons, List.flatMap_cons]
      rcases List.cons_lt_cons_iff.mp hchars with hlt | ⟨rfl, hrest⟩
      · exact utf8EncodeChar_append_lt hlt _ _
      · exact List.append_left_lt (ih k hrest)

end LayeredSettings.Text
