import SerialHub.Text.Utf8
import Mathlib.Data.String.Basic

/-!
# Texts are ordered as their UTF-8 bytes

Names compared character by character, by code point, come in the same order as their UTF-8
bytes compared byte by byte: characters of different widths differ in their lead bytes, those of
one width compare as the big-endian values of their bytes, and no encoding is a proper prefix of
another. Main statement: `utf8_lt_utf8_iff`.
-/

namespace SerialHub.Text

/-- Every code point lies below `0x110000`. -/
theorem toNat_lt_limit (c : Char) : c.toNat < 0x110000 := by
  have h := c.valid
  simp only [UInt32.isValidChar, Nat.isValidChar] at h
  rw [← Char.toNat_val]
  omega

/-- The width of a character in UTF-8, by the range of its code point. -/
theorem utf8Size_eq (c : Char) :
    c.utf8Size = if c.toNat ≤ 127 then 1 else if c.toNat ≤ 2047 then 2
      else if c.toNat ≤ 65535 then 3 else 4 := by
  simp only [Char.utf8Size, UInt32.le_iff_toNat_le, Char.toNat_val]
  rfl

/-! ## Byte lists of one length -/

/-- The big-endian value of a byte list. -/
def beValue : List UInt8 → Nat
  | [] => 0
  | b :: bs => b.toNat * 256 ^ bs.length + beValue bs

theorem beValue_lt (bs : List UInt8) : beValue bs < 256 ^ bs.length := by
  induction bs with
  | nil => simp [beValue]
  | cons b bs ih =>
    have hb : b.toNat + 1 ≤ 256 := b.toNat_lt
    calc b.toNat * 256 ^ bs.length + beValue bs
        < b.toNat * 256 ^ bs.length + 256 ^ bs.length := by omega
      _ = (b.toNat + 1) * 256 ^ bs.length := (Nat.succ_mul _ _).symm
      _ ≤ 256 * 256 ^ bs.length := Nat.mul_le_mul_right _ hb
      _ = 256 ^ (b :: bs).length := (pow_succ' 256 bs.length).symm

/-- Of two byte lists of one length, the one of smaller value comes first, whatever follows
each. -/
theorem append_lt_append_of_beValue_lt {l l' : List UInt8} (hlen : l.length = l'.length)
    (h : beValue l < beValue l') (xs ys : List UInt8) : l ++ xs < l' ++ ys := by
  induction l generalizing l' with
  | nil => cases l' <;> simp_all [beValue]
  | cons a l ih =>
    cases l' with
    | nil => simp at hlen
    | cons b l' =>
      simp only [List.length_cons, Nat.add_right_cancel_iff] at hlen
      simp only [beValue, hlen] at h
      rw [List.cons_append, List.cons_append, List.cons_lt_cons_iff, UInt8.lt_iff_toNat_lt]
      have hl : beValue l < 256 ^ l'.length := hlen ▸ beValue_lt l
      have hl' := beValue_lt l'
      -- the lead bytes decide unless they are equal; a larger lead byte outweighs any tail
      rcases Nat.lt_trichotomy a.toNat b.toNat with hab | hab | hab
      · exact .inl hab
      · refine .inr ⟨UInt8.toNat_inj.mp hab, ih hlen ?_⟩
        rw [hab] at h
        omega
      · have hmul : (b.toNat + 1) * 256 ^ l'.length ≤ a.toNat * 256 ^ l'.length :=
          Nat.mul_le_mul_right _ hab
        rw [Nat.succ_mul] at hmul
        omega

/-! ## One character -/

section Encoding

variable {c d : Char}

/-- Characters of different widths differ in their lead bytes, in the order of their code
points. -/
theorem utf8EncodeChar_lead_lt (h : c.toNat < d.toNat) (hw : c.utf8Size ≠ d.utf8Size) :
    ∃ a l b l', String.utf8EncodeChar c = a :: l ∧ String.utf8EncodeChar d = b :: l' ∧ a < b := by
  have hd := toNat_lt_limit d
  rw [utf8Size_eq, utf8Size_eq] at hw
  simp only [String.utf8EncodeChar, Char.toNat_val]
  split_ifs at hw ⊢ <;> simp [UInt8.lt_iff_toNat_lt] <;> omega

/-- Characters of one width are encoded in the order of their code points. -/
theorem beValue_utf8EncodeChar_lt (h : c.toNat < d.toNat) (hw : c.utf8Size = d.utf8Size) :
    beValue (String.utf8EncodeChar c) < beValue (String.utf8EncodeChar d) := by
  have hd := toNat_lt_limit d
  -- the continuation bytes are the base-64 digits of the code point
  have h6 := Nat.div_le_div_right (c := 64) h.le
  have h12 := Nat.div_le_div_right (c := 4096) h.le
  have h18 := Nat.div_le_div_right (c := 262144) h.le
  have e12 : ∀ n : Nat, n / 64 / 64 = n / 4096 := fun n => Nat.div_div_eq_div_mul n 64 64
  have e18 : ∀ n : Nat, n / 4096 / 64 = n / 262144 := fun n => Nat.div_div_eq_div_mul n 4096 64
  have := e12 c.toNat
  have := e12 d.toNat
  have := e18 c.toNat
  have := e18 d.toNat
  rw [utf8Size_eq, utf8Size_eq] at hw
  simp only [String.utf8EncodeChar, Char.toNat_val]
  split_ifs at hw ⊢ <;>
    simp (disch := omega) only [beValue, List.length_cons, List.length_nil, UInt8.toNat_ofNat',
      Nat.reducePow, Nat.mod_eq_of_lt] <;> omega

/-- A smaller character's bytes come first, whatever follows each. -/
theorem utf8EncodeChar_append_lt (h : c < d) (xs ys : List UInt8) :
    String.utf8EncodeChar c ++ xs < String.utf8EncodeChar d ++ ys := by
  have hlt : c.toNat < d.toNat := by
    rw [← Char.toNat_val, ← Char.toNat_val]
    exact UInt32.lt_iff_toNat_lt.mp (Char.lt_def.mp h)
  by_cases hw : c.utf8Size = d.utf8Size
  · have hlen : (String.utf8EncodeChar c).length = (String.utf8EncodeChar d).length := by
      rw [String.length_utf8EncodeChar, String.length_utf8EncodeChar, hw]
    exact append_lt_append_of_beValue_lt hlen (beValue_utf8EncodeChar_lt hlt hw) xs ys
  · obtain ⟨a, l, b, l', hc, hd, hab⟩ := utf8EncodeChar_lead_lt hlt hw
    rw [hc, hd, List.cons_append, List.cons_append]
    exact List.cons_lt_cons_iff.mpr (.inl hab)

end Encoding

/-! ## Texts -/

theorem toList_loop (bs : ByteArray) (i : Nat) (acc : List UInt8) :
    ByteArray.toList.loop bs i acc = acc.reverse ++ bs.data.toList.drop i := by
  fun_induction ByteArray.toList.loop bs i acc with
  | case1 i acc hi ih =>
    have hi' : i < bs.data.toList.length := by simpa using hi
    rw [ih, List.drop_eq_getElem_cons hi']
    simp [ByteArray.get!, hi]
  | case2 i acc hi =>
    rw [List.drop_eq_nil_of_le (by simpa using Nat.le_of_not_lt hi)]
    simp

/-- The UTF-8 bytes of a text are the encodings of its characters, one after another. -/
theorem utf8_eq_flatMap (s : String) : utf8 s = s.toList.flatMap String.utf8EncodeChar := by
  conv => lhs; rw [← String.ofList_toList (s := s)]
  rw [utf8, String.toUTF8_eq_toByteArray, String.toByteArray_ofList, List.utf8Encode,
    ByteArray.toList, toList_loop]
  simp

/-- Encoding keeps the order of character lists. -/
theorem flatMap_utf8EncodeChar_lt {cs ds : List Char} (h : cs < ds) :
    cs.flatMap String.utf8EncodeChar < ds.flatMap String.utf8EncodeChar := by
  induction cs generalizing ds with
  | nil =>
    cases ds with
    | nil => exact absurd h (List.lt_irrefl [])
    | cons d ds =>
      have hne : String.utf8EncodeChar d ≠ [] := by
        rw [← List.length_pos_iff, String.length_utf8EncodeChar]
        exact Char.utf8Size_pos d
      obtain ⟨a, l, hd⟩ := List.exists_cons_of_ne_nil hne
      rw [List.flatMap_cons, hd, List.flatMap_nil, List.cons_append]
      exact List.nil_lt_cons _ _
  | cons c cs ih =>
    cases ds with
    | nil => exact absurd h (List.not_lt_nil _)
    | cons d ds =>
      rw [List.flatMap_cons, List.flatMap_cons]
      rcases List.cons_lt_cons_iff.mp h with hcd | ⟨rfl, hrest⟩
      · exact utf8EncodeChar_append_lt hcd _ _
      · exact List.append_left_lt (ih hrest)

/-- Texts compare as their UTF-8 bytes. -/
theorem utf8_lt_utf8_iff {s t : String} : utf8 s < utf8 t ↔ s < t := by
  have mono : ∀ {s t : String}, s < t → utf8 s < utf8 t := fun hst => by
    rw [utf8_eq_flatMap, utf8_eq_flatMap]
    exact flatMap_utf8EncodeChar_lt (String.lt_iff.mp hst)
  refine ⟨fun h => ?_, mono⟩
  rcases lt_trichotomy s t with hst | rfl | hts
  · exact hst
  · exact absurd h (List.lt_irrefl _)
  · exact absurd h (List.lt_asymm (mono hts))

end SerialHub.Text
