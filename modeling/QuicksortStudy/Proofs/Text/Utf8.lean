import Mathlib
import QuicksortStudy.Text

/-!
# Texts as bytes

The bytes of a text are those of its characters, one after the other, and decoding gives the text back.  An
ASCII character is a single byte that no other character has among its own, so a text and its bytes can be
cut at the same places.
-/

namespace QuicksortStudy.Utf8

open String (utf8EncodeChar)

/-- A character as the byte that encodes it in ASCII. -/
def asciiByte (c : Char) : UInt8 := c.toNat.toUInt8

/-! ## Single characters -/

theorem utf8EncodeChar_ascii {c : Char} (ascii : c.toNat < 128) : utf8EncodeChar c = [asciiByte c] :=
  if_pos (Nat.le_of_lt_succ ascii)

theorem toNat_asciiByte {c : Char} (ascii : c.toNat < 128) : (asciiByte c).toNat = c.toNat :=
  Nat.mod_eq_of_lt (Nat.lt_trans ascii (by decide))

/-- The bytes of other characters lie above those of ASCII. -/
theorem le_of_mem_utf8EncodeChar {c : Char} (wide : 128 ≤ c.toNat) {b : UInt8} (member : b ∈ utf8EncodeChar c) :
    128 ≤ b.toNat := by
  have wide : 128 ≤ c.val.toNat := wide
  have large (n : Nat) (low : 128 ≤ n) (byte : n < 256) : 128 ≤ (UInt8.ofNat n).toNat := by
    rw [UInt8.toNat_ofNat_of_lt' byte]
    exact low
  unfold utf8EncodeChar at member
  dsimp only at member
  rw [if_neg (by omega)] at member
  split at member
  · simp only [List.mem_cons, List.not_mem_nil, or_false] at member
    rcases member with rfl | rfl <;> exact large _ (by omega) (by omega)
  · split at member
    · simp only [List.mem_cons, List.not_mem_nil, or_false] at member
      rcases member with rfl | rfl | rfl <;> exact large _ (by omega) (by omega)
    · simp only [List.mem_cons, List.not_mem_nil, or_false] at member
      rcases member with rfl | rfl | rfl | rfl <;> exact large _ (by omega) (by omega)

/-- The byte of an ASCII character belongs to no other character. -/
theorem asciiByte_mem_utf8EncodeChar {c d : Char} (ascii : d.toNat < 128) :
    asciiByte d ∈ utf8EncodeChar c ↔ c = d := by
  constructor
  · intro member
    by_cases small : c.toNat < 128
    · rw [utf8EncodeChar_ascii small, List.mem_singleton] at member
      apply Char.toNat_inj.mp
      rw [← toNat_asciiByte small, ← toNat_asciiByte ascii, member]
    · have large := le_of_mem_utf8EncodeChar (Nat.le_of_not_lt small) member
      rw [toNat_asciiByte ascii] at large
      exact absurd ascii (Nat.not_lt.mpr large)
  · rintro rfl
    rw [utf8EncodeChar_ascii ascii]
    exact List.mem_singleton_self _

/-! ## Texts -/

/-- Different characters cannot begin the same bytes. -/
theorem eq_of_utf8EncodeChar_append {c d : Char} {bytes bytes' : List UInt8}
    (same : utf8EncodeChar c ++ bytes = utf8EncodeChar d ++ bytes') : c = d := by
  have first := @ByteArray.utf8DecodeChar?_utf8EncodeChar_append bytes.toByteArray c
  have second := @ByteArray.utf8DecodeChar?_utf8EncodeChar_append bytes'.toByteArray d
  rw [← List.toByteArray_append] at first second
  rw [same] at first
  exact Option.some.inj (first.symm.trans second)

theorem toList_loop (bytes : ByteArray) (position : Nat) (before : List UInt8) :
    ByteArray.toList.loop bytes position before = before.reverse ++ bytes.data.toList.drop position := by
  fun_induction ByteArray.toList.loop bytes position before with
  | case1 position before inside ih =>
      have inside : position < bytes.data.toList.length := inside
      have here : bytes.get! position = bytes.data[position]! := rfl
      rw [ih, List.reverse_cons, List.append_assoc, List.drop_eq_getElem_cons inside, here,
        getElem!_pos bytes.data position inside]
      rfl
  | case2 position before outside =>
      have outside : bytes.data.toList.length ≤ position := Nat.le_of_not_lt outside
      rw [List.drop_eq_nil_of_le outside, List.append_nil]

theorem encode_eq (text : String) : encode text = text.toList.flatMap utf8EncodeChar := by
  have bytes : text.toByteArray = (text.toList.flatMap utf8EncodeChar).toByteArray := by
    conv_lhs => rw [← String.ofList_toList (s := text), String.toByteArray_ofList]
    rfl
  unfold encode ByteArray.toList
  rw [toList_loop, bytes, List.toList_data_toByteArray]
  rfl

theorem decode_flatMap (cs : List Char) : decode (cs.flatMap utf8EncodeChar) = .ok (.ofList cs) := by
  have valid : cs.utf8Encode.IsValidUTF8 := ByteArray.isValidUTF8_utf8Encode
  have encoded : (cs.flatMap utf8EncodeChar).toByteArray = cs.utf8Encode := rfl
  unfold decode String.fromUTF8?
  rw [encoded, dif_pos valid]
  exact congrArg Except.ok (String.toByteArray_inj.mp (by rw [String.toByteArray_ofList]; rfl))

theorem flatMap_ascii {cs : List Char} (ascii : ∀ c ∈ cs, c.toNat < 128) :
    cs.flatMap utf8EncodeChar = cs.map asciiByte := by
  rw [List.map_eq_flatMap]
  apply List.flatMap_congr
  intro c member
  exact utf8EncodeChar_ascii (ascii c member)

theorem asciiByte_mem_flatMap {cs : List Char} {d : Char} (ascii : d.toNat < 128) :
    asciiByte d ∈ cs.flatMap utf8EncodeChar ↔ d ∈ cs := by
  rw [List.mem_flatMap]
  constructor
  · rintro ⟨c, member, inside⟩
    rw [← (asciiByte_mem_utf8EncodeChar ascii).mp inside]
    exact member
  · intro member
    exact ⟨d, member, (asciiByte_mem_utf8EncodeChar ascii).mpr rfl⟩

/-! ## Cutting -/

theorem splitOnP_append {α : Type} {p : α → Bool} {xs : List α} (none : ∀ x ∈ xs, p x = false) (ys : List α) :
    (xs ++ ys).splitOnP p = (ys.splitOnP p).modifyHead (xs ++ ·) := by
  induction xs with
  | nil => exact (congrFun List.modifyHead_id _).symm
  | cons x xs ih =>
      have first : p x = false := none x (List.mem_cons_self ..)
      rw [List.cons_append, List.splitOnP_cons_eq_if_modifyHead, first, if_neg Bool.false_ne_true,
        ih fun y member => none y (List.mem_cons_of_mem x member), List.modifyHead_modifyHead]
      rfl

/-- Cutting the bytes of a text at ASCII characters is cutting the text. -/
theorem splitOnP_flatMap {p : UInt8 → Bool} {q : Char → Bool}
    (separator : ∀ c, q c = true → ∃ b, utf8EncodeChar c = [b] ∧ p b = true)
    (other : ∀ c, q c = false → ∀ b ∈ utf8EncodeChar c, p b = false) (cs : List Char) :
    (cs.flatMap utf8EncodeChar).splitOnP p = (cs.splitOnP q).map (List.flatMap utf8EncodeChar) := by
  induction cs with
  | nil => rfl
  | cons c cs ih =>
      rw [List.flatMap_cons, List.splitOnP_cons_eq_if_modifyHead]
      cases isSeparator : q c with
      | true =>
          obtain ⟨b, single, hit⟩ := separator c isSeparator
          rw [single, List.singleton_append, List.splitOnP_cons_eq_if_modifyHead, hit, if_pos rfl, if_pos rfl, ih]
          rfl
      | false =>
          rw [splitOnP_append (other c isSeparator), if_neg Bool.false_ne_true, ih]
          cases cs.splitOnP q <;> rfl

end QuicksortStudy.Utf8
