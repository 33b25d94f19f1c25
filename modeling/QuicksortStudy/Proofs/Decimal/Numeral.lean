import Mathlib
import QuicksortStudy.Decimal.Style
import QuicksortStudy.Proofs.Decimal.ReadBack

/-!
# Number text read back

Whatever the style, the text of a double is a literal that stands for that double: the layout of the
digits, with or without a point and a power of ten, is undone by the reader, and the digits are those of
a decimal that reads as the double.
-/

namespace QuicksortStudy

/-! ## Runs of digits -/

namespace Literal

/-- A text of digits only. -/
def AllDigits (ds : List Char) : Prop := ∀ c ∈ ds, c.isDigit = true

/-- A text at which a run of digits ends. -/
def EndsRun (rest : List Char) : Prop := ∀ c ∈ rest.head?, c.isDigit = false

theorem AllDigits.append {ds ds' : List Char} (first : AllDigits ds) (second : AllDigits ds') :
    AllDigits (ds ++ ds') := by
  intro c member
  rcases List.mem_append.mp member with inFirst | inSecond
  · exact first c inFirst
  · exact second c inSecond

theorem allDigits_replicate (zeros : Nat) : AllDigits (List.replicate zeros '0') := by
  intro c member
  rw [List.eq_of_mem_replicate member]
  rfl

theorem endsRun_cons {c : Char} {rest : List Char} (ends : c.isDigit = false) : EndsRun (c :: rest) := by
  intro c' member
  cases member
  exact ends

theorem takeWhile_digits {ds rest : List Char} (all : AllDigits ds) (ends : EndsRun rest) :
    (ds ++ rest).takeWhile Char.isDigit = ds := by
  rw [List.takeWhile_append_of_pos all]
  cases rest with
  | nil => rw [List.takeWhile_nil, List.append_nil]
  | cons c rest => rw [List.takeWhile_cons_of_neg (by simp [ends c rfl]), List.append_nil]

theorem dropWhile_digits {ds rest : List Char} (all : AllDigits ds) (ends : EndsRun rest) :
    (ds ++ rest).dropWhile Char.isDigit = rest := by
  rw [List.dropWhile_append_of_pos all]
  cases rest with
  | nil => rfl
  | cons c rest => rw [List.dropWhile_cons_of_neg (by simp [ends c rfl])]

theorem digitsValue_append (before : Nat) (ds ds' : List Char) :
    digitsValue before (ds ++ ds') = digitsValue (digitsValue before ds) ds' := Nat.ofDigitChars_append before

theorem digitsValue_replicate (before zeros : Nat) :
    digitsValue before (List.replicate zeros '0') = 10 ^ zeros * before := Nat.ofDigitChars_replicate_zero

theorem digitsValue_digits (n : Nat) : digitsValue 0 (NumberStyle.digits n) = n := Nat.ofDigitChars_ten_toDigits

theorem allDigits_digits (n : Nat) : AllDigits (NumberStyle.digits n) := fun _ member =>
  Nat.isDigit_of_mem_toDigits (by decide) (by decide) member

theorem digits_ne_nil (n : Nat) : NumberStyle.digits n ≠ [] := Nat.toDigits_ne_nil

/-- Digits fill a text as their value. -/
theorem digits?_digits (n : Nat) : digits? (NumberStyle.digits n) = some n := by
  have all : (NumberStyle.digits n).all Char.isDigit = true := List.all_eq_true.mpr (allDigits_digits n)
  simp [digits?, digits_ne_nil, all, digitsValue_digits]

/-! ## Decimal literals -/

theorem decimal?_point {whole fractional rest : List Char} (some : whole ≠ []) (allWhole : AllDigits whole)
    (allFractional : AllDigits fractional) (ends : EndsRun rest) :
    decimal? (whole ++ '.' :: (fractional ++ rest)) =
      (exponent? rest).map fun power =>
        ⟨digitsValue 0 (whole ++ fractional), power - fractional.length⟩ := by
  have point : EndsRun ('.' :: (fractional ++ rest)) := endsRun_cons rfl
  unfold decimal?
  rw [takeWhile_digits allWhole point, dropWhile_digits allWhole point]
  simp only [fraction, takeWhile_digits allFractional ends, dropWhile_digits allFractional ends,
    List.isEmpty_iff, some, false_and, if_false, digitsValue_append]

theorem decimal?_whole {whole rest : List Char} (some : whole ≠ []) (all : AllDigits whole)
    (ends : EndsRun rest) (pointless : rest.head? ≠ Option.some '.') :
    decimal? (whole ++ rest) = (exponent? rest).map fun power => ⟨digitsValue 0 whole, power⟩ := by
  have broken : fraction rest = ([], rest) := by
    unfold fraction
    split
    · exact absurd rfl pointless
    · rfl
  unfold decimal?
  rw [takeWhile_digits all ends, dropWhile_digits all ends, broken]
  simp only [List.isEmpty_iff, some, false_and, if_false, List.length_nil, Nat.cast_zero, Int.sub_zero]
  rfl

/-- The power of ten after the digits, as it is written and as it is read. -/
theorem exponent?_scientific (power : Int) :
    exponent? ('e' :: (if power < 0 then '-' :: NumberStyle.digits (-power).toNat
      else NumberStyle.digits power.toNat)) = some power := by
  rcases lt_or_ge power 0 with negative | whole
  · rw [if_pos negative]
    have reads := digits?_digits (-power).toNat
    generalize NumberStyle.digits (-power).toNat = ds at reads
    have value : -((-power).toNat : Int) = power := by omega
    simp only [exponent?, true_or, if_true, reads]
    exact congrArg some value
  · rw [if_neg (Int.not_lt.mpr whole)]
    have reads := digits?_digits power.toNat
    have all := allDigits_digits power.toNat
    generalize NumberStyle.digits power.toNat = ds at reads all
    have value : (power.toNat : Int) = power := Int.toNat_of_nonneg whole
    simp only [exponent?, true_or, if_true]
    -- A run of digits starts with neither sign.
    split
    · exact absurd (all '-' (List.mem_cons_self ..)) (by decide)
    · exact absurd (all '+' (List.mem_cons_self ..)) (by decide)
    · rw [reads]
      exact congrArg some value

/-- A literal that starts with a digit is a decimal. -/
theorem unsigned?_of_digit {c : Char} {cs : List Char} (digit : c.isDigit = true) :
    unsigned? (c :: cs) = (decimal? (c :: cs)).map number := by
  have lower : c.toLower = c := by
    have bounds := digit
    simp only [Char.isDigit, Bool.and_eq_true, decide_eq_true_eq, ge_iff_le, UInt32.le_iff_toNat_le] at bounds
    unfold Char.toLower
    rw [dif_neg]
    rintro ⟨upper, -⟩
    have least : 65 ≤ c.val.toNat := upper
    have greatest : c.val.toNat ≤ 57 := bounds.2
    omega
  have unlike (d : Char) (letter : d.isDigit = false) : c ≠ d := by
    rintro rfl
    rw [digit] at letter
    cases letter
  unfold unsigned?
  simp [lower, unlike 'i' rfl, unlike 'n' rfl]

end Literal

/-! ## Layouts -/

namespace NumberStyle

open Literal

/-- A decimal literal without a sign that reads as a magnitude. -/
def Reads (text : List Char) (bits : Nat) : Prop :=
  (∃ c ∈ text.head?, c.isDigit = true) ∧ ∃ d, decimal? text = some d ∧ d.nearest = bits

theorem Reads.unsigned? {text : List Char} {bits : Nat} (reads : Reads text bits) :
    ∃ d, Literal.unsigned? text = some (.number d) ∧ d.nearest = bits := by
  obtain ⟨⟨c, first, digit⟩, d, found, same⟩ := reads
  cases text with
  | nil => cases first
  | cons c' cs =>
      cases first
      rw [unsigned?_of_digit digit, found]
      exact ⟨d, rfl, same⟩

theorem head?_append_digit {ds : List Char} (rest : List Char) (some : ds ≠ []) (all : AllDigits ds) :
    ∃ c ∈ (ds ++ rest).head?, c.isDigit = true := by
  cases ds with
  | nil => exact absurd rfl some
  | cons c ds => exact ⟨c, rfl, all c (List.mem_cons_self ..)⟩

theorem reads_point {whole fractional : List Char} (some : whole ≠ []) (allWhole : AllDigits whole)
    (allFractional : AllDigits fractional) :
    Reads (whole ++ '.' :: fractional)
      (Decimal.nearest ⟨digitsValue 0 (whole ++ fractional), -fractional.length⟩) := by
  refine ⟨head?_append_digit _ some allWhole, _, ?_, rfl⟩
  have read := @decimal?_point whole fractional [] some allWhole allFractional (fun _ none => nomatch none)
  rw [List.append_nil] at read
  rw [read]
  simp [exponent?]

theorem reads_whole {whole : List Char} (some : whole ≠ []) (all : AllDigits whole) :
    Reads whole (Decimal.nearest ⟨digitsValue 0 whole, 0⟩) := by
  have read := @decimal?_whole whole [] some all (fun _ none => nomatch none) (by simp)
  rw [List.append_nil] at read
  refine ⟨?_, _, read, rfl⟩
  have first := head?_append_digit [] some all
  rwa [List.append_nil] at first

/-- Zeros after digits are made up for by the power of ten. -/
theorem nearest_padded (ds : List Char) (zeros : Nat) (power : Int) :
    Decimal.nearest ⟨digitsValue 0 (ds ++ List.replicate zeros '0'), power - zeros⟩ =
      Decimal.nearest ⟨digitsValue 0 ds, power⟩ := by
  rw [digitsValue_append, digitsValue_replicate, Nat.mul_comm, Decimal.nearest_mul_pow]

/-- All digits stand behind the point. -/
theorem reads_behind {ds : List Char} (all : AllDigits ds) (zeros : Nat) :
    Reads ('0' :: '.' :: (List.replicate zeros '0' ++ ds))
      (Decimal.nearest ⟨digitsValue 0 ds, -(zeros : Int) - ds.length⟩) := by
  have read := reads_point (List.cons_ne_nil '0' []) (allDigits_replicate 1) ((allDigits_replicate zeros).append all)
  have value : digitsValue 0 (['0'] ++ (List.replicate zeros '0' ++ ds)) = digitsValue 0 ds := by
    rw [digitsValue_append, digitsValue_append, digitsValue_replicate]
    rfl
  have power : -((List.replicate zeros '0' ++ ds).length : Int) = -(zeros : Int) - ds.length := by
    rw [List.length_append, List.length_replicate]
    omega
  rw [value, power] at read
  exact read

/-- All digits stand in front of the point, whether or not the point is written. -/
theorem reads_before (style : NumberStyle) {ds : List Char} (some : ds ≠ []) (all : AllDigits ds) (zeros : Nat) :
    Reads (ds ++ List.replicate zeros '0' ++ if style.wholeFraction then ['.', '0'] else [])
      (Decimal.nearest ⟨digitsValue 0 ds, zeros⟩) := by
  have padded := all.append (allDigits_replicate zeros)
  have some' : ds ++ List.replicate zeros '0' ≠ [] := List.append_ne_nil_of_left_ne_nil some _
  rw [← nearest_padded ds zeros, Int.sub_self]
  split
  · have read := reads_point some' padded (allDigits_replicate 1)
    rw [List.length_replicate, ← Int.zero_sub, nearest_padded] at read
    exact read
  · rw [List.append_nil]
    exact reads_whole some' padded

/-- The point stands between digits. -/
theorem reads_between {ds : List Char} (all : AllDigits ds) {place : Nat} (positive : 0 < place)
    (inside : place < ds.length) :
    Reads (ds.take place ++ '.' :: ds.drop place)
      (Decimal.nearest ⟨digitsValue 0 ds, place - ds.length⟩) := by
  have before : AllDigits (ds.take place) := fun c member => all c (List.mem_of_mem_take member)
  have after : AllDigits (ds.drop place) := fun c member => all c (List.mem_of_mem_drop member)
  have some : ds.take place ≠ [] := by
    rw [← List.length_pos_iff, List.length_take]
    omega
  have power : -((ds.drop place).length : Int) = place - ds.length := by
    rw [List.length_drop]
    omega
  have read := reads_point some before after
  rw [List.take_append_drop, power] at read
  exact read

/-- Digits with a point at a position have the value of the digits times a power of ten. -/
theorem reads_positionalText (style : NumberStyle) {ds : List Char} (some : ds ≠ []) (all : AllDigits ds)
    (point : Int) :
    Reads (style.positionalText ds point) (Decimal.nearest ⟨digitsValue 0 ds, point - ds.length⟩) := by
  unfold positionalText
  split
  · next small =>
      have power : point - ds.length = -((-point).toNat : Int) - ds.length := by omega
      rw [power]
      exact reads_behind all _
  · next large =>
      split
      · next long =>
          have power : point - ds.length = (point.toNat - ds.length : Nat) := by omega
          rw [power]
          exact reads_before style some all _
      · next short =>
          have power : point - ds.length = point.toNat - ds.length := by omega
          rw [power]
          exact reads_between all (by omega) (by omega)

/-- One digit, perhaps a point with the others, and a power of ten have the same value. -/
theorem reads_scientificText {ds : List Char} (some : ds ≠ []) (all : AllDigits ds) (point : Int) :
    Reads (scientificText ds point) (Decimal.nearest ⟨digitsValue 0 ds, point - ds.length⟩) := by
  have marked := exponent?_scientific (point - 1)
  rw [show -(point - 1) = 1 - point by omega] at marked
  unfold scientificText
  generalize (if point - 1 < 0 then '-' :: digits (1 - point).toNat else digits (point - 1).toNat) = power
    at marked ⊢
  have ends : EndsRun ('e' :: power) := endsRun_cons rfl
  cases ds with
  | nil => exact absurd rfl some
  | cons c rest =>
      have first : AllDigits [c] := fun c' member => all c' (List.mem_of_mem_take (i := 1) member)
      have others : AllDigits rest := fun c' member => all c' (List.mem_cons_of_mem c member)
      refine ⟨⟨c, rfl, all c (List.mem_cons_self ..)⟩, ?_⟩
      dsimp only [List.drop_succ_cons, List.drop_zero, List.take_succ_cons, List.take_zero]
      cases rest with
      | nil =>
          have read := decimal?_whole (List.cons_ne_nil c []) first ends (by simp)
          rw [marked] at read
          exact ⟨_, read, by simp⟩
      | cons c' rest =>
          have read := decimal?_point (List.cons_ne_nil c []) first others ends
          rw [marked, Option.map_some] at read
          have shift : point - 1 - ((c' :: rest).length : Int) = point - (c :: c' :: rest).length := by
            simp only [List.length_cons]
            omega
          rw [shift] at read
          exact ⟨_, read, rfl⟩

/-- The text of a decimal reads as what the decimal reads as. -/
theorem reads_decimalText (style : NumberStyle) (d : Decimal) : Reads (style.decimalText d) d.nearest := by
  rcases d with ⟨n, power⟩
  unfold decimalText
  dsimp only
  split
  · next zero =>
      have one := allDigits_replicate 1
      rw [zero, Decimal.nearest_zero]
      cases style.wholeFraction with
      | true => exact reads_point (List.cons_ne_nil '0' []) one one
      | false => exact reads_whole (List.cons_ne_nil '0' []) one
  · next nonzero =>
      have positional := reads_positionalText style (digits_ne_nil n) (allDigits_digits n)
        ((digits n).length + power)
      have scientific := reads_scientificText (digits_ne_nil n) (allDigits_digits n)
        ((digits n).length + power)
      have gap : ((digits n).length : Int) + power - (digits n).length = power := by omega
      rw [digitsValue_digits, gap] at positional scientific
      split
      · exact positional
      · split
        · exact positional
        · exact scientific

/-! ## Doubles -/

theorem read?_of_digit {c : Char} {cs : List Char} (digit : c.isDigit = true) :
    read? (c :: cs) = (Literal.unsigned? (c :: cs)).map (value false) := by
  unfold read?
  split
  · next same =>
      cases same
      cases digit
  · next same =>
      cases same
      cases digit
  · rfl

theorem read?_signed {text : List Char} {bits : Nat} (negative : Bool) (reads : Reads text bits) :
    read? (if negative then '-' :: text else text) = some (Binary64.ofMagnitude negative bits) := by
  obtain ⟨d, found, same⟩ := reads.unsigned?
  obtain ⟨⟨c, first, digit⟩, -⟩ := reads
  subst same
  cases text with
  | nil => cases first
  | cons c' cs =>
      cases first
      cases negative with
      | true =>
          unfold read?
          simp only [if_true, found]
          rfl
      | false =>
          rw [if_neg Bool.false_ne_true, read?_of_digit digit, found]
          rfl

/-- The text of a double is read back as that double, its sign and the kind of an infinite or undefined
one included. -/
theorem read?_write (style : NumberStyle) (x : Float) : read? (style.write x) = some x := by
  unfold write
  split
  · next nan =>
      rw [Binary64.eq_of_isNaN ((Binary64.isNaN_iff x).mp nan)]
      rfl
  · next number =>
      dsimp only
      rw [Binary64.isNaN_iff, Nat.not_lt] at number
      have back := Binary64.ofMagnitude_magnitude x
      rcases lt_or_ge (Binary64.magnitude x) Binary64.infinity with finite | infinite
      · have reads := reads_decimalText style (Decimal.shortest style.tie (Binary64.magnitude x))
        rw [Decimal.nearest_shortest style.tie finite] at reads
        rw [if_pos finite, read?_signed _ reads, back]
      · rw [Nat.le_antisymm number infinite] at back
        rw [if_neg (Nat.not_lt.mpr infinite)]
        cases sign : Binary64.isNegative x with
        | true =>
            rw [sign] at back
            exact congrArg some back
        | false =>
            rw [sign] at back
            exact congrArg some back

/-! ## Characters -/

/-- The characters that the text of a double may hold. -/
def isNumeral (c : Char) : Bool := c.isDigit || ['.', 'e', '-', 'i', 'n', 'f', 'N', 'a'].contains c

theorem isNumeral_digit {c : Char} (digit : c.isDigit = true) : isNumeral c = true := by
  rw [isNumeral, digit, Bool.true_or]

theorem all_isNumeral_digits (n : Nat) : (digits n).all isNumeral = true :=
  List.all_eq_true.mpr fun c member => isNumeral_digit (allDigits_digits n c member)

theorem all_isNumeral_take {ds : List Char} (all : ds.all isNumeral = true) (n : Nat) :
    (ds.take n).all isNumeral = true := by
  rw [List.all_eq_true] at all ⊢
  exact fun c member => all c (List.mem_of_mem_take member)

theorem all_isNumeral_drop {ds : List Char} (all : ds.all isNumeral = true) (n : Nat) :
    (ds.drop n).all isNumeral = true := by
  rw [List.all_eq_true] at all ⊢
  exact fun c member => all c (List.mem_of_mem_drop member)

theorem all_isNumeral_positionalText (style : NumberStyle) {ds : List Char} (all : ds.all isNumeral = true)
    (point : Int) : (style.positionalText ds point).all isNumeral = true := by
  have zero : isNumeral '0' = true := rfl
  have dot : isNumeral '.' = true := rfl
  unfold positionalText
  split
  · simp [zero, dot, all]
  · split
    · cases style.wholeFraction with
      | true => simp [zero, dot, all]
      | false => simp [zero, all]
    · simp [dot, all_isNumeral_take all, all_isNumeral_drop all]

theorem all_isNumeral_scientificText {ds : List Char} (all : ds.all isNumeral = true) (point : Int) :
    (scientificText ds point).all isNumeral = true := by
  have dot : isNumeral '.' = true := rfl
  have mark : isNumeral 'e' = true := rfl
  have minus : isNumeral '-' = true := rfl
  have fraction : (if (ds.drop 1).isEmpty then [] else '.' :: ds.drop 1).all isNumeral = true := by
    split
    · rfl
    · rw [List.all_cons, dot, Bool.true_and]
      exact all_isNumeral_drop all 1
  have power : (if point - 1 < 0 then '-' :: digits (1 - point).toNat
      else digits (point - 1).toNat).all isNumeral = true := by
    split
    · rw [List.all_cons, minus, Bool.true_and]
      exact all_isNumeral_digits _
    · exact all_isNumeral_digits _
  unfold scientificText
  dsimp only
  rw [List.all_append, List.all_append, List.all_cons, all_isNumeral_take all 1, fraction, mark, power]
  rfl

theorem all_isNumeral_decimalText (style : NumberStyle) (d : Decimal) :
    (style.decimalText d).all isNumeral = true := by
  have positional (point : Int) := all_isNumeral_positionalText style (all_isNumeral_digits d.digits) point
  have scientific (point : Int) := all_isNumeral_scientificText (all_isNumeral_digits d.digits) point
  unfold decimalText
  dsimp only
  split
  · cases style.wholeFraction <;> rfl
  · split
    · exact positional _
    · split
      · exact positional _
      · exact scientific _

/-- The text of a double holds no blank, quote or end of line. -/
theorem all_isNumeral_write (style : NumberStyle) (x : Float) : (style.write x).all isNumeral = true := by
  have unsigned : (if Binary64.magnitude x < Binary64.infinity then
      style.decimalText (Decimal.shortest style.tie (Binary64.magnitude x))
      else ['i', 'n', 'f']).all isNumeral = true := by
    split
    · exact all_isNumeral_decimalText style _
    · rfl
  unfold write
  split
  · rfl
  · dsimp only
    split
    · rw [List.all_cons, unsigned]
      rfl
    · exact unsigned

theorem write_ne_nil (style : NumberStyle) (x : Float) : style.write x ≠ [] := by
  intro empty
  have back := read?_write style x
  rw [empty] at back
  cases back

end NumberStyle

end QuicksortStudy
