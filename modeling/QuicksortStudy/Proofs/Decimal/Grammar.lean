import Mathlib
import QuicksortStudy.Proofs.Decimal.Numeral

/-!
# The grammar of number literals

A declarative account of what counts as a number, apart from the reader: an optional sign and then one of
three words in any case, or digits with an optional point and an optional exponent.  The reader gives a
value for exactly these texts.
-/

namespace QuicksortStudy.Literal

/-- One digit or more. -/
def IsDigits (ds : List Char) : Prop := ds ≠ [] ∧ AllDigits ds

/-- The letter before an exponent. -/
def MarksExponent (c : Char) : Prop := c = 'e' ∨ c = 'E'

/-- The two signs. -/
def IsSign (c : Char) : Prop := c = '+' ∨ c = '-'

/-- What may follow the digits of a number. -/
inductive IsExponent : List Char → Prop where
  | absent : IsExponent []
  | unsigned {mark : Char} {ds : List Char} (marks : MarksExponent mark) (digits : IsDigits ds) :
      IsExponent (mark :: ds)
  | signed {mark sign : Char} {ds : List Char} (marks : MarksExponent mark) (isSign : IsSign sign)
      (digits : IsDigits ds) : IsExponent (mark :: sign :: ds)

/-- A literal without a sign: a word, a whole number, or a number with a point and a digit beside it. -/
inductive IsUnsigned : List Char → Prop where
  | word {cs : List Char}
      (named : cs.map Char.toLower ∈ ["inf".toList, "infinity".toList, "nan".toList]) : IsUnsigned cs
  | whole {ds rest : List Char} (digits : IsDigits ds) (exponent : IsExponent rest) : IsUnsigned (ds ++ rest)
  | point {whole fraction rest : List Char} (allWhole : AllDigits whole) (allFraction : AllDigits fraction)
      (filled : whole ≠ [] ∨ fraction ≠ []) (exponent : IsExponent rest) :
      IsUnsigned (whole ++ '.' :: (fraction ++ rest))

/-- A literal. -/
inductive IsLiteral : List Char → Prop where
  | unsigned {cs : List Char} (given : IsUnsigned cs) : IsLiteral cs
  | signed {sign : Char} {cs : List Char} (isSign : IsSign sign) (given : IsUnsigned cs) : IsLiteral (sign :: cs)

/-! ## Digits and exponents -/

theorem exists_digits?_iff {ds : List Char} : (∃ n, digits? ds = some n) ↔ IsDigits ds := by
  unfold digits?
  constructor
  · rintro ⟨n, reads⟩
    split at reads
    · cases reads
    · next good =>
        rw [not_or, List.isEmpty_iff, Bool.not_eq_true', Bool.not_eq_false, List.all_eq_true] at good
        exact good
  · rintro ⟨some, all⟩
    refine ⟨_, if_neg ?_⟩
    rw [not_or, List.isEmpty_iff, Bool.not_eq_true', Bool.not_eq_false, List.all_eq_true]
    exact ⟨some, all⟩

theorem IsExponent.of_exponent? {cs : List Char} {power : Int} (reads : exponent? cs = some power) :
    IsExponent cs := by
  have digits {ds : List Char} {f : Int → Int} {power : Int}
      (reads : Option.map f ((digits? ds).bind fun n => some (n : Int)) = some power) : IsDigits ds := by
    cases given : digits? ds with
    | none =>
        rw [given] at reads
        cases reads
    | some n => exact exists_digits?_iff.mp ⟨n, given⟩
  match cs, reads with
  | [], _ => exact .absent
  | mark :: rest, reads =>
      unfold exponent? at reads
      dsimp only at reads
      split at reads
      · next marks =>
          split at reads
          · exact .signed marks (.inr rfl) (digits reads)
          · exact .signed marks (.inl rfl) (digits reads)
          · exact .unsigned marks (digits reads)
      · cases reads

theorem IsExponent.exponent? {cs : List Char} (exponent : IsExponent cs) :
    ∃ power, Literal.exponent? cs = some power := by
  cases exponent with
  | absent => exact ⟨0, rfl⟩
  | @unsigned mark ds marks digits =>
      obtain ⟨n, reads⟩ := exists_digits?_iff.mpr digits
      have marks : mark = 'e' ∨ mark = 'E' := marks
      unfold Literal.exponent?
      dsimp only
      rw [if_pos marks]
      split
      · exact absurd (digits.2 '-' (List.mem_cons_self ..)) (by decide)
      · exact absurd (digits.2 '+' (List.mem_cons_self ..)) (by decide)
      · rw [reads]
        exact ⟨_, rfl⟩
  | @signed mark sign ds marks isSign digits =>
      obtain ⟨n, reads⟩ := exists_digits?_iff.mpr digits
      have marks : mark = 'e' ∨ mark = 'E' := marks
      unfold Literal.exponent?
      dsimp only
      rw [if_pos marks]
      rcases isSign with rfl | rfl
      · simp only [reads]
        exact ⟨_, rfl⟩
      · simp only [reads]
        exact ⟨_, rfl⟩

/-- A run of digits ends where an exponent begins, and so does a number without a point. -/
theorem IsExponent.endsRun {rest : List Char} (exponent : IsExponent rest) :
    EndsRun rest ∧ rest.head? ≠ some '.' := by
  have marked {mark : Char} {cs : List Char} (marks : MarksExponent mark) :
      EndsRun (mark :: cs) ∧ (mark :: cs).head? ≠ some '.' := by
    rcases marks with rfl | rfl
    · exact ⟨endsRun_cons rfl, nofun⟩
    · exact ⟨endsRun_cons rfl, nofun⟩
  cases exponent with
  | absent => exact ⟨nofun, nofun⟩
  | unsigned marks digits => exact marked marks
  | signed marks isSign digits => exact marked marks

/-! ## Decimals -/

theorem allDigits_takeWhile (cs : List Char) : AllDigits (cs.takeWhile Char.isDigit) :=
  fun _ member => List.mem_takeWhile_imp member

/-- A fraction starts with a point, or there is none. -/
theorem fraction_cases (cs : List Char) :
    (∃ rest, cs = '.' :: rest ∧
      fraction cs = (rest.takeWhile Char.isDigit, rest.dropWhile Char.isDigit)) ∨ fraction cs = ([], cs) := by
  unfold fraction
  split
  · next rest => exact .inl ⟨rest, rfl, rfl⟩
  · exact .inr rfl

theorem IsUnsigned.of_decimal? {cs : List Char} {d : Decimal} (reads : decimal? cs = some d) : IsUnsigned cs := by
  have cut := List.takeWhile_append_dropWhile (p := Char.isDigit) (l := cs)
  have allWhole := allDigits_takeWhile cs
  unfold decimal? at reads
  dsimp only at reads
  split at reads
  · cases reads
  · next filled =>
      obtain ⟨power, exponent, -⟩ := Option.map_eq_some_iff.mp reads
      have exponent := IsExponent.of_exponent? exponent
      rw [not_and_or, List.isEmpty_iff, List.isEmpty_iff] at filled
      rw [← cut]
      rcases fraction_cases (cs.dropWhile Char.isDigit) with ⟨rest, after, parts⟩ | pointless
      · rw [parts] at filled exponent
        rw [after, ← List.takeWhile_append_dropWhile (p := Char.isDigit) (l := rest)]
        exact .point allWhole (allDigits_takeWhile rest) filled exponent
      · rw [pointless] at filled exponent
        exact .whole ⟨filled.resolve_right (fun filled => filled rfl), allWhole⟩ exponent

/-- Digits with a point among them or at an end, then an exponent. -/
theorem exists_decimal?_point {whole fractional rest : List Char} (allWhole : AllDigits whole)
    (allFractional : AllDigits fractional) (filled : whole ≠ [] ∨ fractional ≠ []) (exponent : IsExponent rest) :
    ∃ d, decimal? (whole ++ '.' :: (fractional ++ rest)) = some d := by
  obtain ⟨power, reads⟩ := exponent.exponent?
  have point : EndsRun ('.' :: (fractional ++ rest)) := endsRun_cons rfl
  have filled : ¬(whole = [] ∧ fractional = []) := not_and_or.mpr filled
  unfold decimal?
  rw [takeWhile_digits allWhole point, dropWhile_digits allWhole point]
  simp only [fraction, takeWhile_digits allFractional exponent.endsRun.1,
    dropWhile_digits allFractional exponent.endsRun.1, List.isEmpty_iff, filled, if_false, reads]
  exact ⟨_, rfl⟩

theorem exists_decimal?_whole {ds rest : List Char} (digits : IsDigits ds) (exponent : IsExponent rest) :
    ∃ d, decimal? (ds ++ rest) = some d := by
  obtain ⟨power, reads⟩ := exponent.exponent?
  rw [decimal?_whole digits.1 digits.2 exponent.endsRun.1 exponent.endsRun.2, reads]
  exact ⟨_, rfl⟩

/-! ## Literals -/

theorem exists_unsigned?_iff {cs : List Char} : (∃ literal, unsigned? cs = some literal) ↔ IsUnsigned cs := by
  unfold unsigned?
  dsimp only
  constructor
  · rintro ⟨literal, reads⟩
    split at reads
    · next named => exact .word (by rcases named with same | same <;> simp [same])
    · split at reads
      · next named => exact .word (by simp [named])
      · obtain ⟨d, reads, -⟩ := Option.map_eq_some_iff.mp reads
        exact .of_decimal? reads
  · intro given
    split
    · exact ⟨_, rfl⟩
    · split
      · exact ⟨_, rfl⟩
      · next unnamed notNan =>
          have ⟨d, reads⟩ : ∃ d, decimal? cs = some d := by
            cases given with
            | word named =>
                simp only [List.mem_cons, List.not_mem_nil, or_false] at named
                exact absurd named (by tauto)
            | whole digits exponent => exact exists_decimal?_whole digits exponent
            | point allWhole allFraction filled exponent =>
                exact exists_decimal?_point allWhole allFraction filled exponent
          rw [reads]
          exact ⟨_, rfl⟩

/-- Nothing without a sign starts with one. -/
theorem IsUnsigned.not_isSign {text : List Char} (given : IsUnsigned text) {c : Char}
    (first : text.head? = some c) : ¬IsSign c := by
  have digit {ds rest : List Char} (digits : IsDigits ds) (first : (ds ++ rest).head? = some c) : ¬IsSign c := by
    obtain ⟨c', first', digit⟩ := NumberStyle.head?_append_digit rest digits.1 digits.2
    rw [first, Option.mem_some_iff] at first'
    subst first'
    rintro (rfl | rfl)
    · cases digit
    · cases digit
  cases given with
  | word named =>
      rintro (rfl | rfl)
      · cases text with
        | nil => cases first
        | cons c' cs =>
            cases first
            simp at named
      · cases text with
        | nil => cases first
        | cons c' cs =>
            cases first
            simp at named
  | whole digits exponent => exact digit digits first
  | @point whole fraction rest allWhole allFraction filled exponent =>
      cases whole with
      | nil =>
          cases first
          rintro (isSign | isSign)
          · cases isSign
          · cases isSign
      | cons c' cs =>
          have digits : IsDigits (c' :: cs) := ⟨nofun, allWhole⟩
          exact digit digits first

/-- The texts that stand for a double are the literals. -/
theorem exists_read?_iff {cs : List Char} : (∃ x, read? cs = some x) ↔ IsLiteral cs := by
  have reads {negative : Bool} {cs : List Char} :
      (∃ x, (unsigned? cs).map (value negative) = some x) ↔ IsUnsigned cs := by
    rw [← exists_unsigned?_iff]
    constructor
    · rintro ⟨x, read⟩
      obtain ⟨literal, read, -⟩ := Option.map_eq_some_iff.mp read
      exact ⟨literal, read⟩
    · rintro ⟨literal, read⟩
      rw [read]
      exact ⟨_, rfl⟩
  constructor
  · intro given
    unfold read? at given
    split at given
    · exact .signed (.inr rfl) (reads.mp given)
    · exact .signed (.inl rfl) (reads.mp given)
    · exact .unsigned (reads.mp given)
  · intro literal
    unfold read?
    cases literal with
    | unsigned given =>
        split
        · exact absurd (.inr rfl) (given.not_isSign rfl)
        · exact absurd (.inl rfl) (given.not_isSign rfl)
        · exact reads.mpr given
    | signed isSign given =>
        rcases isSign with rfl | rfl
        · exact reads.mpr given
        · exact reads.mpr given

instance (cs : List Char) : Decidable (IsLiteral cs) :=
  decidable_of_iff ((read? cs).isSome = true) (Option.isSome_iff_exists.trans exists_read?_iff)

example : IsLiteral "-.5E+3".toList ∧ ¬IsLiteral "1e".toList ∧ ¬IsLiteral ".".toList := by decide +kernel

end QuicksortStudy.Literal
