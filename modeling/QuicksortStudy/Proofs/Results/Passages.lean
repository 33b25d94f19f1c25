import Mathlib
import QuicksortStudy.Results.Record

/-!
# A results file as a sequence of passages

A passage is a record as it stands in a file: line ends that are passed over, the text of the record, and the byte
that ends it.  The text of a record is made of fields with blanks between them, and a field may begin with a part in
quotes in which blanks and line ends are ordinary bytes.  Every file is a sequence of passages.
-/

namespace QuicksortStudy

namespace RecordReader

/-! ## Texts of fields and records -/

/-- Whether a byte ends a field that is not in quotes. -/
def endsField (b : UInt8) : Bool := b == blank || endsRecord b

/-- What is written between quotes: each quote twice. -/
def doubled (inside : List UInt8) : List UInt8 :=
  inside.flatMap fun b => if b = quote then [quote, quote] else [b]

/-- The part of a field that is not in quotes.  Quotes are ordinary bytes there, except at the front. -/
structure Tail (bytes : List UInt8) : Prop where
  inField : ∀ b ∈ bytes, endsField b = false
  front : bytes.head? ≠ some quote

/-- The text of a field, with what the field says. -/
inductive FieldText : List UInt8 → List UInt8 → Prop where
  | bare {tail : List UInt8} (plain : Tail tail) : FieldText tail tail
  | quoted (inside : List UInt8) {tail : List UInt8} (plain : Tail tail) :
      FieldText (quote :: (doubled inside ++ quote :: tail)) (inside ++ tail)

/-- The text of a field that the file ends in: its quotes may not be closed. -/
inductive LastFieldText : List UInt8 → List UInt8 → Prop where
  | closed {text field : List UInt8} (isField : FieldText text field) : LastFieldText text field
  | unclosed (inside : List UInt8) : LastFieldText (quote :: doubled inside) inside

/-- The text of a record: fields with blanks between them, of which the last one may be of a kind of its own. -/
inductive Joined (IsLast : List UInt8 → List UInt8 → Prop) : List UInt8 → List (List UInt8) → Prop where
  | last {text field : List UInt8} (isLast : IsLast text field) : Joined IsLast text [field]
  | cons {text field rest : List UInt8} {fields : List (List UInt8)} (isField : FieldText text field)
      (others : Joined IsLast rest fields) : Joined IsLast (text ++ blank :: rest) (field :: fields)

theorem Joined.imp {IsLast IsLast' : List UInt8 → List UInt8 → Prop}
    (weaker : ∀ text field, IsLast text field → IsLast' text field) {text : List UInt8} {fields : List (List UInt8)}
    (joined : Joined IsLast text fields) : Joined IsLast' text fields := by
  induction joined with
  | last isLast => exact .last (weaker _ _ isLast)
  | cons isField others ih => exact .cons isField ih

end RecordReader

open RecordReader

/-! ## Passages -/

/-- A record as it stands in a file. -/
structure Passage where
  /-- The line ends that are passed over before the record. -/
  gap : List UInt8
  text : List UInt8
  /-- The byte that ends the record, if it is not the end of the file that does. -/
  ending : List UInt8
  fields : List (List UInt8)

namespace Passage

/-- All bytes of a passage. -/
def bytes (p : Passage) : List UInt8 := p.gap ++ (p.text ++ p.ending)

/-- The text of the record begins where the line ends are passed. -/
structure Holds (IsLast : List UInt8 → List UInt8 → Prop) (p : Passage) : Prop where
  gap : ∀ b ∈ p.gap, endsRecord b = true
  begins : ∃ b, p.text.head? = some b ∧ endsRecord b = false
  text : Joined IsLast p.text p.fields

/-- A passage that ends with a line end. -/
structure Closed (p : Passage) : Prop where
  holds : p.Holds FieldText
  ending : ∃ e, p.ending = [e] ∧ endsRecord e = true

/-- A passage that the file ends in. -/
structure Unclosed (p : Passage) : Prop where
  holds : p.Holds LastFieldText
  ending : p.ending = []

/-- The line and the fields of each record, when the first passage begins on a given line. -/
def numbered (line : Nat) : List Passage → List (Nat × List (List UInt8))
  | [] => []
  | p :: passages => (line, p.fields) :: numbered (line + p.bytes.count lineFeed) passages

end Passage

/-- Passages that make up some bytes, up to line ends behind the last one. -/
inductive IsFile : List Passage → List UInt8 → Prop where
  | gap {gap : List UInt8} (passed : ∀ b ∈ gap, endsRecord b = true) : IsFile [] gap
  | last {p : Passage} (unclosed : p.Unclosed) : IsFile [p] p.bytes
  | cons {p : Passage} {passages : List Passage} {bytes : List UInt8} (closed : p.Closed)
      (others : IsFile passages bytes) : IsFile (p :: passages) (p.bytes ++ bytes)

/-! ## Every file is a sequence of passages -/

namespace RecordReader

/-- Quotes are closed by the first quote that is not doubled, if there is one. -/
theorem exists_doubled : ∀ bytes : List UInt8, ∃ inside, bytes = doubled inside ∨
    ∃ rest, bytes = doubled inside ++ quote :: rest ∧ rest.head? ≠ some quote
  | [] => ⟨[], .inl rfl⟩
  | [b] => by
      by_cases isQuote : b = quote
      · exact ⟨[], .inr ⟨[], by rw [isQuote]; rfl, nofun⟩⟩
      · exact ⟨[b], .inl (by simp [doubled, isQuote])⟩
  | b :: c :: rest => by
      by_cases isQuote : b = quote
      · by_cases again : c = quote
        · obtain ⟨inside, all | ⟨rest', split, front⟩⟩ := exists_doubled rest
          · exact ⟨quote :: inside, .inl (by rw [isQuote, again, all]; rfl)⟩
          · exact ⟨quote :: inside, .inr ⟨rest', by rw [isQuote, again, split]; rfl, front⟩⟩
        · exact ⟨[], .inr ⟨c :: rest, by rw [isQuote]; rfl, by simpa using again⟩⟩
      · obtain ⟨inside, all | ⟨rest', split, front⟩⟩ := exists_doubled (c :: rest)
        · exact ⟨b :: inside, .inl (by rw [all]; simp [doubled, isQuote])⟩
        · exact ⟨b :: inside, .inr ⟨rest', by rw [split]; simp [doubled, isQuote], front⟩⟩

/-- Bytes are cut where a test first fails. -/
theorem exists_cut (p : UInt8 → Bool) (bytes : List UInt8) :
    ∃ front rest, bytes = front ++ rest ∧ (∀ b ∈ front, p b = true) ∧ ∀ b ∈ rest.head?, p b = false := by
  refine ⟨bytes.takeWhile p, bytes.dropWhile p, List.takeWhile_append_dropWhile.symm,
    fun b member => List.mem_takeWhile_imp member, fun b first => ?_⟩
  have stopped := List.head?_dropWhile_not p bytes
  rw [Option.mem_def.mp first] at stopped
  exact stopped

theorem exists_tail {bytes : List UInt8} (front : bytes.head? ≠ some quote) :
    ∃ tail rest, bytes = tail ++ rest ∧ Tail tail ∧ ∀ b ∈ rest.head?, endsField b = true := by
  obtain ⟨tail, rest, rfl, inField, stopped⟩ := exists_cut (fun b => !endsField b) bytes
  refine ⟨tail, rest, rfl, ⟨fun b member => by simpa using inField b member, fun first => front ?_⟩,
    fun b first => by simpa using stopped b first⟩
  rw [List.head?_append, first]
  rfl

/-- A field reaches to a blank, a line end or the end of the file. -/
theorem exists_field (bytes : List UInt8) :
    (∃ text field rest, bytes = text ++ rest ∧ FieldText text field ∧ ∀ b ∈ rest.head?, endsField b = true) ∨
      ∃ inside, bytes = quote :: doubled inside := by
  by_cases begins : bytes.head? = some quote
  · obtain ⟨after, rfl⟩ := List.head?_eq_some_iff.mp begins
    obtain ⟨inside, rfl | ⟨rest, rfl, front⟩⟩ := exists_doubled after
    · exact .inr ⟨inside, rfl⟩
    · obtain ⟨tail, rest, rfl, plain, ends⟩ := exists_tail front
      refine .inl ⟨_, _, rest, ?_, .quoted inside plain, ends⟩
      rw [List.cons_append, List.append_assoc, List.cons_append]
  · obtain ⟨tail, rest, rfl, plain, ends⟩ := exists_tail begins
    exact .inl ⟨tail, tail, rest, rfl, .bare plain, ends⟩

/-- A record reaches to a line end or the end of the file. -/
theorem exists_record (bytes : List UInt8) :
    (∃ text fields rest, bytes = text ++ rest ∧ Joined FieldText text fields ∧
      ∀ b ∈ rest.head?, endsRecord b = true) ∨ ∃ fields, Joined LastFieldText bytes fields := by
  -- On the length: behind a blank the rest of the record is a record again.
  induction length : bytes.length using Nat.strong_induction_on generalizing bytes with
  | _ n ih =>
      rcases exists_field bytes with ⟨text, field, rest, rfl, isField, ends⟩ | ⟨inside, rfl⟩
      · cases rest with
        | nil => exact .inl ⟨text, [field], [], rfl, .last isField, nofun⟩
        | cons b rest =>
            have shorter : rest.length < n := by
              rw [← length, List.length_append, List.length_cons]
              omega
            rcases Bool.or_eq_true_iff.mp (ends b rfl) with isBlank | isEnd
            · cases eq_of_beq isBlank
              rcases ih rest.length shorter rest rfl with ⟨others, fields, rest, rfl, joined, ends⟩ | ⟨fields, joined⟩
              · refine .inl ⟨text ++ blank :: others, field :: fields, rest, ?_, .cons isField joined, ends⟩
                rw [List.append_assoc, List.cons_append]
              · exact .inr ⟨field :: fields, .cons isField joined⟩
            · refine .inl ⟨text, [field], b :: rest, rfl, .last isField, fun b' first => ?_⟩
              cases first
              exact isEnd
      · exact .inr ⟨[inside], .last (.unclosed inside)⟩

end RecordReader

/-- Bytes that are not all line ends begin with a passage. -/
theorem exists_passage {bytes : List UInt8} (some : ¬∀ b ∈ bytes, endsRecord b = true) :
    (∃ p : Passage, p.Unclosed ∧ bytes = p.bytes) ∨
      ∃ (p : Passage) (rest : List UInt8), p.Closed ∧ bytes = p.bytes ++ rest := by
  obtain ⟨gap, others, rfl, passed, stopped⟩ := exists_cut endsRecord bytes
  obtain ⟨b, others, rfl⟩ : ∃ b rest, others = b :: rest := by
    refine List.exists_cons_of_ne_nil fun none => some ?_
    rw [none, List.append_nil]
    exact passed
  have begins := stopped b rfl
  rcases exists_record (b :: others) with ⟨text, fields, rest, split, joined, ends⟩ | ⟨fields, joined⟩
  · -- The text is not empty, as what is behind it begins with a line end and the first byte is none.
    have first : text.head? = Option.some b := by
      cases text with
      | nil =>
          rw [List.nil_append] at split
          rw [← split] at ends
          rw [ends b rfl] at begins
          cases begins
      | cons c text =>
          cases split
          rfl
    rw [split]
    cases rest with
    | nil =>
        exact .inl ⟨⟨gap, text, [], fields⟩, ⟨⟨passed, ⟨b, first, begins⟩, joined.imp fun _ _ => .closed⟩, rfl⟩, rfl⟩
    | cons e rest =>
        refine .inr ⟨⟨gap, text, [e], fields⟩, rest, ⟨⟨passed, ⟨b, first, begins⟩, joined⟩, e, rfl, ends e rfl⟩, ?_⟩
        simp [Passage.bytes]
  · refine .inl ⟨⟨gap, b :: others, [], fields⟩, ⟨⟨passed, ⟨b, rfl, begins⟩, joined⟩, rfl⟩, ?_⟩
    simp [Passage.bytes]

theorem exists_isFile (bytes : List UInt8) : ∃ passages, IsFile passages bytes := by
  induction length : bytes.length using Nat.strong_induction_on generalizing bytes with
  | _ n ih =>
      by_cases passed : ∀ b ∈ bytes, endsRecord b = true
      · exact ⟨[], .gap passed⟩
      · rcases exists_passage passed with ⟨p, unclosed, rfl⟩ | ⟨p, rest, closed, rfl⟩
        · exact ⟨[p], .last unclosed⟩
        · obtain ⟨e, ending, -⟩ := closed.ending
          have shorter : rest.length < n := by
            rw [← length, List.length_append, Passage.bytes, ending]
            simp only [List.length_append, List.length_singleton]
            omega
          obtain ⟨passages, isFile⟩ := ih rest.length shorter rest rfl
          exact ⟨p :: passages, .cons closed isFile⟩

end QuicksortStudy
