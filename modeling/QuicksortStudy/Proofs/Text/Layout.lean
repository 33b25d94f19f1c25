import Mathlib
import QuicksortStudy.Proofs.Text.Words

/-!
# The layout of a text

A text is a table: its lines that are not empty, each with its fields that are not empty.  Blank lines, line
ends of two characters, and spaces before, after or between the fields are layout, which the table does not
show.  A line of spaces is not layout; it is a line without fields.
-/

namespace QuicksortStudy.Layout

/-- A line ends at a line feed and at a carriage return. -/
def endsLine (c : Char) : Bool := c == '\n' || c == '\r'

/-- The character between fields. -/
def isSpace (c : Char) : Bool := c == ' '

/-- A text without the mark that may stand before it. -/
def body : List Char → List Char
  | '\uFEFF' :: cs => cs
  | cs => cs

/-- The lines of a text that are not empty. -/
def lines (cs : List Char) : List (List Char) := words endsLine cs

/-- The fields of a line that are not empty. -/
def fields (line : List Char) : List (List Char) := words isSpace line

/-- The fields of all lines of a text. -/
def table (cs : List Char) : List (List (List Char)) := (lines cs).map fields

/-- Texts that differ at one place, and there only in their layout. -/
inductive Relaid : List Char → List Char → Prop where
  /-- A blank line, or the second character of a line end. -/
  | blankLine (before after : List Char) {c d : Char} (ends : endsLine c = true) (again : endsLine d = true) :
      Relaid (before ++ c :: d :: after) (before ++ c :: after)
  | firstLineEnd (after : List Char) {c : Char} (ends : endsLine c = true) : Relaid (c :: after) after
  | lastLineEnd (before : List Char) {c : Char} (ends : endsLine c = true) : Relaid (before ++ [c]) before
  | otherLineEnd (before after : List Char) {c d : Char} (ends : endsLine c = true) (other : endsLine d = true) :
      Relaid (before ++ c :: after) (before ++ d :: after)
  /-- A space that begins a line with more on it. -/
  | leadingSpace (before after : List Char) {c : Char} (begins : ∀ d ∈ before.getLast?, endsLine d = true)
      (inLine : endsLine c = false) : Relaid (before ++ ' ' :: c :: after) (before ++ c :: after)
  /-- A space that ends a line with more on it. -/
  | trailingSpace (before after : List Char) {c : Char} (inLine : endsLine c = false)
      (ends : ∀ d ∈ after.head?, endsLine d = true) : Relaid (before ++ c :: ' ' :: after) (before ++ c :: after)
  | repeatedSpace (before after : List Char) : Relaid (before ++ ' ' :: ' ' :: after) (before ++ ' ' :: after)

/-! ## Single changes -/

theorem lines_append_cons (before after : List Char) {c : Char} (ends : endsLine c = true) :
    lines (before ++ c :: after) = lines before ++ lines after := words_append_cons before after ends

/-- What stands on the same line as a place in a text, to its left and to its right. -/
structure Beside (before after left right : List Char) : Prop where
  inLineLeft : ∀ c ∈ left, endsLine c = false
  inLineRight : ∀ c ∈ right, endsLine c = false
  last : ∀ c ∈ before.getLast?, endsLine c = false → left.getLast? = some c
  first : ∀ c ∈ after.head?, endsLine c = false → right.head? = some c
  last_eq : left ≠ [] → left.getLast? = before.getLast?
  first_eq : right ≠ [] → right.head? = after.head?

theorem Beside.left_eq_nil {before after left right : List Char} (beside : Beside before after left right)
    (begins : ∀ c ∈ before.getLast?, endsLine c = true) : left = [] := by
  by_contra some
  obtain ⟨c, last⟩ := Option.ne_none_iff_exists'.mp (mt List.getLast?_eq_none_iff.mp some)
  have ends := begins c ((beside.last_eq some).symm.trans last)
  rw [beside.inLineLeft c (List.mem_of_getLast? last)] at ends
  cases ends

theorem Beside.right_eq_nil {before after left right : List Char} (beside : Beside before after left right)
    (ends : ∀ c ∈ after.head?, endsLine c = true) : right = [] := by
  by_contra some
  obtain ⟨c, first⟩ := Option.ne_none_iff_exists'.mp (mt List.head?_eq_none_iff.mp some)
  have ends := ends c ((beside.first_eq some).symm.trans first)
  rw [beside.inLineRight c (List.mem_of_head? first)] at ends
  cases ends

/-- What is put at a place changes the fields of one line only. -/
theorem table_around (before after : List Char) :
    ∃ rows left right rows', Beside before after left right ∧
      ∀ between, (∀ c ∈ between, endsLine c = false) → left ++ (between ++ right) ≠ [] →
        table (before ++ (between ++ after)) = rows ++ fields (left ++ (between ++ right)) :: rows' := by
  obtain ⟨rows, left, noneLeft, last, lastEq, joinedLeft⟩ := words_append_right endsLine before
  obtain ⟨right, rows', noneRight, first, firstEq, joinedRight⟩ := words_append_left endsLine after
  refine ⟨rows.map fields, left, right, rows'.map fields, ⟨noneLeft, noneRight, last, first, lastEq, firstEq⟩,
    fun between none some => ?_⟩
  have all : ∀ c ∈ left ++ (between ++ right), endsLine c = false :=
    List.forall_mem_append.mpr ⟨noneLeft, List.forall_mem_append.mpr ⟨none, noneRight⟩⟩
  have line : words endsLine (left ++ (between ++ after)) = (left ++ (between ++ right)) :: rows' := by
    rw [← List.append_assoc, joinedRight, List.append_assoc, words_of_none all some, List.singleton_append]
  unfold table lines
  rw [joinedLeft, line, List.map_append, List.map_cons]

/-- A space makes no difference if the line does not depend on it and its fields do not either. -/
theorem table_space {before after : List Char}
    (same : ∀ left right, Beside before after left right →
      left ++ right ≠ [] ∧ fields (left ++ ' ' :: right) = fields (left ++ right)) :
    table (before ++ ' ' :: after) = table (before ++ after) := by
  obtain ⟨rows, left, right, rows', beside, around⟩ := table_around before after
  obtain ⟨some, same⟩ := same left right beside
  have spaced := around [' '] (List.forall_mem_singleton.mpr rfl)
    (List.append_ne_nil_of_right_ne_nil _ (List.cons_ne_nil _ _))
  have unspaced := around [] (List.forall_mem_nil _) some
  rw [List.singleton_append, List.singleton_append, same] at spaced
  rw [List.nil_append, List.nil_append] at unspaced
  exact spaced.trans unspaced.symm

theorem fields_append_cons (before after : List Char) :
    fields (before ++ ' ' :: after) = fields before ++ fields after := words_append_cons before after rfl

theorem table_leadingSpace (before after : List Char) {c : Char} (begins : ∀ d ∈ before.getLast?, endsLine d = true)
    (inLine : endsLine c = false) : table (before ++ ' ' :: c :: after) = table (before ++ c :: after) := by
  apply table_space
  intro left right beside
  have first := beside.first c rfl inLine
  rw [beside.left_eq_nil begins]
  constructor
  · rintro rfl
    cases first
  · exact fields_append_cons [] right

theorem table_trailingSpace (before after : List Char) {c : Char} (inLine : endsLine c = false)
    (ends : ∀ d ∈ after.head?, endsLine d = true) :
    table (before ++ c :: ' ' :: after) = table (before ++ c :: after) := by
  have spaced := List.append_cons before c (' ' :: after)
  rw [spaced, List.append_cons before c after]
  apply table_space
  intro left right beside
  have last := beside.last c List.getLast?_concat inLine
  rw [beside.right_eq_nil ends, List.append_nil]
  constructor
  · rintro rfl
    cases last
  · rw [fields_append_cons]
    exact List.append_nil _

theorem table_repeatedSpace (before after : List Char) :
    table (before ++ ' ' :: ' ' :: after) = table (before ++ ' ' :: after) := by
  rw [List.append_cons before ' ' (' ' :: after), List.append_cons before ' ' after]
  apply table_space
  intro left right beside
  obtain ⟨left, rfl⟩ := List.getLast?_eq_some_iff.mp (beside.last ' ' List.getLast?_concat rfl)
  constructor
  · simp
  · have once : fields (' ' :: right) = fields right := fields_append_cons [] right
    rw [List.append_assoc, List.append_assoc, List.singleton_append, List.singleton_append, fields_append_cons,
      fields_append_cons, once]

/-! ## Many changes -/

theorem Relaid.table_eq {cs cs' : List Char} (relaid : Relaid cs cs') : table cs = table cs' := by
  cases relaid with
  | blankLine before after ends again =>
      rename_i c d
      have second : lines (d :: after) = lines after := words_cons after again
      unfold table
      rw [lines_append_cons before (d :: after) ends, lines_append_cons before after ends, second]
  | firstLineEnd after ends => exact congrArg (List.map fields) (words_cons _ ends)
  | lastLineEnd before ends => exact congrArg (List.map fields) (words_concat _ ends)
  | otherLineEnd before after ends other =>
      unfold table
      rw [lines_append_cons before after ends, lines_append_cons before after other]
  | leadingSpace before after begins inLine => exact table_leadingSpace before after begins inLine
  | trailingSpace before after inLine ends => exact table_trailingSpace before after inLine ends
  | repeatedSpace before after => exact table_repeatedSpace before after

/-- Changes of the layout, any number of them in either direction, leave the table as it is. -/
theorem table_eq_of_relaid {cs cs' : List Char} (relaid : Relation.EqvGen Relaid cs cs') : table cs = table cs' := by
  induction relaid with
  | rel cs cs' relaid => exact relaid.table_eq
  | refl cs => rfl
  | symm cs cs' _ ih => exact ih.symm
  | trans cs cs' cs'' _ _ ih ih' => exact ih.trans ih'

/-- A line of spaces has no fields. -/
theorem fields_eq_nil {line : List Char} (spaces : ∀ c ∈ line, c = ' ') : fields line = [] :=
  words_eq_nil fun c member => by rw [spaces c member]; rfl

example : table "1 2 3\n4 5 6".toList = table " 1 2  3\r\n\n4 5 6 \r".toList := by decide

end QuicksortStudy.Layout
