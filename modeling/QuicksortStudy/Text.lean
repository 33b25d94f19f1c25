/-!
# Texts

Strict UTF-8: bytes are a text, or their longest prefix of whole characters is where they stop being one.  A text is
cut at every separator, and the empty pieces are kept.  What is trimmed are the characters with the Unicode property
`White_Space`.
-/

namespace QuicksortStudy

namespace Utf8

/-- The end of the longest run of whole characters from a position on. -/
def validEnd (bytes : ByteArray) (position : Nat) : Nat :=
  match _ : bytes.utf8DecodeChar? position with
  | none => position
  | some c => validEnd bytes (position + c.utf8Size)
termination_by bytes.size - position
decreasing_by
  have := c.utf8Size_pos
  have := ByteArray.lt_size_of_isSome_utf8DecodeChar? (Option.isSome_of_eq_some ‹_›)
  omega

/-- The text that some bytes encode, or the number of bytes before the first bad one. -/
def decode (bytes : List UInt8) : Except Nat String :=
  match String.fromUTF8? bytes.toByteArray with
  | some text => .ok text
  | none => .error (validEnd bytes.toByteArray 0)

def encode (text : String) : List UInt8 := text.toByteArray.toList

end Utf8

namespace Split

variable {α : Type} [DecidableEq α]

/-- The pieces between the separators; there is always at least one. -/
def pieces (separator : α) : List α → List (List α)
  | [] => [[]]
  | a :: rest =>
    if a = separator then [] :: pieces separator rest
    else match pieces separator rest with
      | [] => [[a]]
      | piece :: others => (a :: piece) :: others

def text (separator : Char) (s : String) : List String :=
  (pieces separator s.toList).map .ofList

theorem pieces_ne_nil (separator : α) (xs : List α) : pieces separator xs ≠ [] := by
  cases xs with
  | nil => simp [pieces]
  | cons a rest =>
    unfold pieces
    split
    · simp
    · split <;> simp

end Split

namespace Blank

/-- The ranges of blank characters. -/
def ranges : List (Nat × Nat) :=
  [(0x9, 0xd), (0x20, 0x20), (0x85, 0x85), (0xa0, 0xa0), (0x1680, 0x1680), (0x2000, 0x200a),
    (0x2028, 0x2029), (0x202f, 0x202f), (0x205f, 0x205f), (0x3000, 0x3000)]

def isBlank (c : Char) : Bool := ranges.any fun range => decide (range.1 ≤ c.toNat ∧ c.toNat ≤ range.2)

def trim (text : String) : String :=
  .ofList ((text.toList.dropWhile isBlank).reverse.dropWhile isBlank).reverse

end Blank

end QuicksortStudy
