import QuicksortStudy.Text

/-!
# Records

A results file is read as records of fields.  A blank ends a field and a line end ends a record; blank
lines are no records.  A field that begins with a quote reaches to the next single quote and may hold
anything; a doubled quote stands for one.  Anything after the closing quote is added to the field.

Each record carries the number of the line on which the reader stood before it looked for the record.
-/

namespace QuicksortStudy

structure RawRecord where
  /-- The line counter when the previous record had ended. -/
  line : Nat
  /-- The number of bytes before that point. -/
  offset : Nat
  fields : List (List UInt8)
  deriving Repr, DecidableEq

structure Record where
  line : Nat
  fields : List String
  deriving Repr, DecidableEq

structure EncodingError where
  /-- The number of records before. -/
  record : Nat
  line : Nat
  /-- The number of fields before. -/
  field : Nat
  offset : Nat
  /-- The number of good bytes of the field. -/
  validBytes : Nat
  deriving Repr, DecidableEq

def EncodingError.message (e : EncodingError) : String :=
  "CSV parse error: record " ++ toString e.record ++ " (line " ++ toString e.line ++ ", field: " ++
    toString e.field ++ ", byte: " ++ toString e.offset ++ "): invalid utf-8: invalid UTF-8 in field " ++
    toString e.field ++ " near byte index " ++ toString e.validBytes

inductive ReaderPhase where
  | betweenRecords
  | fieldStart
  | unquoted
  | quoted
  /-- After a quote that closes the field, unless another one follows. -/
  | afterQuote
  deriving Repr, DecidableEq

/-- The reader of records.  What is complete is kept in reverse. -/
structure RecordReader where
  phase : ReaderPhase
  line : Nat
  offset : Nat
  recordLine : Nat
  recordOffset : Nat
  field : List UInt8
  fields : List (List UInt8)
  records : List RawRecord
  deriving Repr, DecidableEq

namespace RecordReader

def blank : UInt8 := 0x20

def quote : UInt8 := 0x22

def lineFeed : UInt8 := 0x0a

def carriageReturn : UInt8 := 0x0d

def endsRecord (b : UInt8) : Bool := b == lineFeed || b == carriageReturn

/-- The bytes that mark a text as UTF-8. -/
def byteOrderMark : List UInt8 := [0xef, 0xbb, 0xbf]

/-- The reader before the first byte, after a number of skipped ones. -/
def start (skipped : Nat) : RecordReader :=
  ⟨.betweenRecords, 1, skipped, 1, 0, [], [], []⟩

def count (r : RecordReader) (b : UInt8) : RecordReader :=
  { r with line := if b == lineFeed then r.line + 1 else r.line, offset := r.offset + 1 }

def keep (r : RecordReader) (b : UInt8) (phase : ReaderPhase) : RecordReader :=
  { r with field := b :: r.field, phase }

def endField (r : RecordReader) : RecordReader :=
  { r with field := [], fields := r.field.reverse :: r.fields, phase := .fieldStart }

def endRecord (r : RecordReader) : RecordReader :=
  let ended := r.endField
  { ended with
    fields := [], records := ⟨r.recordLine, r.recordOffset, ended.fields.reverse⟩ :: r.records
    recordLine := r.line, recordOffset := r.offset, phase := .betweenRecords }

/-- A byte outside of quotes. -/
def plain (r : RecordReader) (b : UInt8) : RecordReader :=
  if b == blank then r.endField
  else if endsRecord b then r.endRecord
  else r.keep b .unquoted

/-- A byte at the start of a field. -/
def startField (r : RecordReader) (b : UInt8) : RecordReader :=
  if b == quote then { r with phase := .quoted } else r.plain b

def step (reader : RecordReader) (b : UInt8) : RecordReader :=
  let r := reader.count b
  match r.phase with
  | .betweenRecords => if endsRecord b then r else r.startField b
  | .fieldStart => r.startField b
  | .unquoted => r.plain b
  | .quoted => if b == quote then { r with phase := .afterQuote } else r.keep b .quoted
  | .afterQuote => if b == quote then r.keep b .quoted else r.plain b

/-- All records, at the end of the bytes. -/
def finish (r : RecordReader) : List RawRecord :=
  match r.phase with
  | .betweenRecords => r.records.reverse
  | _ => r.endRecord.records.reverse

def readAll (bytes : List UInt8) : List RawRecord :=
  if byteOrderMark.isPrefixOf bytes then
    ((bytes.drop byteOrderMark.length).foldl step (start byteOrderMark.length)).finish
  else (bytes.foldl step (start 0)).finish

end RecordReader

namespace RawRecord

/-- The fields from a position on as texts, or the first one that is none. -/
def decodeFields (record : RawRecord) (index : Nat) :
    Nat → List (List UInt8) → Except EncodingError (List String)
  | _, [] => .ok []
  | position, field :: rest =>
    match Utf8.decode field with
    | .error validBytes => .error ⟨index, record.line, position, record.offset, validBytes⟩
    | .ok text => do return text :: (← record.decodeFields index (position + 1) rest)

/-- A record as texts, given the number of records before it. -/
def decode (record : RawRecord) (index : Nat) : Except EncodingError Record := do
  return ⟨record.line, ← record.decodeFields index 0 record.fields⟩

end RawRecord

/-- The records of a file as texts. -/
def Record.readAll (bytes : List UInt8) : Except EncodingError (List Record) :=
  (RecordReader.readAll bytes).zipIdx.mapM fun (record, index) => record.decode index

end QuicksortStudy
