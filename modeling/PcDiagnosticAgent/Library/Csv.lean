import Mathlib.Data.List.Basic

/-!
# Delimited records

Records of fields as one text: fields are separated by a delimiter and records end
in a line break. A field with a character of the format in it is put in quotes, in
which a quote is written twice.

The reader takes the text character by character. It accepts every text, and reads
what was written as it was (`read_write`), whatever the fields hold.
-/

set_option autoImplicit false

namespace Csv

universe u

/-- The characters of a format. -/
structure Dialect (Code : Type u) where
  delimiter : Code
  quote : Code
  carriage : Code
  newline : Code
  delimiter_ne_quote : delimiter ≠ quote
  delimiter_ne_carriage : delimiter ≠ carriage
  delimiter_ne_newline : delimiter ≠ newline
  quote_ne_carriage : quote ≠ carriage
  quote_ne_newline : quote ≠ newline

variable {Code : Type u} [DecidableEq Code] (dialect : Dialect Code)

/-! ## The writer -/

/-- The character means something in the format. -/
def Dialect.Special (code : Code) : Prop :=
  code = dialect.delimiter ∨ code = dialect.quote ∨ code = dialect.carriage ∨
    code = dialect.newline

instance (code : Code) : Decidable (dialect.Special code) :=
  inferInstanceAs (Decidable (_ ∨ _))

def double (code : Code) : List Code := if code = dialect.quote then [code, code] else [code]

def inQuotes (field : List Code) : List Code :=
  dialect.quote :: (field.flatMap (double dialect) ++ [dialect.quote])

def writeField (field : List Code) : List Code :=
  if ∃ code ∈ field, dialect.Special code then inQuotes dialect field else field

/-- The only field of a record is quoted when it is empty. -/
def writeRow : List (List Code) → List Code
  | [] => [dialect.carriage, dialect.newline]
  | [[]] => inQuotes dialect [] ++ [dialect.carriage, dialect.newline]
  | field :: fields =>
    writeField dialect field ++
      (fields.flatMap (fun other => dialect.delimiter :: writeField dialect other) ++
        [dialect.carriage, dialect.newline])

def write (rows : List (List (List Code))) : List Code := rows.flatMap (writeRow dialect)

/-- A record of more than an empty field. -/
theorem writeRow_cons {field : List Code} {fields : List (List Code)}
    (notLone : field = [] → fields = [] → False) :
    writeRow dialect (field :: fields) = writeField dialect field ++
      (fields.flatMap (fun other => dialect.delimiter :: writeField dialect other) ++
        [dialect.carriage, dialect.newline]) := by
  rw [writeRow]
  exact notLone

/-- A written record of more than an empty field begins with no line break. -/
theorem exists_head {field : List Code} {fields : List (List Code)}
    (notLone : field = [] → fields = [] → False) :
    ∃ code text, writeField dialect field ++
        (fields.flatMap (fun other => dialect.delimiter :: writeField dialect other) ++
          [dialect.carriage, dialect.newline]) = code :: text ∧
      code ≠ dialect.carriage ∧ code ≠ dialect.newline := by
  by_cases special : ∃ code ∈ field, dialect.Special code
  · rw [writeField, if_pos special]
    exact ⟨_, _, rfl, dialect.quote_ne_carriage, dialect.quote_ne_newline⟩
  · rw [writeField, if_neg special]
    cases field with
    | nil =>
      obtain ⟨next, others, rfl⟩ := List.exists_cons_of_ne_nil (notLone rfl)
      exact ⟨_, _, rfl, dialect.delimiter_ne_carriage, dialect.delimiter_ne_newline⟩
    | cons code field =>
      have plain : ¬ dialect.Special code :=
        fun isSpecial => special ⟨code, List.mem_cons_self, isSpecial⟩
      simp only [Dialect.Special, not_or] at plain
      exact ⟨_, _, rfl, plain.2.2⟩

/-! ### What it writes -/

section Members

variable {dialect}

theorem mem_inQuotes {field : List Code} {code : Code}
    (member : code ∈ inQuotes dialect field) : dialect.Special code ∨ code ∈ field := by
  simp only [inQuotes, List.mem_cons, List.mem_append, List.mem_flatMap, List.not_mem_nil,
    or_false] at member
  rcases member with quote | ⟨other, inside, doubled⟩ | quote
  · exact .inl (.inr (.inl quote))
  · refine .inr ?_
    have same : code = other := by
      rw [double] at doubled
      split at doubled <;> simpa using doubled
    exact same ▸ inside
  · exact .inl (.inr (.inl quote))

theorem mem_writeField {field : List Code} {code : Code}
    (member : code ∈ writeField dialect field) : dialect.Special code ∨ code ∈ field := by
  rw [writeField] at member
  split at member
  · exact mem_inQuotes member
  · exact .inr member

theorem mem_writeRow {fields : List (List Code)} {code : Code}
    (member : code ∈ writeRow dialect fields) :
    dialect.Special code ∨ ∃ field ∈ fields, code ∈ field := by
  have lineBreak : code = dialect.carriage ∨ code = dialect.newline → dialect.Special code :=
    fun either => .inr (.inr either)
  fun_cases writeRow dialect fields with
  | case1 => exact .inl (lineBreak (by simpa [writeRow] using member))
  | case2 =>
    rcases List.mem_append.mp member with quoted | ends
    · exact .inl ((mem_inQuotes quoted).resolve_right List.not_mem_nil)
    · exact .inl (lineBreak (by simpa using ends))
  | case3 field fields notLone =>
    rw [writeRow_cons dialect notLone] at member
    rcases List.mem_append.mp member with first | rest
    · exact (mem_writeField first).imp_right fun inside => ⟨field, List.mem_cons_self, inside⟩
    · rcases List.mem_append.mp rest with further | ends
      · obtain ⟨other, among, inside⟩ := List.mem_flatMap.mp further
        rcases List.mem_cons.mp inside with delimiter | written
        · exact .inl (.inl delimiter)
        · exact (mem_writeField written).imp_right
            fun inside => ⟨other, List.mem_cons_of_mem _ among, inside⟩
      · exact .inl (lineBreak (by simpa using ends))

/-- A written text has the characters of its fields and of the format. -/
theorem mem_write {rows : List (List (List Code))} {code : Code}
    (member : code ∈ write dialect rows) :
    dialect.Special code ∨ ∃ row ∈ rows, ∃ field ∈ row, code ∈ field := by
  obtain ⟨row, among, inside⟩ := List.mem_flatMap.mp member
  exact (mem_writeRow inside).imp_right fun found => ⟨row, among, found⟩

end Members

/-! ## The reader -/

/-- Where the reader stands: at a record, behind the first half of a line break, at
a further field, in a field, in quotes, or behind a quote that was in quotes. -/
inductive Position where
  | record
  | afterCarriage
  | field
  | plain
  | quoted
  | closing
deriving DecidableEq

structure Reader (Code : Type u) where
  position : Position
  field : List Code
  record : List (List Code)
  records : List (List (List Code))

namespace Reader

def start : Reader Code := ⟨.record, [], [], []⟩

def add (reader : Reader Code) (code : Code) (position : Position) : Reader Code :=
  { reader with position, field := reader.field ++ [code] }

def endField (reader : Reader Code) (position : Position) : Reader Code :=
  { reader with position, field := [], record := reader.record ++ [reader.field] }

def endRecord (reader : Reader Code) (position : Position) : Reader Code :=
  { reader with position, record := [], records := reader.records ++ [reader.record] }

/-- A character that is in no quotes. -/
def outside (reader : Reader Code) (code : Code) : Reader Code :=
  if code = dialect.delimiter then reader.endField .field
  else if code = dialect.carriage then (reader.endField .field).endRecord .afterCarriage
  else if code = dialect.newline then (reader.endField .field).endRecord .record
  else reader.add code .plain

/-- The first character of a field. -/
def openField (reader : Reader Code) (code : Code) : Reader Code :=
  if code = dialect.quote then { reader with position := .quoted }
  else reader.outside dialect code

/-- The first character of a record. -/
def openRecord (reader : Reader Code) (code : Code) : Reader Code :=
  if code = dialect.carriage then reader.endRecord .afterCarriage
  else if code = dialect.newline then reader.endRecord .record
  else reader.openField dialect code

def step (reader : Reader Code) (code : Code) : Reader Code :=
  match reader.position with
  | .record => reader.openRecord dialect code
  | .afterCarriage =>
    if code = dialect.newline then { reader with position := .record }
    else reader.openRecord dialect code
  | .field => reader.openField dialect code
  | .plain => reader.outside dialect code
  | .quoted =>
    if code = dialect.quote then { reader with position := .closing } else reader.add code .quoted
  | .closing =>
    if code = dialect.quote then reader.add code .quoted else reader.outside dialect code

def run (reader : Reader Code) (text : List Code) : Reader Code :=
  text.foldl (step dialect) reader

/-- The records that were read; one that no line break ended is the last of them. -/
def finish (reader : Reader Code) : List (List (List Code)) :=
  match reader.position with
  | .record | .afterCarriage => reader.records
  | _ => ((reader.endField .field).endRecord .record).records

end Reader

def read (text : List Code) : List (List (List Code)) := (Reader.start.run dialect text).finish

/-! ## Reading what was written -/

namespace Reader

variable {dialect} {reader base : Reader Code}

theorem run_append (reader : Reader Code) (first second : List Code) :
    reader.run dialect (first ++ second) = (reader.run dialect first).run dialect second :=
  List.foldl_append

theorem run_cons (reader : Reader Code) (code : Code) (text : List Code) :
    reader.run dialect (code :: text) = (reader.step dialect code).run dialect text := rfl

/-- In quotes, doubled characters add the field. -/
theorem run_double (quoted : reader.position = .quoted) (field : List Code) :
    reader.run dialect (field.flatMap (double dialect)) =
      { reader with field := reader.field ++ field } := by
  induction field generalizing reader with
  | nil => simp [run]
  | cons code field ih =>
    have added : reader.run dialect (double dialect code) = reader.add code .quoted := by
      by_cases isQuote : code = dialect.quote
      · simp [double, run, step, quoted, isQuote, add]
      · simp [double, if_neg isQuote, run, step, quoted, add]
    rw [List.flatMap_cons, run_append, added, ih rfl]
    simp [add, quoted]

/-- Quotes add their field. -/
theorem run_inQuotes {opened : Reader Code}
    (opens : reader.step dialect dialect.quote = opened) (quoted : opened.position = .quoted)
    (field : List Code) :
    reader.run dialect (inQuotes dialect field) =
      { opened with position := .closing, field := opened.field ++ field } := by
  rw [inQuotes, run_cons, opens, run_append, run_double quoted]
  simp [run, step, quoted]

/-- Plain characters add themselves. -/
theorem run_plain (plain : reader.position = .plain) {field : List Code}
    (none : ∀ code ∈ field, ¬ dialect.Special code) :
    reader.run dialect field = { reader with field := reader.field ++ field } := by
  induction field generalizing reader with
  | nil => simp [run]
  | cons code field ih =>
    obtain ⟨first, rest⟩ := List.forall_mem_cons.mp none
    simp only [Dialect.Special, not_or] at first
    have added : reader.step dialect code = reader.add code .plain := by
      simp [step, plain, outside, first]
    rw [run_cons, added, ih rfl rest]
    simp [add, plain]

/-- The reader has read the field of the base, and the next character decides
whether it ends. -/
def Holds (dialect : Dialect Code) (reader base : Reader Code) : Prop :=
  ∀ code, code = dialect.delimiter ∨ code = dialect.carriage →
    reader.step dialect code = base.outside dialect code

theorem holds_closing (closing : reader.position = .closing) : Holds dialect reader reader := by
  intro code separator
  have noQuote : code ≠ dialect.quote := by
    rcases separator with rfl | rfl
    · exact dialect.delimiter_ne_quote
    · exact dialect.quote_ne_carriage.symm
  simp [step, closing, noQuote]

theorem holds_plain (plain : reader.position = .plain) : Holds dialect reader reader := by
  intro code _
  simp [step, plain]

variable (dialect) in
/-- A written field is read. -/
theorem run_writeField (atField : reader.position = .field) (empty : reader.field = [])
    (field : List Code) :
    ∃ base, Holds dialect (reader.run dialect (writeField dialect field)) base ∧
      base.field = field ∧ base.record = reader.record ∧ base.records = reader.records := by
  by_cases special : ∃ code ∈ field, dialect.Special code
  · have opens : reader.step dialect dialect.quote = { reader with position := .quoted } := by
      simp [step, atField, openField]
    rw [writeField, if_pos special, run_inQuotes opens rfl]
    exact ⟨_, holds_closing rfl, by simp [empty], rfl, rfl⟩
  · rw [writeField, if_neg special]
    cases field with
    | nil =>
      refine ⟨reader, fun code separator => ?_, empty, rfl, rfl⟩
      have noQuote : code ≠ dialect.quote := by
        rcases separator with rfl | rfl
        · exact dialect.delimiter_ne_quote
        · exact dialect.quote_ne_carriage.symm
      simp [run, step, atField, openField, noQuote]
    | cons code field =>
      have plain : ∀ other ∈ code :: field, ¬ dialect.Special other :=
        fun other member isSpecial => special ⟨other, member, isSpecial⟩
      obtain ⟨first, rest⟩ := List.forall_mem_cons.mp plain
      simp only [Dialect.Special, not_or] at first
      have added : reader.step dialect code = reader.add code .plain := by
        simp [step, atField, openField, outside, first]
      rw [run_cons, added, run_plain rfl rest]
      exact ⟨_, holds_plain rfl, by simp [add, empty], rfl, rfl⟩

/-- A text that does not begin with a line break is read at a record as at a field. -/
theorem run_atRecord (atRecord : reader.position = .record) {code : Code}
    (noCarriage : code ≠ dialect.carriage) (noNewline : code ≠ dialect.newline)
    (text : List Code) :
    reader.run dialect (code :: text) =
      ({ reader with position := .field }).run dialect (code :: text) := by
  rw [run_cons, run_cons]
  simp only [step, atRecord, openRecord, if_neg noCarriage, if_neg noNewline, openField,
    outside, endField, endRecord, add]

/-- The further fields and the line break end the record. -/
theorem run_fields (holds : Holds dialect reader base) (fields : List (List Code)) :
    reader.run dialect (fields.flatMap (fun other => dialect.delimiter :: writeField dialect other)
        ++ [dialect.carriage, dialect.newline]) =
      ⟨.record, [], [], base.records ++ [base.record ++ base.field :: fields]⟩ := by
  induction fields generalizing reader base with
  | nil =>
    rw [List.flatMap_nil, List.nil_append, run_cons, holds _ (.inr rfl)]
    simp [run, step, outside, dialect.delimiter_ne_carriage.symm, endField, endRecord]
  | cons field fields ih =>
    have ended : base.outside dialect dialect.delimiter = base.endField .field := if_pos rfl
    rw [List.flatMap_cons, List.cons_append, List.cons_append, run_cons, holds _ (.inl rfl),
      ended, List.append_assoc, run_append]
    obtain ⟨next, reads, isField, sameRecord, sameRecords⟩ :=
      run_writeField dialect (rfl : (base.endField .field).position = .field) rfl field
    rw [ih reads, isField, sameRecord, sameRecords]
    simp [endField]

/-- A written record is read. -/
theorem run_writeRow (records : List (List (List Code))) (fields : List (List Code)) :
    (⟨.record, [], [], records⟩ : Reader Code).run dialect (writeRow dialect fields) =
      ⟨.record, [], [], records ++ [fields]⟩ := by
  fun_cases writeRow dialect fields with
  | case1 => simp [run, step, openRecord, endRecord]
  | case2 =>
    have opens : (⟨.record, [], [], records⟩ : Reader Code).step dialect dialect.quote =
        ⟨.quoted, [], [], records⟩ := by
      simp [step, openRecord, openField, dialect.quote_ne_carriage, dialect.quote_ne_newline]
    rw [run_append, run_inQuotes opens rfl]
    exact run_fields (holds_closing rfl) []
  | case3 field fields notLone =>
    obtain ⟨code, text, written, noCarriage, noNewline⟩ := exists_head dialect notLone
    obtain ⟨base, holds, isField, sameRecord, sameRecords⟩ :=
      run_writeField dialect (rfl : (⟨.field, [], [], records⟩ : Reader Code).position = .field)
        rfl field
    rw [written, run_atRecord rfl noCarriage noNewline, ← written, run_append, run_fields holds,
      isField, sameRecord, sameRecords]
    rfl

end Reader

/-- **What is written is read as it was.** -/
theorem read_write (rows : List (List (List Code))) : read dialect (write dialect rows) = rows := by
  have reads : ∀ (records : List (List (List Code))),
      (⟨.record, [], [], records⟩ : Reader Code).run dialect (write dialect rows) =
        ⟨.record, [], [], records ++ rows⟩ := by
    induction rows with
    | nil => simp [write, Reader.run]
    | cons row rows ih =>
      intro records
      rw [write, List.flatMap_cons, Reader.run_append, Reader.run_writeRow]
      exact (ih (records ++ [row])).trans (by simp)
  rw [read, Reader.start, reads]
  rfl

end Csv
