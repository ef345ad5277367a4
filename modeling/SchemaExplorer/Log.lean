import SchemaExplorer.Text.Split

/-!
Log records, and computations that leave some behind.
-/

namespace SchemaExplorer

namespace Log

/-- How much a record matters; the first level matters least. -/
inductive Level where
  | trace
  | debug
  | info
  | warn
deriving DecidableEq, Repr

def Level.name : Level → String
  | trace => "TRACE"
  | debug => "DEBUG"
  | info => "INFO"
  | warn => "WARN"

def Level.rank : Level → Nat
  | trace => 0
  | debug => 1
  | info => 2
  | warn => 3

structure Record where
  level : Level
  message : String
deriving DecidableEq, Repr

/-- A character as the log shows it. The controls that a terminal could obey stand as their code
points: escape, bell, backspace, form feed, delete, and those from U+0080 on. -/
def shownChar (c : Char) : List Char :=
  let n := c.toNat
  let digits := Nat.toDigits 16 n
  if n = 0x1B || n = 0x7F then '\\' :: 'x' :: digits
  else if n = 0x07 || n = 0x08 || n = 0x0C then '\\' :: 'x' :: '0' :: digits
  else if 0x80 ≤ n && n ≤ 0x9F then ['\\', 'u', '\x7b'] ++ digits ++ ['\x7d']
  else [c]

/-- The record with its message as the log shows it. -/
def Record.shown (r : Record) : Record :=
  { r with message := String.ofList (r.message.toList.flatMap shownChar) }

/-- The record without the lines of its message after the first. -/
def Record.headline (r : Record) : Record :=
  { r with message := (Text.lines (r.message ++ "\n")).headD "" }

/-- The lines of the message after the first, which stand in the log without a level. -/
def Record.furtherLines (r : Record) : List String :=
  (Text.lines (r.message ++ "\n")).tail

/-- What a log at `level` shows of the records. -/
def shown (level : Level) (records : List Record) : List Record :=
  (records.filter fun r => level.rank ≤ r.level.rank).map Record.shown

/-- The messages of one level. -/
def messages (level : Level) (records : List Record) : List String :=
  (records.filter fun r => r.level = level).map Record.message

end Log

universe u

/-- A value and the records that were written on the way to it. -/
structure Logged (α : Type u) where
  value : α
  records : List Log.Record

namespace Logged

instance : Monad Logged where
  pure a := ⟨a, []⟩
  bind x f := ⟨(f x.value).value, x.records ++ (f x.value).records⟩

/-- Writes one record. -/
def note (level : Log.Level) (message : String) : Logged Unit :=
  ⟨(), [⟨level, message⟩]⟩

/-- Writes records. -/
def notes (records : List Log.Record) : Logged Unit :=
  ⟨(), records⟩

variable {α β : Type u}

@[simp] theorem value_pure (a : α) : (pure a : Logged α).value = a := rfl

@[simp] theorem records_pure (a : α) : (pure a : Logged α).records = [] := rfl

@[simp] theorem value_bind (x : Logged α) (f : α → Logged β) :
    (x >>= f).value = (f x.value).value := rfl

@[simp] theorem records_bind (x : Logged α) (f : α → Logged β) :
    (x >>= f).records = x.records ++ (f x.value).records := rfl

end Logged

end SchemaExplorer
