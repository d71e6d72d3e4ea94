import Mathlib
import WasmHost.Proofs.Host.Report

/-!
# Reading the numbers back

A console writes numbers as they come and a recorder renders all of them at the end, both as lines
of decimal digits. This file reads such a text. `textLines` takes it apart and `readInt32?` reads a
line. Both accept more than the sinks write, such as a carriage return before a line break, or a
plus sign.

The main result is that reading gives back the numbers written, in order, so that the text tells
them. It rests on one fact about lines and one about numbers: a line without line breaks is found
again in front of any text, and a number is the value of its digits, the least one included.
-/

namespace WasmHost

section Lines

/-- Takes a text apart at its line breaks, which may have a carriage return before them. What
follows the last one is a line too, unless it is empty. -/
def splitLines : List Char → List (List Char)
  | [] => []
  | '\n' :: rest => [] :: splitLines rest
  | '\r' :: '\n' :: rest => [] :: splitLines rest
  | char :: rest =>
    match splitLines rest with
    | [] => [[char]]
    | line :: others => (char :: line) :: others

/-- The lines of a text. -/
def textLines (text : String) : List String :=
  (splitLines text.toList).map String.ofList

/-- A line is found again in front of any text. -/
theorem splitLines_append {line : List Char} (plain : ∀ char ∈ line, char ≠ '\n' ∧ char ≠ '\r')
    (rest : List Char) : splitLines (line ++ '\n' :: rest) = line :: splitLines rest := by
  induction line with
  | nil => rw [List.nil_append, splitLines]
  | cons char line ih =>
      have first := plain char (by simp)
      have others := ih fun other mem => plain other (by simp [mem])
      rw [List.cons_append, splitLines, others]
      · exact first.1
      · intro _ carriageReturn
        exact absurd carriageReturn first.2

end Lines

section Numbers

/-- The number that decimal digits stand for. There has to be one at least. -/
def digitsValue? (digits : List Char) : Option Nat :=
  if digits ≠ [] ∧ digits.all Char.isDigit then some (Nat.ofDigitChars 10 digits 0) else none

/-- The number that digits stand for which may have a sign before them. -/
def decimalValue? : List Char → Option Int
  | '-' :: digits => (digitsValue? digits).map fun n => -(n : Int)
  | '+' :: digits => (digitsValue? digits).map fun n => (n : Int)
  | digits => (digitsValue? digits).map fun n => (n : Int)

/-- Reads a number, which has to fit in 32 bits. -/
def readInt32? (text : String) : Option Int32 := do
  let value ← decimalValue? text.toList
  if Int32.minValue.toInt ≤ value ∧ value ≤ Int32.maxValue.toInt then some (.ofInt value) else none

theorem isDigit_of_mem_toDigits {n : Nat} {char : Char} (char_mem : char ∈ Nat.toDigits 10 n) :
    char.isDigit = true :=
  Nat.isDigit_of_mem_toDigits (by decide) (by decide) char_mem

theorem digitsValue?_toDigits (n : Nat) : digitsValue? (Nat.toDigits 10 n) = some n := by
  have digits : (Nat.toDigits 10 n).all Char.isDigit = true :=
    List.all_eq_true.mpr fun _ => isDigit_of_mem_toDigits
  rw [digitsValue?, if_pos ⟨Nat.toDigits_ne_nil, digits⟩,
    Nat.ofDigitChars_toDigits (by decide) (by decide)]

theorem toList_toString_ofNat (n : Nat) : (toString (Int.ofNat n)).toList = Nat.toDigits 10 n := by
  simp [Int.toString_eq_repr, Int.repr]

theorem toList_toString_negSucc (n : Nat) :
    (toString (Int.negSucc n)).toList = '-' :: Nat.toDigits 10 (n + 1) := by
  simp [Int.toString_eq_repr, Int.repr]

/-- The text of an integer stands for that integer. -/
theorem decimalValue?_toString (value : Int) :
    decimalValue? (toString value).toList = some value := by
  cases value with
  | ofNat n =>
      rw [toList_toString_ofNat]
      have unsigned : ∀ char ∈ Nat.toDigits 10 n, char ≠ '-' ∧ char ≠ '+' := by
        intro char char_mem
        have digit := isDigit_of_mem_toDigits char_mem
        constructor <;> rintro rfl <;> simp at digit
      have value := digitsValue?_toDigits n
      generalize Nat.toDigits 10 n = digits at unsigned value
      rw [decimalValue?.eq_def]
      split
      · simp at unsigned
      · simp at unsigned
      · rw [value]
        rfl
  | negSucc n =>
      rw [toList_toString_negSucc, decimalValue?, digitsValue?_toDigits]
      rfl

/-- Every number of 32 bits is read back, also the least one. -/
theorem readInt32?_toString (value : Int32) : readInt32? (toString value.toInt) = some value := by
  have fits : Int32.minValue.toInt ≤ value.toInt ∧ value.toInt ≤ Int32.maxValue.toInt :=
    ⟨value.minValue_le_toInt, value.toInt_le⟩
  simp only [readInt32?, decimalValue?_toString, Option.bind_eq_bind, Option.bind_some, if_pos fits,
    Int32.ofInt_toInt]

/-- The text of an integer is on one line. -/
theorem plain_toString (value : Int) :
    ∀ char ∈ (toString value).toList, char ≠ '\n' ∧ char ≠ '\r' := by
  have digits : ∀ n, ∀ char ∈ Nat.toDigits 10 n, char ≠ '\n' ∧ char ≠ '\r' := by
    intro n char char_mem
    have digit := isDigit_of_mem_toDigits char_mem
    constructor <;> rintro rfl <;> simp at digit
  cases value with
  | ofNat n =>
      rw [toList_toString_ofNat]
      exact digits n
  | negSucc n =>
      rw [toList_toString_negSucc, List.forall_mem_cons]
      exact ⟨by decide, digits (n + 1)⟩

end Numbers

section Sinks

/-- What a recorder renders that has been given these numbers. -/
def renderingOf (values : List Int32) : String :=
  (Sink.emitAll ({} : Recorder) values).rendered

theorem renderingOf_eq (values : List Int32) :
    renderingOf values = String.join (values.map decimalLine) := by
  rw [renderingOf, Recorder.emitAll_of_unlimited {} rfl]
  simp [Recorder.rendered, Recorder.extend]

theorem renderingOf_cons (value : Int32) (values : List Int32) :
    renderingOf (value :: values) = decimalLine value ++ renderingOf values := by
  apply String.toList_injective
  simp [renderingOf_eq, String.toList_join]

theorem renderingOf_append (values more : List Int32) :
    renderingOf (values ++ more) = renderingOf values ++ renderingOf more := by
  apply String.toList_injective
  simp [renderingOf_eq, String.toList_join]

/-- A console without a fault adds what a recorder would render. -/
theorem Console.written_emitAll (before : String) (values : List Int32) :
    (Sink.emitAll ({ written := before } : Console) values).written
      = before ++ renderingOf values := by
  induction values generalizing before with
  | nil => simp [renderingOf_eq, Sink.emitAll]
  | cons value rest ih =>
      calc
        (Sink.emitAll ({ written := before } : Console) (value :: rest)).written
            = (Sink.emitAll ({ written := before ++ decimalLine value } : Console) rest).written :=
          rfl
        _ = before ++ decimalLine value ++ renderingOf rest := ih _
        _ = before ++ renderingOf (value :: rest) := by
          rw [renderingOf_cons, String.append_assoc]

/-- The text has one line for each number, which is its decimal text. -/
theorem textLines_renderingOf (values : List Int32) :
    textLines (renderingOf values) = values.map fun value => toString value.toInt := by
  induction values with
  | nil => simp [renderingOf_eq, textLines, splitLines]
  | cons value rest ih =>
      have lines : (renderingOf (value :: rest)).toList
          = (toString value.toInt).toList ++ '\n' :: (renderingOf rest).toList := by
        simp [renderingOf_cons, decimalLine]
      rw [textLines, lines, splitLines_append (plain_toString value.toInt), List.map_cons,
        String.ofList_toList, List.map_cons, ← ih, textLines]

end Sinks

/-- What a working console writes, after whatever stood there before, is what a recorder renders
that has been given the same numbers. That text has one line for each number, and reading each line
as a number gives back the numbers in order, so no other numbers are rendered alike. The numbers of
two rows together are rendered as the one row and then the other. -/
theorem sinks_write_readable_lines (before : String) (values : List Int32) :
    (Sink.emitAll ({ written := before } : Console) values).written
        = before ++ (Sink.emitAll ({} : Recorder) values).rendered ∧
      (textLines (Sink.emitAll ({} : Recorder) values).rendered).length = values.length ∧
      (textLines (Sink.emitAll ({} : Recorder) values).rendered).mapM readInt32? = some values ∧
      (∀ other : List Int32, (Sink.emitAll ({} : Recorder) other).rendered
        = (Sink.emitAll ({} : Recorder) values).rendered ↔ other = values) ∧
      ∀ more : List Int32, (Sink.emitAll ({} : Recorder) (values ++ more)).rendered
        = (Sink.emitAll ({} : Recorder) values).rendered
          ++ (Sink.emitAll ({} : Recorder) more).rendered := by
  have read : ∀ row : List Int32, (textLines (renderingOf row)).mapM readInt32? = some row := by
    intro row
    rw [textLines_renderingOf]
    induction row with
    | nil => rfl
    | cons value rest ih =>
        rw [List.map_cons, List.mapM_cons, readInt32?_toString, ih]
        rfl
  refine ⟨Console.written_emitAll before values, ?_, read values, ?_, renderingOf_append values⟩
  · rw [← renderingOf, textLines_renderingOf, List.length_map]
  · intro other
    constructor
    · intro same
      have both := congrArg (fun text => (textLines text).mapM readInt32?) same
      exact Option.some.inj ((read other).symm.trans (both.trans (read values)))
    · rintro rfl
      rfl

example : renderingOf [3, -1, 0, 2147483647] = "3\n-1\n0\n2147483647\n" := by
  decide +kernel

end WasmHost
