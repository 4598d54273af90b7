/-! A text is a list of characters. Offsets into a text, wherever one is reported or asked for, count
the bytes of its UTF-8 form; an offset that falls inside a character or past the end names no position,
and the operations that would cut there answer `none`. -/
namespace SqlCheck

abbrev Text := List Char

namespace Text

/-- The number of bytes of the UTF-8 form. -/
def size : Text → Nat
  | [] => 0
  | c :: rest => c.utf8Size + size rest

def bytes (text : Text) : List UInt8 := text.flatMap String.utf8EncodeChar

/-- Bytes that are not well-formed UTF-8 are no text. -/
def ofBytes? (bytes : List UInt8) : Option Text :=
  (String.fromUTF8? ⟨bytes.toArray⟩).map String.toList

def after? : Nat → Text → Option Text
  | 0, text => some text
  | _ + 1, [] => none
  | n + 1, c :: rest => if c.utf8Size ≤ n + 1 then after? (n + 1 - c.utf8Size) rest else none

def before? : Nat → Text → Option Text
  | 0, _ => some []
  | _ + 1, [] => none
  | n + 1, c :: rest =>
      if c.utf8Size ≤ n + 1 then (before? (n + 1 - c.utf8Size) rest).map (c :: ·) else none

/-- The piece between two offsets, both of which must be positions in the right order. -/
def slice? (start stop : Nat) (text : Text) : Option Text :=
  if start ≤ stop then (text.after? start).bind (before? (stop - start)) else none

def line (text : Text) : Text := text.takeWhile (· ≠ '\n')

@[simp] theorem size_nil : size [] = 0 := rfl

@[simp] theorem size_cons (c : Char) (rest : Text) : size (c :: rest) = c.utf8Size + size rest := rfl

@[simp] theorem size_append (front back : Text) : size (front ++ back) = size front + size back := by
  induction front with
  | nil => simp
  | cons c rest ih => simp [ih, Nat.add_assoc]

theorem bytes_cons (c : Char) (rest : Text) : bytes (c :: rest) = String.utf8EncodeChar c ++ bytes rest := rfl

@[simp] theorem bytes_append (front back : Text) : bytes (front ++ back) = bytes front ++ bytes back := by
  simp [bytes]

theorem after_size_append (front back : Text) : after? front.size (front ++ back) = some back := by
  induction front with
  | nil => simp [after?]
  | cons c rest ih =>
      have positive := c.utf8Size_pos
      obtain ⟨n, split⟩ : ∃ n, c.utf8Size + size rest = n + 1 := ⟨c.utf8Size + size rest - 1, by omega⟩
      have remaining : n + 1 - c.utf8Size = size rest := by omega
      have fits : c.utf8Size ≤ n + 1 := by omega
      simp only [List.cons_append, size_cons, split, after?, fits, if_true, remaining]
      exact ih

end Text
end SqlCheck
