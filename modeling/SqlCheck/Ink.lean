import SqlCheck.Text

/-! Coloured text for a terminal. A stretch of ink begins with the escape sequence of its colour and ends
with the sequence that clears all styles. A text may bring clearing sequences of its own; the ink is taken
up again after each of them, so that they do not end the stretch early. -/
namespace SqlCheck

inductive Ink where
  | red | green | yellow | boldBlue | dimmed
  deriving Repr, DecidableEq

namespace Ink

def codes : Ink → Text
  | red => ['3', '1']
  | green => ['3', '2']
  | yellow => ['3', '3']
  | boldBlue => ['1', ';', '3', '4']
  | dimmed => ['2']

def opening (ink : Ink) : Text := '\x1b' :: '[' :: ink.codes ++ ['m']

def clearing : Text := ['\x1b', '[', '0', 'm']

def reopen (start : Text) : Text → Text
  | '\x1b' :: '[' :: '0' :: 'm' :: rest => clearing ++ start ++ reopen start rest
  | c :: rest => c :: reopen start rest
  | [] => []

theorem reopen_other (start : Text) {c : Char} (other : c ≠ '\x1b') (rest : Text) :
    reopen start (c :: rest) = c :: reopen start rest := by
  rw [reopen]
  intro tail same
  exact absurd same other

theorem reopen_nil (text : Text) : reopen [] text = text := by
  fun_induction reopen [] text with
  | case1 rest ih => rw [ih]; rfl
  | case2 c rest other ih => rw [ih]
  | case3 => rfl

theorem length_le_reopen (start text : Text) : text.length ≤ (reopen start text).length := by
  fun_induction reopen start text with
  | case1 rest ih =>
      simp only [List.length_append, List.length_cons, clearing, List.length_nil]
      omega
  | case2 c rest other ih => exact Nat.succ_le_succ ih
  | case3 => exact Nat.le_refl _

/-- Nothing is written around the text unless colours are enabled. -/
def apply (enabled : Bool) (ink : Ink) (text : Text) : Text :=
  if enabled then ink.opening ++ reopen ink.opening text ++ clearing else text

end Ink
end SqlCheck
