import AccountSync.Json.Printer
import AccountSync.Json.Token
import AccountSync.Proofs.Text.Decimal

/-!
The text of a document, word by word. A `Layout` says what blanks stand between the words; both printers write by one
(`compactChars_eq`, `prettyChars_eq`). Main statement: `scan_chars`, that the words of a written document are read off
its text, whatever follows.
-/

set_option autoImplicit false
set_option relaxedAutoImplicit false

namespace AccountSync.Json

open Token

/-- Blanks before the members and items of a level, and behind the colons. -/
structure Layout where
  line : Nat → List Char
  gap : List Char
  line_blank : ∀ level, ∀ c ∈ line level, isBlank c = true
  gap_blank : ∀ c ∈ gap, isBlank c = true

def dense : Layout := ⟨fun _ => [], [], nofun, nofun⟩

private theorem newline_blank (level : Nat) : ∀ c ∈ newline level, isBlank c = true := by
  intro c hc
  rcases List.mem_cons.mp hc with rfl | hc
  · rfl
  · rw [(List.mem_replicate.mp hc).2]
    rfl

def indented : Layout := ⟨newline, [' '], newline_blank, by simp [isBlank]⟩

namespace Layout

mutual

/-- The text of a document whose first character stands on a line of the given level. -/
def chars (l : Layout) (level : Nat) : Json → List Char
  | .null => ['n', 'u', 'l', 'l']
  | .bool true => ['t', 'r', 'u', 'e']
  | .bool false => ['f', 'a', 'l', 's', 'e']
  | .number n => n.text
  | .string s => quote s
  | .array [] => ['[', ']']
  | .array (j :: js) => '[' :: (l.line (level + 1) ++ (l.chars (level + 1) j ++ l.items level js))
  | .object [] => ['\x7b', '\x7d']
  | .object ((name, j) :: ms) =>
    '\x7b' :: (l.line (level + 1) ++ (quote name ++ ':' :: (l.gap ++ (l.chars (level + 1) j ++ l.members level ms))))

def items (l : Layout) (level : Nat) : List Json → List Char
  | [] => l.line level ++ [']']
  | j :: js => ',' :: (l.line (level + 1) ++ (l.chars (level + 1) j ++ l.items level js))

def members (l : Layout) (level : Nat) : List (String × Json) → List Char
  | [] => l.line level ++ ['\x7d']
  | (name, j) :: ms =>
    ',' :: (l.line (level + 1) ++ (quote name ++ ':' :: (l.gap ++ (l.chars (level + 1) j ++ l.members level ms))))

end

end Layout

mutual

theorem compactChars_eq (level : Nat) : ∀ j : Json, compactChars j = dense.chars level j
  | .null | .bool true | .bool false | .number _ | .string _ | .array [] | .object [] => by
    simp [compactChars, Layout.chars]
  | .array (j :: js) => by
    simp [compactChars, Layout.chars, dense, compactChars_eq (level + 1) j, compactItems_eq level js]
  | .object ((name, j) :: ms) => by
    simp [compactChars, Layout.chars, dense, compactChars_eq (level + 1) j, compactMembers_eq level ms]

theorem compactItems_eq (level : Nat) : ∀ js : List Json, compactItems js = dense.items level js
  | [] => by simp [compactItems, Layout.items, dense]
  | j :: js => by
    simp [compactItems, Layout.items, dense, compactChars_eq (level + 1) j, compactItems_eq level js]

theorem compactMembers_eq (level : Nat) : ∀ ms : List (String × Json), compactMembers ms = dense.members level ms
  | [] => by simp [compactMembers, Layout.members, dense]
  | (name, j) :: ms => by
    simp [compactMembers, Layout.members, dense, compactChars_eq (level + 1) j, compactMembers_eq level ms]

end

mutual

theorem prettyChars_eq (level : Nat) : ∀ j : Json, prettyChars level j = indented.chars level j
  | .null | .bool true | .bool false | .number _ | .string _ | .array [] | .object [] => by
    simp [prettyChars, Layout.chars]
  | .array (j :: js) => by
    simp [prettyChars, Layout.chars, indented, prettyChars_eq (level + 1) j, prettyItems_eq level js]
  | .object ((name, j) :: ms) => by
    simp [prettyChars, Layout.chars, indented, prettyChars_eq (level + 1) j, prettyMembers_eq level ms]

theorem prettyItems_eq (level : Nat) : ∀ js : List Json, prettyItems level js = indented.items level js
  | [] => by simp [prettyItems, Layout.items, indented]
  | j :: js => by
    simp [prettyItems, Layout.items, indented, prettyChars_eq (level + 1) j, prettyItems_eq level js]

theorem prettyMembers_eq (level : Nat) :
    ∀ ms : List (String × Json), prettyMembers level ms = indented.members level ms
  | [] => by simp [prettyMembers, Layout.members, indented]
  | (name, j) :: ms => by
    simp [prettyMembers, Layout.members, indented, prettyChars_eq (level + 1) j, prettyMembers_eq level ms]

end

def numeralOf (n : Int) : Numeral :=
  ⟨decide (n < 0), (Nat.toDigits 10 n.natAbs).map fun c => c.toNat - 48, none, none⟩

mutual

/-- The words of a document. Those of a real number are not told here. -/
def tokens : Json → List Token
  | .null => [.null]
  | .bool b => [.bool b]
  | .number (.whole n) => [.numeral (numeralOf n)]
  | .number (.real _) => []
  | .string s => [.string (some s)]
  | .array [] => [.openArray, .closeArray]
  | .array (j :: js) => .openArray :: (tokens j ++ itemTokens js)
  | .object [] => [.openObject, .closeObject]
  | .object ((name, j) :: ms) => .openObject :: .string (some name) :: .colon :: (tokens j ++ memberTokens ms)

def itemTokens : List Json → List Token
  | [] => [.closeArray]
  | j :: js => .comma :: (tokens j ++ itemTokens js)

def memberTokens : List (String × Json) → List Token
  | [] => [.closeObject]
  | (name, j) :: ms => .comma :: .string (some name) :: .colon :: (tokens j ++ memberTokens ms)

end

mutual

def Whole : Json → Prop
  | .number (.real _) => False
  | .array js => WholeItems js
  | .object ms => WholeMembers ms
  | _ => True

def WholeItems : List Json → Prop
  | [] => True
  | j :: js => Whole j ∧ WholeItems js

def WholeMembers : List (String × Json) → Prop
  | [] => True
  | (_, j) :: ms => Whole j ∧ WholeMembers ms

end

variable {rest : List (Option Char)} {c : Char} {cs : List Char}

/-- What stands here does not go on with a number: it is the end, a blank, a comma or a closing bracket. -/
def Ends (rest : List (Option Char)) : Prop :=
  ∀ c ∈ rest.head?, c ∈ [' ', '\n', '\t', '\r', ',', ']', '\x7d'].map some

theorem ends_nil : Ends [] := nofun

private theorem ends_cons (h : c ∈ [' ', '\n', '\t', '\r', ',', ']', '\x7d']) : Ends (some c :: rest) := by
  intro d hd
  cases hd
  exact List.mem_map_of_mem h

private theorem mem_of_isBlank (h : isBlank c = true) : c ∈ [' ', '\n', '\t', '\r', ',', ']', '\x7d'] := by
  simp only [isBlank, Bool.or_eq_true, decide_eq_true_eq] at h
  rcases h with ((rfl | rfl) | rfl) | rfl <;> simp

private theorem ends_append (h : ∀ c ∈ cs, isBlank c = true) (hrest : Ends rest) : Ends (cs.map some ++ rest) := by
  cases cs with
  | nil => exact hrest
  | cons c cs => exact ends_cons (mem_of_isBlank (h c List.mem_cons_self))

section Scan

variable {mode mode' : Mode} {ts : List Token} {t : Token}

private theorem scan_step (h : step mode (some c) = some (ts, mode')) :
    scanFrom mode (some c :: rest) = (scanFrom mode' rest).map (ts ++ ·) := by
  rw [scanFrom, h]
  cases hs : scanFrom mode' rest <;> simp [hs]

private theorem scan_silent (h : step mode (some c) = some ([], mode')) :
    scanFrom mode (some c :: rest) = scanFrom mode' rest := by
  rw [scan_step h]
  exact Option.map_id_fun' ▸ rfl

private theorem scan_blanks (h : ∀ c ∈ cs, isBlank c = true) :
    scanFrom .between (cs.map some ++ rest) = scanFrom .between rest := by
  induction cs with
  | nil => rfl
  | cons c cs ih =>
    have hc : step .between (some c) = some ([], .between) := if_pos (h c List.mem_cons_self)
    rw [List.map_cons, List.cons_append, scan_silent hc]
    exact ih fun d hd => h d (List.mem_cons_of_mem c hd)

private theorem scan_word {w : Char} {left : List Char} :
    scanFrom (.word (w :: left) t) ((w :: left).map some ++ rest) = (scanFrom .between rest).map (t :: ·) := by
  induction left generalizing w with
  | nil =>
    have hw : step (.word [w] t) (some w) = some ([t], .between) := by simp [step]
    exact scan_step hw
  | cons v left ih =>
    have hw : step (.word (w :: v :: left) t) (some w) = some ([], .word (v :: left) t) := by simp [step]
    rw [List.map_cons, List.cons_append, scan_silent hw, ih]

end Scan

section Number

variable {negative : Bool} {acc : List Nat}

private theorem digit?_of_isDigit (h : c.isDigit = true) : digit? c = some (c.toNat - 48) := by
  simp only [Char.isDigit, Bool.and_eq_true, decide_eq_true_eq] at h
  exact if_pos h

private theorem scan_digits (h : ∀ c ∈ cs, c.isDigit = true) :
    scanFrom (.numeral ⟨.whole, negative, acc, none, false, none⟩) (cs.map some ++ rest) =
      scanFrom (.numeral ⟨.whole, negative, (cs.map fun c => c.toNat - 48).reverse ++ acc, none, false, none⟩)
        rest := by
  induction cs generalizing acc with
  | nil => rfl
  | cons c cs ih =>
    have hc : step (.numeral ⟨.whole, negative, acc, none, false, none⟩) (some c) =
        some ([], .numeral ⟨.whole, negative, (c.toNat - 48) :: acc, none, false, none⟩) := by
      simp [step, Draft.push?, digit?_of_isDigit (h c List.mem_cons_self)]
    rw [List.map_cons, List.cons_append, scan_silent hc, ih fun d hd => h d (List.mem_cons_of_mem c hd)]
    simp

private theorem push?_of_ends {stage : Stage} (hstage : stage = .zero ∨ stage = .whole)
    (hc : c ∈ [' ', '\n', '\t', '\r', ',', ']', '\x7d']) :
    (Draft.mk stage negative acc none false none).push? c = none := by
  simp only [List.mem_cons, List.not_mem_nil, or_false] at hc
  rcases hstage with rfl | rfl <;> rcases hc with rfl | rfl | rfl | rfl | rfl | rfl | rfl <;> rfl

private theorem scan_numeral {stage : Stage} (hstage : stage = .zero ∨ stage = .whole) (hrest : Ends rest) :
    scanFrom (.numeral ⟨stage, negative, acc, none, false, none⟩) rest =
      (scanFrom .between rest).map (.numeral ⟨negative, acc.reverse, none, none⟩ :: ·) := by
  have hfinish : (Draft.mk stage negative acc none false none).finish = some ⟨negative, acc.reverse, none, none⟩ := by
    rcases hstage with rfl | rfl <;> rfl
  cases rest with
  | nil => simp [scanFrom, finish, hfinish]
  | cons c rest =>
    obtain ⟨c, hc, rfl⟩ := List.mem_map.mp (hrest c rfl)
    have hpush : (Draft.mk stage negative acc none false none).push? c = none := push?_of_ends hstage hc
    have hstep : step (.numeral ⟨stage, negative, acc, none, false, none⟩) (some c) =
        (first c).map fun r => (.numeral ⟨negative, acc.reverse, none, none⟩ :: r.1, r.2) := by
      simp only [step, hpush, hfinish]
      cases first c <;> rfl
    have hbetween : step .between (some c) = first c := rfl
    rw [scanFrom, scanFrom, hstep, hbetween]
    cases first c with
    | none => rfl
    | some r =>
      obtain ⟨ts, mode⟩ := r
      cases hs : scanFrom mode rest <;> simp [hs]

/-- The first digit of a number other than zero is no zero. -/
theorem exists_toDigits {n : Nat} (h : 0 < n) : ∃ c cs, Nat.toDigits 10 n = c :: cs ∧ 0 < c.toNat - 48 := by
  have hdigit : ∀ n < 10, 0 < n → 0 < n.digitChar.toNat - 48 := by decide
  induction n using Nat.strongRecOn with
  | ind n ih =>
    by_cases hn : n < 10
    · exact ⟨n.digitChar, [], Nat.toDigits_of_lt_base hn, hdigit n hn h⟩
    · obtain ⟨c, cs, hcs, hc⟩ := ih (n / 10) (by omega) (by omega)
      exact ⟨c, cs ++ [(n % 10).digitChar], by rw [Nat.toDigits_of_base_le (by decide) (by omega), hcs]; rfl, hc⟩

/-- The digits of a number are read up to where nothing goes on with them. -/
theorem scan_toDigits (n : Nat) (hrest : Ends rest) :
    scanFrom (.numeral ⟨.sign, negative, [], none, false, none⟩) ((Nat.toDigits 10 n).map some ++ rest) =
      (scanFrom .between rest).map
        (.numeral ⟨negative, (Nat.toDigits 10 n).map fun c => c.toNat - 48, none, none⟩ :: ·) := by
  rcases Nat.eq_zero_or_pos n with rfl | hn
  · have hzero : step (.numeral ⟨.sign, negative, [], none, false, none⟩) (some '0') =
        some ([], .numeral ⟨.zero, negative, [0], none, false, none⟩) := rfl
    rw [Nat.toDigits_zero, List.map_singleton, List.singleton_append, scan_silent hzero, scan_numeral (.inl rfl) hrest]
    rfl
  · obtain ⟨c, cs, hcs, hpos⟩ := exists_toDigits hn
    have hdigits : ∀ d ∈ c :: cs, d.isDigit = true := by
      intro d hd
      exact Nat.isDigit_of_mem_toDigits (by decide) (by decide) (hcs ▸ hd)
    have hdigit := digit?_of_isDigit (hdigits c List.mem_cons_self)
    obtain ⟨k, hk⟩ : ∃ k, c.toNat - 48 = k + 1 := ⟨c.toNat - 48 - 1, by omega⟩
    have hfirst : step (.numeral ⟨.sign, negative, [], none, false, none⟩) (some c) =
        some ([], .numeral ⟨.whole, negative, [c.toNat - 48], none, false, none⟩) := by
      rw [hk] at hdigit ⊢
      simp [step, Draft.push?, hdigit]
    rw [hcs, List.map_cons, List.cons_append, scan_silent hfirst,
      scan_digits fun d hd => hdigits d (List.mem_cons_of_mem c hd), scan_numeral (.inr rfl) hrest]
    simp

private theorem step_of_isDigit (h : c.isDigit = true) :
    step .between (some c) = step (.numeral ⟨.sign, false, [], none, false, none⟩) (some c) := by
  have hne : ∀ d : Char, d.isDigit = false → c ≠ d := by
    rintro d hd rfl
    rw [h] at hd
    cases hd
  have hbetween : step .between (some c) =
      ((Draft.mk .sign false [] none false none).push? c).map fun d => ([], .numeral d) := by
    change first c = _
    simp only [first, isBlank, hne ' ' rfl, hne '\n' rfl, hne '\t' rfl, hne '\r' rfl, hne '[' rfl, hne ']' rfl,
      hne '\x7b' rfl, hne '\x7d' rfl, hne ',' rfl, hne ':' rfl, hne '"' rfl, hne 'n' rfl, hne 't' rfl, hne 'f' rfl,
      hne '-' rfl, decide_false, Bool.or_self, Bool.false_eq_true, if_false]
  have hdigit := digit?_of_isDigit h
  rw [hbetween]
  cases hk : c.toNat - 48 with
  | zero => simp [step, Draft.push?, hdigit, hk]
  | succ k => simp [step, Draft.push?, hdigit, hk]

private theorem scan_whole (n : Int) (hrest : Ends rest) :
    scanFrom .between ((Number.text (.whole n)).map some ++ rest) =
      (scanFrom .between rest).map (.numeral (numeralOf n) :: ·) := by
  cases n with
  | ofNat n =>
    have htext : Number.text (.whole (Int.ofNat n)) = Nat.toDigits 10 n := Nat.toList_repr
    have hnumeral : numeralOf (Int.ofNat n) = ⟨false, (Nat.toDigits 10 n).map fun c => c.toNat - 48, none, none⟩ := by
      simp [numeralOf]
    rw [htext, hnumeral, ← scan_toDigits n hrest]
    obtain ⟨c, cs, hcs⟩ := List.exists_cons_of_ne_nil (Nat.toDigits_ne_nil (b := 10) (n := n))
    have hc : c.isDigit = true := Nat.isDigit_of_mem_toDigits (by decide) (by decide) (hcs ▸ List.mem_cons_self)
    rw [hcs, List.map_cons, List.cons_append, scanFrom, scanFrom, step_of_isDigit hc]
  | negSucc n =>
    have htext : Number.text (.whole (Int.negSucc n)) = '-' :: Nat.toDigits 10 (n + 1) :=
      Text.Decimal.toList_toString_negSucc n
    have hnumeral : numeralOf (Int.negSucc n) =
        ⟨true, (Nat.toDigits 10 (n + 1)).map fun c => c.toNat - 48, none, none⟩ := by
      simp [numeralOf]
    have hsign : step .between (some '-') = some ([], .numeral ⟨.sign, true, [], none, false, none⟩) := rfl
    rw [htext, hnumeral, List.map_cons, List.cons_append, scan_silent hsign, scan_toDigits (n + 1) hrest]

end Number

section Text

variable {pieces : List Piece}

private theorem scan_control (h : c.toNat < 32) :
    scanFrom (.string pieces) (['\\', 'u', '0', '0', Encoding.Hex.digit (c.toNat / 16),
      Encoding.Hex.digit (c.toNat % 16)].map some ++ rest) = scanFrom (.string (.char c :: pieces)) rest := by
  have hback : step (.string pieces) (some '\\') = some ([], .escape pieces) := rfl
  have hunit : step (.escape pieces) (some 'u') = some ([], .unit pieces 4 0) := rfl
  have hfirst : step (.unit pieces 4 0) (some '0') = some ([], .unit pieces 3 0) := rfl
  have hsecond : step (.unit pieces 3 0) (some '0') = some ([], .unit pieces 2 0) := rfl
  have hthird : step (.unit pieces 2 0) (some (Encoding.Hex.digit (c.toNat / 16))) =
      some ([], .unit pieces 1 (c.toNat / 16)) := by
    simp [step, Encoding.Hex.value?_digit (show c.toNat / 16 < 16 by omega)]
  have hvalue : 16 * (c.toNat / 16) + c.toNat % 16 = c.toNat := by omega
  have hpiece : Piece.ofUnit c.toNat = .char c := by
    unfold Piece.ofUnit
    rw [if_neg (by omega), Char.ofNat_toNat]
  have hfourth : step (.unit pieces 1 (c.toNat / 16)) (some (Encoding.Hex.digit (c.toNat % 16))) =
      some ([], .string (.char c :: pieces)) := by
    simp [step, Encoding.Hex.value?_digit (show c.toNat % 16 < 16 by omega), hvalue, hpiece]
  simp only [List.map_cons, List.map_nil, List.cons_append, List.nil_append]
  rw [scan_silent hback, scan_silent hunit, scan_silent hfirst, scan_silent hsecond, scan_silent hthird,
    scan_silent hfourth]

private theorem scan_escape (c : Char) :
    scanFrom (.string pieces) ((escape c).map some ++ rest) = scanFrom (.string (.char c :: pieces)) rest := by
  have hback : step (.string pieces) (some '\\') = some ([], .escape pieces) := rfl
  have hletter : ∀ {d e : Char}, d ≠ 'u' → escaped? d = some e →
      scanFrom (.string pieces) (['\\', d].map some ++ rest) = scanFrom (.string (.char e :: pieces)) rest := by
    intro d e hd he
    have hstep : step (.escape pieces) (some d) = some ([], .string (.char e :: pieces)) := by simp [step, hd, he]
    rw [List.map_cons, List.cons_append, scan_silent hback, List.map_singleton, List.singleton_append,
      scan_silent hstep]
  unfold escape
  split
  · rename_i h
    subst h
    exact hletter (by decide) rfl
  split
  · rename_i h
    subst h
    exact hletter (by decide) rfl
  split
  · rename_i h
    subst h
    exact hletter (by decide) rfl
  split
  · rename_i h
    subst h
    exact hletter (by decide) rfl
  split
  · rename_i h
    subst h
    exact hletter (by decide) rfl
  split
  · rename_i h
    subst h
    exact hletter (by decide) rfl
  split
  · rename_i h
    subst h
    exact hletter (by decide) rfl
  split
  · rename_i hsmall
    exact scan_control hsmall
  · rename_i hquote hback _ _ _ _ _ hsmall
    have hstep : step (.string pieces) (some c) = some ([], .string (.char c :: pieces)) := by
      simp only [step, hquote, hback, hsmall, if_false]
    exact scan_silent hstep

private theorem scan_escapes (cs : List Char) :
    scanFrom (.string pieces) ((cs.flatMap escape).map some ++ rest) =
      scanFrom (.string ((cs.map .char).reverse ++ pieces)) rest := by
  induction cs generalizing pieces with
  | nil => rfl
  | cons c cs ih =>
    rw [List.flatMap_cons, List.map_append, List.append_assoc, scan_escape, ih]
    simp

private theorem assemble_chars (cs : List Char) : assemble (cs.map .char) = some cs := by
  induction cs with
  | nil => rfl
  | cons c cs ih => rw [List.map_cons, assemble, ih, Option.map_some]

private theorem scan_quote (s : String) :
    scanFrom .between ((quote s).map some ++ rest) = (scanFrom .between rest).map (.string (some s) :: ·) := by
  have hopen : step .between (some '"') = some ([], .string []) := rfl
  have hclose : step (.string (s.toList.map .char).reverse) (some '"') = some ([.string (some s)], .between) := by
    simp [step, closeString, assemble_chars]
  unfold quote
  rw [List.cons_append, List.map_cons, List.cons_append, scan_silent hopen, List.map_append, List.append_assoc,
    scan_escapes, List.append_nil, List.map_singleton, List.singleton_append, scan_step hclose]
  rfl

end Text

section Document

variable {l : Layout} {level : Nat}

private theorem ends_items (js : List Json) : Ends ((l.items level js).map some ++ rest) := by
  cases js with
  | nil =>
    rw [Layout.items, List.map_append, List.append_assoc]
    exact ends_append (l.line_blank level) (ends_cons (by simp))
  | cons j js => exact ends_cons (by simp)

private theorem ends_members (ms : List (String × Json)) : Ends ((l.members level ms).map some ++ rest) := by
  cases ms with
  | nil =>
    rw [Layout.members, List.map_append, List.append_assoc]
    exact ends_append (l.line_blank level) (ends_cons (by simp))
  | cons m ms =>
    obtain ⟨name, j⟩ := m
    exact ends_cons (by simp)

private theorem scan_name (name : String) :
    scanFrom .between ((l.line level ++ (quote name ++ ':' :: (l.gap ++ cs))).map some ++ rest) =
      (scanFrom .between (cs.map some ++ rest)).map (.string (some name) :: .colon :: ·) := by
  have hcolon : step .between (some ':') = some ([.colon], .between) := rfl
  simp only [List.map_append, List.map_cons, List.append_assoc, List.cons_append]
  rw [scan_blanks (l.line_blank level), scan_quote, scan_step hcolon, scan_blanks l.gap_blank]
  simp [Function.comp_def]

mutual

/-- The words of a document are read off its text, whatever follows that does not go on with a number. -/
theorem scan_chars (l : Layout) (level : Nat) (rest : List (Option Char)) :
    ∀ j : Json, Whole j → Ends rest →
      scanFrom .between ((l.chars level j).map some ++ rest) = (scanFrom .between rest).map (tokens j ++ ·)
  | .null, _, _ => by
    have hword : step .between (some 'n') = some ([], .word ['u', 'l', 'l'] .null) := rfl
    exact (scan_silent hword).trans scan_word
  | .bool true, _, _ => by
    have hword : step .between (some 't') = some ([], .word ['r', 'u', 'e'] (.bool true)) := rfl
    exact (scan_silent hword).trans scan_word
  | .bool false, _, _ => by
    have hword : step .between (some 'f') = some ([], .word ['a', 'l', 's', 'e'] (.bool false)) := rfl
    exact (scan_silent hword).trans scan_word
  | .number (.whole n), _, hrest => scan_whole n hrest
  | .number (.real bits), h, _ => h.elim
  | .string s, _, _ => scan_quote s
  | .array [], _, _ => by
    have hopen : step .between (some '[') = some ([.openArray], .between) := rfl
    have hclose : step .between (some ']') = some ([.closeArray], .between) := rfl
    change scanFrom .between (some '[' :: some ']' :: rest) = _
    rw [scan_step hopen, scan_step hclose]
    simp [tokens, Function.comp_def]
  | .array (j :: js), h, _ => by
    have hopen : step .between (some '[') = some ([.openArray], .between) := rfl
    rw [Layout.chars]
    simp only [List.map_cons, List.map_append, List.cons_append, List.append_assoc]
    rw [scan_step hopen, scan_blanks (l.line_blank (level + 1)), scan_chars l (level + 1) _ j h.1 (ends_items js),
      scan_items l level rest js h.2]
    simp [tokens, Function.comp_def]
  | .object [], _, _ => by
    have hopen : step .between (some '\x7b') = some ([.openObject], .between) := rfl
    have hclose : step .between (some '\x7d') = some ([.closeObject], .between) := rfl
    change scanFrom .between (some '\x7b' :: some '\x7d' :: rest) = _
    rw [scan_step hopen, scan_step hclose]
    simp [tokens, Function.comp_def]
  | .object ((name, j) :: ms), h, _ => by
    have hopen : step .between (some '\x7b') = some ([.openObject], .between) := rfl
    rw [Layout.chars, List.map_cons, List.cons_append, scan_step hopen, scan_name, List.map_append, List.append_assoc,
      scan_chars l (level + 1) _ j h.1 (ends_members ms), scan_members l level rest ms h.2]
    simp [tokens, Function.comp_def]

theorem scan_items (l : Layout) (level : Nat) (rest : List (Option Char)) :
    ∀ js : List Json, WholeItems js →
      scanFrom .between ((l.items level js).map some ++ rest) = (scanFrom .between rest).map (itemTokens js ++ ·)
  | [], _ => by
    have hclose : step .between (some ']') = some ([.closeArray], .between) := rfl
    rw [Layout.items, List.map_append, List.append_assoc, scan_blanks (l.line_blank level), List.map_singleton,
      List.singleton_append, scan_step hclose, itemTokens]
  | j :: js, h => by
    have hcomma : step .between (some ',') = some ([.comma], .between) := rfl
    rw [Layout.items]
    simp only [List.map_cons, List.map_append, List.cons_append, List.append_assoc]
    rw [scan_step hcomma, scan_blanks (l.line_blank (level + 1)), scan_chars l (level + 1) _ j h.1 (ends_items js),
      scan_items l level rest js h.2]
    simp [itemTokens, Function.comp_def]

theorem scan_members (l : Layout) (level : Nat) (rest : List (Option Char)) :
    ∀ ms : List (String × Json), WholeMembers ms →
      scanFrom .between ((l.members level ms).map some ++ rest) = (scanFrom .between rest).map (memberTokens ms ++ ·)
  | [], _ => by
    have hclose : step .between (some '\x7d') = some ([.closeObject], .between) := rfl
    rw [Layout.members, List.map_append, List.append_assoc, scan_blanks (l.line_blank level), List.map_singleton,
      List.singleton_append, scan_step hclose, memberTokens]
  | (name, j) :: ms, h => by
    have hcomma : step .between (some ',') = some ([.comma], .between) := rfl
    rw [Layout.members, List.map_cons, List.cons_append, scan_step hcomma, scan_name, List.map_append,
      List.append_assoc, scan_chars l (level + 1) _ j h.1 (ends_members ms), scan_members l level rest ms h.2]
    simp [memberTokens, Function.comp_def]

end

end Document

end AccountSync.Json
