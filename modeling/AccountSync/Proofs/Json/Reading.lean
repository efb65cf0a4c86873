import AccountSync.Json.Shape
import AccountSync.Proofs.Json.Words

/-!
Documents that were written and are read back. A document has a `tree`; main statements: `parse_chars`, that its text
is read as that tree in whatever layout it was written, and with it `ofText_compact`, `ofText_pretty` and
`ofBytes_compact`, that a reader then sees what it would see of the tree. Of an object it finds those fields of a record
that are given (`slots_of_gives`), and all of them where the record was written (`slots_object`).
-/

set_option autoImplicit false
set_option relaxedAutoImplicit false

namespace AccountSync.Json

open AccountSync.Json.Tree (Frame State)

mutual

/-- The tree of a document. A real number has none here. -/
def tree : Json → Tree
  | .null => .null
  | .bool b => .bool b
  | .number (.whole n) => .numeral (numeralOf n)
  | .number (.real _) => .null
  | .string s => .string (some s)
  | .array js => .array (trees js)
  | .object ms => .object (branches ms)

def trees : List Json → List Tree
  | [] => []
  | j :: js => tree j :: trees js

def branches : List (String × Json) → List (Option String × Tree)
  | [] => []
  | (name, j) :: ms => (some name, tree j) :: branches ms

end

section Tokens

variable {frames : List Frame} {rest : List Token}

private theorem run_cons {s s' : State} {t : Token} (h : Tree.step s t = some s') :
    Tree.run s (t :: rest) = Tree.run s' rest := by
  rw [Tree.run, h]
  rfl

mutual

/-- Where a value may begin, the words of a document make its tree. -/
theorem run_tokens (frames : List Frame) (orClose : Bool) (rest : List Token) :
    ∀ j : Json, Whole j →
      Tree.run ⟨frames, .value orClose⟩ (tokens j ++ rest) = Tree.run ⟨frames, .after (tree j)⟩ rest
  | .null, _ => run_cons rfl
  | .bool _, _ => run_cons rfl
  | .number (.whole _), _ => run_cons rfl
  | .number (.real _), h => h.elim
  | .string _, _ => run_cons rfl
  | .array [], _ => (run_cons rfl).trans (run_cons rfl)
  | .array (j :: js), h => by
    have hopen : Tree.step ⟨frames, .value orClose⟩ .openArray = some ⟨.array [] :: frames, .value true⟩ := rfl
    rw [tokens, List.cons_append, run_cons hopen, List.append_assoc, run_tokens _ true _ j h.1,
      run_itemTokens frames [] (tree j) rest js h.2]
    rfl
  | .object [], _ => (run_cons rfl).trans (run_cons rfl)
  | .object ((name, j) :: ms), h => by
    have hopen : Tree.step ⟨frames, .value orClose⟩ .openObject = some ⟨frames, .name [] true⟩ := rfl
    have hname : Tree.step ⟨frames, .name [] true⟩ (.string (some name)) = some ⟨frames, .colon [] (some name)⟩ := rfl
    have hcolon : Tree.step ⟨frames, .colon [] (some name)⟩ .colon =
        some ⟨.object [] (some name) :: frames, .value false⟩ := rfl
    rw [tokens]
    simp only [List.cons_append, List.append_assoc]
    rw [run_cons hopen, run_cons hname, run_cons hcolon, run_tokens _ false _ j h.1,
      run_memberTokens frames [] (some name) (tree j) rest ms h.2]
    rfl

theorem run_itemTokens (frames : List Frame) (before : List Tree) (v : Tree) (rest : List Token) :
    ∀ js : List Json, WholeItems js →
      Tree.run ⟨.array before :: frames, .after v⟩ (itemTokens js ++ rest) =
        Tree.run ⟨frames, .after (.array ((v :: before).reverse ++ trees js))⟩ rest
  | [], _ => by
    have hclose : Tree.step ⟨.array before :: frames, .after v⟩ .closeArray =
        some ⟨frames, .after (.array (v :: before).reverse)⟩ := rfl
    rw [itemTokens, List.singleton_append, run_cons hclose, trees, List.append_nil]
  | j :: js, h => by
    have hcomma : Tree.step ⟨.array before :: frames, .after v⟩ .comma =
        some ⟨.array (v :: before) :: frames, .value false⟩ := rfl
    rw [itemTokens, List.cons_append, run_cons hcomma, List.append_assoc, run_tokens _ false _ j h.1,
      run_itemTokens frames (v :: before) (tree j) rest js h.2]
    simp [trees]

theorem run_memberTokens (frames : List Frame) (before : List (Option String × Tree)) (name : Option String) (v : Tree)
    (rest : List Token) : ∀ ms : List (String × Json), WholeMembers ms →
      Tree.run ⟨.object before name :: frames, .after v⟩ (memberTokens ms ++ rest) =
        Tree.run ⟨frames, .after (.object (((name, v) :: before).reverse ++ branches ms))⟩ rest
  | [], _ => by
    have hclose : Tree.step ⟨.object before name :: frames, .after v⟩ .closeObject =
        some ⟨frames, .after (.object ((name, v) :: before).reverse)⟩ := rfl
    rw [memberTokens, List.singleton_append, run_cons hclose, branches, List.append_nil]
  | (name', j) :: ms, h => by
    have hcomma : Tree.step ⟨.object before name :: frames, .after v⟩ .comma =
        some ⟨frames, .name ((name, v) :: before) false⟩ := rfl
    have hname : Tree.step ⟨frames, .name ((name, v) :: before) false⟩ (.string (some name')) =
        some ⟨frames, .colon ((name, v) :: before) (some name')⟩ := rfl
    have hcolon : Tree.step ⟨frames, .colon ((name, v) :: before) (some name')⟩ .colon =
        some ⟨.object ((name, v) :: before) (some name') :: frames, .value false⟩ := rfl
    rw [memberTokens]
    simp only [List.cons_append, List.append_assoc]
    rw [run_cons hcomma, run_cons hname, run_cons hcolon, run_tokens _ false _ j h.1,
      run_memberTokens frames ((name, v) :: before) (some name') (tree j) rest ms h.2]
    simp [branches]

end

private theorem ofTokens?_tokens {j : Json} (h : Whole j) : Tree.ofTokens? (tokens j) = some (tree j) := by
  have hrun := run_tokens [] false [] j h
  rw [List.append_nil] at hrun
  rw [Tree.ofTokens?, hrun]
  rfl

end Tokens

variable {α : Type} {j : Json}

theorem parse_chars (h : Whole j) (l : Layout) (level : Nat) :
    Tree.parse ((l.chars level j).map some) = some (tree j) := by
  have hscan := scan_chars l level [] j h ends_nil
  rw [List.append_nil] at hscan
  rw [Tree.parse, Token.scan, hscan]
  simp [Token.scanFrom, Token.finish, ofTokens?_tokens h]

theorem ofText_chars (r : Reader α) (h : Whole j) (l : Layout) (level : Nat) :
    r.ofText (String.ofList (l.chars level j)) = r (tree j) := by
  rw [Reader.ofText, Tree.ofText?, String.toList_ofList, parse_chars h]
  rfl

theorem ofText_compact (r : Reader α) (h : Whole j) : r.ofText j.compact = r (tree j) := by
  rw [compact, compactChars_eq 0, ofText_chars r h]

theorem ofText_pretty (r : Reader α) (h : Whole j) : r.ofText j.pretty = r (tree j) := by
  rw [pretty, prettyChars_eq 0, ofText_chars r h]

theorem ofBytes_compact (r : Reader α) (h : Whole j) :
    r.ofBytes (Text.Utf8.encode j.compactChars) = r (tree j) := by
  rw [Reader.ofBytes, Tree.ofBytes?, Text.Utf8.scan_encode, compactChars_eq 0, parse_chars h]
  rfl

private theorem digitsValue_toDigits (n : Nat) : digitsValue ((Nat.toDigits 10 n).map fun c => c.toNat - 48) = n := by
  have h : Nat.ofDigitChars 10 (Nat.toDigits 10 n) 0 = n := Nat.ofDigitChars_ten_toDigits
  rw [digitsValue, List.foldl_map]
  exact h

theorem below_eq_some_iff {bound v : Nat} {t : Tree} : Reader.below bound t = some v ↔
    ∃ n : Numeral, t = .numeral n ∧ n.whole? = some (v : Int) ∧ v < bound := by
  cases t with
  | numeral n =>
    unfold Reader.below
    rw [Option.bind_eq_some_iff]
    constructor
    · rintro ⟨z, hz, hv⟩
      obtain ⟨⟨hlow, hhigh⟩, hv⟩ := Option.ite_none_right_eq_some.mp hv
      have hcast : z = (v : Int) := by
        rw [← Option.some.inj hv]
        exact (Int.toNat_of_nonneg hlow).symm
      subst hcast
      exact ⟨n, rfl, hz, by omega⟩
    · rintro ⟨n', hn, hz, hlt⟩
      obtain rfl := Tree.numeral.inj hn
      refine ⟨v, hz, ?_⟩
      rw [if_pos ⟨by omega, by omega⟩, Int.toNat_natCast]
  | null => simp [Reader.below]
  | bool _ => simp [Reader.below]
  | string _ => simp [Reader.below]
  | array _ => simp [Reader.below]
  | object _ => simp [Reader.below]

/-- A whole number of so many bits, given how it is made of a natural number and back. -/
private theorem map_below_eq_some_iff {W : Type} {ofNat : Nat → W} {toNat : W → Nat} {bound : Nat} {t : Tree} {w : W}
    (hto : ∀ v, v < bound → toNat (ofNat v) = v) (hof : ofNat (toNat w) = w) (hlt : toNat w < bound) :
    (Reader.below bound t).map ofNat = some w ↔ ∃ n : Numeral, t = .numeral n ∧ n.whole? = some (toNat w : Int) := by
  rw [Option.map_eq_some_iff]
  constructor
  · rintro ⟨v, hv, rfl⟩
    obtain ⟨n, ht, hn, hbound⟩ := below_eq_some_iff.mp hv
    exact ⟨n, ht, by rw [hto v hbound, hn]⟩
  · rintro ⟨n, ht, hn⟩
    exact ⟨toNat w, below_eq_some_iff.mpr ⟨n, ht, hn, hlt⟩, hof⟩

theorem word16_eq_some_iff {t : Tree} {w : UInt16} :
    Reader.word16 t = some w ↔ ∃ n : Numeral, t = .numeral n ∧ n.whole? = some (w.toNat : Int) :=
  map_below_eq_some_iff (fun _ h => UInt16.toNat_ofNat_of_lt' h) UInt16.ofNat_toNat w.toNat_lt_size

theorem word32_eq_some_iff {t : Tree} {w : UInt32} :
    Reader.word32 t = some w ↔ ∃ n : Numeral, t = .numeral n ∧ n.whole? = some (w.toNat : Int) :=
  map_below_eq_some_iff (fun _ h => UInt32.toNat_ofNat_of_lt' h) UInt32.ofNat_toNat w.toNat_lt_size

theorem word64_eq_some_iff {t : Tree} {w : UInt64} :
    Reader.word64 t = some w ↔ ∃ n : Numeral, t = .numeral n ∧ n.whole? = some (w.toNat : Int) :=
  map_below_eq_some_iff (fun _ h => UInt64.toNat_ofNat_of_lt' h) UInt64.ofNat_toNat w.toNat_lt_size

theorem string_eq_some_iff {t : Tree} {s : String} : Reader.string t = some s ↔ t = .string (some s) := by
  cases t with
  | string text => exact ⟨fun h => congrArg Tree.string h, fun h => Tree.string.inj h⟩
  | null => exact iff_of_false nofun nofun
  | bool b => exact iff_of_false nofun nofun
  | numeral n => exact iff_of_false nofun nofun
  | array ts => exact iff_of_false nofun nofun
  | object ms => exact iff_of_false nofun nofun

theorem whole?_numeralOf {z : Int} (hlow : -0x8000000000000000 ≤ z) (hhigh : z < UInt64.size) :
    (numeralOf z).whole? = some z := by
  simp only [numeralOf, Numeral.whole?, Option.isSome_none, Bool.false_eq_true, or_self, if_false,
    digitsValue_toDigits, decide_eq_true_eq]
  by_cases hneg : z < 0
  · rw [if_pos hneg, if_pos (by omega), Option.some_inj]
    omega
  · rw [if_neg hneg, if_pos (by omega), Option.some_inj]
    omega

theorem word64_nat (w : UInt64) : Reader.word64 (tree (.nat w.toNat)) = some w := by
  have hlt := w.toNat_lt_size
  exact word64_eq_some_iff.mpr ⟨_, rfl, whole?_numeralOf (by omega) (by omega)⟩

theorem string_tree (s : String) : Reader.string (tree (.string s)) = some s := by
  rw [tree, Reader.string]

theorem bool_tree (b : Bool) : Reader.bool (tree (.bool b)) = some b := by
  rw [tree, Reader.bool]

theorem slots_eq_some_iff {fields : List (List String)} {members : List (Option String × Tree)}
    {slots : List (Option Tree)} : Reader.slots fields (.object members) = some slots ↔
      (∀ m ∈ members, m.1 ≠ none) ∧ fields.mapM (Reader.lookup · members) = some slots := by
  have hall : members.all (·.1.isSome) = true ↔ ∀ m ∈ members, m.1 ≠ none := by
    rw [List.all_eq_true]
    exact forall₂_congr fun m _ => Option.isSome_iff_ne_none
  rw [Reader.slots, Option.ite_none_right_eq_some, hall]

section Records

variable {m : String × Json} {ms : List (String × Json)}

theorem wholeMembers_iff : WholeMembers ms ↔ ∀ m ∈ ms, Whole m.2 := by
  induction ms with
  | nil => simp [WholeMembers]
  | cons m ms ih => simp [WholeMembers, ih]

theorem branches_eq_map (ms : List (String × Json)) : branches ms = ms.map fun m => (some m.1, m.2.tree) := by
  induction ms with
  | nil => rfl
  | cons m ms ih => rw [branches, ih, List.map_cons]

private theorem names_branches (ms : List (String × Json)) :
    (branches ms).map Prod.fst = ms.map fun m => some m.1 := by
  rw [branches_eq_map, List.map_map]
  rfl

private theorem filter_branches_of_not_mem {name : String} (h : name ∉ ms.map Prod.fst) :
    (branches ms).filter (fun b => b.1.any ([name].contains ·)) = [] := by
  rw [List.filter_eq_nil_iff]
  intro b hb
  have hmem : b.1 ∈ ms.map fun m => some m.1 := names_branches ms ▸ List.mem_map_of_mem hb
  obtain ⟨m, hm, hname⟩ := List.mem_map.mp hmem
  have hne : m.1 ≠ name := by
    rintro rfl
    exact h (List.mem_map_of_mem hm)
  simpa [← hname] using hne

private theorem filter_branches_of_mem (hnames : (ms.map Prod.fst).Nodup) (hm : m ∈ ms) :
    (branches ms).filter (fun b => b.1.any ([m.1].contains ·)) = [(some m.1, tree m.2)] := by
  induction ms with
  | nil => cases hm
  | cons first ms ih =>
    obtain ⟨hfirst, hrest⟩ := List.nodup_cons.mp hnames
    rw [branches]
    rcases List.mem_cons.mp hm with rfl | hm
    · rw [List.filter_cons_of_pos (by simp), filter_branches_of_not_mem hfirst]
    · have hne : first.1 ≠ m.1 := by
        intro he
        exact hfirst (he ▸ List.mem_map_of_mem hm)
      rw [List.filter_cons_of_neg (by simpa using hne), ih hrest hm]

variable {given : String → Bool} {members : List (Option String × Tree)}

/-- Among the members of an object that stand under the names of some fields there are just those of the given ones, in
any order. -/
def Gives (fields : List (String × Json)) (given : String → Bool) (members : List (Option String × Tree)) : Prop :=
  (members.filter fun b => b.1.any ((fields.map Prod.fst).contains ·)).Perm (branches (fields.filter (given ·.1)))

private theorem lookup_of_gives (hnames : (ms.map Prod.fst).Nodup) (hgives : Gives ms given members) (hm : m ∈ ms) :
    Reader.lookup [m.1] members = some (if given m.1 then some m.2.tree else none) := by
  have hfields : members.filter (fun b => b.1.any ([m.1].contains ·)) =
      (members.filter fun b => b.1.any ((ms.map Prod.fst).contains ·)).filter fun b => b.1.any ([m.1].contains ·) := by
    rw [List.filter_filter]
    refine List.filter_congr fun b _ => ?_
    cases hb : b.1 with
    | none => rfl
    | some name =>
      by_cases hname : name = m.1
      · simp [hname, List.mem_map_of_mem (f := Prod.fst) hm]
      · simp [hname]
  have hperm := hgives.filter fun b => b.1.any ([m.1].contains ·)
  rw [← hfields] at hperm
  rw [Reader.lookup]
  cases hgiven : given m.1 with
  | true =>
    have hkept : m ∈ ms.filter (given ·.1) := List.mem_filter.mpr ⟨hm, hgiven⟩
    have hnodup : ((ms.filter (given ·.1)).map Prod.fst).Nodup := hnames.sublist (List.filter_sublist.map Prod.fst)
    rw [filter_branches_of_mem hnodup hkept] at hperm
    rw [List.perm_singleton.mp hperm]
    rfl
  | false =>
    have habsent : m.1 ∉ (ms.filter (given ·.1)).map Prod.fst := by
      intro hmem
      obtain ⟨m', hm', hname⟩ := List.mem_map.mp hmem
      have htrue := (List.mem_filter.mp hm').2
      rw [hname, hgiven] at htrue
      cases htrue
    rw [filter_branches_of_not_mem habsent] at hperm
    rw [List.perm_nil.mp hperm]
    rfl

/-- Of the fields of a record those are found, in their order, that an object gives. -/
theorem slots_of_gives (hnames : (ms.map Prod.fst).Nodup) (hnamed : ∀ b ∈ members, b.1 ≠ none)
    (hgives : Gives ms given members) : Reader.slots (ms.map fun m => [m.1]) (.object members) =
      some (ms.map fun m => if given m.1 then some m.2.tree else none) := by
  have hfields : ∀ fields ⊆ ms, (fields.map fun m => [m.1]).mapM (Reader.lookup · members) =
      some (fields.map fun m => if given m.1 then some m.2.tree else none) := by
    intro fields hsub
    induction fields with
    | nil => rfl
    | cons m fields ih =>
      obtain ⟨hm, hfields⟩ := List.cons_subset.mp hsub
      rw [List.map_cons, List.mapM_cons, lookup_of_gives hnames hgives hm, ih hfields]
      rfl
  exact slots_eq_some_iff.mpr ⟨hnamed, hfields ms (List.Subset.refl ms)⟩

theorem ne_none_of_branches {b : Option String × Tree} (hb : b ∈ branches ms) : b.1 ≠ none := by
  rw [branches_eq_map] at hb
  obtain ⟨m, -, rfl⟩ := List.mem_map.mp hb
  exact nofun

theorem gives_branches {others written : List (String × Json)} (hothers : ∀ m ∈ others, m.1 ∉ ms.map Prod.fst)
    (hwritten : written.Perm (ms.filter (given ·.1) ++ others)) : Gives ms given (branches written) := by
  have hfilter : ∀ fields : List (String × Json), (branches fields).filter (fun b => b.1.any ((ms.map Prod.fst).contains ·)) =
      branches (fields.filter fun m => (ms.map Prod.fst).contains m.1) := by
    intro fields
    rw [branches_eq_map, branches_eq_map, List.filter_map]
    rfl
  have hkept : ((ms.filter (given ·.1)).filter fun m => (ms.map Prod.fst).contains m.1) = ms.filter (given ·.1) := by
    refine List.filter_eq_self.mpr fun m hm => ?_
    exact List.contains_iff_mem.mpr (List.mem_map_of_mem (List.mem_of_mem_filter hm))
  have hdropped : (others.filter fun m => (ms.map Prod.fst).contains m.1) = [] := by
    refine List.filter_eq_nil_iff.mpr fun m hm hcontains => ?_
    exact hothers m hm (List.contains_iff_mem.mp hcontains)
  unfold Gives
  rw [hfilter]
  have hperm := hwritten.filter fun m => (ms.map Prod.fst).contains m.1
  rw [List.filter_append, hkept, hdropped, List.append_nil] at hperm
  rw [branches_eq_map, branches_eq_map]
  exact hperm.map _

theorem gives_all (ms : List (String × Json)) : Gives ms (fun _ => true) (branches ms) := by
  have hall : ms.filter (fun _ => true) ++ [] = ms := by
    rw [List.append_nil, List.filter_eq_self.mpr fun _ _ => rfl]
  exact gives_branches (fun _ hm => absurd hm List.not_mem_nil) (.of_eq hall.symm)

theorem slots_object {j : Json} (hj : j = .object ms) (hnames : (ms.map Prod.fst).Nodup) :
    Reader.slots (ms.map fun m => [m.1]) j.tree = some (ms.map fun m => some m.2.tree) := by
  rw [hj, tree]
  exact slots_of_gives hnames (fun _ => ne_none_of_branches) (gives_all ms)

end Records

end AccountSync.Json
