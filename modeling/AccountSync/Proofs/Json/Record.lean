import AccountSync.Proofs.Json.Reading

/-!
Records as they may be written: an object with the fields under their names, in any order and among others, or an array
of the fields in order. `FieldsOf` says what then stands for each field. Main statement: `slots_iff_fieldsOf`, that a
reader of records goes by that and by nothing else.
-/

set_option autoImplicit false
set_option relaxedAutoImplicit false

namespace AccountSync.Json

abbrev Members := List (Option String × Tree)

def valuesOf (names : List String) (ms : Members) : List Tree :=
  (ms.filter fun m => m.1.any (names.contains ·)).map Prod.snd

/-- What stands for each field of a record, the names of each field given. In an object every name has to have a text;
of an array no item may be left over. -/
def FieldsOf (fields : List (List String)) : Tree → List (List Tree) → Prop
  | .object ms, values => (∀ m ∈ ms, m.1 ≠ none) ∧ fields.map (valuesOf · ms) = values
  | .array ts, values => ts.length ≤ fields.length ∧ (List.range fields.length).map (fun i => ts[i]?.toList) = values
  | _, _ => False

/-- A field that may be left open, or be `null`, or tell something in its own way. -/
inductive TellsOption {α : Type} (tells : α → Tree → Prop) : Option α → List Tree → Prop
  | missing : TellsOption tells none []
  | null : TellsOption tells none [.null]
  | value {a : α} {t : Tree} : tells a t → TellsOption tells (some a) [t]

/-- A whole number is told by a numeral of 64 bits at most, with neither point nor exponent. -/
def TellsWhole (n : Nat) (t : Tree) : Prop :=
  ∃ numeral : Numeral, t = .numeral numeral ∧ numeral.whole? = some (n : Int)

def TellsText (s : String) (t : Tree) : Prop := t = .string (some s)

def TextTells {α : Type} (tells : α → Tree → Prop) (text : String) (a : α) : Prop :=
  ∃ t, Tree.ofText? text = some t ∧ tells a t

variable {α : Type} {fields : List (List String)} {names : List String} {ms : Members} {t : Tree} {rd : Reader α}
  {a : α} {o : Option α} {s : String} {slot : Option Tree} {slots : List (Option Tree)} {tells : α → Tree → Prop}

private theorem lookup_eq_some_iff : Reader.lookup names ms = some slot ↔ valuesOf names ms = slot.toList := by
  unfold Reader.lookup valuesOf
  cases ms.filter fun m => m.1.any (names.contains ·) with
  | nil => cases slot <;> simp
  | cons m rest =>
    cases rest with
    | nil => cases slot <;> simp
    | cons m' rest => cases slot <;> simp

private theorem toList_injective : Function.Injective (Option.toList (α := Tree)) := by
  intro a b h
  cases a <;> cases b <;> simp_all

private theorem mapM_lookup_iff :
    fields.mapM (Reader.lookup · ms) = some slots ↔ fields.map (valuesOf · ms) = slots.map Option.toList := by
  induction fields generalizing slots with
  | nil => cases slots <;> simp
  | cons names fields ih =>
    rw [List.mapM_cons, List.map_cons]
    cases slots with
    | nil => simp [Option.bind_eq_some_iff]
    | cons slot slots => simp [Option.bind_eq_some_iff, ← ih, ← lookup_eq_some_iff]

theorem slots_iff_fieldsOf : Reader.slots fields t = some slots ↔ FieldsOf fields t (slots.map Option.toList) := by
  cases t with
  | object ms => exact slots_eq_some_iff.trans (and_congr_right' mapM_lookup_iff)
  | array ts =>
    have hitems : (List.range fields.length).map (fun i => ts[i]?.toList) =
        ((List.range fields.length).map (ts[·]?)).map Option.toList := by
      rw [List.map_map]
      rfl
    rw [Reader.slots, Option.ite_none_right_eq_some, Option.some_inj, FieldsOf, hitems]
    exact and_congr_right' (List.map_injective_iff.mpr toList_injective).eq_iff.symm
  | null => exact iff_of_false (Option.some_ne_none slots).symm id
  | bool _ => exact iff_of_false (Option.some_ne_none slots).symm id
  | numeral _ => exact iff_of_false (Option.some_ne_none slots).symm id
  | string _ => exact iff_of_false (Option.some_ne_none slots).symm id

/-! ### One field -/

theorem required_eq_some_iff : Reader.required rd slot = some a ↔ ∃ t, slot.toList = [t] ∧ rd t = some a := by
  cases slot with
  | none => exact iff_of_false nofun fun ⟨_, h, _⟩ => nomatch h
  | some t =>
    constructor
    · exact fun h => ⟨t, rfl, h⟩
    · rintro ⟨_, h, hread⟩
      obtain rfl := (List.cons.inj h).1
      exact hread

theorem required_string_iff : Reader.required Reader.string slot = some s ↔ slot.toList = [.string (some s)] := by
  rw [required_eq_some_iff]
  constructor
  · rintro ⟨t, ht, hread⟩
    rw [ht, string_eq_some_iff.mp hread]
  · exact fun h => ⟨_, h, rfl⟩

theorem optional_iff_tellsOption (hrd : ∀ a t, rd t = some a ↔ tells a t) (hnull : ∀ a, ¬ tells a .null) :
    Reader.optional rd slot = some o ↔ TellsOption tells o slot.toList := by
  have hread (t : Tree) (ht : t ≠ .null) : Reader.optional rd (some t) = (rd t).map some := by
    cases t with
    | null => exact (ht rfl).elim
    | _ => rfl
  cases slot with
  | none =>
    constructor
    · intro h
      obtain rfl := Option.some.inj h
      exact .missing
    · rintro ⟨⟩
      rfl
  | some t =>
    by_cases ht : t = .null
    · subst ht
      constructor
      · intro h
        obtain rfl := Option.some.inj h
        exact .null
      · intro h
        cases h with
        | null => rfl
        | value htells => exact (hnull _ htells).elim
    · rw [hread t ht, Option.map_eq_some_iff]
      constructor
      · rintro ⟨a, ha, rfl⟩
        exact .value ((hrd a t).mp ha)
      · intro h
        cases h with
        | null => exact (ht rfl).elim
        | value htells => exact ⟨_, (hrd _ t).mpr htells, rfl⟩

theorem TellsOption.exists_slot {values : List Tree} (h : TellsOption tells o values) :
    ∃ slot : Option Tree, values = slot.toList := by
  cases h with
  | missing => exact ⟨none, rfl⟩
  | null => exact ⟨some .null, rfl⟩
  | @value _ t _ => exact ⟨some t, rfl⟩

theorem not_tellsWhole_null (n : Nat) : ¬ TellsWhole n .null := fun ⟨_, h, _⟩ => nomatch h

theorem not_tellsText_null (s : String) : ¬ TellsText s .null := nofun

theorem ofText_iff_textTells (hrd : ∀ {t}, rd t = some a ↔ tells a t) {text : String} :
    rd.ofText text = some a ↔ TextTells tells text a := by
  rw [Reader.ofText, Option.bind_eq_some_iff]
  exact exists_congr fun _ => and_congr_right' hrd

end AccountSync.Json
