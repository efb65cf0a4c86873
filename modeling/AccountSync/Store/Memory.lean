import AccountSync.Store.Basic

/-!
A store of texts under keys in memory. Calls may have been made to fail; then they leave the entries as
they are.
-/

set_option autoImplicit false
set_option relaxedAutoImplicit false

namespace AccountSync.Store

/-- Texts under keys, sorted by key. -/
abbrev Entries := List (String × String)

namespace Entries

def get? (es : Entries) (key : String) : Option String :=
  (es.find? (·.1 = key)).map (·.2)

def insert (key value : String) : Entries → Entries
  | [] => [(key, value)]
  | (k, v) :: es =>
    if k < key then (k, v) :: insert key value es
    else if k = key then (key, value) :: es
    else (key, value) :: (k, v) :: es

/-- Entries from pairs in any order; of two under one key the later counts. -/
def ofList (ps : List (String × String)) : Entries :=
  ps.foldl (fun es p => es.insert p.1 p.2) []

def erase (es : Entries) (key : String) : Entries :=
  es.filter (·.1 ≠ key)

@[simp] theorem get?_nil (key : String) : get? [] key = none := rfl

theorem get?_cons (k v : String) (es : Entries) (key : String) :
    get? ((k, v) :: es) key = if k = key then some v else get? es key := by
  by_cases h : k = key <;> simp [get?, h]

theorem get?_insert (es : Entries) (key value k : String) :
    get? (insert key value es) k = if k = key then some value else get? es k := by
  induction es with
  | nil => simp [insert, get?_cons, eq_comm]
  | cons e es ih =>
    obtain ⟨k', v'⟩ := e
    unfold insert
    by_cases hlt : k' < key
    · have hne : k' ≠ key := fun he => String.lt_irrefl key (he ▸ hlt)
      simp only [hlt, if_true, get?_cons, ih]
      by_cases hk : k' = k
      · subst hk
        simp [hne]
      · simp [hk]
    · by_cases he : k' = key
      · subst he
        simp only [hlt, if_false, if_true, get?_cons]
        by_cases hk : k' = k
        · simp [hk]
        · have hk' : ¬ k = k' := fun h => hk h.symm
          simp [hk, hk']
      · simp only [hlt, he, if_false, get?_cons]
        by_cases hk : key = k
        · simp [hk]
        · have hk' : ¬ k = key := fun h => hk h.symm
          simp [hk, hk']

theorem get?_erase (es : Entries) (key k : String) :
    get? (erase es key) k = if k = key then none else get? es k := by
  induction es with
  | nil => simp [erase]
  | cons e es ih =>
    obtain ⟨k', v'⟩ := e
    have ih' : get? (List.filter (fun e => decide (e.1 ≠ key)) es) k
        = if k = key then none else get? es k := ih
    by_cases he : k' = key
    · subst he
      simp only [erase, List.filter_cons, ne_eq, not_true_eq_false, decide_false, Bool.false_eq_true,
        if_false, get?_cons]
      rw [ih']
      by_cases hk : k = k'
      · simp [hk]
      · have hk' : ¬ k' = k := fun h => hk h.symm
        simp [hk, hk']
    · simp only [erase, List.filter_cons, ne_eq, he, not_false_eq_true, decide_true, if_true, get?_cons]
      rw [ih']
      by_cases hk : k' = k
      · subst hk
        simp [he]
      · simp [hk]

end Entries

/-- Two calls that do the same kind of thing with the same key. -/
inductive Place
  | get (key : String)
  | set (key : String)
  | remove (key : String)
  deriving DecidableEq, Repr

def Call.place : Call → Place
  | .get key => .get key
  | .set key _ => .set key
  | .remove key => .remove key

/-- A store in memory, and what the calls that fail have to say. -/
structure Memory where
  entries : Entries := []
  faults : List (Place × String) := []
  deriving Repr

namespace Memory

/-- Makes calls fail from now on, or lets them succeed again. -/
def fail (m : Memory) (place : Place) (text : Option String) : Memory :=
  let others := m.faults.filter (·.1 ≠ place)
  { m with faults := match text with | some t => (place, t) :: others | none => others }

def fault? (m : Memory) (c : Call) : Option SyncError :=
  (m.faults.lookup c.place).map .storage

def answer (m : Memory) (c : Call) : c.Answer × Memory :=
  match c with
  | .get key =>
    match m.fault? (.get key) with
    | some e => (.error e, m)
    | none => (.ok (m.entries.get? key), m)
  | .set key value =>
    match m.fault? (.set key value) with
    | some e => (.error e, m)
    | none => (.ok (), { m with entries := m.entries.insert key value })
  | .remove key =>
    match m.fault? (.remove key) with
    | some e => (.error e, m)
    | none => (.ok (), { m with entries := m.entries.erase key })

end Memory

end AccountSync.Store
