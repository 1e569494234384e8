import JavaCensus.Toml.Reader
import Mathlib

/-!
# Tables hold their keys once

Tables are lists of entries, and an entry whose key is there already takes the place of the old one.
So no table that has been read from a document has a key twice, and neither has a table in it.
-/
namespace JavaCensus.Toml

/-! ## Entries -/

theorem keys_setEntry (key : String) (v : Value) (t : Entries) :
    (setEntry key v t).map (·.1) =
      if key ∈ t.map (·.1) then t.map (·.1) else t.map (·.1) ++ [key] := by
  induction t with
  | nil => rfl
  | cons p t ih =>
    obtain ⟨k, w⟩ := p
    rw [setEntry]
    by_cases h : k = key
    · simp [h]
    · have other : ¬key = k := fun e => h e.symm
      simp only [h, if_false, List.map_cons, ih, List.mem_cons, other, false_or]
      split <;> rfl

theorem nodup_setEntry {key : String} {v : Value} {t : Entries} (h : (t.map (·.1)).Nodup) :
    ((setEntry key v t).map (·.1)).Nodup := by
  rw [keys_setEntry]
  split
  · exact h
  · rename_i new
    apply List.Nodup.append h (List.nodup_singleton key)
    rw [List.disjoint_singleton]
    exact new

theorem mem_setEntry {key : String} {v : Value} {t : Entries} {p : String × Value}
    (h : p ∈ setEntry key v t) : p = (key, v) ∨ p ∈ t := by
  induction t with
  | nil => exact .inl (List.mem_singleton.1 h)
  | cons q t ih =>
    obtain ⟨k, w⟩ := q
    rw [setEntry] at h
    split at h
    · rename_i same
      rw [List.mem_cons, same] at h
      exact h.imp_right (List.mem_cons_of_mem _)
    · rw [List.mem_cons] at h ⊢
      rcases h with rfl | h
      · exact .inr (.inl rfl)
      · exact (ih h).imp_right .inr

theorem lookup?_nil (key : String) : lookup? key [] = none :=
  rfl

theorem lookup?_cons (key : String) (p : String × Value) (t : Entries) :
    lookup? key (p :: t) = if p.1 = key then some p.2 else lookup? key t := by
  unfold lookup?
  rw [List.find?_cons]
  by_cases h : p.1 = key
  · simp [h]
  · simp [h, beq_eq_false_iff_ne.2 h]

theorem lookup?_setEntry (key other : String) (v : Value) (t : Entries) :
    lookup? other (setEntry key v t) = if other = key then some v else lookup? other t := by
  induction t with
  | nil =>
    rw [setEntry, lookup?_cons, lookup?_nil]
    simp only [eq_comm]
  | cons p t ih =>
    obtain ⟨k, w⟩ := p
    rw [setEntry]
    by_cases same : k = key
    · subst same
      simp only [if_true, lookup?_cons, eq_comm (a := k)]
      split <;> rfl
    · simp only [same, if_false, lookup?_cons, ih]
      by_cases h : k = other
      · have ne : ¬other = key := fun e => same (h.trans e)
        simp [h, ne]
      · simp [h]

theorem mem_of_lookup? {key : String} {v : Value} {t : Entries} (h : lookup? key t = some v) :
    (key, v) ∈ t := by
  obtain ⟨p, found, rfl⟩ := Option.map_eq_some_iff.1 h
  have named := List.find?_some found
  rw [beq_iff_eq] at named
  rw [← named]
  exact List.mem_of_find?_eq_some found

theorem lookup?_eq_none_iff {key : String} {t : Entries} :
    lookup? key t = none ↔ key ∉ t.map (·.1) := by
  induction t with
  | nil => simp [lookup?_nil]
  | cons p t ih =>
    rw [lookup?_cons, List.map_cons, List.mem_cons, not_or]
    by_cases h : p.1 = key
    · simp [h]
    · have other : ¬key = p.1 := fun e => h e.symm
      simp [h, other, ih]

theorem lookup?_of_mem {key : String} {v : Value} {t : Entries} (distinct : (t.map (·.1)).Nodup)
    (h : (key, v) ∈ t) : lookup? key t = some v := by
  cases found : lookup? key t with
  | none => exact absurd (List.mem_map_of_mem h) (lookup?_eq_none_iff.1 found)
  | some w =>
    have same := List.inj_on_of_nodup_map distinct (mem_of_lookup? found) h rfl
    rw [(Prod.mk.inj same).2]

/-- Entries that are kept by what they hold are found as before. -/
theorem lookup?_filter {keep : String × Value → Bool} {t : Entries} (h : (t.map (·.1)).Nodup)
    (key : String) :
    lookup? key (t.filter keep) = (lookup? key t).filter fun v => keep (key, v) := by
  induction t with
  | nil => rfl
  | cons p t ih =>
    obtain ⟨k, w⟩ := p
    obtain ⟨new, h⟩ := List.nodup_cons.1 h
    rw [lookup?_cons, List.filter_cons]
    by_cases same : k = key
    · subst same
      have gone : lookup? k t = none := lookup?_eq_none_iff.2 new
      by_cases kept : keep (k, w) = true
      · simp [kept, lookup?_cons, Option.filter]
      · simp [kept, ih h, gone, Option.filter]
    · by_cases kept : keep (k, w) = true
      · simp [kept, lookup?_cons, same, ih h]
      · simp [kept, same, ih h]

/-! ## Tables in tables -/

/-- A table with each key once, or a value that is no table. -/
def HoldsKeysOnce (v : Value) : Prop :=
  ∀ t, v = .table t → (t.map (·.1)).Nodup

theorem holdsKeysOnce_of_ne {v : Value} (h : ∀ t, v ≠ .table t) : HoldsKeysOnce v :=
  fun t e => absurd e (h t)

/-- A table with each key once, in which the tables are so too. -/
structure Regular (t : Entries) : Prop where
  keys : (t.map (·.1)).Nodup
  inner : ∀ p ∈ t, HoldsKeysOnce p.2

theorem regular_nil : Regular [] :=
  ⟨.nil, nofun⟩

theorem Regular.setEntry {t : Entries} {v : Value} (h : Regular t) (hv : HoldsKeysOnce v)
    (key : String) : Regular (setEntry key v t) := by
  refine ⟨nodup_setEntry h.keys, fun p hp => ?_⟩
  rcases mem_setEntry hp with rfl | hp
  · exact hv
  · exact h.inner p hp

/-- A change of a table after which no key is there twice, neither in the table nor in those
in it. -/
structure Keeps (f : Entries → Option Entries) : Prop where
  keys : ∀ {t u}, f t = some u → (t.map (·.1)).Nodup → (u.map (·.1)).Nodup
  regular : ∀ {t u}, f t = some u → Regular t → Regular u

theorem keeps_some : Keeps some := by
  constructor <;>
  · rintro t u ⟨⟩ h
    exact h

theorem insertNew?_eq_some {key : String} {v : Value} {t u : Entries}
    (h : insertNew? key v t = some u) : u = setEntry key v t := by
  unfold insertNew? at h
  split at h
  · cases h
  · exact (Option.some.inj h).symm

theorem keys_insertNew? {key : String} {v : Value} {t u : Entries}
    (h : insertNew? key v t = some u) (ht : (t.map (·.1)).Nodup) : (u.map (·.1)).Nodup := by
  rw [insertNew?_eq_some h]
  exact nodup_setEntry ht

theorem keeps_insertNew? {v : Value} (hv : HoldsKeysOnce v) (key : String) :
    Keeps (insertNew? key v) := by
  refine ⟨keys_insertNew?, fun h ht => ?_⟩
  rw [insertNew?_eq_some h]
  exact ht.setEntry hv key

theorem appendTable?_eq_some {key : String} {t u : Entries} (h : appendTable? key t = some u) :
    ∃ vs, u = setEntry key (.array vs) t := by
  unfold appendTable? at h
  split at h
  · exact ⟨_, (Option.some.inj h).symm⟩
  · exact ⟨_, (Option.some.inj h).symm⟩
  · cases h

theorem keeps_appendTable? (key : String) : Keeps (appendTable? key) := by
  constructor
  · intro t u h ht
    obtain ⟨vs, rfl⟩ := appendTable?_eq_some h
    exact nodup_setEntry ht
  · intro t u h ht
    obtain ⟨vs, rfl⟩ := appendTable?_eq_some h
    have array : HoldsKeysOnce (.array vs) := holdsKeysOnce_of_ne nofun
    exact ht.setEntry array key

/-- Only of a table does a table become, not of an array of tables. -/
theorem inTable?_eq_table {through : Bool} {f : Entries → Option Entries} {v : Value}
    {inner : Entries} (h : inTable? through f v = some (.table inner)) :
    ∃ entries, v = .table entries ∧ f entries = some inner := by
  cases v with
  | table entries =>
    obtain ⟨changed, hf, e⟩ := Option.map_eq_some_iff.1 h
    cases e
    exact ⟨entries, rfl, hf⟩
  | array vs =>
    simp only [inTable?] at h
    split at h
    · obtain ⟨changed, -, e⟩ := Option.map_eq_some_iff.1 h
      cases e
    · cases h
  | _ => cases h

theorem keys_atKey? {through : Bool} {f : Entries → Option Entries}
    (keeps : ∀ {t u}, f t = some u → (t.map (·.1)).Nodup → (u.map (·.1)).Nodup) {key : Key}
    {t u : Entries} (h : atKey? through f key t = some u) (ht : (t.map (·.1)).Nodup) :
    (u.map (·.1)).Nodup := by
  cases key with
  | nil => exact keeps h ht
  | cons k ks =>
    obtain ⟨v, -, rfl⟩ := Option.map_eq_some_iff.1 h
    exact nodup_setEntry ht

theorem keeps_atKey? {through : Bool} {f : Entries → Option Entries} (keeps : Keeps f)
    (key : Key) : Keeps (atKey? through f key) := by
  refine ⟨fun h => keys_atKey? keeps.keys h, fun {t u} h ht => ?_⟩
  cases key with
  | nil => exact keeps.regular h ht
  | cons k ks =>
    obtain ⟨v, hv, rfl⟩ := Option.map_eq_some_iff.1 h
    refine ht.setEntry ?_ k
    rintro inner rfl
    obtain ⟨entries, old, changed⟩ := inTable?_eq_table hv
    refine keys_atKey? keeps.keys changed ?_
    cases found : lookup? k t with
    | none =>
      rw [found] at old
      cases old
      exact .nil
    | some w =>
      rw [found] at old
      exact ht.inner _ (mem_of_lookup? found) _ old

/-! ## Tables of a document -/

theorem keys_add? {t u : Inline} {key : Key} {v : Value} (h : t.add? key v = some u)
    (ht : (t.entries.map (·.1)).Nodup) : (u.entries.map (·.1)).Nodup := by
  unfold Inline.add? at h
  split at h
  · cases h
  · obtain ⟨entries, changed, e⟩ := Option.bind_eq_some_iff.1 h
    cases e
    exact keys_atKey? keys_insertNew? changed ht

theorem keys_readInline? {fuel : Nat} {t u : Inline} {cs left : List Char}
    (h : readInline? fuel t cs = some (u, left)) (ht : (t.entries.map (·.1)).Nodup) :
    (u.entries.map (·.1)).Nodup := by
  induction fuel generalizing t cs with
  | zero =>
    rw [readInline?] at h
    cases h
  | succ fuel ih =>
    rw [readInline?] at h
    obtain ⟨⟨key, v, rest⟩, pair, h⟩ := Option.bind_eq_some_iff.1 h
    obtain ⟨t', added, h⟩ := Option.bind_eq_some_iff.1 h
    split at h
    · cases h
      exact keys_add? added ht
    · exact ih h (keys_add? added ht)
    · cases h

theorem readMoment?_ne_table {cs left : List Char} {v : Value}
    (h : readMoment? cs = some (some v, left)) (t : Entries) : v ≠ .table t := by
  obtain ⟨⟨date, rest⟩, read, h⟩ := Option.bind_eq_some_iff.1 h
  dsimp only at h
  split at h <;> split at h <;> cases h <;> exact nofun

theorem readDecimal?_ne_table {cs left : List Char} {v : Value}
    (h : readDecimal? cs = some (v, left)) (t : Entries) : v ≠ .table t := by
  obtain ⟨⟨whole, rest⟩, read, h⟩ := Option.bind_eq_some_iff.1 h
  dsimp only at h
  split at h
  · split at h <;> cases h
    exact nofun
  · cases h
    exact nofun

theorem readWord?_ne_table {cs left : List Char} {v : Value}
    (h : readWord? cs = some (v, left)) (t : Entries) : v ≠ .table t := by
  have scalars : ∀ p ∈ words, p.2 ≠ .table t := by simp [words]
  obtain ⟨p, hp, found⟩ := List.exists_of_findSome?_eq_some h
  obtain ⟨rest, -, e⟩ := Option.map_eq_some_iff.1 found
  cases e
  exact scalars p hp

theorem readBare?_ne_table {cs left : List Char} {v : Value} (h : readBare? cs = some (v, left))
    (t : Entries) : v ≠ .table t := by
  unfold readBare? at h
  split at h
  · rename_i moment
    obtain ⟨w, rfl, e⟩ := Option.map_eq_some_iff.1 h
    cases e
    exact readMoment?_ne_table moment t
  split at h
  · cases h
    exact nofun
  split at h
  · cases h
    exact nofun
  split at h
  · rename_i decimal
    cases h
    exact readDecimal?_ne_table decimal t
  · exact readWord?_ne_table h t

theorem holdsKeysOnce_readValue? {fuel : Nat} {cs left : List Char} {v : Value}
    (h : readValue? fuel cs = some (v, left)) : HoldsKeysOnce v := by
  cases fuel with
  | zero =>
    rw [readValue?] at h
    cases h
  | succ fuel =>
    unfold readValue? at h
    split at h
    · obtain ⟨s, -, e⟩ := Option.map_eq_some_iff.1 h
      cases e
      exact holdsKeysOnce_of_ne nofun
    · obtain ⟨s, -, e⟩ := Option.map_eq_some_iff.1 h
      cases e
      exact holdsKeysOnce_of_ne nofun
    · obtain ⟨rest, -, h⟩ := Option.bind_eq_some_iff.1 h
      apply holdsKeysOnce_of_ne
      intro t
      split at h
      · cases h
        exact nofun
      · obtain ⟨es, -, e⟩ := Option.bind_eq_some_iff.1 h
        cases e
        exact nofun
    · split at h
      · cases h
        rintro t ⟨⟩
        exact .nil
      · obtain ⟨⟨u, rest⟩, read, e⟩ := Option.map_eq_some_iff.1 h
        cases e
        rintro t ⟨⟩
        exact keys_readInline? read .nil
    · exact holdsKeysOnce_of_ne (readBare?_ne_table h)

/-- What a statement enters is a table with each key once or no table. -/
def Statement.Sound : Statement → Prop
  | .entry _ v => HoldsKeysOnce v
  | .header _ | .arrayHeader _ => True

theorem sound_readStatement? {cs left : List Char} {st : Statement}
    (h : readStatement? cs = some (st, left)) : st.Sound := by
  unfold readStatement? at h
  split at h
  · obtain ⟨key, -, h⟩ := Option.bind_eq_some_iff.1 h
    obtain ⟨rest, -, e⟩ := Option.bind_eq_some_iff.1 h
    cases e
    trivial
  · obtain ⟨key, -, h⟩ := Option.bind_eq_some_iff.1 h
    obtain ⟨rest, -, e⟩ := Option.bind_eq_some_iff.1 h
    cases e
    trivial
  · obtain ⟨⟨key, v, rest⟩, pair, e⟩ := Option.map_eq_some_iff.1 h
    cases e
    rw [readPair?] at pair
    obtain ⟨⟨key', rest'⟩, -, pair⟩ := Option.bind_eq_some_iff.1 pair
    dsimp only at pair
    split at pair
    · obtain ⟨⟨v', left'⟩, read, e⟩ := Option.bind_eq_some_iff.1 pair
      cases e
      exact holdsKeysOnce_readValue? read
    · cases pair

theorem sound_readLines? {fuel : Nat} {cs : List Char} {sts : List Statement}
    (h : readLines? fuel cs = some sts) : ∀ st ∈ sts, st.Sound := by
  induction fuel generalizing cs sts with
  | zero => cases h
  | succ fuel ih =>
    unfold readLines? at h
    split at h
    · cases h
      exact nofun
    · exact ih h
    · obtain ⟨rest, -, h⟩ := Option.bind_eq_some_iff.1 h
      exact ih h
    · obtain ⟨⟨st, left⟩, read, h⟩ := Option.bind_eq_some_iff.1 h
      obtain ⟨rest, -, h⟩ := Option.bind_eq_some_iff.1 h
      obtain ⟨more, lines, e⟩ := Option.bind_eq_some_iff.1 h
      cases e
      exact List.forall_mem_cons.2 ⟨sound_readStatement? read, ih lines⟩

theorem regular_step? {d e : Document} {st : Statement} (h : d.step? st = some e)
    (sound : st.Sound) (hd : Regular d.entries) : Regular e.entries := by
  cases st with
  | header key =>
    simp only [Document.step?, Document.open?] at h
    split at h
    · cases h
    · obtain ⟨entries, changed, rfl⟩ := Option.map_eq_some_iff.1 h
      exact (keeps_atKey? keeps_some key).regular changed hd
  | arrayHeader key =>
    simp only [Document.step?, Document.openNext?] at h
    split at h
    · cases h
    · obtain ⟨entries, changed, rfl⟩ := Option.map_eq_some_iff.1 h
      exact (keeps_atKey? (keeps_appendTable? _) _).regular changed hd
  | entry key v =>
    simp only [Document.step?, Document.add?] at h
    split at h
    · cases h
    · obtain ⟨entries, changed, rfl⟩ := Option.map_eq_some_iff.1 h
      exact (keeps_atKey? (keeps_insertNew? sound _) _).regular changed hd

theorem regular_run {d e : Document} {sts : List Statement}
    (h : sts.foldlM Document.step? d = some e) (sound : ∀ st ∈ sts, st.Sound)
    (hd : Regular d.entries) : Regular e.entries := by
  induction sts generalizing d with
  | nil =>
    cases h
    exact hd
  | cons st sts ih =>
    obtain ⟨d', stepped, h⟩ := Option.bind_eq_some_iff.1 h
    obtain ⟨first, rest⟩ := List.forall_mem_cons.1 sound
    exact ih h rest (regular_step? stepped first hd)

/-- A document that is read has each key of its table once, and so have the tables in it. -/
theorem regular_read? {text : String} {t : Entries} (h : read? text = some t) : Regular t := by
  obtain ⟨sts, lines, h⟩ := Option.bind_eq_some_iff.1 h
  obtain ⟨d, run, e⟩ := Option.bind_eq_some_iff.1 h
  cases e
  exact regular_run run (sound_readLines? lines) regular_nil

end JavaCensus.Toml
