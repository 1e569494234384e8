import JavaCensus.Proofs.Surveys

/-!
# What a search finds

A search of a directory finds the source files below it that no pattern excludes, each once, and
none that only a link leads to. The files of a directory come in the order of their names, and after
them those of its subdirectories, one after the other in the order of the names.
-/
namespace JavaCensus

/-! ## Trees of entries -/

namespace Entry

theorem sizeOf_lt_of_mem_entries {e : Entry} {p : String × Entry} (h : p ∈ e.entries) :
    sizeOf p.2 < sizeOf e := by
  cases e with
  | file bytes => cases h
  | link target => cases h
  | directory entries =>
    obtain ⟨name, inner⟩ := p
    have smaller : sizeOf (name, inner) < sizeOf entries := List.sizeOf_lt_of_mem h
    simp only [Prod.mk.sizeOf_spec, directory.sizeOf_spec] at smaller ⊢
    omega

/-- What holds of an entry once it holds of those that it holds directly holds of every entry. -/
theorem induction {motive : Entry → Prop}
    (step : ∀ e : Entry, (∀ p ∈ e.entries, motive p.2) → motive e) (e : Entry) : motive e :=
  step e fun p _ => induction step p.2
termination_by e
decreasing_by exact sizeOf_lt_of_mem_entries ‹_›

theorem at?_append (names more : List String) (e : Entry) :
    e.at? (names ++ more) = (e.at? names).bind (at? more) := by
  induction names generalizing e with
  | nil => simp [at?]
  | cons name names ih =>
    cases e with
    | directory entries =>
      simp only [List.cons_append, at?]
      cases entries.find? (·.1 == name) with
      | none => rfl
      | some p => exact ih p.2
    | file bytes => rfl
    | link target => rfl

/-- No directory has two entries of one name. -/
def Distinct (e : Entry) : Prop :=
  ∀ names entries, e.at? names = some (directory entries) → (entries.map (·.1)).Nodup

theorem exists_of_at?_append {e inner : Entry} {names : List String} {name : String}
    (leads : e.at? (names ++ [name]) = some inner) :
    ∃ entries, e.at? names = some (directory entries) := by
  rw [at?_append, Option.bind_eq_some_iff] at leads
  obtain ⟨holder, held, leads⟩ := leads
  cases holder with
  | directory entries => exact ⟨entries, held⟩
  | file bytes | link target => cases leads

theorem Distinct.of_at? {e inner : Entry} {names : List String} (h : e.Distinct)
    (leads : e.at? names = some inner) : inner.Distinct := by
  intro more entries held
  refine h (names ++ more) entries ?_
  rw [at?_append, leads]
  exact held

theorem Distinct.nodup {entries : List (String × Entry)} (h : (directory entries).Distinct) :
    (entries.map (·.1)).Nodup :=
  h [] entries rfl

theorem at?_singleton {entries : List (String × Entry)} {name : String} {e : Entry}
    (distinct : (entries.map (·.1)).Nodup) :
    (directory entries).at? [name] = some e ↔ (name, e) ∈ entries := by
  have found : (directory entries).at? [name] = (entries.find? (·.1 == name)).map (·.2) := by
    simp only [at?]
    cases entries.find? (·.1 == name) <;> rfl
  rw [found, Option.map_eq_some_iff]
  constructor
  · rintro ⟨p, hp, rfl⟩
    have named := List.find?_some hp
    rw [beq_iff_eq] at named
    rw [← named]
    exact List.mem_of_find?_eq_some hp
  · intro held
    have some : (entries.find? (·.1 == name)).isSome := by
      rw [List.find?_isSome]
      exact ⟨_, held, beq_self_eq_true name⟩
    obtain ⟨p, hp⟩ := Option.isSome_iff_exists.1 some
    have named := List.find?_some hp
    rw [beq_iff_eq] at named
    -- names do not repeat, so the entry that is found under the name is the one that was meant
    have same : p = (name, e) :=
      List.inj_on_of_nodup_map distinct (List.mem_of_find?_eq_some hp) held named
    exact ⟨p, hp, by rw [same]⟩

theorem at?_cons {entries : List (String × Entry)} {name : String} {names : List String}
    {inner : Entry} (distinct : (entries.map (·.1)).Nodup) :
    (directory entries).at? (name :: names) = some inner ↔
      ∃ e, (name, e) ∈ entries ∧ e.at? names = some inner := by
  have split : name :: names = [name] ++ names := rfl
  rw [split, at?_append, Option.bind_eq_some_iff]
  simp only [at?_singleton distinct]

theorem Distinct.of_mem {entries : List (String × Entry)} {p : String × Entry}
    (h : (directory entries).Distinct) (hp : p ∈ entries) : p.2.Distinct :=
  h.of_at? ((at?_singleton h.nodup).2 hp)

theorem distinct_directory {entries : List (String × Entry)}
    (names : (entries.map (·.1)).Nodup) (inner : ∀ p ∈ entries, p.2.Distinct) :
    (directory entries).Distinct := by
  intro path below leads
  cases path with
  | nil =>
    cases leads
    exact names
  | cons name path =>
    obtain ⟨e, held, leads⟩ := (at?_cons names).1 leads
    exact inner _ held path below leads

theorem distinct_file (bytes : List UInt8) : (file bytes).Distinct := by
  intro names entries leads
  cases names <;> cases leads

theorem distinct_link (target : String) : (link target).Distinct := by
  intro names entries leads
  cases names <;> cases leads

/-- The names of a file whose own name ends as that of a source. -/
def NamesSource (names : List String) : Prop :=
  ∃ name, names.getLast? = some name ∧ ".java".toList <:+ name.toList

instance (names : List String) : Decidable (NamesSource names) :=
  inferInstanceAs (Decidable (∃ name ∈ names.getLast?, ".java".toList <:+ name.toList))

theorem namesSource_cons {name : String} {names : List String} (some : names ≠ []) :
    NamesSource (name :: names) ↔ NamesSource names := by
  obtain ⟨next, names, rfl⟩ := List.exists_cons_of_ne_nil some
  rw [NamesSource, List.getLast?_cons_cons, NamesSource]

/-- The names lead to a file, by no link, that is named as a source. -/
def HoldsSource (e : Entry) (names : List String) : Prop :=
  (∃ bytes, e.at? names = some (file bytes)) ∧ NamesSource names

/-- What shows of an entry that is no directory, unless it is followed. -/
def sight? : Entry → Option Sight
  | file _ => some .file
  | link _ => some .nothing
  | directory _ => none

/-- The names lead to an entry that is no directory and named as a source. -/
def Shows (e : Entry) (c : Candidate) : Prop :=
  (e.at? c.names).bind sight? = some c.sight ∧ NamesSource c.names

theorem shows_file {e : Entry} {names : List String} :
    e.Shows ⟨names, .file⟩ ↔ e.HoldsSource names := by
  refine and_congr_left fun _ => ?_
  rw [Option.bind_eq_some_iff]
  constructor
  · rintro ⟨inner, leads, shows⟩
    cases inner with
    | file bytes => exact ⟨bytes, leads⟩
    | link target | directory entries => cases shows
  · rintro ⟨bytes, leads⟩
    exact ⟨_, leads, rfl⟩

theorem Shows.ne_nil {e : Entry} {c : Candidate} (h : e.Shows c) : c.names ≠ [] := by
  intro none
  obtain ⟨-, name, last, -⟩ := h
  rw [none] at last
  cases last

theorem HoldsSource.ne_nil {e : Entry} {names : List String} (h : e.HoldsSource names) :
    names ≠ [] :=
  (shows_file.2 h).ne_nil

/-- After the name of the entry itself, the names lead from it on to an entry that is no directory
and named as a source. -/
def ShowsFrom (name : String) (e : Entry) (c : Candidate) : Prop :=
  ∃ more, c.names = name :: more ∧ (e.at? more).bind sight? = some c.sight ∧ NamesSource c.names

theorem shows_directory {entries : List (String × Entry)} {c : Candidate}
    (distinct : (entries.map (·.1)).Nodup) :
    (directory entries).Shows c ↔ ∃ p ∈ entries, p.2.ShowsFrom p.1 c := by
  constructor
  · rintro ⟨shows, named⟩
    obtain ⟨inner, leads, shows⟩ := Option.bind_eq_some_iff.1 shows
    cases names : c.names with
    | nil =>
      rw [names] at leads
      cases leads
      cases shows
    | cons name more =>
      rw [names] at leads
      obtain ⟨e, held, leads⟩ := (at?_cons distinct).1 leads
      exact ⟨(name, e), held, more, names, Option.bind_eq_some_iff.2 ⟨inner, leads, shows⟩, named⟩
  · rintro ⟨p, held, more, names, shows, named⟩
    obtain ⟨inner, leads, shows⟩ := Option.bind_eq_some_iff.1 shows
    refine ⟨Option.bind_eq_some_iff.2 ⟨inner, ?_, shows⟩, named⟩
    rw [names]
    exact (at?_cons distinct).2 ⟨p.2, held, leads⟩

/-- From an entry that is no directory no names lead on. -/
theorem showsFrom_leaf {e : Entry} {sight : Sight} (leaf : e.sight? = some sight) {name : String}
    {c : Candidate} :
    e.ShowsFrom name c ↔ c.names = [name] ∧ c.sight = sight ∧ NamesSource c.names := by
  have shows (more : List String) :
      (e.at? more).bind sight? = some c.sight ↔ more = [] ∧ c.sight = sight := by
    cases e with
    | directory entries => cases leaf
    | file bytes | link target =>
      cases leaf
      cases more <;> simp [at?, sight?, eq_comm]
  simp only [ShowsFrom, shows]
  constructor
  · rintro ⟨more, names, ⟨rfl, sight⟩, named⟩
    exact ⟨names, sight, named⟩
  · rintro ⟨names, sight, named⟩
    exact ⟨[], names, ⟨rfl, sight⟩, named⟩

theorem showsFrom_directory {entries : List (String × Entry)} {name : String} {c : Candidate} :
    (directory entries).ShowsFrom name c ↔
      ∃ d, (directory entries).Shows d ∧ d.under name = c := by
  constructor
  · rintro ⟨more, names, shows, named⟩
    have some : more ≠ [] := by
      rintro rfl
      cases shows
    rw [names] at named
    refine ⟨⟨more, c.sight⟩, ⟨shows, (namesSource_cons some).1 named⟩, ?_⟩
    rw [Candidate.under, ← names]
  · rintro ⟨d, shows, rfl⟩
    exact ⟨d.names, rfl, shows.1, (namesSource_cons shows.ne_nil).2 shows.2⟩

/-- The path that leads to a directory is not too long to search it, and the path that leads to a
source is not too long to look at it. -/
def Legible (top : Path) (names : List String) : Entry → Prop
  | directory _ => (searchedText top names).utf8ByteSize ≤ FileSystem.maxPathSize
  | _ => NamesSource names → (top.below names).text.utf8ByteSize ≤ FileSystem.maxPathSize

instance (top : Path) (names : List String) : (e : Entry) → Decidable (e.Legible top names)
  | directory _ => inferInstanceAs (Decidable (_ ≤ _))
  | file _ | link _ => inferInstanceAs (Decidable (NamesSource names → _))

/-- Something holds of every entry and the names that lead to it. -/
def Everywhere (P : List String → Entry → Prop) (e : Entry) : Prop :=
  ∀ names inner, e.at? names = some inner → P names inner

section Everywhere

variable {P : List String → Entry → Prop}

theorem everywhere_leaf {e : Entry} {sight : Sight} (leaf : e.sight? = some sight) :
    e.Everywhere P ↔ P [] e := by
  refine ⟨fun h => h [] e rfl, fun h names inner leads => ?_⟩
  cases e with
  | directory entries => cases leaf
  | file bytes | link target =>
    cases names <;> cases leads
    exact h

theorem everywhere_file {bytes : List UInt8} : (file bytes).Everywhere P ↔ P [] (file bytes) :=
  everywhere_leaf rfl

theorem everywhere_link {target : String} : (link target).Everywhere P ↔ P [] (link target) :=
  everywhere_leaf rfl

theorem everywhere_directory {entries : List (String × Entry)}
    (distinct : (entries.map (·.1)).Nodup) :
    (directory entries).Everywhere P ↔ P [] (directory entries) ∧
      ∀ p ∈ entries, p.2.Everywhere fun names => P (p.1 :: names) := by
  constructor
  · intro h
    refine ⟨h [] _ rfl, fun p hp names inner leads => ?_⟩
    exact h _ inner ((at?_cons distinct).2 ⟨p.2, hp, leads⟩)
  · rintro ⟨itself, inner⟩ names e leads
    cases names with
    | nil =>
      cases leads
      exact itself
    | cons name names =>
      obtain ⟨held, hp, leads⟩ := (at?_cons distinct).1 leads
      exact inner _ hp names e leads

end Everywhere

/-- Below a path, every directory can be searched and every source can be looked at. -/
def Readable (top : Path) (e : Entry) : Prop :=
  e.Everywhere fun names inner => inner.Legible top names

theorem Shows.sight_ne_hidden {e : Entry} {c : Candidate} (h : e.Shows c) : c.sight ≠ .hidden := by
  obtain ⟨inner, -, shows⟩ := Option.bind_eq_some_iff.1 h.1
  cases inner with
  | directory entries => cases shows
  | file bytes | link target => exact Option.some.inj shows ▸ nofun

/-- What can be read is seen as it is. -/
theorem Readable.seen_eq {top : Path} {e : Entry} (readable : e.Readable top) {c : Candidate}
    (h : e.Shows c) : c.seen top = c.sight := by
  obtain ⟨inner, leads, shows⟩ := Option.bind_eq_some_iff.1 h.1
  have looked : (top.below c.names).text.utf8ByteSize ≤ FileSystem.maxPathSize := by
    cases inner with
    | directory entries => cases shows
    | file bytes | link target => exact readable _ _ leads h.2
  have searched : (searchedText top c.names.dropLast).utf8ByteSize ≤ FileSystem.maxPathSize := by
    rw [← List.dropLast_append_getLast h.ne_nil] at leads
    obtain ⟨entries, holds⟩ := exists_of_at?_append leads
    exact readable _ _ holds
  rw [Candidate.seen, if_neg (Nat.not_lt.2 searched), if_neg (Nat.not_lt.2 looked)]

end Entry

/-! ## The order of a search -/

/-- A file stands in front of another one: where their names part, the files of a directory come
before those in its subdirectories, and otherwise the smaller name comes first. -/
inductive StandsBefore : List String → List String → Prop
  | files {a b : String} (less : a < b) : StandsBefore [a] [b]
  | fileFirst {a b c : String} {names : List String} : StandsBefore [a] (b :: c :: names)
  | directories {a b c d : String} {names more : List String} (less : a < b) :
    StandsBefore (a :: c :: names) (b :: d :: more)
  | within {a : String} {names more : List String} (inner : StandsBefore names more) :
    StandsBefore (a :: names) (a :: more)

theorem StandsBefore.ne {names more : List String} (h : StandsBefore names more) :
    names ≠ more := by
  induction h with
  | files less | directories less =>
    rintro ⟨⟩
    exact String.lt_irrefl _ less
  | fileFirst => rintro ⟨⟩
  | within inner ih =>
    rintro ⟨⟩
    exact ih rfl

namespace Candidate

/-- The names of a candidate stand before those of another one. -/
abbrev Before (c d : Candidate) : Prop :=
  StandsBefore c.names d.names

end Candidate

namespace Share

/-- An entry adds itself at most once, by its name alone; what stands below it has more names and
stands in order. -/
structure Orderly (s : Share) : Prop where
  once : s.own.length ≤ 1
  own : ∀ c ∈ s.own, c.names = [s.name]
  below : ∀ c ∈ s.below, ∃ next more, c.names = s.name :: next :: more
  ordered : s.below.Pairwise Candidate.Before

end Share

theorem mem_gather {ss : List Share} {c : Candidate} :
    c ∈ gather ss ↔ ∃ s ∈ ss, c ∈ s.own ++ s.below := by
  simp only [gather, List.mem_append, List.mem_flatMap, mem_sortBy, ← exists_or, ← and_or_left]

/-- The shares of entries that all have names of their own, sorted. -/
theorem pairwise_sortBy_name {ss : List Share} (distinct : (ss.map (·.name)).Nodup) :
    (sortBy (fun a b => !(b.name < a.name)) ss).Pairwise (·.name < ·.name) := by
  have sorted : (sortBy (fun a b : Share => !(b.name < a.name)) ss).Pairwise
      fun a b => (!decide (b.name < a.name)) = true := by
    apply pairwise_sortBy
    · intro a b c
      simp only [Bool.not_eq_true', decide_eq_false_iff_not, String.not_lt]
      exact String.le_trans
    · intro a b
      simp only [Bool.not_eq_true', decide_eq_false_iff_not, String.not_lt]
      exact String.le_total a.name b.name
  have names : (sortBy (fun a b : Share => !(b.name < a.name)) ss).Pairwise
      (·.name ≠ ·.name) :=
    List.pairwise_map.1 (((sortBy_perm _ ss).map _).nodup_iff.2 distinct)
  refine (sorted.and names).imp ?_
  intro a b ⟨le, ne⟩
  simp only [Bool.not_eq_true', decide_eq_false_iff_not, String.not_lt] at le
  exact Std.lt_of_le_of_ne le ne

theorem pairwise_gather {ss : List Share} (distinct : (ss.map (·.name)).Nodup)
    (orderly : ∀ s ∈ ss, s.Orderly) : (gather ss).Pairwise Candidate.Before := by
  have sorted := pairwise_sortBy_name distinct
  refine List.pairwise_append.2 ⟨?own, ?below, ?between⟩
  case own =>
    refine List.pairwise_flatMap.2 ⟨fun s hs => ?_, ?_⟩
    · have once := (orderly s (mem_sortBy.1 hs)).once
      exact List.pairwise_iff_getElem.2 fun i j hi hj less => by omega
    · refine List.Pairwise.imp_of_mem ?_ sorted
      intro s t hs ht less c hc d hd
      rw [mem_sortBy] at hs ht
      rw [Candidate.Before, (orderly s hs).own c hc, (orderly t ht).own d hd]
      exact .files less
  case below =>
    refine List.pairwise_flatMap.2 ⟨fun s hs => (orderly s (mem_sortBy.1 hs)).ordered, ?_⟩
    refine List.Pairwise.imp_of_mem ?_ sorted
    intro s t hs ht less c hc d hd
    rw [mem_sortBy] at hs ht
    obtain ⟨next, more, first⟩ := (orderly s hs).below c hc
    obtain ⟨next', more', second⟩ := (orderly t ht).below d hd
    rw [Candidate.Before, first, second]
    exact .directories less
  case between =>
    intro c hc d hd
    obtain ⟨s, hs, hc⟩ := List.mem_flatMap.1 hc
    obtain ⟨t, ht, hd⟩ := List.mem_flatMap.1 hd
    rw [mem_sortBy] at hs ht
    obtain ⟨next, more, second⟩ := (orderly t ht).below d hd
    rw [Candidate.Before, (orderly s hs).own c hc, second]
    exact .fileFirst

/-! ## The candidates below a directory -/

theorem mem_sourcesNamed {name : String} {sight : Sight} {c : Candidate} :
    c ∈ sourcesNamed name sight ↔
      c.names = [name] ∧ c.sight = sight ∧ Entry.NamesSource c.names := by
  have source : isSourceName name = true ↔ ".java".toList <:+ name.toList := by
    rw [isSourceName, List.isSuffixOf_iff_suffix]
  obtain ⟨names, shown⟩ := c
  unfold sourcesNamed
  split
  · rename_i named
    rw [List.mem_singleton, Candidate.mk.injEq]
    constructor
    · rintro ⟨rfl, rfl⟩
      exact ⟨rfl, rfl, name, rfl, source.1 named⟩
    · rintro ⟨names, sight, -⟩
      exact ⟨names, sight⟩
  · rename_i unnamed
    refine iff_of_false (List.not_mem_nil) ?_
    rintro ⟨rfl, -, last, hlast, named⟩
    obtain rfl := Option.some.inj hlast
    exact unnamed (source.2 named)

theorem length_sourcesNamed (name : String) (sight : Sight) :
    (sourcesNamed name sight).length ≤ 1 := by
  unfold sourcesNamed
  split <;> simp

namespace FileSystem

theorem name_share {linkEnd : List String → String → LinkEnd} {place : List String}
    (p : String × Entry) : (p.2.share linkEnd place p.1).name = p.1 := by
  obtain ⟨name, e⟩ := p
  cases e <;> rfl

theorem mem_plainCandidates {place : List String} {entries : List (String × Entry)}
    {c : Candidate} : c ∈ plainCandidates place entries ↔
      ∃ p ∈ entries, c ∈ (p.2.share (fun _ _ => .nothing) place p.1).own ++
        (p.2.share (fun _ _ => .nothing) place p.1).below := by
  simp only [plainCandidates, shares_eq, mem_gather, List.mem_map, exists_exists_and_eq_and]

/-- An entry adds what shows where names lead from it on, itself if it is no directory. -/
theorem mem_share_iff {e : Entry} (distinct : e.Distinct) (place : List String) (name : String)
    (c : Candidate) : c ∈ (e.share (fun _ _ => .nothing) place name).own ++
        (e.share (fun _ _ => .nothing) place name).below ↔ e.ShowsFrom name c := by
  induction e using Entry.induction generalizing place name c with
  | step e ih =>
    cases e with
    | file bytes =>
      show c ∈ sourcesNamed name .file ++ [] ↔ _
      rw [List.append_nil, mem_sourcesNamed, Entry.showsFrom_leaf rfl]
    | link target =>
      show c ∈ sourcesNamed name .nothing ++ [] ↔ _
      rw [List.append_nil, mem_sourcesNamed, Entry.showsFrom_leaf rfl]
    | directory entries =>
      have below (d : Candidate) : d ∈ plainCandidates (place ++ [name]) entries ↔
          (Entry.directory entries).Shows d := by
        rw [mem_plainCandidates, Entry.shows_directory distinct.nodup]
        refine exists_congr fun p => and_congr_right fun hp => ?_
        exact ih p hp (distinct.of_mem hp) ..
      show c ∈ [] ++ (plainCandidates (place ++ [name]) entries).map (.under name) ↔ _
      rw [List.nil_append, List.mem_map, Entry.showsFrom_directory]
      exact exists_congr fun d => and_congr_left' (below d)

theorem mem_plainCandidates_iff {entries : List (String × Entry)}
    (distinct : (Entry.directory entries).Distinct) (place : List String) (c : Candidate) :
    c ∈ plainCandidates place entries ↔ (Entry.directory entries).Shows c := by
  rw [mem_plainCandidates, Entry.shows_directory distinct.nodup]
  refine exists_congr fun p => and_congr_right fun hp => ?_
  exact mem_share_iff (distinct.of_mem hp) ..

theorem pairwise_plainCandidates_of {place : List String} {entries : List (String × Entry)}
    (distinct : (entries.map (·.1)).Nodup)
    (orderly : ∀ p ∈ entries, (p.2.share (fun _ _ => .nothing) place p.1).Orderly) :
    (plainCandidates place entries).Pairwise Candidate.Before := by
  rw [plainCandidates, shares_eq]
  apply pairwise_gather
  · rw [List.map_map]
    exact (List.map_congr_left fun p _ => name_share p).symm ▸ distinct
  · exact List.forall_mem_map.2 orderly

theorem orderly_leaf (name : String) (sight : Sight) :
    (Share.mk name (sourcesNamed name sight) []).Orderly where
  once := length_sourcesNamed name sight
  own _ hc := (mem_sourcesNamed.1 hc).1
  below := nofun
  ordered := .nil

theorem orderly_share {e : Entry} (distinct : e.Distinct) (place : List String) (name : String) :
    (e.share (fun _ _ => .nothing) place name).Orderly := by
  induction e using Entry.induction generalizing place name with
  | step e ih =>
    cases e with
    | file bytes => exact orderly_leaf name .file
    | link target => exact orderly_leaf name .nothing
    | directory entries =>
      have inner : (plainCandidates (place ++ [name]) entries).Pairwise Candidate.Before :=
        pairwise_plainCandidates_of distinct.nodup fun p hp => ih p hp (distinct.of_mem hp) ..
      constructor
      case once => exact Nat.zero_le _
      case own => exact nofun
      case below =>
        intro c hc
        obtain ⟨d, found, rfl⟩ := List.mem_map.1 hc
        have some := ((mem_plainCandidates_iff distinct _ d).1 found).ne_nil
        obtain ⟨next, more, names⟩ := List.exists_cons_of_ne_nil some
        exact ⟨next, more, congrArg (name :: ·) names⟩
      case ordered => exact List.pairwise_map.2 (inner.imp .within)

theorem pairwise_plainCandidates {entries : List (String × Entry)}
    (distinct : (Entry.directory entries).Distinct) (place : List String) :
    (plainCandidates place entries).Pairwise Candidate.Before :=
  pairwise_plainCandidates_of distinct.nodup fun _ hp => orderly_share (distinct.of_mem hp) ..

/-! ## Searching paths -/

/-- No pattern matches the path that the names make, with or without a dot and a slash in front. -/
def Spares (patterns names : List String) : Prop :=
  ∀ p ∈ patterns, Text.Glob.globMatches p ("/".intercalate names) = false ∧
    Text.Glob.globMatches p ("./" ++ "/".intercalate names) = false

theorem isExcluded_eq_false_iff {names patterns : List String} (some : names ≠ []) :
    isExcluded (Path.joined names) patterns = false ↔ Spares patterns names := by
  have joined : Path.joined names = "/".intercalate names := by
    rw [Path.joined, if_neg (by simpa using some)]
  simp only [isExcluded, joined, List.any_eq_false, excludedBy, Bool.or_eq_true, not_or,
    Bool.not_eq_true, Spares]

theorem files_all {ds : List Discovery} (h : ∀ d ∈ ds, d.failure = none) :
    (Discovery.all ds).files = ds.flatMap (·.files) := by
  induction ds with
  | nil => rfl
  | cons d ds ih =>
    have rest := ih fun e he => h e (List.mem_cons_of_mem _ he)
    rw [List.flatMap_cons, ← rest]
    show (Discovery.append d (Discovery.all ds)).files = _
    rw [Discovery.append, h d (List.mem_cons_self ..)]
    exact List.filterMap_append

/-- What a candidate that is seen as it is adds to a search that is not stopped. -/
theorem files_candidate (patterns : List String) {top : Path} {c : Candidate}
    (clear : c.seen top = c.sight) :
    (Discovery.candidate (patterns.map .string) top c).files =
      if c.sight == .file && !isExcluded (Path.joined c.names) patterns then [top.below c.names]
      else [] := by
  unfold Discovery.candidate Discovery.source
  rw [excludes_texts, clear]
  cases c.sight with
  | file => cases isExcluded (Path.joined c.names) patterns <;> rfl
  | nothing | hidden => rfl

/-- The sources among candidates that patterns spare. -/
def spared (patterns : List String) (cs : List Candidate) : List (List String) :=
  (cs.filter fun c => c.sight == .file && !isExcluded (Path.joined c.names) patterns).map (·.names)

theorem files_candidates (patterns : List String) {top : Path} {cs : List Candidate}
    (clear : ∀ c ∈ cs, c.seen top = c.sight) (bare : ∀ c ∈ cs, c.sight ≠ .hidden) :
    (Discovery.all (cs.map (Discovery.candidate (patterns.map .string) top))).files =
      (spared patterns cs).map top.below := by
  have goesOn : ∀ d ∈ cs.map (Discovery.candidate (patterns.map .string) top),
      d.failure = none := by
    refine List.forall_mem_map.2 fun c hc => ?_
    rcases Discovery.stoppedIf_candidate patterns top c with ⟨goesOn, -⟩ | ⟨-, hidden⟩
    · exact goesOn
    · exact absurd ((clear c hc).symm.trans hidden) (bare c hc)
  rw [files_all goesOn, List.flatMap_map]
  clear goesOn bare
  induction cs with
  | nil => rfl
  | cons c cs ih =>
    obtain ⟨first, rest⟩ := List.forall_mem_cons.1 clear
    rw [List.flatMap_cons, ih rest, files_candidate patterns first]
    simp only [spared, List.filter_cons]
    split <;> rfl

theorem mem_spared {patterns : List String} {entries : List (String × Entry)}
    (distinct : (Entry.directory entries).Distinct) (place names : List String) :
    names ∈ spared patterns (plainCandidates place entries) ↔
      (Entry.directory entries).HoldsSource names ∧ Spares patterns names := by
  rw [spared, List.mem_map, ← Entry.shows_file]
  constructor
  · rintro ⟨⟨names, sight⟩, found, rfl⟩
    simp only [List.mem_filter, Bool.and_eq_true, beq_iff_eq, Bool.not_eq_true'] at found
    obtain ⟨found, rfl, unmatched⟩ := found
    have shows := (mem_plainCandidates_iff distinct place _).1 found
    exact ⟨shows, (isExcluded_eq_false_iff shows.ne_nil).1 unmatched⟩
  · rintro ⟨shows, spares⟩
    refine ⟨⟨names, .file⟩, List.mem_filter.2 ⟨?_, ?_⟩, rfl⟩
    · exact (mem_plainCandidates_iff distinct place _).2 shows
    · rw [(isExcluded_eq_false_iff shows.ne_nil).2 spares]
      rfl

theorem pairwise_spared (patterns : List String) {entries : List (String × Entry)}
    (distinct : (Entry.directory entries).Distinct) (place : List String) :
    (spared patterns (plainCandidates place entries)).Pairwise StandsBefore :=
  List.pairwise_map.2 ((pairwise_plainCandidates distinct place).filter _)

/-- A path that has been resolved has led to what stands at its place in the tree. -/
theorem follow_at? {fs : FileSystem} {hops : Nat} {place steps : List String} {l : Located}
    (h : fs.follow hops place steps = .ok l) : fs.root.at? l.place = some l.entry := by
  fun_induction follow fs hops place steps with
  | case1 hops place e held =>
    cases h
    exact held
  | case3 hops place steps entries held ih => exact ih h
  | case4 hops place steps entries held up ih => exact ih h
  | case9 place step steps entries held here up short name target found hops start starts ih =>
    exact ih h
  | case10 hops place step steps entries held here up short inner plain found ih => exact ih h
  | _ => cases h

theorem resolve_at? {fs : FileSystem} {p : Path} {l : Located} (h : fs.resolve p = .ok l) :
    fs.root.at? l.place = some l.entry := by
  unfold resolve resolveSteps at h
  split at h
  · cases h
  · split at h
    · cases h
    · split at h
      · exact follow_at? h
      · cases h

/-- What a search finds below a path that leads to an entry. -/
structure FindsBelow (patterns : List String) (top : Path) (e : Entry) (files : List Path) :
    Prop where
  found : ∀ p, p ∈ files ↔
    ∃ names, p = top.below names ∧ e.HoldsSource names ∧ Spares patterns names
  once : files.Nodup
  ordered : ∃ sources : List (List String), files = sources.map top.below ∧
    sources.Pairwise StandsBefore

theorem below_injective (top : Path) : Function.Injective top.below := by
  intro names more h
  exact List.append_cancel_left (Path.mk.inj h).2

theorem discover_singleton (fs : FileSystem) (patterns : List String) (followLinks : Bool)
    (p : Path) : fs.discover (.array (patterns.map .string)) followLinks [p] =
      fs.discoverPath (patterns.map .string) followLinks p := by
  show Discovery.append (fs.discoverPath (patterns.map .string) followLinks p) .empty = _
  unfold Discovery.append
  rcases fs.discoverPath (patterns.map .string) followLinks p with ⟨findings, failure | e⟩
  · simp [Discovery.empty]
  · rfl

section Directory

variable {fs : FileSystem} {top : Path} {place : List String} {entries : List (String × Entry)}
  {hops : Nat} (distinct : (Entry.directory entries).Distinct)
  (readable : (Entry.directory entries).Readable top)

include distinct readable

theorem files_discover_directory (patterns : List String)
    (leads : fs.resolve top = .ok ⟨place, .directory entries, hops⟩) :
    (fs.discover (.array (patterns.map .string)) false [top]).files =
      (spared patterns (plainCandidates place entries)).map top.below := by
  have shows (c : Candidate) (hc : c ∈ plainCandidates place entries) :=
    (mem_plainCandidates_iff distinct place c).1 hc
  rw [discover_singleton, ← files_candidates patterns (fun c hc => readable.seen_eq (shows c hc))
    fun c hc => (shows c hc).sight_ne_hidden]
  unfold discoverPath
  rw [leads]
  rfl

theorem discover_directory (patterns : List String)
    (leads : fs.resolve top = .ok ⟨place, .directory entries, hops⟩) :
    FindsBelow patterns top (.directory entries)
      (fs.discover (.array (patterns.map .string)) false [top]).files := by
  have ordered := pairwise_spared patterns distinct place
  rw [files_discover_directory distinct readable patterns leads]
  refine ⟨fun p => ?_, ?_, _, rfl, ordered⟩
  · simp only [List.mem_map, mem_spared distinct]
    refine exists_congr fun names => ?_
    rw [and_comm, eq_comm]
  · exact List.Nodup.map (below_injective top) (ordered.imp StandsBefore.ne)

end Directory

theorem files_discover_file {fs : FileSystem} {p : Path} {place : List String}
    {bytes : List UInt8} {hops : Nat} (patterns : List String)
    (leads : fs.resolve p = .ok ⟨place, .file bytes, hops⟩) :
    (fs.discover (.array (patterns.map .string)) false [p]).files = [p] := by
  rw [discover_singleton]
  unfold discoverPath
  rw [leads]
  rfl

theorem not_hidesBelow {fs : FileSystem} (distinct : fs.root.Distinct) {p : Path}
    (readable : ∀ l, fs.resolve p = .ok l → l.entry.Readable p) : ¬ fs.HidesBelow false p := by
  rintro ⟨⟨place, entry, hops⟩, leads, c, hc, hidden⟩
  cases entry with
  | directory entries =>
    have shows := (mem_plainCandidates_iff (distinct.of_at? (resolve_at? leads)) place c).1 hc
    rw [(readable _ leads).seen_eq shows] at hidden
    exact shows.sight_ne_hidden hidden
  | file bytes | link target => cases hc

theorem discover_failure {fs : FileSystem} (distinct : fs.root.Distinct) {paths : List Path}
    (existing : ∀ p ∈ paths, ∃ l, fs.resolve p = .ok l)
    (readable : ∀ p ∈ paths, ∀ l, fs.resolve p = .ok l → l.entry.Readable p)
    (patterns : List String) :
    (fs.discover (.array (patterns.map .string)) false paths).failure = none := by
  rcases stoppedIf_discover patterns false existing with ⟨goesOn, -⟩ | ⟨-, p, hp, hides⟩
  · exact goesOn
  · exact absurd hides (not_hidesBelow distinct (readable p hp))

/-- Below existing paths to trees that can be read, no links followed, a search is not stopped and
finds what it finds below each of the paths, one after the other: below a directory the sources that
the patterns spare, and the path itself where it is that of a file. -/
theorem discover_finds {fs : FileSystem} (distinct : fs.root.Distinct) {paths : List Path}
    (existing : ∀ p ∈ paths, ∃ l, fs.resolve p = .ok l)
    (readable : ∀ p ∈ paths, ∀ l, fs.resolve p = .ok l → l.entry.Readable p)
    (patterns : List String) :
    let search := fs.discover (.array (patterns.map .string)) false
    (search paths).failure = none ∧
      (search paths).files = paths.flatMap (fun p => (search [p]).files) ∧
      ∀ p ∈ paths, ∀ l, fs.resolve p = .ok l →
        (∀ entries, l.entry = .directory entries →
          FindsBelow patterns p l.entry (search [p]).files) ∧
        (∀ bytes, l.entry = .file bytes → (search [p]).files = [p]) := by
  intro search
  refine ⟨discover_failure distinct existing readable patterns, ?_, fun p hp l leads => ⟨?_, ?_⟩⟩
  · have goesOn : ∀ d ∈ paths.map (fs.discoverPath (patterns.map .string) false),
        d.failure = none := by
      intro d hd
      obtain ⟨p, hp, rfl⟩ := List.mem_map.1 hd
      rw [← discover_singleton]
      exact discover_failure distinct (List.forall_mem_singleton.2 (existing p hp))
        (List.forall_mem_singleton.2 (readable p hp)) patterns
    calc (search paths).files
        = (paths.map (fs.discoverPath (patterns.map .string) false)).flatMap (·.files) :=
          files_all goesOn
      _ = paths.flatMap fun p => (search [p]).files := by
          rw [List.flatMap_map]
          exact List.flatMap_congr fun p _ => congrArg _ (discover_singleton ..).symm
  · intro entries directory
    have entry := distinct.of_at? (resolve_at? leads)
    have legible := readable p hp l leads
    cases l with
    | mk place e hops =>
      cases directory
      exact discover_directory entry legible patterns leads
  · intro bytes file
    cases l with
    | mk place e hops =>
      cases file
      exact files_discover_file patterns leads

/-! ## A tree with links and files that are no sources -/

def linkedEntries : List (String × Entry) :=
  [("b", .directory [("A.java", .file [])]), ("Z.java", .file []), ("notes.txt", .file []),
    ("a", .directory [("Link.java", .link "../b/A.java"), ("A.java", .file []),
      ("gen.java", .directory [("G.java", .file [])])]),
    ("linked", .link "a")]

def linkedFiles : FileSystem := ⟨"/", .directory linkedEntries, []⟩

def here : Path := ⟨"", []⟩

def notes : Path := ⟨"", ["notes.txt"]⟩

theorem distinct_linkedFiles : linkedFiles.root.Distinct := by
  refine Entry.distinct_directory (by decide) ?_
  simp [linkedEntries, Entry.distinct_directory, Entry.distinct_file, Entry.distinct_link]

theorem readable_linkedFiles : (Entry.directory linkedEntries).Readable here := by
  unfold Entry.Readable linkedEntries
  simp (disch := decide) only [Entry.everywhere_directory, Entry.everywhere_file,
    Entry.everywhere_link, List.forall_mem_cons, List.not_mem_nil, false_imp_iff, implies_true]
  decide

theorem resolve_here : linkedFiles.resolve here = .ok ⟨[], .directory linkedEntries, 40⟩ := by
  cbv

theorem resolve_notes : linkedFiles.resolve notes = .ok ⟨["notes.txt"], .file [], 40⟩ :=
  Survey.resolve_name rfl rfl rfl (by decide) (by decide) (by decide)

theorem readable_linkedPaths :
    ∀ p ∈ [here, notes], ∀ l, linkedFiles.resolve p = .ok l → l.entry.Readable p := by
  intro p hp l leads
  rcases List.mem_pair.1 hp with rfl | rfl
  · cases resolve_here.symm.trans leads
    exact readable_linkedFiles
  · cases resolve_notes.symm.trans leads
    exact Entry.everywhere_file.2 (by decide)

/-- Neither links nor what a pattern matches are found; a file that is named is. -/
theorem discover_finds_linkedFiles :
    linkedFiles.root.Distinct ∧
      (∀ p ∈ [here, notes], ∃ l, linkedFiles.resolve p = .ok l) ∧
      (∀ p ∈ [here, notes], ∀ l, linkedFiles.resolve p = .ok l → l.entry.Readable p) ∧
      (linkedFiles.discover (.array (["a/gen*"].map .string)) false [here, notes]).files =
        [⟨"", ["Z.java"]⟩, ⟨"", ["a", "A.java"]⟩, ⟨"", ["b", "A.java"]⟩, notes] ∧
      FindsBelow ["a/gen*"] here (.directory linkedEntries)
        (linkedFiles.discover (.array (["a/gen*"].map .string)) false [here]).files := by
  have existing : ∀ p ∈ [here, notes], ∃ l, linkedFiles.resolve p = .ok l := by
    simp [resolve_here, resolve_notes]
  obtain ⟨-, joined, each⟩ :=
    discover_finds distinct_linkedFiles existing readable_linkedPaths ["a/gen*"]
  have candidates : plainCandidates [] linkedEntries =
      [⟨["Z.java"], .file⟩, ⟨["a", "A.java"], .file⟩, ⟨["a", "Link.java"], .nothing⟩,
        ⟨["a", "gen.java", "G.java"], .file⟩, ⟨["b", "A.java"], .file⟩] := by
    decide
  refine ⟨distinct_linkedFiles, existing, readable_linkedPaths, ?_,
    (each here (by simp) _ resolve_here).1 _ rfl⟩
  rw [joined, List.flatMap_cons, List.flatMap_singleton,
    files_discover_directory distinct_linkedFiles readable_linkedFiles _ resolve_here,
    files_discover_file _ resolve_notes, candidates]
  rfl

end FileSystem

end JavaCensus
