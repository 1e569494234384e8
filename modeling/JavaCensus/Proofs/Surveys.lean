import JavaCensus.Proofs.Calls
import JavaCensus.Proofs.Completeness
import JavaCensus.Proofs.Progress
import JavaCensus.Proofs.SizeLimits

/-!
# Surveys

A file either is counted or it is noted as failed, and a failed one leaves the metrics as they are,
so what a survey holds is what its counted files give. It goes on over failed files; what ends it is
a mishap, which foreseen files do not meet: files whose bytes their encoding can judge, whose trees
are complete, and whose elements are named.
-/
namespace JavaCensus

/-! ## Decoding -/

namespace Text.Encoding

/-- Bytes are text of the encoding or they are malformed. In other encodings they may lack the mark
that tells how to read them, or hold half of a pair. -/
def isSteady : Encoding → Bool
  | .utf7 | .utf16 none | .utf32 none | .escaped _ | .punycode => false
  | _ => true

theorem orMalformed_eq_error {text : Option (List Char)} {f : DecodeFault}
    (h : orMalformed text = .error f) : f = .malformed := by
  cases text with
  | none => exact (Except.error.inj h).symm
  | some _ => cases h

theorem decode_eq_error {e : Encoding} {bytes : List UInt8} {f : DecodeFault}
    (steady : e.isSteady) (h : e.decode bytes = .error f) : f = .malformed := by
  cases e with
  | utf7 | escaped | punycode => cases steady
  | utf16 order | utf32 order =>
    cases order with
    | none => cases steady
    | some order => exact orMalformed_eq_error h
  | _ => exact orMalformed_eq_error h

end Text.Encoding

/-! ## Discovery -/

namespace Discovery

theorem failure_append (d e : Discovery) : (d ++ e).failure = d.failure.or e.failure := by
  show (Discovery.append d e).failure = _
  rw [Discovery.append]
  cases failure : d.failure with
  | none => rfl
  | some _ => exact failure

/-- A search is stopped, by an error, exactly under a condition. -/
def StoppedIf (e : Error) (condition : Prop) (d : Discovery) : Prop :=
  d.failure = none ∧ ¬ condition ∨ d.failure = some e ∧ condition

theorem stoppedIf_all {α : Type} {e : Error} {f : α → Discovery} {condition : α → Prop}
    {xs : List α} (each : ∀ x ∈ xs, (f x).StoppedIf e (condition x)) :
    (all (xs.map f)).StoppedIf e (∃ x ∈ xs, condition x) := by
  induction xs with
  | nil => exact .inl ⟨rfl, by simp⟩
  | cons x xs ih =>
    have rest := ih fun y hy => each y (List.mem_cons_of_mem _ hy)
    have joined : (all ((x :: xs).map f)).failure = (f x).failure.or (all (xs.map f)).failure :=
      failure_append ..
    rw [StoppedIf, joined, List.exists_mem_cons_iff]
    rcases each x (List.mem_cons_self ..) with ⟨goesOn, fine⟩ | ⟨stopped, met⟩
    · rw [goesOn, or_iff_right fine]
      exact rest
    · rw [stopped]
      exact .inr ⟨rfl, .inl met⟩

theorem stoppedIf_candidate (patterns : List String) (top : Path) (c : Candidate) :
    (candidate (patterns.map .string) top c).StoppedIf (.mishap .pathTooLong)
      (c.seen top = .hidden) := by
  unfold candidate source
  rw [excludes_texts]
  cases c.seen top with
  | file => cases isExcluded (Path.joined c.names) patterns <;> exact .inl ⟨rfl, nofun⟩
  | nothing => exact .inl ⟨rfl, nofun⟩
  | hidden => exact .inr ⟨rfl, rfl⟩

end Discovery

namespace FileSystem

/-- Below a path there is a place for a source that cannot be looked at. -/
def HidesBelow (fs : FileSystem) (followLinks : Bool) (p : Path) : Prop :=
  ∃ l, fs.resolve p = .ok l ∧ ∃ c ∈ fs.candidates followLinks l, c.seen p = .hidden

variable {fs : FileSystem}

theorem stoppedIf_discoverPath (patterns : List String) (followLinks : Bool) {p : Path}
    (existing : ∃ l, fs.resolve p = .ok l) :
    (fs.discoverPath (patterns.map .string) followLinks p).StoppedIf (.mishap .pathTooLong)
      (fs.HidesBelow followLinks p) := by
  obtain ⟨l, located⟩ := existing
  have hides : fs.HidesBelow followLinks p ↔
      ∃ c ∈ fs.candidates followLinks l, c.seen p = .hidden := by
    simp [HidesBelow, located]
  unfold discoverPath
  rw [located, hides]
  dsimp only
  cases directory : l.entry with
  | directory entries =>
    exact Discovery.stoppedIf_all fun c _ => Discovery.stoppedIf_candidate patterns p c
  | file bytes | link target =>
    have none : fs.candidates followLinks l = [] := by simp only [candidates, directory]
    exact .inl ⟨rfl, by simp [none]⟩

/-- Below paths that exist, with texts for patterns, a search is stopped by a place that cannot be
looked at and by nothing else. -/
theorem stoppedIf_discover (patterns : List String) (followLinks : Bool) {paths : List Path}
    (existing : ∀ p ∈ paths, ∃ l, fs.resolve p = .ok l) :
    (fs.discover (.array (patterns.map .string)) followLinks paths).StoppedIf
      (.mishap .pathTooLong) (∃ p ∈ paths, fs.HidesBelow followLinks p) :=
  Discovery.stoppedIf_all fun p hp => stoppedIf_discoverPath patterns followLinks (existing p hp)

end FileSystem

namespace Survey

variable {s : Setup}

/-! ## One file -/

namespace Setup

/-- The call that a file becomes if it can be read. -/
def call? (s : Setup) (p : Path) : Option Call :=
  (s.files.readSource s.settings p).toOption.map fun source =>
    .source s.level s.settings.enablePreview.isTruthy p.name source (s.grammar source)

/-- The file can be read and collected. -/
def counts (s : Setup) (p : Path) : Bool :=
  (s.call? p).any (·.collected?.isSome)

/-- Whatever goes wrong with the file, there is an error for it. -/
structure Foresees (s : Setup) (p : Path) : Prop where
  nulless : Path.holdsNul p.text = false
  decoded : ∀ bytes f, s.files.bytesAt? p = some bytes →
    s.settings.decoder.decode bytes = .error f → f = .malformed
  complete : ∀ source, s.files.readSource s.settings p = .ok source →
    ∀ t ∈ (s.grammar source).root.walk, t.Complete
  named : ∀ source u, s.files.readSource s.settings p = .ok source →
    readUnit p.name s.level s.settings.enablePreview.isTruthy source (s.grammar source) = .ok u →
    ∀ n ∈ u.unit.walk, n.construct.elementName? ≠ some ""

end Setup

theorem attempt_of_call? {p : Path} {call : Call} (h : s.call? p = some call) (c : Collector) :
    attempt s c p = c.perform call := by
  unfold Setup.call? at h
  unfold attempt
  cases read : s.files.readSource s.settings p with
  | error e =>
    rw [read] at h
    cases h
  | ok source =>
    rw [read] at h
    cases h
    rfl

theorem attempt_of_counts {p : Path} (h : s.counts p = true) (c : Collector) :
    (attempt s c p).result = .ok () ∧
      (attempt s c p).collector = c.run ([p].filterMap s.call?) := by
  obtain ⟨call, hcall, collects⟩ := (Option.any_eq_true _ _).1 h
  obtain ⟨u, hu⟩ := Option.isSome_iff_exists.1 collects
  rw [attempt_of_call? hcall]
  refine ⟨(Collector.perform_of_collected hu c).1, ?_⟩
  rw [List.filterMap_cons_some hcall]
  rfl

theorem attempt_of_not_counts {p : Path} (h : s.counts p = false) (c : Collector) :
    (∃ e, (attempt s c p).result = .error e) ∧ (attempt s c p).collector = c := by
  unfold Setup.counts at h
  cases hcall : s.call? p with
  | none =>
    unfold Setup.call? at hcall
    unfold attempt
    cases read : s.files.readSource s.settings p with
    | error e => exact ⟨⟨e, rfl⟩, rfl⟩
    | ok source =>
      rw [read] at hcall
      cases hcall
  | some call =>
    rw [hcall] at h
    have uncollected : call.collected? = none := by simpa using h
    obtain ⟨failed, same⟩ := Collector.perform_of_not_collected uncollected c
    rw [attempt_of_call? hcall]
    refine ⟨?_, same⟩
    cases result : (c.perform call).result with
    | ok _ =>
      rw [result] at failed
      cases failed
    | error e => exact ⟨e, rfl⟩

namespace Setup.Foresees

variable {p : Path} {limit : Int}

theorem readSource (h : s.Foresees p) (measured : s.settings.sizeLimit = .ok limit) {e : Error}
    (failed : s.files.readSource s.settings p = .error e) : e.report?.isSome := by
  cases resolved : s.files.resolve p with
  | error fault =>
    unfold FileSystem.readSource at failed
    rw [resolved] at failed
    simp only [h.nulless, Bool.false_eq_true, if_false, Except.error.injEq] at failed
    subst failed
    rfl
  | ok l =>
    rw [s.files.readSource_located resolved measured] at failed
    split at failed
    · cases failed
      rfl
    · unfold Settings.readEntry at failed
      split at failed
      · rename_i bytes file
        have bytes : s.files.bytesAt? p = some bytes := by
          unfold FileSystem.bytesAt?
          rw [resolved]
          obtain ⟨place, entry, hops⟩ := l
          cases file
          rfl
        split at failed
        · cases failed
        · cases failed
          rfl
        · cases h.decoded _ _ bytes ‹_›
        · cases h.decoded _ _ bytes ‹_›
      · cases failed
        rfl

theorem collectUnit {c : Collector} {name : String} {u : Node} (serves : u.Serves .unit)
    (named : ∀ n ∈ u.walk, n.construct.elementName? ≠ some "") {e : Error}
    (failed : (c.collectUnit name u).result = .error e) : e.report?.isSome := by
  unfold Collector.collectUnit at failed
  split at failed
  · cases failed
    rfl
  · rename_i given
    split at failed
    · rename_i run
      obtain ⟨-, n, hn, unnamed⟩ := collectUnit_failsOnly serves given _ _ _ run
      exact absurd unnamed (named n hn)
    · cases failed

/-- A foreseen file is counted, or it fails with an error that can be told. -/
theorem attempt (h : s.Foresees p) (measured : s.settings.sizeLimit = .ok limit) {c : Collector}
    {e : Error} (failed : (Survey.attempt s c p).result = .error e) : e.report?.isSome := by
  unfold Survey.attempt at failed
  split at failed
  · cases failed
    exact h.readSource measured ‹_›
  · rename_i source read
    unfold Collector.collect at failed
    split at failed
    · rename_i unread
      cases failed
      rcases readUnit_settles (h.complete source read) with ⟨u, hu⟩ | ⟨cause, line, refused⟩
      · cases hu.symm.trans unread
      · cases refused.symm.trans unread
        rfl
    · rename_i u hu
      exact collectUnit (serves_readUnit hu) (h.named source u read hu) failed

end Setup.Foresees

/-! ## Files one by one -/

/-- From one state to the other, some files have been counted and all others noted as failed. -/
structure Accounts (s : Setup) (v w : Survey) (files : List Path) : Prop where
  collector : w.collector = v.collector.run ((files.filter s.counts).filterMap s.call?)
  counted : w.counted = v.counted + (files.filter s.counts).length
  failed : w.failed = v.failed ++ files.filter fun p => !s.counts p

namespace Accounts

theorem nil {v w : Survey} (collector : w.collector = v.collector) (counted : w.counted = v.counted)
    (failed : w.failed = v.failed) : Accounts s v w [] :=
  ⟨collector, counted, by rw [failed, List.filter_nil, List.append_nil]⟩

theorem append {u v w : Survey} {files more : List Path} (first : Accounts s u v files)
    (rest : Accounts s v w more) : Accounts s u w (files ++ more) where
  collector := by
    rw [rest.collector, first.collector, List.filter_append, List.filterMap_append, Collector.run,
      Collector.run, Collector.run, List.foldl_append]
  counted := by
    rw [rest.counted, first.counted, List.filter_append, List.length_append, Nat.add_assoc]
  failed := by rw [rest.failed, first.failed, List.filter_append, List.append_assoc]

end Accounts

/-- A file is counted or noted, or it ends the survey, which is then as it was before. -/
theorem takeFile_accounts {limit : Int} (measured : s.settings.sizeLimit = .ok limit) (v : Survey)
    (p : Path) :
    ((takeFile s v p).2 = .ok (s.counts p) ∧ Accounts s v (takeFile s v p).1 [p]) ∨
      (∃ m, (takeFile s v p).2 = .error (.mishap m)) ∧ ¬ s.Foresees p ∧
        Accounts s v (takeFile s v p).1 [] := by
  unfold takeFile
  dsimp only
  cases counts : s.counts p with
  | true =>
    obtain ⟨result, collector⟩ := attempt_of_counts counts v.collector
    have accepted : [p].filter s.counts = [p] := by simp [counts]
    have refused : [p].filter (fun p => !s.counts p) = [] := by simp [counts]
    rw [result]
    refine .inl ⟨rfl, ?_, ?_, ?_⟩
    · rw [accepted]
      exact collector
    · rw [accepted]
      rfl
    · rw [refused, List.append_nil]
  | false =>
    obtain ⟨⟨e, result⟩, collector⟩ := attempt_of_not_counts counts v.collector
    have accepted : [p].filter s.counts = [] := by simp [counts]
    have refused : [p].filter (fun p => !s.counts p) = [p] := by simp [counts]
    rw [result]
    dsimp only
    cases report : e.report? with
    | some report =>
      refine .inl ⟨rfl, ?_, ?_, ?_⟩
      · rw [accepted]
        exact collector
      · rw [accepted]
        rfl
      · rw [refused]
    | none =>
      obtain ⟨m, rfl⟩ := Error.report?_eq_none_iff.1 report
      refine .inr ⟨⟨m, rfl⟩, fun foreseen => ?_, .nil collector rfl rfl⟩
      cases foreseen.attempt measured result

/-- What a search has come upon is taken in up to a file that is not foreseen, or to the end. -/
theorem takeFindings_accounts {limit : Int} (measured : s.settings.sizeLimit = .ok limit)
    (v : Survey) (findings : List Finding) :
    ∃ taken rest, findings = taken ++ rest ∧
      Accounts s v (takeFindings s v findings).1 (taken.filterMap Finding.file?) ∧
      ((rest = [] ∧ (takeFindings s v findings).2 = none) ∨
        ∃ p later m, rest = .file p :: later ∧ ¬ s.Foresees p ∧
          (takeFindings s v findings).2 = some (.mishap m)) := by
  induction findings generalizing v with
  | nil => exact ⟨[], [], rfl, .nil rfl rfl rfl, .inl ⟨rfl, rfl⟩⟩
  | cons f findings ih =>
    cases f with
    | note r =>
      obtain ⟨taken, rest, rfl, accounts, ending⟩ := ih { v with log := v.log ++ [r] }
      -- the log is no part of the account
      exact ⟨.note r :: taken, rest, rfl, ⟨accounts.collector, accounts.counted, accounts.failed⟩,
        ending⟩
    | file p =>
      unfold takeFindings
      rcases takeFile_accounts measured v p with
        ⟨result, first⟩ | ⟨⟨m, result⟩, unforeseen, first⟩
      · generalize takeFile s v p = outcome at result first
        obtain ⟨w, result'⟩ := outcome
        cases result
        obtain ⟨taken, rest, rfl, accounts, ending⟩ := ih w
        exact ⟨.file p :: taken, rest, rfl, first.append accounts, ending⟩
      · generalize takeFile s v p = outcome at result first
        obtain ⟨w, result'⟩ := outcome
        cases result
        exact ⟨[], .file p :: findings, rfl, first, .inr ⟨p, findings, m, rfl, unforeseen, rfl⟩⟩

/-! ## Files below paths -/

/-- The search that a survey of paths makes. -/
def search (s : Setup) (paths : List Path) : Discovery :=
  s.files.discover s.settings.excludePatterns s.settings.followSymlinks.isTruthy paths

/-- The files that a survey finds below paths. -/
def found (s : Setup) (paths : List Path) : List Path :=
  (search s paths).files

/-- Every place for a source below the paths can be looked at. -/
def InSight (s : Setup) (paths : List Path) : Prop :=
  ∀ p ∈ paths, ¬ s.files.HidesBelow s.settings.followSymlinks.isTruthy p

/-- All files below the paths are taken in, and the number of counted ones is given. -/
structure TakesAll (s : Setup) (v : Survey) (paths : List Path) : Prop where
  returned : (takePaths s v paths).2 = .ok (takePaths s v paths).1.counted
  accounts : Accounts s v (takePaths s v paths).1 (found s paths)

/-- The files before some file are taken in, and that one ends the survey with a mishap. -/
def EndsAt (s : Setup) (v : Survey) (paths : List Path) (p : Path) : Prop :=
  ∃ taken later m, found s paths = taken ++ p :: later ∧
    (takePaths s v paths).2 = .error (.mishap m) ∧ Accounts s v (takePaths s v paths).1 taken

/-- The files that the search finds before it is stopped are taken in. -/
structure StopsShort (s : Setup) (v : Survey) (paths : List Path) : Prop where
  stopped : (takePaths s v paths).2 = .error (.mishap .pathTooLong)
  accounts : Accounts s v (takePaths s v paths).1 (found s paths)

/-- A survey ends as the taking in of what it finds, or else as its search. -/
theorem takePaths_of_taken {v w : Survey} {paths : List Path} {ending : Option Error}
    (taken : takeFindings s v (search s paths).findings = (w, ending)) :
    takePaths s v paths =
      (w, (ending.or (search s paths).failure).elim (.ok w.counted) .error) := by
  unfold search at taken ⊢
  unfold takePaths
  dsimp only
  rw [taken]
  cases ending with
  | none =>
    dsimp only [Option.none_or]
    split <;> rename_i failure <;> rw [failure] <;> rfl
  | some e => rfl

section Paths

variable {patterns : List String} {limit : Int} {paths : List Path}
  (texts : s.settings.excludePatterns = .array (patterns.map .string))
  (measured : s.settings.sizeLimit = .ok limit)
  (existing : ∀ p ∈ paths, ∃ l, s.files.resolve p = .ok l)

include texts existing

theorem stoppedIf_search :
    (search s paths).StoppedIf (.mishap .pathTooLong) (¬ InSight s paths) := by
  have searched :=
    FileSystem.stoppedIf_discover patterns s.settings.followSymlinks.isTruthy existing
  rw [search, texts, InSight]
  simpa only [not_forall, not_not, exists_prop] using searched

include measured

theorem takesAll_or_stopsShort_or_endsAt (v : Survey) :
    (InSight s paths ∧ TakesAll s v paths ∨ ¬ InSight s paths ∧ StopsShort s v paths) ∨
      ∃ p, ¬ s.Foresees p ∧ EndsAt s v paths p := by
  obtain ⟨taken, rest, split, accounts, ending⟩ :=
    takeFindings_accounts measured v (search s paths).findings
  obtain ⟨w, result, outcome⟩ :
      ∃ w result, takeFindings s v (search s paths).findings = (w, result) := ⟨_, _, rfl⟩
  have eq := takePaths_of_taken outcome
  rw [outcome] at accounts ending
  rcases ending with ⟨rfl, none⟩ | ⟨p, later, m, rfl, unforeseen, some⟩
  · cases none
    rw [List.append_nil] at split
    have accounts : Accounts s v (takePaths s v paths).1 (found s paths) := by
      rw [eq, found, Discovery.files, split]
      exact accounts
    rcases stoppedIf_search texts existing with ⟨unstopped, sight⟩ | ⟨stopped, blind⟩
    · exact .inl (.inl ⟨not_not.1 sight, by rw [eq, unstopped]; rfl, accounts⟩)
    · exact .inl (.inr ⟨blind, by rw [eq, stopped]; rfl, accounts⟩)
  · cases some
    refine .inr ⟨p, unforeseen, taken.filterMap Finding.file?, later.filterMap Finding.file?, m, ?_,
      by rw [eq]; rfl, by rw [eq]; exact accounts⟩
    rw [found, Discovery.files, split, List.filterMap_append]
    rfl

/-- With texts for patterns, a limit that can be told in bytes, and paths that exist, a survey
counts or notes one file after the other, and the metrics are those of the counted ones. It takes in
all files if they are foreseen and every place for one can be looked at; only a file that is not
foreseen can end it, or its search, once what that has found is taken in. -/
theorem takePaths_accounts (v : Survey) :
    (InSight s paths → (∀ p ∈ found s paths, s.Foresees p) → TakesAll s v paths) ∧
      (TakesAll s v paths ∨ (∃ p ∈ found s paths, ¬ s.Foresees p ∧ EndsAt s v paths p) ∨
        ¬ InSight s paths ∧ StopsShort s v paths) := by
  rcases takesAll_or_stopsShort_or_endsAt texts measured existing v with
    (⟨-, all⟩ | ⟨blind, short⟩) | ⟨p, unforeseen, ends⟩
  · exact ⟨fun _ _ => all, .inl all⟩
  · exact ⟨fun sight => absurd sight blind, .inr (.inr ⟨blind, short⟩)⟩
  · have hp : p ∈ found s paths := by
      obtain ⟨taken, later, m, split, -⟩ := ends
      simp [split]
    exact ⟨fun _ foreseen => absurd (foreseen p hp) unforeseen,
      .inr (.inl ⟨p, hp, unforeseen, ends⟩)⟩

end Paths

section Sample

/-- A file in the directory that paths start from is located by its name. -/
theorem resolve_name {fs : FileSystem} {name : String} {entries : List (String × Entry)}
    {bytes : List UInt8} (within : fs.root.at? fs.working = some (.directory entries))
    (holds : entries.find? (·.1 == name) = some (name, .file bytes))
    (there : fs.root.at? (fs.working ++ [name]) = some (.file bytes))
    (written : Path.holdsNul name = false) (short : name.utf8ByteSize ≤ FileSystem.maxNameSize)
    (plain : name ≠ "." ∧ name ≠ "..") :
    fs.resolve ⟨"", [name]⟩ = .ok ⟨fs.working ++ [name], .file bytes, 40⟩ := by
  have fits : ¬ FileSystem.maxPathSize < name.utf8ByteSize :=
    Nat.not_lt.2 (short.trans (by decide))
  have text : Path.text ⟨"", [name]⟩ = name := by simp [Path.text, Path.joined]
  rw [FileSystem.resolve, text, FileSystem.resolveSteps, written, if_neg Bool.false_ne_true,
    if_neg fits]
  show fs.follow FileSystem.maxHops fs.working [name] = _
  rw [FileSystem.follow, within]
  dsimp only
  rw [if_neg plain.1, if_neg plain.2, if_neg (Nat.not_lt.2 short), holds]
  dsimp only
  rw [FileSystem.follow, there]
  rfl

def emptyParse : Parse :=
  ⟨⟨"program", true, false, 0, 0, none, []⟩, false⟩

def emptyUnit : Node :=
  .bare (.ofLines 1 1 1 0) (.compilationUnit none [] [] none)

/-- A directory with two files, every one of which is an empty unit if it can be read at all. -/
def twoFiles (encoding : String) (first second : List UInt8) : Setup where
  files := ⟨"/", .directory [("A.java", .file first), ("B.java", .file second)], []⟩
  grammar _ := emptyParse
  settings := ⟨.integer 21, .boolean false, encoding, .array [], .integer 10, .boolean false, .text,
    .normal⟩
  level := .latest

def here : Path := ⟨"", []⟩

def fileA : Path := ⟨"", ["A.java"]⟩

def fileB : Path := ⟨"", ["B.java"]⟩

section TwoFiles

variable (encoding : String) (first second : List UInt8)

theorem discover_here : (twoFiles encoding first second).files.discover (.array []) false [here] =
    ⟨[.file fileA, .file fileB], none⟩ := by
  cbv

theorem exists_here :
    ∀ p ∈ [here], ∃ l, (twoFiles encoding first second).files.resolve p = .ok l := by
  refine List.forall_mem_singleton.2
    ⟨⟨[], .directory [("A.java", .file first), ("B.java", .file second)], 40⟩, ?_⟩
  cbv

end TwoFiles

theorem readUnit_emptyParse (name : String) (level : LanguageLevel) (preview : Bool)
    (source : SourceText) :
    readUnit name level preview source emptyParse = .ok ⟨emptyUnit, []⟩ := by
  let r : Reading := ⟨name, source⟩
  have walked : emptyParse.root.descendants = [⟨none, emptyParse.root⟩] := by cbv
  have features : r.checkFeatures level preview emptyParse.root = .ok () := by
    rw [Reading.checkFeatures, walked]
    rfl
  have comments : r.comments emptyParse.root = [] := by
    rw [Reading.comments, walked]
    rfl
  have span : r.unitSpan emptyParse.root = .ofLines 1 1 1 0 := by
    have point : source.point 0 = ⟨0, 0⟩ := by cases source with | mk bytes => cases bytes <;> rfl
    show (⟨⟨1, 1⟩, (Span.ofLines _ _ ((source.point 0).row + 1) (source.point 0).column).stop⟩ :
      Span) = _
    rw [point]
    rfl
  have unit : r.unitOf level preview emptyParse = .ok emptyUnit := by
    rw [Reading.unitOf, features, emptyUnit, ← span]
    rfl
  refine readUnit_eq_ok.2 ⟨_, unit, ?_⟩
  rw [comments]
  cbv

/-- The second file is no text. -/
def mixedFiles : Setup :=
  twoFiles "utf-8" [] [0xFF]

theorem found_mixedFiles : found mixedFiles [here] = [fileA, fileB] :=
  congrArg Discovery.files (discover_here "utf-8" [] [0xFF])

theorem texts_mixedFiles :
    mixedFiles.settings.excludePatterns = .array (([] : List String).map .string) := rfl

theorem exists_mixedFiles : ∀ p ∈ [here], ∃ l, mixedFiles.files.resolve p = .ok l :=
  exists_here "utf-8" [] [0xFF]

/-- The search is not stopped, so that nothing is out of sight. -/
theorem inSight_mixedFiles : InSight mixedFiles [here] := by
  have unstopped : (search mixedFiles [here]).failure = none :=
    congrArg Discovery.failure (discover_here "utf-8" [] [0xFF])
  rcases stoppedIf_search texts_mixedFiles exists_mixedFiles with ⟨-, sight⟩ | ⟨stopped, -⟩
  · exact not_not.1 sight
  · cases unstopped.symm.trans stopped

theorem decoder_mixedFiles : mixedFiles.settings.decoder = .utf8 :=
  (rfl)

theorem sizeLimit_mixedFiles : mixedFiles.settings.sizeLimit = .ok 10485760 := rfl

theorem foresees_mixedFiles : ∀ p ∈ found mixedFiles [here], mixedFiles.Foresees p := by
  have steady : mixedFiles.settings.decoder.isSteady := by rw [decoder_mixedFiles]; rfl
  have complete : ∀ t ∈ emptyParse.root.walk, t.Complete := by decide
  intro p hp
  rw [found_mixedFiles, List.mem_cons, List.mem_singleton] at hp
  exact
    { nulless := by rcases hp with rfl | rfl <;> decide
      decoded := fun _ _ _ => Text.Encoding.decode_eq_error steady
      complete := fun _ _ => complete
      named := fun source u _ read => by
        cases (readUnit_emptyParse ..).symm.trans read
        rw [Node.walk_eq]
        exact List.forall_mem_singleton.2 nofun }

theorem counts_fileA : mixedFiles.counts fileA = true := by
  have located : mixedFiles.files.resolve fileA = .ok ⟨["A.java"], .file [], 40⟩ :=
    resolve_name rfl rfl rfl (by decide) (by decide) (by decide)
  have read : mixedFiles.files.readSource mixedFiles.settings fileA = .ok ⟨[]⟩ := by
    rw [FileSystem.readSource_located located sizeLimit_mixedFiles, if_neg (by decide)]
    unfold Settings.readEntry
    rw [decoder_mixedFiles]
    rfl
  have tree : (Call.source mixedFiles.level mixedFiles.settings.enablePreview.isTruthy fileA.name
      ⟨[]⟩ (mixedFiles.grammar ⟨[]⟩)).tree? = some emptyUnit :=
    congrArg (fun u => u.toOption.map (·.unit)) (readUnit_emptyParse ..)
  have collected : (emptyUnit.collectedAs "A.java").isSome := by cbv
  rw [Setup.counts, Setup.call?, read]
  show (Call.collected? _).isSome = true
  rw [Call.collected?, tree]
  exact collected

theorem counts_fileB : mixedFiles.counts fileB = false := by
  have located : mixedFiles.files.resolve fileB = .ok ⟨["B.java"], .file [0xFF], 40⟩ :=
    resolve_name rfl rfl rfl (by decide) (by decide) (by decide)
  have read : mixedFiles.files.readSource mixedFiles.settings fileB =
      .error (.unreadable "B.java" .encoding) := by
    rw [FileSystem.readSource_located located sizeLimit_mixedFiles, if_neg (by decide)]
    unfold Settings.readEntry
    rw [decoder_mixedFiles]
    rfl
  rw [Setup.counts, Setup.call?, read]
  rfl

theorem takePaths_accounts_mixedFiles :
    InSight mixedFiles [here] ∧ found mixedFiles [here] = [fileA, fileB] ∧
      TakesAll mixedFiles .empty [here] ∧
      (takePaths mixedFiles .empty [here]).1.counted = 1 ∧
      (takePaths mixedFiles .empty [here]).1.failed = [fileB] := by
  have all : TakesAll mixedFiles .empty [here] :=
    (takePaths_accounts texts_mixedFiles sizeLimit_mixedFiles exists_mixedFiles .empty).1
      inSight_mixedFiles foresees_mixedFiles
  refine ⟨inSight_mixedFiles, found_mixedFiles, all, ?_, ?_⟩
  · rw [all.accounts.counted, found_mixedFiles]
    simp [counts_fileA, counts_fileB, Survey.empty]
  · rw [all.accounts.failed, found_mixedFiles]
    simp [counts_fileA, counts_fileB, Survey.empty]

/-- The first file does not start with the mark that tells the order of its bytes. -/
def unmarkedFiles : Setup :=
  twoFiles "utf-32" [0x63, 0, 0, 0] []

/-- A file without a mark is neither counted nor noted, and the one after it is not looked at. -/
theorem takePaths_unmarkedFiles :
    Settings.load ⟨none, none, .none, [],
        [("encoding", .string "utf-32"), ("exclude_patterns", .array []),
          ("max_file_size_mb", .integer 10)]⟩ = .ok unmarkedFiles.settings ∧
      unmarkedFiles.settings.sizeLimit = .ok 10485760 ∧
      (∀ p ∈ [here], ∃ l, unmarkedFiles.files.resolve p = .ok l) ∧
      found unmarkedFiles [here] = [fileA, fileB] ∧
      (takePaths unmarkedFiles .empty [here]).2 = .error (.mishap .undecodable) ∧
      (takePaths unmarkedFiles .empty [here]).1.counted = 0 ∧
      (takePaths unmarkedFiles .empty [here]).1.failed = [] := by
  have decoder : unmarkedFiles.settings.decoder = .utf32 none := rfl
  have measured : unmarkedFiles.settings.sizeLimit = .ok 10485760 := rfl
  have located : unmarkedFiles.files.resolve fileA = .ok ⟨["A.java"], .file [0x63, 0, 0, 0], 40⟩ :=
    resolve_name rfl rfl rfl (by decide) (by decide) (by decide)
  have read : unmarkedFiles.files.readSource unmarkedFiles.settings fileA =
      .error (.mishap .undecodable) := by
    rw [FileSystem.readSource_located located measured, if_neg (by decide)]
    unfold Settings.readEntry
    rw [decoder]
    rfl
  have taken : takeFile unmarkedFiles .empty fileA = (.empty, .error (.mishap .undecodable)) := by
    unfold takeFile attempt
    rw [read]
    rfl
  have discovered : search unmarkedFiles [here] = ⟨[.file fileA, .file fileB], none⟩ :=
    discover_here "utf-32" [0x63, 0, 0, 0] []
  have ended : takeFindings unmarkedFiles .empty (search unmarkedFiles [here]).findings =
      (.empty, some (.mishap .undecodable)) := by
    rw [discovered, takeFindings, taken]
  have all := takePaths_of_taken ended
  refine ⟨rfl, measured, exists_here "utf-32" [0x63, 0, 0, 0] [],
    congrArg Discovery.files discovered, ?_, ?_, ?_⟩ <;>
    rw [all] <;> rfl

end Sample

end Survey

end JavaCensus
