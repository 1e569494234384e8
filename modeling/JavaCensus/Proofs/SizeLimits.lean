import JavaCensus.Files.Survey
import JavaCensus.Proofs.Reads
import JavaCensus.Settings.Layers

/-!
# Limits of size

The limit for the size of a file is set in megabytes and used in bytes. Settings are accepted if the
number of megabytes is not at most zero, which says nothing of a number that compares to none, and
their bytes can be told if it is finite and not too large. For all other accepted settings the limit
is positive, and files beyond it are refused as too large.
-/
namespace JavaCensus

theorem twoTo_add (m n : Nat) : twoTo (m + n) = twoTo m * twoTo n :=
  Nat.pow_add 2 m n

namespace Quantity

def IsPositive (q : Quantity) : Prop :=
  q.compareInt? 0 = some .gt

/-- A number of megabytes whose bytes are still a number. -/
def IsMeasurable : Quantity → Prop
  | .boolean _ | .integer _ => True
  | .real (.finite _ m) => m.units < twoTo 1004 * Magnitude.unitsOfOne
  | .real _ => False

theorem compareInt?_eq_none_iff {q : Quantity} {n : Int} :
    q.compareInt? n = none ↔ q = .real .nan := by
  have never (order : Ordering) (other : q ≠ .real .nan) :
      some order = none ↔ q = .real .nan :=
    ⟨fun h => absurd h (Option.some_ne_none order), fun h => absurd h other⟩
  cases q with
  | boolean b | integer m => exact never _ nofun
  | real x =>
    cases x with
    | nan => exact ⟨fun _ => rfl, fun _ => rfl⟩
    | infinite negative => exact never _ nofun
    | finite negative m => exact never _ nofun

theorem isPositive_iff {q : Quantity} (accepted : q.atMost 0 = false) :
    q.IsPositive ↔ q ≠ .real .nan := by
  rw [IsPositive, ne_eq, ← compareInt?_eq_none_iff (n := 0)]
  unfold atMost at accepted
  cases compared : q.compareInt? 0 with
  | none => simp
  | some order => cases order <;> simp_all

theorem bytes_finite (negative : Bool) (m : Magnitude) :
    (∃ n, (real (.finite negative m)).bytes = .ok n) ↔
      m.units < twoTo 1004 * Magnitude.unitsOfOne := by
  have scale : twoTo 1024 = twoTo 1004 * twoTo 20 := by rw [← twoTo_add]
  have bound : twoTo 1024 * Magnitude.unitsOfOne ≤ m.units * 1048576 ↔
      twoTo 1004 * Magnitude.unitsOfOne ≤ m.units := by
    rw [scale, Nat.mul_right_comm]
    exact Nat.mul_le_mul_right_iff (by decide)
  rw [bytes, ← Nat.not_le, ← bound]
  dsimp only
  by_cases large : twoTo 1024 * Magnitude.unitsOfOne ≤ m.units * 1048576
  · rw [if_pos large]
    exact ⟨fun ⟨_, h⟩ => (nomatch h), fun small => absurd large small⟩
  · rw [if_neg large]
    exact ⟨fun _ => large, fun _ => ⟨_, rfl⟩⟩

theorem exists_bytes_iff {q : Quantity} : (∃ n, q.bytes = .ok n) ↔ q.IsMeasurable := by
  rcases q with b | m | _ | negative | ⟨negative, m⟩
  · exact ⟨fun _ => trivial, fun _ => ⟨_, rfl⟩⟩
  · exact ⟨fun _ => trivial, fun _ => ⟨_, rfl⟩⟩
  · exact ⟨fun ⟨_, h⟩ => (nomatch h), False.elim⟩
  · exact ⟨fun ⟨_, h⟩ => (nomatch h), False.elim⟩
  · exact bytes_finite negative m

theorem bytes_nonneg {q : Quantity} {n : Int} (positive : q.IsPositive) (h : q.bytes = .ok n) :
    0 ≤ n := by
  have above : ∀ m : Int, compare m 0 = .gt → 0 < m := fun m => compare_gt_iff_gt.1
  rcases q with b | m | _ | negative | ⟨negative, m⟩
  · cases h
    cases b <;> decide
  · cases h
    have := above m (Option.some.inj positive)
    omega
  · cases h
  · cases h
  · have units : 0 < Real64.signedUnits negative m :=
      above _ (by rw [← Int.zero_mul (Magnitude.unitsOfOne : Int)]; exact Option.some.inj positive)
    cases negative with
    | true =>
      have units : 0 < -(m.units : Int) := units
      omega
    | false =>
      rw [bytes] at h
      dsimp only at h
      split at h
      · cases h
      · cases h
        exact Int.natCast_nonneg _

end Quantity

/-! ## Settings -/

namespace Settings

theorem atMost_of_checkSize {v : Value} {q : Quantity} (h : checkSize v = .ok q) :
    q.atMost 0 = false := by
  obtain ⟨p, -, h⟩ := bind_eq_ok.1 h
  split at h
  · unfold refuse at h
    split at h <;> cases h
  · obtain rfl := pure_eq_ok.1 h
    exact Bool.eq_false_iff.2 ‹_›

theorem atMost_of_ofTable {table : Toml.Entries} {settings : Settings}
    (h : ofTable table = .ok settings) : settings.maxFileSize.atMost 0 = false := by
  unfold ofTable at h
  split at h
  · cases h
  · obtain ⟨_, _, h⟩ := bind_eq_ok.1 h
    obtain ⟨size, checked, h⟩ := bind_eq_ok.1 h
    obtain ⟨_, _, h⟩ := bind_eq_ok.1 h
    obtain ⟨_, _, h⟩ := bind_eq_ok.1 h
    obtain ⟨_, _, h⟩ := bind_eq_ok.1 h
    obtain rfl := pure_eq_ok.1 h
    exact atMost_of_checkSize checked

/-- Wherever settings are drawn from, a size that is at most nothing is not accepted. -/
theorem atMost_of_load {s : SettingsSources} {settings : Settings} (h : load s = .ok settings) :
    settings.maxFileSize.atMost 0 = false := by
  unfold load at h
  split at h
  · cases h
  · obtain ⟨_, _, h⟩ := bind_eq_ok.1 h
    dsimp only at h
    split at h
    · cases h
      exact atMost_of_ofTable ‹_›
    · cases h

/-- What is read of an entry that is not too large. -/
def readEntry (settings : Settings) (p : Path) : Entry → Except Error SourceText
  | .file bytes =>
    match settings.decoder.decode bytes with
    | .ok text => .ok (.ofString (.ofList (Text.unifyBreaks text)))
    | .error .malformed => .error (.unreadable p.text .encoding)
    | .error .unreadable => .error (.mishap .undecodable)
    | .error .halved => .error (.mishap .unencodable)
  | _ => .error (.unreadable p.text .system)

theorem readEntry_error {settings : Settings} {p : Path} {entry : Entry} {e : Error}
    (h : settings.readEntry p entry = .error e) :
    e = .unreadable p.text .encoding ∨ e = .unreadable p.text .system ∨
      e = .mishap .undecodable ∨ e = .mishap .unencodable := by
  unfold readEntry at h
  split at h
  · split at h <;> cases h <;> simp
  · cases h
    exact .inr (.inl rfl)

end Settings

theorem FileSystem.readSource_located {fs : FileSystem} {settings : Settings} {p : Path}
    {l : Located} {limit : Int} (located : fs.resolve p = .ok l)
    (measured : settings.sizeLimit = .ok limit) :
    fs.readSource settings p =
      if limit < l.entry.size then .error (.unreadable p.text (.tooLarge l.entry.size limit))
      else settings.readEntry p l.entry := by
  unfold readSource
  rw [located]
  simp only [bind, Except.bind, measured]
  by_cases large : limit < l.entry.size
  · rw [if_pos large, if_pos large]
    rfl
  · rw [if_neg large, if_neg large]
    rfl

/-- The error is about the size of a file. -/
def Error.IsOfSize : Error → Prop
  | .unreadable _ (.tooLarge ..) | .mishap .nanToInteger | .mishap .infiniteToInteger => True
  | _ => False

namespace Settings

/-- Files are refused for their size if, and only if, they are larger than a limit. -/
structure RefusesBeyond (settings : Settings) (limit : Int) : Prop where
  measured : settings.sizeLimit = .ok limit
  nonneg : 0 ≤ limit
  refused (fs : FileSystem) {p : Path} {l : Located} (located : fs.resolve p = .ok l)
    (large : limit < l.entry.size) :
    fs.readSource settings p = .error (.unreadable p.text (.tooLarge l.entry.size limit))
  reason (fs : FileSystem) {p : Path} {e : Error} (failed : fs.readSource settings p = .error e)
    (size : e.IsOfSize) :
    ∃ l, fs.resolve p = .ok l ∧ limit < l.entry.size ∧
      e = .unreadable p.text (.tooLarge l.entry.size limit)

/-- No file can be read, as its size is compared to no limit. -/
def RefusesAll (settings : Settings) : Prop :=
  ∃ e, Error.IsOfSize (.mishap e) ∧
    ∀ (fs : FileSystem) (p : Path) (l : Located), fs.resolve p = .ok l →
      fs.readSource settings p = .error (.mishap e)

theorem refusesBeyond {settings : Settings} {limit : Int}
    (measured : settings.sizeLimit = .ok limit) (nonneg : 0 ≤ limit) :
    settings.RefusesBeyond limit where
  measured := measured
  nonneg := nonneg
  refused fs _ _ located large := by
    rw [fs.readSource_located located measured, if_pos large]
  reason fs p e failed size := by
    cases resolved : fs.resolve p with
    | error fault =>
      unfold FileSystem.readSource at failed
      rw [resolved] at failed
      dsimp only at failed
      split at failed <;> cases failed <;> exact size.elim
    | ok l =>
      rw [fs.readSource_located resolved measured] at failed
      by_cases large : limit < l.entry.size
      · rw [if_pos large] at failed
        cases failed
        exact ⟨l, rfl, large, rfl⟩
      · rw [if_neg large] at failed
        obtain rfl | rfl | rfl | rfl := readEntry_error failed <;> exact size.elim

theorem refusesAll {settings : Settings} {e : Error} (unmeasured : settings.sizeLimit = .error e) :
    settings.RefusesAll := by
  have mishap : ∃ m, e = .mishap m ∧ Error.IsOfSize (.mishap m) := by
    unfold sizeLimit Quantity.bytes at unmeasured
    split at unmeasured
    · cases unmeasured
    · cases unmeasured
    · cases unmeasured
      exact ⟨_, rfl, trivial⟩
    · cases unmeasured
      exact ⟨_, rfl, trivial⟩
    · dsimp only at unmeasured
      split at unmeasured
      · cases unmeasured
        exact ⟨_, rfl, trivial⟩
      · cases unmeasured
  obtain ⟨m, rfl, size⟩ := mishap
  refine ⟨m, size, fun fs p l located => ?_⟩
  unfold FileSystem.readSource
  rw [located, unmeasured]
  rfl

/-- Accepted settings have a positive limit for the size of a file, except for a limit that is no
number. If the limit can be told in bytes, it is the one reason for which files are refused for
their size; otherwise every file is. -/
theorem load_limits {s : SettingsSources} {settings : Settings} (h : load s = .ok settings) :
    (settings.maxFileSize.IsPositive ↔ settings.maxFileSize ≠ .real .nan) ∧
      (settings.maxFileSize.IsMeasurable →
        settings.maxFileSize.IsPositive ∧ ∃ limit, settings.RefusesBeyond limit) ∧
      (¬ settings.maxFileSize.IsMeasurable → settings.RefusesAll) := by
  have positive := Quantity.isPositive_iff (atMost_of_load h)
  refine ⟨positive, fun measurable => ?_, fun unmeasurable => ?_⟩
  · have above := positive.2 fun nan => by
      rw [nan] at measurable
      exact measurable
    obtain ⟨limit, measured⟩ := Quantity.exists_bytes_iff.2 measurable
    exact ⟨above, limit, refusesBeyond measured (Quantity.bytes_nonneg above measured)⟩
  · cases measured : settings.sizeLimit with
    | ok limit => exact absurd (Quantity.exists_bytes_iff.1 ⟨limit, measured⟩) unmeasurable
    | error e => exact refusesAll measured

def sizeVariable (written : String) : SettingsSources :=
  ⟨none, none, .none, [("JAVAMETER_MAX_FILE_SIZE_MB", written)], []⟩

def half : Magnitude := ⟨twoTo 52, 1021, by decide⟩

theorem load_limits_half :
    ∃ settings, load (sizeVariable "0.5") = .ok settings ∧
      settings.maxFileSize = .real (.finite false half) ∧
      settings.maxFileSize.IsPositive ∧ settings.RefusesBeyond 524288 := by
  have size : (load (sizeVariable "0.5")).toOption.map maxFileSize =
      some (.real (.finite false half)) := by decide +kernel
  obtain ⟨settings, loaded, size⟩ := Option.map_eq_some_iff.1 size
  have loaded := toOption_eq_some.1 loaded
  have measurable : settings.maxFileSize.IsMeasurable := by
    rw [size]
    show half.units < twoTo 1004 * Magnitude.unitsOfOne
    decide +kernel
  have measured : settings.sizeLimit = .ok 524288 := by
    rw [sizeLimit, size]
    decide +kernel
  obtain ⟨positive, limit, beyond⟩ := (load_limits loaded).2.1 measurable
  obtain rfl : limit = 524288 := Except.ok.inj (beyond.measured.symm.trans measured)
  exact ⟨settings, loaded, size, positive, beyond⟩

/-- A limit that is no number is accepted. It is not positive, and no file can be read. -/
theorem load_limits_nan :
    ∃ settings, load (sizeVariable "nan") = .ok settings ∧ ¬ settings.maxFileSize.IsPositive ∧
      settings.sizeLimit = .error (.mishap .nanToInteger) ∧
      ∀ (fs : FileSystem) (p : Path) (l : Located), fs.resolve p = .ok l →
        fs.readSource settings p = .error (.mishap .nanToInteger) := by
  refine ⟨⟨.integer 21, .boolean false, "utf-8", Setting.excludePatterns.default, .real .nan,
    .boolean false, .text, .normal⟩, rfl, nofun, rfl, fun fs p l located => ?_⟩
  unfold FileSystem.readSource
  rw [located]
  rfl

end Settings

end JavaCensus
