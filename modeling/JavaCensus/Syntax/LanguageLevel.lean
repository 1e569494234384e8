/-!
# Language levels and features

A language level is a release whose syntax is known. A feature is standard from some release on,
and some features could be tried out in earlier releases as a preview.
-/
namespace JavaCensus

structure LanguageLevel where
  release : Nat
  known : 8 ≤ release ∧ release ≤ 21
  deriving DecidableEq, Repr

namespace LanguageLevel

def ofRelease? (n : Nat) : Option LanguageLevel :=
  if h : 8 ≤ n ∧ n ≤ 21 then some ⟨n, h⟩ else none

def latest : LanguageLevel := ⟨21, by decide⟩

/-- The releases that have a level. -/
def releases : List Nat :=
  (List.range 14).map (· + 8)

theorem mem_releases (n : Nat) : n ∈ releases ↔ ∃ l : LanguageLevel, l.release = n := by
  simp only [releases, List.mem_map, List.mem_range]
  constructor
  · rintro ⟨i, h, rfl⟩
    exact ⟨⟨i + 8, by omega⟩, rfl⟩
  · rintro ⟨l, rfl⟩
    exact ⟨l.release - 8, by have := l.known; omega, by have := l.known; omega⟩

def title (l : LanguageLevel) : String :=
  "Java " ++ toString l.release

end LanguageLevel

inductive Feature where
  | modules
  | privateInterfaceMethods
  | switchExpressions
  | yieldStatements
  | textBlocks
  | instanceofPatterns
  | records
  | sealedClasses
  deriving DecidableEq, Repr

namespace Feature

def description : Feature → String
  | .modules => "modules"
  | .privateInterfaceMethods => "private interface methods"
  | .switchExpressions => "switch expressions and rules"
  | .yieldStatements => "'yield' statements"
  | .textBlocks => "text blocks"
  | .instanceofPatterns => "pattern matching for instanceof"
  | .records => "records"
  | .sealedClasses => "sealed classes"

def standardSince : Feature → Nat
  | .modules | .privateInterfaceMethods => 9
  | .switchExpressions | .yieldStatements => 14
  | .textBlocks => 15
  | .instanceofPatterns | .records => 16
  | .sealedClasses => 17

def previewSince : Feature → Option Nat
  | .modules | .privateInterfaceMethods => none
  | .switchExpressions => some 12
  | .yieldStatements | .textBlocks => some 13
  | .instanceofPatterns | .records => some 14
  | .sealedClasses => some 15

/-- Whether the feature may be used at a level, with or without previews. -/
def supported (f : Feature) (level : LanguageLevel) (preview : Bool) : Bool :=
  f.standardSince ≤ level.release ||
    (preview && f.previewSince.any (· ≤ level.release))

/-- A later level and previews allow no less. -/
theorem supported_mono {f : Feature} {l k : LanguageLevel} {p q : Bool}
    (hl : l.release ≤ k.release) (hp : p = true → q = true) (h : f.supported l p = true) :
    f.supported k q = true := by
  simp only [supported, Bool.or_eq_true, decide_eq_true_eq, Bool.and_eq_true,
    Option.any_eq_true] at h ⊢
  rcases h with h | ⟨h, r, hr, hle⟩
  · exact .inl (Nat.le_trans h hl)
  · exact .inr ⟨hp h, r, hr, Nat.le_trans hle hl⟩

end Feature

end JavaCensus
