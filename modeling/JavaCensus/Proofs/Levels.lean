import JavaCensus.Proofs.Features

/-!
# Later levels

A level decides which features are admitted, and nothing else: what an admitted source is read as
does not depend on it. So a source that is read at one level is read the same at every later level
and with previews.
-/
namespace JavaCensus

theorem forM_ok {ε α : Type} {f : α → Except ε Unit} {xs : List α} (h : ∀ x ∈ xs, f x = .ok ()) :
    xs.forM f = .ok () := by
  induction xs with
  | nil => rfl
  | cons x xs ih =>
    obtain ⟨first, rest⟩ := List.forall_mem_cons.1 h
    exact bind_eq_ok.2 ⟨(), first, ih rest⟩

/-- A walk over a list fails with the error of one of its elements. -/
theorem forM_eq_error {ε α : Type} {f : α → Except ε Unit} {xs : List α} {e : ε}
    (h : xs.forM f = .error e) : ∃ x ∈ xs, f x = .error e := by
  induction xs with
  | nil => cases h
  | cons x xs ih =>
    rw [show (x :: xs).forM f = (f x >>= fun _ => xs.forM f) from rfl] at h
    cases first : f x with
    | error d =>
      rw [first] at h
      cases h
      exact ⟨x, List.mem_cons_self .., first⟩
    | ok _ =>
      rw [first] at h
      obtain ⟨y, hy, failed⟩ := ih h
      exact ⟨y, List.mem_cons_of_mem _ hy, failed⟩

namespace Reading

variable {r : Reading} {level later : LanguageLevel} {preview previews : Bool}

/-- The feature that a tree is refused for is one that the level lacks. -/
theorem checkFeature_eq_error {m : ParseTree.Met} {e : Error}
    (h : r.checkFeature level preview m = .error e) :
    ∃ f line, f.supported level preview = false ∧
      e = .rejected r.unit (.unsupported f level preview) (some line) := by
  unfold checkFeature at h
  split at h
  · cases h
  · rename_i f _
    split at h
    · cases h
    · rename_i lacking
      cases h
      exact ⟨f, _, Bool.eq_false_iff.2 lacking, rfl⟩

theorem checkFeatures_eq_error {root : ParseTree} {e : Error}
    (h : r.checkFeatures level preview root = .error e) :
    ∃ f line, f.supported level preview = false ∧
      e = .rejected r.unit (.unsupported f level preview) (some line) := by
  obtain ⟨m, -, failed⟩ := forM_eq_error h
  exact checkFeature_eq_error failed

/-- What a source is read as once its features are admitted. -/
def admitted (r : Reading) (parse : Parse) : Read Node := do
  let children := parse.root.namedChildren.filter fun c => !c.isComment
  r.assemble parse.root (← children.mapM r.topLevel)

theorem unitOf_eq (r : Reading) (level : LanguageLevel) (preview : Bool) (parse : Parse) :
    r.unitOf level preview parse = (do
      r.checkRepairs parse
      r.checkFeatures level preview parse.root
      r.admitted parse) :=
  rfl

section Later

variable (since : level.release ≤ later.release) (allowed : preview = true → previews = true)

include since allowed

theorem checkFeature_later {m : ParseTree.Met} (h : r.checkFeature level preview m = .ok ()) :
    r.checkFeature later previews m = .ok () := by
  unfold checkFeature at h ⊢
  split
  · rfl
  · rename_i f hf
    simp only [hf] at h
    split at h
    · rename_i supported
      rw [if_pos (Feature.supported_mono since allowed supported)]
    · cases h

theorem checkFeatures_later {root : ParseTree} (h : r.checkFeatures level preview root = .ok ()) :
    r.checkFeatures later previews root = .ok () :=
  forM_ok fun m hm => checkFeature_later since allowed (forM_eq_ok h m hm)

/-- A level that refuses no feature of a source reads it as every later level does. -/
theorem unitOf_later (parse : Parse) :
    r.unitOf level preview parse = r.unitOf later previews parse ∨
      ∃ f line, f.supported level preview = false ∧ r.unitOf level preview parse =
        .error (.rejected r.unit (.unsupported f level preview) (some line)) := by
  rw [unitOf_eq, unitOf_eq]
  cases r.checkRepairs parse with
  | error e => exact .inl rfl
  | ok _ =>
    cases features : r.checkFeatures level preview parse.root with
    | ok _ =>
      rw [checkFeatures_later since allowed features]
      exact .inl rfl
    | error e =>
      obtain ⟨f, line, lacking, rfl⟩ := checkFeatures_eq_error features
      exact .inr ⟨f, line, lacking, rfl⟩

end Later

end Reading

section Later

variable {level later : LanguageLevel} {preview previews : Bool}
  (since : level.release ≤ later.release) (allowed : preview = true → previews = true)

include since allowed

theorem readUnit_later (name : String) (source : SourceText) (parse : Parse) :
    readUnit name level preview source parse = readUnit name later previews source parse ∨
      ∃ f line, f.supported level preview = false ∧ readUnit name level preview source parse =
        .error (.rejected name (.unsupported f level preview) (some line)) := by
  unfold readUnit
  dsimp only
  rcases Reading.unitOf_later (r := ⟨name, source⟩) since allowed parse with
    same | ⟨f, line, lacking, failed⟩
  · exact .inl (by rw [same])
  · exact .inr ⟨f, line, lacking, by rw [failed]; rfl⟩

/-- What is read at a level is read the same at later levels and with previews, comments and all,
and collected the same. What is refused there is refused at the level too, for the same reason
unless the level lacks a feature. -/
theorem Collector.collect_later (name : String) (source : SourceText) (parse : Parse) :
    (∀ u, readUnit name level preview source parse = .ok u →
        readUnit name later previews source parse = .ok u ∧
          ∀ c : Collector, c.collect later previews name source parse =
            c.collect level preview name source parse) ∧
      ∀ e, readUnit name later previews source parse = .error e →
        readUnit name level preview source parse = .error e ∨
          ∃ f line, f.supported level preview = false ∧ readUnit name level preview source parse =
            .error (.rejected name (.unsupported f level preview) (some line)) := by
  rcases readUnit_later since allowed name source parse with same | ⟨f, line, lacking, failed⟩
  · refine ⟨fun u read => ⟨same ▸ read, fun c => ?_⟩, fun e refused => .inl (same.trans refused)⟩
    rw [collect, collect, same]
  · refine ⟨fun u read => ?_, fun e _ => .inr ⟨f, line, lacking, failed⟩⟩
    rw [failed] at read
    cases read

end Later

/-! ## A module at the first level with modules -/

section FirstModule

def moduleSource : SourceText :=
  .ofString "/**a*/module m\x7b\x7d"

def moduleTree : ParseTree :=
  ⟨"module_declaration", true, false, 6, 16, none,
    [⟨"module", false, false, 6, 12, none, []⟩,
      ⟨"identifier", true, false, 13, 14, some "name", []⟩,
      ⟨"module_body", true, false, 14, 16, some "body",
        [⟨"\x7b", false, false, 14, 15, none, []⟩, ⟨"\x7d", false, false, 15, 16, none, []⟩]⟩]⟩

def moduleParse : Parse :=
  ⟨⟨"program", true, false, 0, 16, none,
    [⟨"block_comment", true, false, 0, 6, none, []⟩, moduleTree]⟩, false⟩

def ninth : LanguageLevel := ⟨9, by decide⟩

/-- The unit of the module, with the comment on the declaration. -/
def moduleUnit : ReadUnit :=
  let front : Comment := ⟨0, .doc, "a", .ofLines 1 1 1 6⟩
  ⟨⟨.ofLines 1 1 1 16, .empty, .compilationUnit none [] []
      (some ⟨.ofLines 1 7 1 16, ⟨some front, none, []⟩, .moduleDeclaration "m" false []⟩)⟩, [front]⟩

theorem readUnit_moduleParse :
    readUnit "m" ninth false moduleSource moduleParse = .ok moduleUnit := by
  let r : Reading := ⟨"m", moduleSource⟩
  have walked : (moduleParse.root.descendants.filter fun m => !m.tree.isComment) =
      moduleParse.root.descendants.filter fun m => !m.tree.isComment := rfl
  conv_rhs at walked => cbv
  have features : r.checkFeatures ninth false moduleParse.root = .ok () := by
    rw [Reading.checkFeatures, walked]
    rfl
  have unit : r.unitOf ninth false moduleParse = .ok (.bare (.ofLines 1 1 1 16)
      (.compilationUnit none [] []
        (some (.bare (.ofLines 1 7 1 16) (.moduleDeclaration "m" false []))))) := by
    rw [Reading.unitOf, features]
    rfl
  have comments : r.comments moduleParse.root = moduleUnit.comments := by cbv
  refine readUnit_eq_ok.2 ⟨_, unit, ?_⟩
  rw [comments]
  cbv

theorem Collector.collect_moduleParse_later :
    ninth.release ≤ LanguageLevel.latest.release ∧ (false = true → true = true) ∧
      readUnit "m" ninth false moduleSource moduleParse = .ok moduleUnit ∧
      readUnit "m" .latest true moduleSource moduleParse = .ok moduleUnit ∧
      empty.collect .latest true "m" moduleSource moduleParse =
        empty.collect ninth false "m" moduleSource moduleParse := by
  have since : ninth.release ≤ LanguageLevel.latest.release := by decide
  have allowed : false = true → true = true := fun _ => rfl
  obtain ⟨later, collected⟩ :=
    (collect_later since allowed "m" moduleSource moduleParse).1 _ readUnit_moduleParse
  exact ⟨since, allowed, readUnit_moduleParse, later, collected empty⟩

end FirstModule

end JavaCensus
