import JavaCensus.Collect.Classify
import Mathlib

/-!
# Names of anonymous classes

A type is named by segments with points between them, and type arguments may follow the identifier
of any segment. An anonymous class is called after the identifier that its supertype's name shows.
That is the one of the last segment, unless a segment before it has arguments: the name is cut at
its first bracket, and what is left ends in the first segment that has arguments.
-/
namespace JavaCensus

/-! ## Words and points -/

namespace Text

theorem words_cons (c : Char) (cs : List Char) : words (c :: cs) =
    if isBlank c then words cs
    else match cs, words cs with
      | d :: _, w :: ws => if isBlank d then [c] :: w :: ws else (c :: w) :: ws
      | _, ws => [c] :: ws :=
  rfl

theorem words_of_unbroken {cs : List Char} (any : cs ≠ [])
    (unbroken : ∀ c ∈ cs, isBlank c = false) : words cs = [cs] := by
  induction cs with
  | nil => exact absurd rfl any
  | cons c cs ih =>
    have first : isBlank c = false := unbroken c (List.mem_cons_self ..)
    rw [words_cons, first]
    cases cs with
    | nil => rfl
    | cons d ds =>
      have second : isBlank d = false := unbroken d (by simp)
      have rest : words (d :: ds) = [d :: ds] := by
        apply ih (List.cons_ne_nil d ds)
        intro e he
        exact unbroken e (List.mem_cons_of_mem c he)
      rw [rest]
      simp [second]

end Text

theorem upTo_append {c : Char} {front : List Char} (absent : c ∉ front) (rest : List Char) :
    upTo c (front ++ rest) = front ++ upTo c rest := by
  apply List.takeWhile_append_of_pos
  intro d hd
  simp only [bne_iff_ne, ne_eq]
  intro eq
  exact absent (eq ▸ hd)

theorem upTo_cons_self (c : Char) (rest : List Char) : upTo c (c :: rest) = [] := by
  simp [upTo]

theorem afterLast_eq (c : Char) (cs : List Char) : afterLast c cs = (upTo c cs.reverse).reverse :=
  rfl

theorem afterLast_append {c : Char} {back : List Char} (absent : c ∉ back) (front : List Char) :
    afterLast c (front ++ back) = afterLast c front ++ back := by
  have absent' : c ∉ back.reverse := by simpa using absent
  rw [afterLast_eq, afterLast_eq, List.reverse_append, upTo_append absent', List.reverse_append,
    List.reverse_reverse]

theorem afterLast_concat_self (c : Char) (front : List Char) : afterLast c (front ++ [c]) = [] := by
  rw [afterLast_eq, List.reverse_concat, upTo_cons_self, List.reverse_nil]

/-! ## Names of types -/

/-- Whether a text closes its own angle brackets and some that are open before it, and no more. -/
def closesBrackets : (depth : Nat) → List Char → Bool
  | depth, [] => depth == 0
  | depth, '<' :: cs => closesBrackets (depth + 1) cs
  | 0, '>' :: _ => false
  | depth + 1, '>' :: cs => closesBrackets depth cs
  | depth, _ :: cs => closesBrackets depth cs

/-- A character that can stand in an identifier: it neither separates names nor encloses them. -/
def isNameChar (c : Char) : Bool :=
  !Text.isBlank c && c != '.' && c != '<' && c != '>'

/-- An identifier, and between brackets the type arguments that may follow it. -/
structure TypeSegment where
  identifier : List Char
  arguments : Option (List Char)
  named : identifier ≠ []
  plain : identifier.all isNameChar = true
  balanced : ∀ a ∈ arguments, closesBrackets 0 a = true

namespace TypeSegment

variable (s : TypeSegment)

/-- The type arguments as written. -/
def argumentList : List Char :=
  match s.arguments with
  | none => []
  | some a => '<' :: (a ++ ['>'])

def chars : List Char :=
  s.identifier ++ s.argumentList

theorem not_blank_identifier : ∀ c ∈ s.identifier, Text.isBlank c = false := by
  intro c hc
  have plain := List.all_eq_true.1 s.plain c hc
  simp only [isNameChar, Bool.and_eq_true, Bool.not_eq_true'] at plain
  exact plain.1.1.1

theorem point_notMem_identifier : '.' ∉ s.identifier := by
  intro h
  have plain := List.all_eq_true.1 s.plain '.' h
  simp [isNameChar] at plain

theorem opening_notMem_identifier : '<' ∉ s.identifier := by
  intro h
  have plain := List.all_eq_true.1 s.plain '<' h
  simp [isNameChar] at plain

theorem chars_of_plain (h : s.arguments = none) : s.chars = s.identifier := by
  simp [chars, argumentList, h]

/-- The first bracket, if there is one, stands right behind the identifier. -/
theorem upTo_chars_append {a : List Char} (h : s.arguments = some a) (rest : List Char) :
    upTo '<' (s.chars ++ rest) = s.identifier := by
  have shape : s.chars ++ rest = s.identifier ++ '<' :: (a ++ ['>'] ++ rest) := by
    simp [chars, argumentList, h]
  rw [shape, upTo_append s.opening_notMem_identifier, upTo_cons_self, List.append_nil]

theorem upTo_chars : upTo '<' s.chars = s.identifier := by
  cases h : s.arguments with
  | none =>
    have whole := upTo_append s.opening_notMem_identifier []
    simpa [s.chars_of_plain h, upTo] using whole
  | some a =>
    have cut := s.upTo_chars_append h []
    simpa using cut

/-- Identifiers, each with a point behind it. -/
def pointed (segments : List TypeSegment) : List Char :=
  segments.flatMap fun s => s.identifier ++ ['.']

theorem afterLast_pointed (segments : List TypeSegment) : afterLast '.' (pointed segments) = [] := by
  cases segments using List.reverseRecOn with
  | nil => rfl
  | append_singleton segments last =>
    rw [pointed, List.flatMap_append, List.flatMap_singleton, ← List.append_assoc,
      afterLast_concat_self]

theorem not_blank_pointed (segments : List TypeSegment) :
    ∀ c ∈ pointed segments, Text.isBlank c = false := by
  intro c hc
  obtain ⟨s, -, hc⟩ := List.mem_flatMap.1 hc
  rcases List.mem_append.1 hc with hc | hc
  · exact s.not_blank_identifier c hc
  · obtain rfl := List.mem_singleton.1 hc
    decide

end TypeSegment

/-- The name of a type: segments with points between them, at least one. -/
structure TypeName where
  qualifier : List TypeSegment
  last : TypeSegment

namespace TypeName

def chars (t : TypeName) : List Char :=
  List.intercalate ['.'] ((t.qualifier ++ [t.last]).map (·.chars))

def text (t : TypeName) : String :=
  .ofList t.chars

/-- The segment after which anonymous classes are called: the first one with arguments, and the
last one if none before it has any. -/
def shown (t : TypeName) : TypeSegment :=
  (t.qualifier.find? (·.arguments.isSome)).getD t.last

theorem shown_of_plain {t : TypeName} (plain : ∀ s ∈ t.qualifier, s.arguments = none) :
    t.shown = t.last := by
  have none : t.qualifier.find? (·.arguments.isSome) = none := by
    rw [List.find?_eq_none]
    intro s hs
    simp [plain s hs]
  rw [shown, none, Option.getD_none]

theorem chars_nil (last : TypeSegment) : (mk [] last).chars = last.chars := by
  simp [chars]

theorem chars_cons (s : TypeSegment) (qualifier : List TypeSegment) (last : TypeSegment) :
    (mk (s :: qualifier) last).chars = s.chars ++ '.' :: (mk qualifier last).chars := by
  cases qualifier <;> simp [chars]

/-- The name is cut behind the identifier that it shows. -/
theorem upTo_chars (t : TypeName) : upTo '<' t.chars =
    TypeSegment.pointed (t.qualifier.takeWhile (·.arguments.isNone)) ++ t.shown.identifier := by
  obtain ⟨qualifier, last⟩ := t
  induction qualifier with
  | nil =>
    rw [chars_nil, last.upTo_chars]
    rfl
  | cons s qualifier ih =>
    rw [chars_cons]
    cases arguments : s.arguments with
    | some a =>
      rw [s.upTo_chars_append arguments]
      simp [shown, arguments, TypeSegment.pointed]
    | none =>
      have absent : '<' ∉ s.identifier ++ ['.'] := by
        simp [s.opening_notMem_identifier]
      have shape : s.chars ++ '.' :: (mk qualifier last).chars =
          s.identifier ++ ['.'] ++ (mk qualifier last).chars := by
        simp [s.chars_of_plain arguments]
      rw [shape, upTo_append absent, ih]
      simp [shown, arguments, TypeSegment.pointed]

/-- The short name is the identifier of the first segment that has arguments, or of the last one. -/
theorem simpleTypeName_text (t : TypeName) :
    simpleTypeName t.text = .ofList t.shown.identifier := by
  have any : upTo '<' t.chars ≠ [] := by
    rw [t.upTo_chars]
    simp [t.shown.named]
  have unbroken : ∀ c ∈ upTo '<' t.chars, Text.isBlank c = false := by
    rw [t.upTo_chars, List.forall_mem_append]
    exact ⟨TypeSegment.not_blank_pointed _, t.shown.not_blank_identifier⟩
  have word : (Text.words (upTo '<' t.chars)).getLast? = some (upTo '<' t.chars) := by
    rw [Text.words_of_unbroken any unbroken]
    rfl
  have name : afterLast '.' (upTo '<' t.chars) = t.shown.identifier := by
    rw [t.upTo_chars, afterLast_append t.shown.point_notMem_identifier,
      TypeSegment.afterLast_pointed, List.nil_append]
  rw [simpleTypeName, text, String.toList_ofList, word]
  exact congrArg String.ofList name

end TypeName

/-- An anonymous class is called after the last identifier of its supertype's name if no segment in
front of that has arguments, and after the first segment with arguments otherwise. -/
theorem Node.typeName_anonymous (t : TypeName) :
    (simpleTypeName t.text = .ofList t.shown.identifier ∧
      ∀ (n : Node) (arguments members : List Node),
        n.construct = .objectCreation t.text arguments (some members) →
          n.typeName = .ok ("Anonymous$" ++ .ofList t.shown.identifier)) ∧
    ((∀ s ∈ t.qualifier, s.arguments = none) → t.shown = t.last) := by
  refine ⟨⟨t.simpleTypeName_text, ?_⟩, t.shown_of_plain⟩
  intro n arguments members creation
  rw [typeName, creation]
  simp only [t.simpleTypeName_text]

/-! ## Arguments at the end and in the middle -/

namespace TypeName

def plainSegment (name : List Char) (named : name ≠ [])
    (plain : name.all isNameChar = true) : TypeSegment :=
  ⟨name, none, named, plain, nofun⟩

/-- An entry of a map from texts to lists of numbers. -/
def mapEntry : TypeName where
  qualifier := [plainSegment ['M', 'a', 'p'] (by decide) (by decide)]
  last := ⟨['E', 'n', 't', 'r', 'y'], some "String, List<? extends Number>".toList, by decide,
    by decide, by decide⟩

/-- A class inside a generic one. -/
def innerOfGeneric : TypeName where
  qualifier := [⟨['O', 'u', 't', 'e', 'r'], some "String".toList, by decide, by decide, by decide⟩]
  last := plainSegment ['I', 'n', 'n', 'e', 'r'] (by decide) (by decide)

end TypeName

theorem Node.typeName_mapEntry :
    TypeName.mapEntry.text = "Map.Entry<String, List<? extends Number>>" ∧
    (∀ s ∈ TypeName.mapEntry.qualifier, s.arguments = none) ∧
    (Node.bare default (.objectCreation TypeName.mapEntry.text [] (some []))).typeName =
      .ok "Anonymous$Entry" := by
  obtain ⟨⟨-, anonymous⟩, last⟩ := typeName_anonymous TypeName.mapEntry
  have plain : ∀ s ∈ TypeName.mapEntry.qualifier, s.arguments = none := by decide
  refine ⟨by decide, plain, ?_⟩
  rw [anonymous _ [] [] rfl, last plain]
  decide

/-- Arguments in front of the last segment hide it. -/
theorem Node.typeName_innerOfGeneric :
    TypeName.innerOfGeneric.text = "Outer<String>.Inner" ∧
    TypeName.innerOfGeneric.last.identifier = "Inner".toList ∧
    simpleTypeName "Outer<String>.Inner" = "Outer" ∧
    (Node.bare default (.objectCreation "Outer<String>.Inner" [] (some []))).typeName =
      .ok "Anonymous$Outer" := by
  decide

end JavaCensus
