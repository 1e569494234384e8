import JavaCensus.Json.Reader
import JavaCensus.Report.EmojiNames
import JavaCensus.Text.Blank

/-!
# Emoji codes

A terminal shows an emoji where its name stands between colons. The name may end with the kind of
picture that is wanted.
-/
namespace JavaCensus
namespace Emoji

/-- The character that hexadecimal digits stand for. -/
def charOfDigits (digits : List Char) : Char :=
  .ofNat (digits.foldl (fun n c => 16 * n + (Json.hexValue? c).getD 0) 0)

/-- Capital letters become small, as far as names of emoji hold them. -/
def lowered (c : Char) : Char :=
  match c with
  | 'Ã' => 'ã'
  | 'Å' | '\u212b' => 'å'
  | 'Ç' => 'ç'
  | 'É' => 'é'
  | 'Í' => 'í'
  | 'Ô' => 'ô'
  | '\u212a' => 'k'
  | c => c.toLower

/-- What stands behind a name and the equality sign in an entry of the table. -/
def codesBehind? (name entry : List Char) : Option (List Char) :=
  match name, entry with
  | [], '=' :: codes => some codes
  | n :: ns, e :: es => if n = e then codesBehind? ns es else none
  | _, _ => none

/-- The emoji of a name. -/
def named? (name : List Char) : Option (List Char) :=
  let wanted := name.map lowered
  emojiNames.findSome? fun line => (Text.words line.toList).findSome? fun entry =>
    (codesBehind? wanted entry).map fun codes =>
      ((String.ofList codes).splitOn ".").map fun digits => charOfDigits digits.toList

/-- The character that asks for an emoji in the manner of a text. -/
def textSelector : Char := '\ufe0e'

/-- The character that asks for an emoji as a picture. -/
def pictureSelector : Char := '\ufe0f'

/-- A code behind its first colon: what it consists of, the name and what is added to the emoji,
and the text that follows it. -/
structure Code where
  written : List Char
  name : List Char
  selector : List Char
  rest : List Char

/-- The code that begins here, behind its first colon, if one does. It holds no blank. -/
def Code.ofText? : List Char → Option Code
  | ':' :: cs => some ⟨[':'], [], [], cs⟩
  | '-' :: 't' :: 'e' :: 'x' :: 't' :: ':' :: cs => some ⟨"-text:".toList, [], [textSelector], cs⟩
  | '-' :: 'e' :: 'm' :: 'o' :: 'j' :: 'i' :: ':' :: cs =>
    some ⟨"-emoji:".toList, [], [pictureSelector], cs⟩
  | c :: cs =>
    if Text.isBlank c then none
    else (ofText? cs).map fun k => ⟨c :: k.written, c :: k.name, k.selector, k.rest⟩
  | [] => none

theorem Code.written_append_rest {cs : List Char} {k : Code} (h : ofText? cs = some k) :
    k.written ++ k.rest = cs := by
  fun_induction ofText? cs generalizing k with
  | case1 | case2 | case3 => cases h; rfl
  | case4 => simp at h
  | case5 c cs _ _ _ _ ih =>
    obtain ⟨k', hk', rfl⟩ := Option.map_eq_some_iff.1 h
    simp [ih hk']
  | case6 => simp at h

theorem Code.length_rest_le {cs : List Char} {k : Code} (h : ofText? cs = some k) :
    k.rest.length ≤ cs.length := by
  rw [← written_append_rest h]
  simp

/-- What is shown for a code. A code without an emoji is shown as it is written. -/
def Code.shown (k : Code) : List Char :=
  match named? k.name with
  | some emoji => emoji ++ k.selector
  | none => ':' :: k.written

/-- A text with emoji for their codes. -/
def replace : List Char → List Char
  | [] => []
  | ':' :: cs =>
    match h : Code.ofText? cs with
    | some k =>
      have := Code.length_rest_le h
      k.shown ++ replace k.rest
    | none => ':' :: replace cs
  | c :: cs => c :: replace cs
  termination_by cs => cs.length

end Emoji
end JavaCensus
