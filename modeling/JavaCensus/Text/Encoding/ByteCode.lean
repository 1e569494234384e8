/-!
# Byte codes

Codes in which one byte stands for a character, or two, three or four bytes together. A byte that
stands for a character on its own never starts a longer group, and no group starts another.
-/
namespace JavaCensus.Text

/-- What bytes stand for. A group may stand for two characters. -/
structure ByteCode where
  one : Nat → Option Char
  two : Nat → Nat → Option (List Char)
  three : Nat → Nat → Nat → Option (List Char) := fun _ _ _ => none
  four : Nat → Nat → Nat → Nat → Option (List Char) := fun _ _ _ _ => none

namespace ByteCode

def decode? (code : ByteCode) : List Nat → Option (List Char)
  | [] => some []
  | a :: rest =>
    match code.one a with
    | some c => (decode? code rest).map (c :: ·)
    | none =>
      match rest with
      | [] => none
      | b :: rest =>
        match code.two a b with
        | some text => (decode? code rest).map (text ++ ·)
        | none =>
          match rest with
          | [] => none
          | c :: rest =>
            match code.three a b c with
            | some text => (decode? code rest).map (text ++ ·)
            | none =>
              match rest with
              | [] => none
              | d :: rest =>
                (code.four a b c d).bind fun text => (decode? code rest).map (text ++ ·)

end ByteCode

/-- The character of an ASCII byte. -/
def asciiChar? (b : Nat) : Option Char :=
  if b < 0x80 then some (.ofNat b) else none

/-- A character as the text of a group. -/
def alone (c : Option Char) : Option (List Char) :=
  c.map ([·])

end JavaCensus.Text
