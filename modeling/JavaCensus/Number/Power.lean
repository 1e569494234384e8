/-!
# Powers
-/
namespace JavaCensus

def twoTo (n : Nat) : Nat := Nat.pow 2 n

def tenTo (n : Nat) : Nat := Nat.pow 10 n

theorem twoTo_succ (n : Nat) : twoTo (n + 1) = twoTo n * 2 :=
  rfl

theorem tenTo_succ (n : Nat) : tenTo (n + 1) = tenTo n * 10 :=
  rfl

end JavaCensus
