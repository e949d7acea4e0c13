namespace Docking

/-! Texts measured and cut by the bytes of their UTF-8 form. -/

def byteLength : List Char → Nat
  | [] => 0
  | char :: rest => char.utf8Size + byteLength rest

/-- What stands before a byte position; a character that is cut stands before it. -/
def takeBytes (count : Nat) : List Char → List Char
  | [] => []
  | char :: rest =>
      if count = 0 then [] else char :: takeBytes (count - char.utf8Size) rest

def dropBytes (count : Nat) : List Char → List Char
  | [] => []
  | char :: rest =>
      if count = 0 then char :: rest else dropBytes (count - char.utf8Size) rest

end Docking
