/-!
Positions counted in bytes of UTF-8, as a measure on lists of characters.
-/
namespace StaticStyles.Text

/-- Bytes that a text takes in UTF-8. -/
def byteSize : List Char → Nat
  | [] => 0
  | c :: rest => c.utf8Size + byteSize rest

@[simp] theorem byteSize_nil : byteSize [] = 0 := rfl

@[simp] theorem byteSize_cons (c : Char) (text : List Char) :
    byteSize (c :: text) = c.utf8Size + byteSize text := rfl

@[simp] theorem byteSize_append (a b : List Char) : byteSize (a ++ b) = byteSize a + byteSize b := by
  induction a with
  | nil => simp
  | cons c a ih => simp [ih, Nat.add_assoc]

/-- What starts at or after a byte offset: the first character boundary from there on. -/
def dropBytes : Nat → List Char → List Char
  | 0, text => text
  | _ + 1, [] => []
  | n + 1, c :: rest => dropBytes (n + 1 - c.utf8Size) rest
termination_by structural _ text => text

/-- The longest beginning of at most so many bytes. -/
def takeBytes : Nat → List Char → List Char
  | _, [] => []
  | n, c :: rest => if c.utf8Size ≤ n then c :: takeBytes (n - c.utf8Size) rest else []

theorem byteSize_takeBytes_le (n : Nat) (text : List Char) : byteSize (takeBytes n text) ≤ n := by
  induction text generalizing n with
  | nil => simp [takeBytes]
  | cons c rest ih =>
    simp only [takeBytes]
    split
    · have := ih (n - c.utf8Size)
      simp only [byteSize_cons]
      omega
    · simp

theorem takeBytes_prefix (n : Nat) (text : List Char) : takeBytes n text <+: text := by
  induction text generalizing n with
  | nil => simp [takeBytes]
  | cons c rest ih =>
    simp only [takeBytes]
    split
    · exact List.cons_prefix_cons.2 ⟨rfl, ih _⟩
    · exact List.nil_prefix

end StaticStyles.Text
