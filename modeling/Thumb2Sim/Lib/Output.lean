import Mathlib.Data.String.Basic

-- Something that texts are printed to.
class Output (B : Type) where
  print : B → String → B

namespace Output

-- The output without a limit.
instance : Output String :=
  ⟨(· ++ ·)⟩

-- An array of characters with a text in it, behind which a NUL character is.
structure Buffer (size : Nat) where
  text      : String
  length_lt : text.length < size

namespace Buffer

variable {size : Nat}

-- The function `vsnprintf` behind the text that is there already. What does not fit is cut off.
def append (b : Buffer size) (msg : String) : Buffer size where
  text      := b.text ++ String.ofList (msg.toList.take (size - b.text.length - 1))
  length_lt := by
    have := b.length_lt
    simp only [String.length_append, String.length_ofList, List.length_take]
    omega

instance : Output (Buffer size) :=
  ⟨append⟩

def empty (h : 0 < size) : Buffer size :=
  ⟨"", h⟩

@[ext]
theorem ext {b b' : Buffer size} (h : b.text = b'.text) : b = b' := by
  cases b
  cases b'
  cases h
  rfl

-- A text that fits is printed as a whole.
theorem print_text {b : Buffer size} {msg : String} (h : b.text.length + msg.length < size) :
    (print b msg).text = b.text ++ msg := by
  change b.text ++ String.ofList (msg.toList.take _) = _
  rw [List.take_of_length_le (by rw [String.length_toList]; omega), String.ofList_toList]

theorem print_print {b : Buffer size} {msg msg' : String}
    (h : b.text.length + (msg ++ msg').length < size) :
    print (print b msg) msg' = print b (msg ++ msg') := by
  rw [String.length_append] at h
  have hl : (print b msg).text.length = b.text.length + msg.length := by
    rw [print_text (by omega), String.length_append]
  ext
  rw [print_text (by omega), print_text (by omega),
    print_text (by rw [String.length_append]; omega), String.append_assoc]

theorem print_empty {b : Buffer size} : print b "" = b := by
  ext
  rw [print_text b.length_lt, String.append_empty]

end Buffer

end Output
