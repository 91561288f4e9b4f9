namespace Grok

abbrev Text := List Char

instance : Coe String Text := ⟨String.toList⟩

instance (t : Text) (ts : List Text) : Decidable (t ∈ ts) :=
  List.instDecidableMemOfLawfulBEq t ts

namespace Text

def ofNat (n : Nat) : Text := Nat.toDigits 10 n

def join (separator : Text) (parts : List Text) : Text := separator.intercalate parts

end Text

end Grok
